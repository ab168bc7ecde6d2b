import BuildSession.Repository.ServerAccess
import Mathlib.Data.List.Induction
import Mathlib.Tactic.SplitIfs

/-!
# The last definition of a server decides

Taking servers in one by one keeps `AccessTo`: the credentials of an id are those of the last server
with that id so far, and the connector settings are those of the last definitions, server by server
(`AccessTo.step`). A server clears what earlier definitions of its id have left and nothing else,
since no lead of a connector key is a prefix of another (`eq_of_lead_append`), whatever the ids.
-/

namespace BuildSession

/-! ## Connector keys -/

namespace ConnectorKey

theorem leads_prefix_free : ∀ a ∈ leads, ∀ b ∈ leads, a.toList <+: b.toList → a = b := by
  decide

/-- The lead and the id can be read off a connector key. -/
theorem eq_of_lead_append {a b i j : String} (ha : a ∈ leads) (hb : b ∈ leads)
    (h : a ++ i = b ++ j) : a = b ∧ i = j := by
  have hl : a.toList ++ i.toList = b.toList ++ j.toList := by
    rw [← String.toList_append, ← String.toList_append, h]
  have hab : a = b := by
    rcases List.prefix_or_prefix_of_prefix (List.prefix_append a.toList i.toList)
      (hl ▸ List.prefix_append b.toList j.toList) with hp | hp
    · exact leads_prefix_free a ha b hb hp
    · exact (leads_prefix_free b hb a ha hp).symm
  subst hab
  exact ⟨rfl, (String.append_right_inj a).1 h⟩

end ConnectorKey

namespace ConfigLayer

theorem foldl_push : ∀ (es : List (String × ConfigValue)) (l : ConfigLayer),
    es.foldl (fun l e => l.push e.1 e.2) l = { l with entries := l.entries ++ es }
  | [], l => by simp
  | e :: es, l => by
    rw [List.foldl_cons, foldl_push es]
    simp [push]

theorem foldl_remove (id : String) : ∀ (ks : List String) (l : ConfigLayer),
    ks.foldl (fun l k => l.remove (k ++ id)) l
      = { l with entries := l.entries.filter fun e => ks.all fun k => e.1 != k ++ id }
  | [], l => by simp [List.filter_eq_self.2]
  | k :: ks, l => by
    rw [List.foldl_cons, foldl_remove id ks]
    simp [remove, List.filter_filter, Bool.and_comm]

end ConfigLayer

namespace Server

/-! ## What one server declares -/

theorem authentication_eq (s : Server) : s.authentication =
    if s.username = none ∧ s.password = none ∧ s.privateKey = none then none
    else some
      { username := s.username
        password := s.password
        privateKey := s.privateKey.map fun path => ⟨path, s.passphrase⟩ } := by
  unfold authentication
  rcases s.username with _ | u <;> rcases s.password with _ | p <;>
    rcases s.privateKey with _ | k <;> rfl

theorem connectorEntries_eq (s : Server) : s.connectorEntries =
    (s.configuration.map fun n => ("aether.connector.wagon.config." ++ s.id,
      ConfigValue.node { n with children := n.children.filter (·.name != "wagonProvider") })).toList
    ++ (s.filePermissions.map fun mode =>
      ("aether.connector.perms.fileMode." ++ s.id, ConfigValue.text mode)).toList
    ++ (s.directoryPermissions.map fun mode =>
      ("aether.connector.perms.dirMode." ++ s.id, ConfigValue.text mode)).toList := by
  unfold connectorEntries
  rcases s.configuration with _ | n <;> rcases s.filePermissions with _ | m <;>
    rcases s.directoryPermissions with _ | d <;> rfl

theorem keys_connectorEntries_sublist (s : Server) :
    (s.connectorEntries.map (·.1)).Sublist (ConnectorKey.leads.map (· ++ s.id)) := by
  rw [connectorEntries_eq]
  rcases s.configuration with _ | n <;> rcases s.filePermissions with _ | m <;>
    rcases s.directoryPermissions with _ | d <;>
    simp [ConnectorKey.leads, ConnectorKey.configurationLead, ConnectorKey.fileModeLead,
      ConnectorKey.directoryModeLead]

theorem exists_lead_of_mem {s : Server} {e : String × ConfigValue} (h : e ∈ s.connectorEntries) :
    ∃ lead ∈ ConnectorKey.leads, lead ++ s.id = e.1 := by
  have hmem := (keys_connectorEntries_sublist s).subset (List.mem_map_of_mem h)
  exact List.mem_map.1 hmem

/-- The connector settings of a list of servers without the keys of one id are those of the
servers without that id. -/
theorem filter_flatMap_connectorEntries (id : String) : ∀ servers : List Server,
    (servers.flatMap connectorEntries).filter
        (fun e => ConnectorKey.leads.all fun lead => e.1 != lead ++ id)
      = (servers.filter (·.id != id)).flatMap connectorEntries
  | [] => rfl
  | s :: servers => by
    rw [List.flatMap_cons, List.filter_append, filter_flatMap_connectorEntries id servers]
    by_cases hid : s.id = id
    · have hnone : s.connectorEntries.filter
          (fun e => ConnectorKey.leads.all fun lead => e.1 != lead ++ id) = [] := by
        refine List.filter_eq_nil_iff.2 fun e he hall => ?_
        obtain ⟨lead, hlead, hkey⟩ := exists_lead_of_mem he
        have := List.all_eq_true.1 hall lead hlead
        simp [← hkey, hid] at this
      rw [hnone, List.filter_cons_of_neg (by simp [hid]), List.nil_append]
    · have hall : s.connectorEntries.filter
          (fun e => ConnectorKey.leads.all fun lead => e.1 != lead ++ id) = s.connectorEntries := by
        refine List.filter_eq_self.2 fun e he => List.all_eq_true.2 fun lead hlead => ?_
        obtain ⟨lead', hlead', hkey⟩ := exists_lead_of_mem he
        rw [← hkey, bne_iff_ne]
        exact fun h => hid (ConnectorKey.eq_of_lead_append hlead' hlead h).2
      rw [hall, List.filter_cons_of_pos (by simp [hid]), List.flatMap_cons]

/-! ## Last definitions -/

/-- The servers of a list, without those whose id is defined again later. -/
def lastDefinitions : List Server → List Server
  | [] => []
  | s :: servers =>
    if servers.any (·.id == s.id) then lastDefinitions servers else s :: lastDefinitions servers

/-- A server at the end replaces those of its id, so it moves behind all others. -/
theorem lastDefinitions_concat (s : Server) : ∀ servers : List Server,
    lastDefinitions (servers ++ [s]) = (lastDefinitions servers).filter (·.id != s.id) ++ [s]
  | [] => by simp [lastDefinitions]
  | t :: servers => by
    rw [List.cons_append, lastDefinitions, lastDefinitions, lastDefinitions_concat s servers,
      List.any_append]
    rcases hlater : servers.any (·.id == t.id) with _ | _
    · simp only [Bool.false_or, Bool.false_eq_true, ↓reduceIte, List.any_cons, List.any_nil,
        Bool.or_false, beq_iff_eq]
      by_cases hid : s.id = t.id
      · simp [hid]
      · rw [if_neg hid, List.filter_cons_of_pos (by simpa using Ne.symm hid), List.cons_append]
    · simp

theorem pairwise_lastDefinitions (servers : List Server) :
    (lastDefinitions servers).Pairwise (·.id ≠ ·.id) := by
  induction servers using List.reverseRecOn with
  | nil => exact .nil
  | append_singleton servers s ih =>
    rw [lastDefinitions_concat, List.pairwise_append]
    refine ⟨ih.filter _, List.pairwise_singleton _ _, fun a ha b hb => ?_⟩
    obtain rfl := List.mem_singleton.1 hb
    simpa using (List.mem_filter.1 ha).2

theorem lastDefinitions_eq_self : ∀ {servers : List Server}, servers.Pairwise (·.id ≠ ·.id) →
    lastDefinitions servers = servers
  | [], _ => rfl
  | s :: servers, h => by
    obtain ⟨hs, hservers⟩ := List.pairwise_cons.1 h
    have hlater : servers.any (·.id == s.id) = false := by
      simpa using fun t ht => (hs t ht).symm
    rw [lastDefinitions, hlater, lastDefinitions_eq_self hservers]
    rfl

theorem findRev?_concat (p : Server → Bool) (servers : List Server) (s : Server) :
    (servers ++ [s]).findRev? p = if p s = true then some s else servers.findRev? p := by
  rw [List.findRev?_eq_find?_reverse, List.findRev?_eq_find?_reverse, List.reverse_append,
    List.reverse_singleton, List.singleton_append, List.find?_cons]
  cases p s <;> rfl

theorem findRev?_filter {id i : String} (h : id ≠ i) (servers : List Server) :
    (servers.filter (·.id != i)).findRev? (·.id == id) = servers.findRev? (·.id == id) := by
  rw [List.findRev?_eq_find?_reverse, List.findRev?_eq_find?_reverse, ← List.filter_reverse,
    List.find?_filter]
  congr 1
  funext s
  by_cases hs : s.id = id
  · simp [hs, h]
  · simp [hs]

/-- Dropping earlier definitions does not change which one is the last. -/
theorem findRev?_lastDefinitions (id : String) (servers : List Server) :
    (lastDefinitions servers).findRev? (·.id == id) = servers.findRev? (·.id == id) := by
  induction servers using List.reverseRecOn with
  | nil => rfl
  | append_singleton servers s ih =>
    rw [lastDefinitions_concat, findRev?_concat, findRev?_concat]
    split_ifs with hid
    · rfl
    · have hne : id ≠ s.id := fun h => hid (by simp [h])
      rw [findRev?_filter hne, ih]

end Server

namespace AuthenticationSelector

theorem authenticationForId_add (a : AuthenticationSelector) (id i : String)
    (auth : Option Authentication) :
    (a.add id auth).authenticationForId i = if i = id then auth else a.authenticationForId i := by
  rcases auth with _ | auth
  · exact Dict.get?_erase _ _ _
  · exact Dict.get?_insert _ _ _ _

theorem ext_authenticationForId {a b : AuthenticationSelector}
    (h : ∀ id, a.authenticationForId id = b.authenticationForId id) : a = b := by
  cases a
  cases b
  exact congrArg AuthenticationSelector.mk (Dict.ext_get? h)

end AuthenticationSelector

namespace ServerAccess

/-! ## Taking servers in -/

/-- What the servers `servers` come to: credentials by the last definition of each id, and the
connector settings of the last definitions in their order. -/
structure AccessTo (a : ServerAccess) (servers : List Server) : Prop where
  selector : ∀ id, a.selector.authenticationForId id
    = (servers.findRev? (·.id == id)).bind Server.authentication
  connector : a.connector
    = ⟨.connector, (Server.lastDefinitions servers).flatMap Server.connectorEntries⟩

theorem accessTo_nil : AccessTo {} [] :=
  ⟨fun _ => rfl, rfl⟩

/-- Taking one more server in keeps selector and connector layer to the last definitions. -/
theorem AccessTo.step {a : ServerAccess} {servers : List Server} (h : AccessTo a servers)
    (s : Server) : AccessTo (a.step s) (servers ++ [s]) where
  selector id := by
    rw [ServerAccess.step, AuthenticationSelector.authenticationForId_add, h.selector,
      Server.findRev?_concat]
    by_cases hid : id = s.id
    · simp [hid]
    · simp [hid, Ne.symm hid]
  connector := by
    rw [ServerAccess.step, ConfigLayer.foldl_remove, ConfigLayer.foldl_push, h.connector,
      Server.lastDefinitions_concat, List.flatMap_append, Server.filter_flatMap_connectorEntries]
    simp

theorem AccessTo.foldl : ∀ (later : List Server) {a : ServerAccess} {servers : List Server},
    AccessTo a servers → AccessTo (later.foldl ServerAccess.step a) (servers ++ later)
  | [], _, _, h => by simpa using h
  | s :: later, a, servers, h => by
    have := AccessTo.foldl later (h.step s)
    rwa [List.append_assoc] at this

theorem accessTo_ofServers (servers : List Server) : AccessTo (ofServers servers) servers :=
  AccessTo.foldl servers accessTo_nil

/-- The last definitions of servers tell all that the servers come to. -/
theorem AccessTo.unique {a b : ServerAccess} {servers servers' : List Server}
    (ha : AccessTo a servers) (hb : AccessTo b servers')
    (h : Server.lastDefinitions servers = Server.lastDefinitions servers') : a = b := by
  have hselector : a.selector = b.selector :=
    AuthenticationSelector.ext_authenticationForId fun id => by
      rw [ha.selector, hb.selector, ← Server.findRev?_lastDefinitions id servers, h,
        Server.findRev?_lastDefinitions]
  have hconnector : a.connector = b.connector := by
    rw [ha.connector, hb.connector, h]
  cases a
  cases b
  cases hselector
  cases hconnector
  rfl

/-- Servers with distinct ids have no key in common, as no lead of a key is the start of another. -/
theorem nodup_keys_flatMap {servers : List Server} (h : servers.Pairwise (·.id ≠ ·.id)) :
    ((servers.flatMap Server.connectorEntries).map (·.1)).Nodup := by
  rw [List.nodup_iff_pairwise_ne, List.pairwise_map, List.pairwise_flatMap]
  refine ⟨fun s _ => ?_, h.imp fun hid x hx y hy hkey => ?_⟩
  · have hleads : (ConnectorKey.leads.map (· ++ s.id)).Pairwise (· ≠ ·) := by
      refine List.pairwise_map.2 (List.Pairwise.imp ?_
        (by decide : ConnectorKey.leads.Pairwise (· ≠ ·)))
      exact fun hne heq => hne ((String.append_left_inj s.id).1 heq)
    exact List.pairwise_map.1 (hleads.sublist s.keys_connectorEntries_sublist)
  · obtain ⟨a, ha, hx⟩ := Server.exists_lead_of_mem hx
    obtain ⟨b, hb, hy⟩ := Server.exists_lead_of_mem hy
    exact hid (ConnectorKey.eq_of_lead_append ha hb (by rw [hx, hy, hkey])).2

/-- Only the last definition of each id counts: the servers come to what their last definitions
come to. The credentials of an id are the components that its last definition has, and the
connector settings are what the last definitions declare, in their order and with no key twice. -/
theorem ofServers_by_last_definitions (servers : List Server) :
    ofServers servers = ofServers (Server.lastDefinitions servers)
      ∧ (∀ id, (ofServers servers).selector.authenticationForId id
        = (servers.findRev? (·.id == id)).bind fun s =>
          if s.username = none ∧ s.password = none ∧ s.privateKey = none then none
          else some
            { username := s.username
              password := s.password
              privateKey := s.privateKey.map fun path => ⟨path, s.passphrase⟩ })
      ∧ ((ofServers servers).connector.entries.map (·.1)).Nodup
      ∧ (ofServers servers).connector =
        ⟨.connector, (Server.lastDefinitions servers).flatMap fun s =>
          (s.configuration.map fun n => ("aether.connector.wagon.config." ++ s.id,
            ConfigValue.node
              { n with children := n.children.filter (·.name != "wagonProvider") })).toList
          ++ (s.filePermissions.map fun mode =>
            ("aether.connector.perms.fileMode." ++ s.id, ConfigValue.text mode)).toList
          ++ (s.directoryPermissions.map fun mode =>
            ("aether.connector.perms.dirMode." ++ s.id, ConfigValue.text mode)).toList⟩ := by
  have hlast := accessTo_ofServers (Server.lastDefinitions servers)
  have hall := accessTo_ofServers servers
  have hdistinct := Server.pairwise_lastDefinitions servers
  refine ⟨hall.unique hlast (Server.lastDefinitions_eq_self hdistinct).symm, fun id => ?_, ?_, ?_⟩
  · rw [hall.selector, funext Server.authentication_eq]
  · rw [hall.connector]
    exact nodup_keys_flatMap hdistinct
  · rw [hall.connector, funext Server.connectorEntries_eq]

end ServerAccess

end BuildSession
