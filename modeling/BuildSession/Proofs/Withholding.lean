import BuildSession.Proofs.Clearing
import BuildSession.Proofs.Injection
import BuildSession.Proofs.Proxying
import BuildSession.Proofs.ServerAccess
import Mathlib.Data.List.Forall2

/-!
# What cannot be opened is not published

A problem with a component of some entries clears it from all of them (`component?_clearedBy`), the
credentials that are built from a record have no component that the record lacks
(`component?_authentication`), and repositories are only ever given what the selectors hold. So the
components that a decrypter has problems with are found nowhere in a session (`Withholds`).
-/

namespace BuildSession

variable {γ : Type}

/-- A component of credentials that there can be a problem with. -/
inductive Component where
  | username
  | password
  | passphrase
  deriving DecidableEq

namespace Component

/-- The field that records have the component in. -/
def field : Component → String
  | username => "username"
  | password => "password"
  | passphrase => "passphrase"

end Component

/-- Whether some problem is with a component of the entries of a section that have an id. -/
def Unopened (problems : List SettingsProblem) (group id : String) (c : Component) : Prop :=
  ∃ p ∈ problems, p.source = group ++ "[" ++ id ++ "]." ++ c.field

theorem text_mem_sources_of_unopened {problems : List SettingsProblem} {group id : String}
    {c : Component} (h : Unopened problems group id c) :
    (⟨group, id, c.field⟩ : SourceAddress).text ∈ problems.map (·.source) := by
  obtain ⟨p, hp, hsource⟩ := h
  exact List.mem_map.2 ⟨p, hp, hsource⟩

namespace Authentication

/-- A component of credentials, if it is present; a passphrase is part of a private key. -/
def component? (a : Authentication) : Component → Option String
  | .username => a.username
  | .password => a.password
  | .passphrase => a.privateKey.bind (·.passphrase)

/-- Whether credentials have any component. -/
def HasComponent (a : Authentication) : Prop :=
  a.username ≠ none ∨ a.password ≠ none ∨ a.privateKey ≠ none

end Authentication

/-! ## Servers -/

namespace Server

/-- A component of the credentials that a server declares. -/
def component? (s : Server) : Component → Option String
  | .username => s.username
  | .password => s.password
  | .passphrase => s.passphrase

variable {s : Server}

theorem component?_clearedBy {sources : List String} {c : Component}
    (h : (⟨SourceAddress.servers, s.id, c.field⟩ : SourceAddress).text ∈ sources) :
    (s.clearedBy sources).component? c = none := by
  cases c <;> exact if_pos h

theorem component?_authentication {a : Authentication} {c : Component}
    (h : s.authentication = some a) (hc : s.component? c = none) : a.component? c = none := by
  rw [authentication_eq] at h
  split_ifs at h
  cases h
  cases c with
  | username => exact hc
  | password => exact hc
  | passphrase =>
    have hpassphrase : s.passphrase = none := hc
    rcases s.privateKey with _ | path <;> simp [Authentication.component?, hpassphrase]

theorem hasComponent_authentication {a : Authentication} (h : s.authentication = some a) :
    a.HasComponent := by
  rw [authentication_eq] at h
  split_ifs at h with habsent
  cases h
  simp only [Authentication.HasComponent, ne_eq, Option.map_eq_none_iff]
  simpa only [not_and_or] using habsent

theorem authentication_eq_none_iff :
    s.authentication = none ↔ s.username = none ∧ s.password = none ∧ s.privateKey = none := by
  rw [authentication_eq]
  split_ifs with habsent <;> simp [habsent]

end Server

namespace ServerAccess

variable (servers : List Server) (id : String)

theorem authenticationForId_eq_some {a : Authentication}
    (h : (ofServers servers).selector.authenticationForId id = some a) :
    ∃ s ∈ servers, s.id = id ∧ s.authentication = some a := by
  rw [(accessTo_ofServers servers).selector] at h
  obtain ⟨s, hlast, ha⟩ := Option.bind_eq_some_iff.1 h
  rw [List.findRev?_eq_find?_reverse] at hlast
  have hid := List.find?_some hlast
  exact ⟨s, List.mem_reverse.1 (List.mem_of_find?_eq_some hlast), by simpa using hid, ha⟩

/-- An id has no credentials exactly if the last server of that id, if any, declares none. -/
theorem authenticationForId_eq_none_iff :
    (ofServers servers).selector.authenticationForId id = none ↔
      ∀ s, servers.findRev? (·.id == id) = some s →
        s.username = none ∧ s.password = none ∧ s.privateKey = none := by
  rw [(accessTo_ofServers servers).selector, Option.bind_eq_none_iff]
  simp only [Server.authentication_eq_none_iff]

end ServerAccess

/-! ## Proxies -/

namespace ProxySettings

/-- A component of the credentials that a proxy declares; it has no private key. -/
def component? (p : ProxySettings) : Component → Option String
  | .username => p.username
  | .password => p.password
  | .passphrase => none

theorem component?_clearedBy {p : ProxySettings} {sources : List String} {c : Component}
    (h : (⟨SourceAddress.proxies, p.id, c.field⟩ : SourceAddress).text ∈ sources) :
    (p.clearedBy sources).component? c = none := by
  cases c with
  | username => exact if_pos h
  | password => exact if_pos h
  | passphrase => rfl

end ProxySettings

namespace ProxyRule

/-- Whether a rule is for the proxy that a record declares, credentials apart. -/
structure BuiltFrom (p : ProxySettings) (rule : ProxyRule) : Prop where
  protocol : rule.proxy.protocol = p.protocol
  host : rule.proxy.host = p.host
  port : rule.proxy.port = p.port
  nonProxyHosts : rule.nonProxyHosts = .parse p.nonProxyHosts

variable (p : ProxySettings)

theorem authentication_ofSettings : (ofSettings p).proxy.authentication =
    if p.username = none ∧ p.password = none then none
    else some { username := p.username, password := p.password } := by
  unfold ofSettings
  rcases p.username with _ | u <;> rcases p.password with _ | w <;> rfl

theorem authentication_ofSettings_eq_none_iff :
    (ofSettings p).proxy.authentication = none ↔ p.username = none ∧ p.password = none := by
  rw [authentication_ofSettings]
  split_ifs with habsent <;> simp [habsent]

variable {p}

theorem component?_ofSettings {a : Authentication} {c : Component}
    (h : (ofSettings p).proxy.authentication = some a) (hc : p.component? c = none) :
    a.component? c = none := by
  rw [authentication_ofSettings] at h
  split_ifs at h
  cases h
  cases c with
  | username => exact hc
  | password => exact hc
  | passphrase => rfl

theorem hasComponent_ofSettings {a : Authentication}
    (h : (ofSettings p).proxy.authentication = some a) : a.HasComponent := by
  rw [authentication_ofSettings] at h
  split_ifs at h with habsent
  cases h
  exact (not_and_or.1 habsent).imp_right .inl

end ProxyRule

/-! ## Sessions -/

/-- A session keeps back what the problems in `result` are with. `result` is what the decrypter gave
back, and `decrypted` is what of it was left to use. -/
structure Withholds (s : RepositorySession γ) (result decrypted : DecryptedSettings) : Prop where
  /-- The credentials of an id lack the components that there was a problem with. -/
  servers : ∀ id c, Unopened result.problems "servers.server" id c →
    ∀ a, s.authentication.authenticationForId id = some a → a.component? c = none
  /-- The rule that is built from a record lacks the components that there was a problem with. -/
  proxies : List.Forall₂ (fun p rule => ProxyRule.BuiltFrom p rule ∧
      ∀ c, Unopened result.problems "proxies.proxy" p.id c →
        ∀ a, rule.proxy.authentication = some a → a.component? c = none)
    result.proxies s.proxies.rules
  /-- The credentials that a repository is given lack them too. -/
  authenticated : ∀ x a, s.authentication.authenticationFor (s.standing x) = some a →
    (s.madeOf x).authentication = some a ∧
      ∀ c, Unopened result.problems "servers.server" (s.madeOf x).id c → a.component? c = none
  /-- And so does the proxy that a repository is given. -/
  proxied : ∀ x q, s.proxies.proxyFor (s.standing x) = some q →
    (s.madeOf x).proxy = some q ∧ ∃ p rule, (p, rule) ∈ result.proxies.zip s.proxies.rules ∧
      rule.proxy = q ∧ ∀ c, Unopened result.problems "proxies.proxy" p.id c →
        ∀ a, q.authentication = some a → a.component? c = none
  /-- Credentials for an id have a component, or there are none for it, since nothing is left of
  its last definition. -/
  serversPresent : ∀ id, (∀ a, s.authentication.authenticationForId id = some a → a.HasComponent) ∧
    (s.authentication.authenticationForId id = none ↔
      ∀ v, decrypted.servers.findRev? (·.id == id) = some v →
        v.username = none ∧ v.password = none ∧ v.privateKey = none)
  /-- Credentials for a proxy have a component, or there are none for it, since nothing is left of
  its record. -/
  proxiesPresent : List.Forall₂ (fun p rule =>
      (∀ a, rule.proxy.authentication = some a → a.HasComponent) ∧
        (rule.proxy.authentication = none ↔ p.username = none ∧ p.password = none))
    decrypted.proxies s.proxies.rules

namespace RepositorySession

variable (s : RepositorySession γ)

/-- Credentials that are known for what a repository stands as replace its own. -/
theorem authentication_madeOf {x : RemoteRepository} {a : Authentication}
    (h : s.authentication.authenticationFor (s.standing x) = some a) :
    (s.madeOf x).authentication = some a := by
  simp only [madeOf, equipped, h]

theorem proxy_madeOf {x : RemoteRepository} {q : Proxy}
    (h : s.proxies.proxyFor (s.standing x) = some q) : (s.madeOf x).proxy = some q := by
  simp only [madeOf, equipped, h]

end RepositorySession

/-- What is left of a decrypter's result once its problems have been dealt with. -/
def DecryptedSettings.left (result : DecryptedSettings) : DecryptedSettings :=
  result.clearedBy (result.problems.map (·.source))

section Left

variable {result : DecryptedSettings} {c : Component} {a : Authentication}

/-- Credentials lack every component whose problem names the server that they are of. -/
theorem component?_of_unopened_server {id : String}
    (h : Unopened result.problems SourceAddress.servers id c)
    (ha : (ServerAccess.ofServers result.left.servers).selector.authenticationForId id = some a) :
    a.component? c = none := by
  obtain ⟨s, hs, hid, hauth⟩ := ServerAccess.authenticationForId_eq_some _ id ha
  obtain ⟨t, -, rfl⟩ := List.mem_map.1 hs
  obtain rfl : t.id = id := hid
  exact Server.component?_authentication hauth
    (Server.component?_clearedBy (text_mem_sources_of_unopened h))

/-- The rules of what is left stand for the records of the result one by one. -/
theorem forall₂_ofSettings_left : List.Forall₂ (fun p rule => ProxyRule.BuiltFrom p rule ∧
      ∀ c, Unopened result.problems SourceAddress.proxies p.id c →
        ∀ a, rule.proxy.authentication = some a → a.component? c = none)
    result.proxies (ProxySelector.ofSettings result.left.proxies).rules := by
  simp only [ProxySelector.ofSettings, DecryptedSettings.left, DecryptedSettings.clearedBy,
    List.forall₂_map_right_iff, List.forall₂_same]
  refine fun p _ => ⟨⟨rfl, rfl, rfl, rfl⟩, fun c hc a ha => ?_⟩
  exact ProxyRule.component?_ofSettings ha
    (ProxySettings.component?_clearedBy (text_mem_sources_of_unopened hc))

end Left

namespace SessionFactory

variable (f : SessionFactory) (r : BuildRequest γ) (types : ArtifactTypeRegistry)
  (resolution : ManagerResolution)

theorem withholds_finish (result : DecryptedSettings) :
    Withholds (f.finish r types resolution result.left).value result result.left := by
  set s := (f.finish r types resolution result.left).value with hs
  have hauth : s.authentication = (ServerAccess.ofServers result.left.servers).selector := rfl
  have hrules : s.proxies = .ofSettings result.left.proxies := rfl
  have hproxies : List.Forall₂ _ result.proxies s.proxies.rules := forall₂_ofSettings_left
  refine ⟨fun id c hc a ha => ?_, hproxies, fun x a ha => ?_, fun x q hq => ?_, fun id => ?_, ?_⟩
  · exact component?_of_unopened_server hc (hauth ▸ ha)
  · refine ⟨s.authentication_madeOf ha, fun c hc => ?_⟩
    exact component?_of_unopened_server hc (hauth ▸ ha)
  · refine ⟨s.proxy_madeOf hq, ?_⟩
    obtain ⟨rule, hrule, rfl⟩ := ProxySelector.exists_rule_of_proxyFor _ hq
    rw [← List.map_snd_zip (Nat.le_of_eq hproxies.length_eq.symm), List.mem_map] at hrule
    obtain ⟨⟨p, rule⟩, hmem, rfl⟩ := hrule
    exact ⟨p, rule, hmem, rfl, (List.forall₂_zip hproxies hmem).2⟩
  · rw [hauth]
    refine ⟨fun a ha => ?_, ServerAccess.authenticationForId_eq_none_iff _ id⟩
    obtain ⟨v, -, -, hv⟩ := ServerAccess.authenticationForId_eq_some _ id ha
    exact Server.hasComponent_authentication hv
  · rw [hrules, ProxySelector.ofSettings, List.forall₂_map_right_iff, List.forall₂_same]
    exact fun p _ => ⟨fun a ha => ProxyRule.hasComponent_ofSettings ha,
      ProxyRule.authentication_ofSettings_eq_none_iff p⟩

end SessionFactory

/-- Where there was a problem with a component of some entries, a session has no credentials with
that component from them, neither in its choices nor in its repositories. -/
theorem assemble_withholds_unopened (f : SessionFactory) (r : BuildRequest γ)
    (s : RepositorySession γ) (h : (f.assemble r).value = .ok s) :
    ∃ result decrypted, f.decrypter r.proxies r.servers = .ok result
      ∧ (f.decrypter.decrypt r.proxies r.servers).value = .ok decrypted
      ∧ Withholds s result decrypted
      ∧ s.remoteRepositories = r.remoteRepositories.map s.madeOf
      ∧ s.pluginRepositories = r.pluginRepositories.map s.madeOf := by
  obtain ⟨types, resolution, decrypted, -, -, hdecrypted, rfl⟩ := (f.assemble_eq_ok_iff r s).1 h
  have hleft := hdecrypted
  rw [Decrypter.value_decrypt] at hleft
  obtain ⟨result, hresult, rfl⟩ := Except.map_eq_ok_iff.1 hleft
  refine ⟨result, result.left, hresult, hdecrypted,
    f.withholds_finish r types resolution result, ?_, ?_⟩
  · rw [SessionFactory.finish_remoteRepositories, RepositorySession.inject_eq_map]
  · rw [SessionFactory.finish_pluginRepositories, RepositorySession.inject_eq_map]

/-- A key whose passphrase cannot be opened, of a server with brackets in its id, and a proxy
without an id whose password cannot be opened. -/
theorem assemble_withholds_unopened_of_bracketed_id :
    let f : SessionFactory :=
      { defaultManager := fun _ l => .ok ⟨"enhanced", l⟩
        tool := .current "any" "any"
        handlers := .ok []
        decrypter := .reporting [
          { severity := .warning, message := "bad", source := "servers.server[a[].b].passphrase" },
          { message := "bad", source := "proxies.proxy[].password" }] }
    let central : RemoteRepository := { id := "a[].b", url := "http://repo.example" }
    let r : BuildRequest Unit :=
      { localRepository := "/repo"
        startTime := .epoch
        proxies := [{ host := "proxy.example", username := some "guest", password := some "x" }]
        servers := [{ id := "a[].b", privateKey := some "/key", passphrase := some "y" }]
        remoteRepositories := [central] }
    ∃ s a, (f.assemble r).value = .ok s
      ∧ s.remoteRepositories = [s.madeOf central]
      ∧ s.authentication.authenticationForId "a[].b" = some a
      ∧ a.component? .passphrase = none ∧ a.HasComponent
      ∧ ∀ rule ∈ s.proxies.rules, ∀ a, rule.proxy.authentication = some a →
        a.component? .password = none ∧ a.HasComponent := by
  intro f central r
  let s := (f.finish r {} (.primary ⟨"enhanced", ⟨"/repo"⟩⟩)
    { proxies := [{ host := "proxy.example", username := some "guest" }]
      servers := [{ id := "a[].b", privateKey := some "/key" }] }).value
  have hs : (f.assemble r).value = .ok s := rfl
  have ha : s.authentication.authenticationForId "a[].b"
      = some { privateKey := some ⟨"/key", none⟩ } := by decide
  obtain ⟨result, decrypted, hresult, -, hw, hremote, -⟩ := assemble_withholds_unopened f r s hs
  cases hresult
  have hpassphrase := hw.servers "a[].b" .passphrase ⟨_, List.mem_cons_self, rfl⟩ _ ha
  refine ⟨s, _, hs, hremote, ha, hpassphrase, (hw.serversPresent _).1 _ ha, ?_⟩
  intro rule hrule a ha
  obtain rfl := List.mem_singleton.1 hrule
  obtain ⟨⟨-, hlacks⟩, -⟩ := List.forall₂_cons.1 hw.proxies
  obtain ⟨p, rest, ⟨hpresent, -⟩, -, -⟩ := List.forall₂_cons_right_iff.1 hw.proxiesPresent
  have hpassword := hlacks .password ⟨_, List.mem_cons_of_mem _ List.mem_cons_self, rfl⟩
  exact ⟨hpassword a ha, hpresent a ha⟩

end BuildSession
