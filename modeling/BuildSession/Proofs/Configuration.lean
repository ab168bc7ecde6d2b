import BuildSession.Json.Printer
import BuildSession.Proofs.Assembly
import BuildSession.Proofs.Merging
import BuildSession.Proofs.ServerAccess

/-!
# The configuration of a session

The four layers of a session's configuration have distinct keys each, so the keys that a layer adds
are those that no earlier layer has, and the value of a key is that of the last layer that has it
(`configures_of_holds`). The summary writes the keys in the same order with these values
(`ConfigProperties.Indexed.toJson_eq`).
-/

namespace BuildSession

variable {γ : Type}

/-- Properties are written in order, each key once with the value it is found with. -/
theorem ConfigProperties.Indexed.toJson_eq {p : ConfigProperties} (hp : p.Indexed) :
    p.toJson = .object (p.keys.map fun k => (k, .ofOption ConfigValue.toJson (p.get? k))) := by
  rw [toJson, keys, List.map_map]
  refine congrArg Json.object (List.map_congr_left fun e he => ?_)
  simp only [Function.comp_def, hp.get?_of_mem he, Json.ofOption]

theorem ConfigLayer.keys_ofProperties (kind : LayerKind) (d : Dict String) :
    (ofProperties kind d).entries.map (·.1) = d.keys := by
  simp only [ofProperties, Dict.keys, List.map_map, Function.comp_def]

theorem ConfigLayer.lookup_ofProperties (kind : LayerKind) (d : Dict String) (k : String) :
    Dict.lookup k (ofProperties kind d).entries = (d.get? k).map .text :=
  Dict.lookup_map _ k d.entries

/-- How the configuration of a session comes from its properties, from what the build sets by itself
and from the connectors of its servers. -/
structure Configures (s : RepositorySession γ) (base connector : List (String × ConfigValue)) :
    Prop where
  /-- Each layer adds the keys that no earlier one has. -/
  keys : s.config.keys = base.map (·.1)
    ++ s.systemProperties.keys.filter (· ∉ base.map (·.1))
    ++ s.userProperties.keys.filter (· ∉ base.map (·.1) ++ s.systemProperties.keys)
    ++ (connector.map (·.1)).filter
      (· ∉ base.map (·.1) ++ s.systemProperties.keys ++ s.userProperties.keys)
  nodup : s.config.keys.Nodup
  /-- The last layer that has a key decides its value. -/
  get? : ∀ k, s.config.get? k = (Dict.lookup k connector).or
    (((s.userProperties.get? k).map .text).or
      (((s.systemProperties.get? k).map .text).or (Dict.lookup k base)))
  /-- The keys are written in their order, each once and with its value. -/
  written : Json.writeString "config_properties" ++ ':' :: '\x7b' ::
      ([','].intercalate (s.config.keys.map fun k =>
        Json.writeMember (k, .ofOption ConfigValue.toJson (s.config.get? k))) ++ ['\x7d'])
    <:+: s.summary.toJson.render.toList

theorem configures_of_holds {s : RepositorySession γ} {base connector : List (String × ConfigValue)}
    (hbase : (base.map (·.1)).Nodup) (hconnector : (connector.map (·.1)).Nodup)
    (h : s.config.Holds (base ++ (ConfigLayer.ofProperties .system s.systemProperties).entries
      ++ (ConfigLayer.ofProperties .user s.userProperties).entries ++ connector)) :
    Configures s base connector where
  keys := by
    rw [h.keys]
    simp only [List.map_append, ConfigLayer.keys_ofProperties]
    rw [eraseDups_append_of_nodup hconnector, eraseDups_append_of_nodup s.userProperties.nodup_keys,
      eraseDups_append_of_nodup s.systemProperties.nodup_keys, eraseDups_of_nodup hbase]
  nodup := h.indexed.nodup
  get? k := by
    have hproperties : ∀ (kind : LayerKind) (d : Dict String),
        Dict.lookup k (ConfigLayer.ofProperties kind d).entries.reverse = (d.get? k).map .text := by
      intro kind d
      rw [Dict.lookup_reverse k (by rw [ConfigLayer.keys_ofProperties]; exact d.nodup_keys),
        ConfigLayer.lookup_ofProperties]
    rw [h.get?]
    simp only [List.reverse_append, Dict.lookup_append]
    rw [Dict.lookup_reverse k hbase, Dict.lookup_reverse k hconnector, hproperties, hproperties]
  written := by
    have hinfix : Json.writeMember ("config_properties", s.config.toJson)
        <:+: s.summary.toJson.write := by
      refine Json.infix_write_object ?_
      simp [RepositorySession.summary]
    rw [Json.writeMember, h.indexed.toJson_eq, Json.write_object, List.map_map] at hinfix
    rwa [Json.render, String.toList_ofList]

/-- The four layers are one row of entries, the base in front and the servers at the end. -/
theorem SessionFactory.holds_configuration (f : SessionFactory) (r : BuildRequest γ)
    (decrypted : DecryptedSettings) : (f.configuration r decrypted).value.properties.Holds
      ((f.baseLayer r).entries ++ (ConfigLayer.ofProperties .system r.systemProperties).entries
        ++ (ConfigLayer.ofProperties .user r.userProperties).entries
        ++ (Server.lastDefinitions decrypted.servers).flatMap Server.connectorEntries) := by
  have hconnector := (ServerAccess.accessTo_ofServers decrypted.servers).connector
  have h := ConfigMerge.holds_ofLayers
    (f.layers r (ServerAccess.ofServers decrypted.servers).connector)
  have hentries : (f.layers r (ServerAccess.ofServers decrypted.servers).connector).flatMap
      (·.entries) = (f.baseLayer r).entries
        ++ (ConfigLayer.ofProperties .system r.systemProperties).entries
        ++ (ConfigLayer.ofProperties .user r.userProperties).entries
        ++ (Server.lastDefinitions decrypted.servers).flatMap Server.connectorEntries := by
    rw [hconnector]
    simp [layers]
  rwa [hentries] at h

/-- The configuration of a session has the keys of the build itself, of the system, of the user and
of the servers' connectors in this order, each where it first comes. Of the values for a key the
connectors' goes before the user's, the user's before the system's, and the build's own comes last;
the properties that the session publishes are those of the request all the same. -/
theorem assemble_configures_in_layers (f : SessionFactory) (r : BuildRequest γ)
    (s : RepositorySession γ) (h : (f.assemble r).value = .ok s) :
    ∃ decrypted, (f.decrypter.decrypt r.proxies r.servers).value = .ok decrypted
      ∧ Configures s
        [(ConfigKey.userAgent, .text f.tool.userAgent),
          (ConfigKey.interactive, .flag r.interactive),
          (ConfigKey.startTime, .instant r.startTime)]
        ((Server.lastDefinitions decrypted.servers).flatMap Server.connectorEntries)
      ∧ s.systemProperties = r.systemProperties ∧ s.userProperties = r.userProperties
      ∧ s.systemProperties.keys.Pairwise (· < ·) ∧ s.userProperties.keys.Pairwise (· < ·) := by
  obtain ⟨types, resolution, decrypted, -, -, hdecrypted, rfl⟩ := (f.assemble_eq_ok_iff r s).1 h
  refine ⟨decrypted, hdecrypted, configures_of_holds ?_ ?_ ?_, rfl, rfl,
    r.systemProperties.ascending_keys, r.userProperties.ascending_keys⟩
  · change [ConfigKey.userAgent, ConfigKey.interactive, ConfigKey.startTime].Nodup
    decide
  · exact ServerAccess.nodup_keys_flatMap (Server.pairwise_lastDefinitions decrypted.servers)
  · rw [SessionFactory.finish_config]
    exact f.holds_configuration r decrypted

/-- A mode that the user sets takes the place that it first came at, and the server's value. -/
theorem assemble_configures_overridden_keys :
    let f : SessionFactory :=
      { defaultManager := fun _ l => .ok ⟨"enhanced", l⟩
        tool := .current "any" "any"
        handlers := .ok [] }
    let r : BuildRequest Unit :=
      { localRepository := "/repo"
        startTime := .epoch
        systemProperties := .ofList [("os", "any"), ("aether.interactive", "no")]
        userProperties := .ofList [("os", "mine"), ("aether.connector.perms.fileMode.corp", "644")]
        servers := [
          { id := "corp", filePermissions := some "600", directoryPermissions := some "700" }] }
    ∃ s, (f.assemble r).value = .ok s
      ∧ s.config.keys = ["aether.connector.userAgent", "aether.interactive", "maven.startTime",
        "os", "aether.connector.perms.fileMode.corp", "aether.connector.perms.dirMode.corp"]
      ∧ s.config.get? "aether.interactive" = some (.text "no")
      ∧ s.config.get? "os" = some (.text "mine")
      ∧ s.config.get? "aether.connector.perms.fileMode.corp" = some (.text "600") := by
  intro f r
  obtain ⟨s, hs⟩ : ∃ s, (f.assemble r).value = .ok s := ⟨_, rfl⟩
  obtain ⟨decrypted, hdecrypted, hconfigures, hsystem, huser, -⟩ :=
    assemble_configures_in_layers f r s hs
  obtain rfl : DecryptedSettings.mk [] r.servers [] = decrypted := Except.ok.inj hdecrypted
  refine ⟨s, hs, ?_, ?_, ?_, ?_⟩
  · rw [hconfigures.keys, hsystem, huser]
    decide
  · rw [hconfigures.get?, hsystem, huser]
    rfl
  · rw [hconfigures.get?, hsystem, huser]
    rfl
  · rw [hconfigures.get?, hsystem, huser]
    rfl

end BuildSession
