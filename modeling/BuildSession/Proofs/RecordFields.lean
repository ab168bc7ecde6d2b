import BuildSession.Proofs.Records

/-!
# The fields of records

`RecordKind.fields` lists the fields of each record: which defaults they have, an absent optional
being `null`, and which of them hold further records. What a reader makes of an object is settled
by what the fields hold, defaults filled in (`RecordField.held`): where each field of two objects
holds what its own reader takes alike, the record is read alike from both
(`RecordKind.ofJson?_congr`), and if it is not read, then for the same reason. Other members do not
count. This needs that the default of every field is the one its reader falls back on.
-/

namespace BuildSession

/-- The records that settings and requests are written with. -/
inductive RecordKind where
  | settings
  | mirror
  | proxy
  | server
  | node
  | policy
  | handler
  | tool

namespace RecordKind

def Record : RecordKind → Type
  | settings => Settings
  | mirror => Mirror
  | proxy => ProxySettings
  | server => Server
  | node => ConfigNode
  | policy => RepositoryPolicy
  | handler => ArtifactHandler
  | tool => BuildTool

def toJson : (k : RecordKind) → k.Record → Json
  | settings => Settings.toJson
  | mirror => Mirror.toJson
  | proxy => ProxySettings.toJson
  | server => Server.toJson
  | node => ConfigNode.toJson
  | policy => RepositoryPolicy.toJson
  | handler => ArtifactHandler.toJson
  | tool => BuildTool.toJson

def ofJson? : (k : RecordKind) → Json → Read k.Record
  | settings => Settings.ofJson?
  | mirror => Mirror.ofJson?
  | proxy => ProxySettings.ofJson?
  | server => Server.ofJson?
  | node => ConfigNode.ofJson?
  | policy => RepositoryPolicy.ofJson?
  | handler => ArtifactHandler.ofJson?
  | tool => BuildTool.ofJson?

end RecordKind

/-- What the value of a field is: one to be taken as it is, a dictionary of strings, a record, or a
list of records. -/
inductive Content where
  | value
  | strings
  | record (kind : RecordKind)
  | records (kind : RecordKind)

/-- A field of a record, with the default it has if it may be missing. -/
structure RecordField where
  name : String
  default? : Option Json
  content : Content

namespace RecordField

def required (name : String) : RecordField :=
  ⟨name, none, .value⟩

def orElse (name : String) (default : Json) : RecordField :=
  ⟨name, some default, .value⟩

def optional (name : String) : RecordField :=
  ⟨name, some .null, .value⟩

end RecordField

namespace RecordKind

def fields : RecordKind → List RecordField
  | settings => [
    ⟨"mirrors", some (.array []), .records mirror⟩,
    ⟨"proxies", some (.array []), .records proxy⟩,
    ⟨"servers", some (.array []), .records server⟩]
  | mirror => [
    .required "id",
    .required "url",
    .orElse "layout" (.string "default"),
    .required "mirror_of",
    .orElse "mirror_of_layouts" (.string "default,legacy"),
    .orElse "blocked" (.bool false)]
  | proxy => [
    .orElse "id" (.string ""),
    .orElse "protocol" (.string "http"),
    .required "host",
    .orElse "port" (.ofNat 8080),
    .optional "username",
    .optional "password",
    .optional "non_proxy_hosts"]
  | server => [
    .required "id",
    .optional "username",
    .optional "password",
    .optional "private_key",
    .optional "passphrase",
    .optional "file_permissions",
    .optional "directory_permissions",
    ⟨"configuration", some .null, .record node⟩]
  | node => [
    .required "name",
    .optional "value",
    ⟨"attributes", some (.object []), .strings⟩,
    ⟨"children", some (.array []), .records node⟩]
  | policy => [
    .orElse "enabled" (.bool true),
    .optional "update_policy",
    .optional "checksum_policy"]
  | handler => [
    .required "type_id",
    .required "extension",
    .optional "classifier",
    .orElse "language" (.string "none"),
    .orElse "includes_dependencies" (.bool false),
    .orElse "added_to_classpath" (.bool false)]
  | tool => [
    .required "product",
    .orElse "version" (.string ""),
    .orElse "runtime" (.string ""),
    .orElse "os_name" (.string ""),
    .orElse "os_version" (.string "")]

end RecordKind

namespace Content

/-- Whether two values are the same to the reader of a field. For a record there may be none, which
is read from `null`. -/
def ReadsAlike : Content → Json → Json → Prop
  | value, j, j' => j = j'
  | strings, j, j' => Json.asStrings j = Json.asStrings j'
  | record k, j, j' => (j = .null ↔ j' = .null) ∧ k.ofJson? j = k.ofJson? j'
  | records k, j, j' => Json.asList k.ofJson? j = Json.asList k.ofJson? j'

theorem readsAlike_refl : ∀ (c : Content) (j : Json), c.ReadsAlike j j
  | value, _ | strings, _ | records _, _ => rfl
  | record _, _ => ⟨Iff.rfl, rfl⟩

variable {α : Type}

def Respects (c : Content) (read : Json → Read α) : Prop :=
  ∀ ⦃j j' : Json⦄, c.ReadsAlike j j' → read j = read j'

theorem respects_value (read : Json → Read α) : value.Respects read :=
  fun _ _ h => congrArg read h

theorem respects_asOption (k : RecordKind) : (record k).Respects (Json.asOption k.ofJson?) := by
  rintro j j' ⟨hnull, hread⟩
  by_cases hj : j = .null
  · rw [hj, hnull.1 hj]
  · have hj' : j' ≠ .null := fun h => hj (hnull.2 h)
    rw [Json.asOption_of_ne_null hj, Json.asOption_of_ne_null hj', hread]

theorem respects_strings : strings.Respects Json.asStrings :=
  fun _ _ h => h

theorem respects_records (k : RecordKind) : (records k).Respects (Json.asList k.ofJson?) :=
  fun _ _ h => h

end Content

namespace RecordField

variable {α : Type}

/-- What a field holds, its default filled in. -/
def held (f : RecordField) (found : List (String × Json)) : Option Json :=
  (Dict.lookup f.name found).or f.default?

def HeldAlike (f : RecordField) (found found' : List (String × Json)) : Prop :=
  Option.Rel f.content.ReadsAlike (f.held found) (f.held found')

/-- What is read of a field, its default filled in. -/
def readHeld (read : Json → Read α) : Option Json → Read α
  | some j => read j
  | none => .error .mismatch

theorem readHeld_congr {c : Content} {read : Json → Read α} (hread : c.Respects read) :
    ∀ {j j' : Option Json}, Option.Rel c.ReadsAlike j j' → readHeld read j = readHeld read j'
  | _, _, .none => rfl
  | _, _, .some h => hread h

variable {name : String} {content : Content} {read : Json → Read α}
  {found found' : List (String × Json)}

/-- A reader of one field cannot tell objects apart that hold the field alike. -/
theorem required_congr (h : HeldAlike ⟨name, none, content⟩ found found')
    (hread : content.Respects read) :
    Json.required name read found = Json.required name read found' := by
  have heq : ∀ ms, Json.required name read ms = readHeld read (held ⟨name, none, content⟩ ms) := by
    intro ms
    rw [held, Option.or_none]
    rfl
  rw [heq, heq]
  exact readHeld_congr hread h

theorem orElse_congr {d : Json} {default : α} (h : HeldAlike ⟨name, some d, content⟩ found found')
    (hread : content.Respects read) (hd : read d = .ok default) :
    Json.orElse name read default found = Json.orElse name read default found' := by
  have heq : ∀ ms, Json.orElse name read default ms
      = readHeld read (held ⟨name, some d, content⟩ ms) := by
    intro ms
    unfold Json.orElse held
    rcases Dict.lookup name ms with _ | j
    · exact hd.symm
    · rfl
  rw [heq, heq]
  exact readHeld_congr hread h

theorem optional_congr (h : HeldAlike ⟨name, some .null, content⟩ found found')
    (hread : content.Respects (Json.asOption read)) :
    Json.optional name read found = Json.optional name read found' :=
  orElse_congr h hread rfl

end RecordField

section Congruence

open RecordField Content

variable {found found' : List (String × Json)}

theorem Mirror.ofJson?_congr (h : ∀ f ∈ RecordKind.mirror.fields, f.HeldAlike found found') :
    ofJson? (.object found) = ofJson? (.object found') := by
  simp only [RecordKind.fields, List.forall_mem_cons] at h
  obtain ⟨hid, hurl, hlayout, hof, hlayouts, hblocked, -⟩ := h
  simp only [ofJson?, Json.fields_object, pure_bind]
  rw [required_congr hid (respects_value _), required_congr hurl (respects_value _),
    orElse_congr hlayout (respects_value _), required_congr hof (respects_value _),
    orElse_congr hlayouts (respects_value _), orElse_congr hblocked (respects_value _)]
  -- what is left says of each default in the table that it is read as the reader's own
  all_goals rfl

theorem ProxySettings.ofJson?_congr (h : ∀ f ∈ RecordKind.proxy.fields, f.HeldAlike found found') :
    ofJson? (.object found) = ofJson? (.object found') := by
  simp only [RecordKind.fields, List.forall_mem_cons] at h
  obtain ⟨hid, hprotocol, hhost, hport, husername, hpassword, hhosts, -⟩ := h
  simp only [ofJson?, Json.fields_object, pure_bind]
  rw [orElse_congr hid (respects_value _), orElse_congr hprotocol (respects_value _),
    required_congr hhost (respects_value _), orElse_congr hport (respects_value _),
    optional_congr husername (respects_value _), optional_congr hpassword (respects_value _),
    optional_congr hhosts (respects_value _)]
  all_goals rfl

theorem ConfigNode.ofJson?_congr (h : ∀ f ∈ RecordKind.node.fields, f.HeldAlike found found') :
    ofJson? (.object found) = ofJson? (.object found') := by
  simp only [RecordKind.fields, List.forall_mem_cons] at h
  obtain ⟨hname, hvalue, hattributes, hchildren, -⟩ := h
  have hnodes : (records .node).Respects (Json.asList ofJson?) := respects_records .node
  rw [ofJson?_object, ofJson?_object, required_congr hname (respects_value _),
    optional_congr hvalue (respects_value _), orElse_congr hattributes respects_strings,
    orElse_congr hchildren hnodes]
  all_goals rfl

theorem Server.ofJson?_congr (h : ∀ f ∈ RecordKind.server.fields, f.HeldAlike found found') :
    ofJson? (.object found) = ofJson? (.object found') := by
  simp only [RecordKind.fields, List.forall_mem_cons] at h
  obtain ⟨hid, husername, hpassword, hkey, hpassphrase, hfile, hdirectory, htree, -⟩ := h
  have hnode : (record .node).Respects (Json.asOption ConfigNode.ofJson?) :=
    respects_asOption .node
  simp only [ofJson?, Json.fields_object, pure_bind]
  rw [required_congr hid (respects_value _), optional_congr husername (respects_value _),
    optional_congr hpassword (respects_value _), optional_congr hkey (respects_value _),
    optional_congr hpassphrase (respects_value _), optional_congr hfile (respects_value _),
    optional_congr hdirectory (respects_value _), optional_congr htree hnode]

theorem RepositoryPolicy.ofJson?_congr
    (h : ∀ f ∈ RecordKind.policy.fields, f.HeldAlike found found') :
    ofJson? (.object found) = ofJson? (.object found') := by
  simp only [RecordKind.fields, List.forall_mem_cons] at h
  obtain ⟨henabled, hupdate, hchecksum, -⟩ := h
  simp only [ofJson?, Json.fields_object, pure_bind]
  rw [orElse_congr henabled (respects_value _), optional_congr hupdate (respects_value _),
    optional_congr hchecksum (respects_value _)]
  all_goals rfl

theorem ArtifactHandler.ofJson?_congr
    (h : ∀ f ∈ RecordKind.handler.fields, f.HeldAlike found found') :
    ofJson? (.object found) = ofJson? (.object found') := by
  simp only [RecordKind.fields, List.forall_mem_cons] at h
  obtain ⟨htype, hextension, hclassifier, hlanguage, hincludes, hadded, -⟩ := h
  simp only [ofJson?, Json.fields_object, pure_bind]
  rw [required_congr htype (respects_value _), required_congr hextension (respects_value _),
    optional_congr hclassifier (respects_value _), orElse_congr hlanguage (respects_value _),
    orElse_congr hincludes (respects_value _), orElse_congr hadded (respects_value _)]
  all_goals rfl

theorem BuildTool.ofJson?_congr (h : ∀ f ∈ RecordKind.tool.fields, f.HeldAlike found found') :
    ofJson? (.object found) = ofJson? (.object found') := by
  simp only [RecordKind.fields, List.forall_mem_cons] at h
  obtain ⟨hproduct, hversion, hruntime, hosName, hosVersion, -⟩ := h
  simp only [ofJson?, Json.fields_object, pure_bind]
  rw [required_congr hproduct (respects_value _), orElse_congr hversion (respects_value _),
    orElse_congr hruntime (respects_value _), orElse_congr hosName (respects_value _),
    orElse_congr hosVersion (respects_value _)]
  all_goals rfl

theorem Settings.ofJson?_congr (h : ∀ f ∈ RecordKind.settings.fields, f.HeldAlike found found') :
    ofJson? (.object found) = ofJson? (.object found') := by
  simp only [RecordKind.fields, List.forall_mem_cons] at h
  obtain ⟨hmirrors, hproxies, hservers, -⟩ := h
  have hmirror : (records .mirror).Respects (Json.asList Mirror.ofJson?) := respects_records .mirror
  have hproxy : (records .proxy).Respects (Json.asList ProxySettings.ofJson?) :=
    respects_records .proxy
  have hserver : (records .server).Respects (Json.asList Server.ofJson?) := respects_records .server
  simp only [ofJson?, Json.fields_object, pure_bind]
  rw [orElse_congr hmirrors hmirror, orElse_congr hproxies hproxy, orElse_congr hservers hserver]
  all_goals rfl

/-- A record of any kind is read from its own fields. -/
theorem RecordKind.ofJson?_congr (k : RecordKind) (h : ∀ f ∈ k.fields, f.HeldAlike found found') :
    k.ofJson? (.object found) = k.ofJson? (.object found') := by
  cases k with
  | settings => exact Settings.ofJson?_congr h
  | mirror => exact Mirror.ofJson?_congr h
  | proxy => exact ProxySettings.ofJson?_congr h
  | server => exact Server.ofJson?_congr h
  | node => exact ConfigNode.ofJson?_congr h
  | policy => exact RepositoryPolicy.ofJson?_congr h
  | handler => exact ArtifactHandler.ofJson?_congr h
  | tool => exact BuildTool.ofJson?_congr h

end Congruence

end BuildSession
