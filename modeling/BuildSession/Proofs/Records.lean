import BuildSession.Artifact.Type
import BuildSession.BuildTool
import BuildSession.Proofs.UpdatePolicies
import BuildSession.Settings.Basic

/-!
# Reading back what was written

Every record is read back from its written form, whatever it holds: the theorems `ofJson?_toJson`,
from the innermost records outwards. Most fields are written always, an absent one as `null`. A
configuration tree leaves out what a node does not have (`ConfigNode.members`), and its reader
takes the missing parts as empty; the tree is read back by induction on its depth.
-/

namespace BuildSession

theorem Json.asOption_ofOption_string (o : Option String) :
    asOption asString (ofOption .string o) = .ok o := by
  have hread : ∀ s : String, asString (.string s) = .ok s := fun _ => rfl
  have hnull : ∀ s : String, Json.string s ≠ .null := fun _ => Json.noConfusion
  exact asOption_ofOption hread hnull o

theorem BuildTool.ofJson?_toJson (t : BuildTool) : ofJson? t.toJson = .ok t := rfl

theorem ArtifactHandler.ofJson?_toJson (h : ArtifactHandler) : ofJson? h.toJson = .ok h := by
  obtain ⟨typeId, extension, classifier, language, includesDependencies, addedToClasspath⟩ := h
  rcases classifier with _ | classifier <;> rfl

theorem UpdatePolicy.ofJson?_toJson (p : UpdatePolicy) : ofJson? p.toJson = .ok p := by
  rw [toJson, ofJson?, parse_text]

theorem ChecksumPolicy.ofJson?_toJson (p : ChecksumPolicy) : ofJson? p.toJson = .ok p := by
  cases p <;> rfl

theorem RepositoryPolicy.ofJson?_toJson (p : RepositoryPolicy) : ofJson? p.toJson = .ok p := by
  obtain ⟨enabled, update, checksum⟩ := p
  have hupdate := Json.asOption_ofOption UpdatePolicy.ofJson?_toJson
    (fun _ => Json.noConfusion) update
  have hchecksum := Json.asOption_ofOption ChecksumPolicy.ofJson?_toJson
    (fun _ => Json.noConfusion) checksum
  calc ofJson? (toJson ⟨enabled, update, checksum⟩)
      = (do
          let checksum ←
            Json.asOption ChecksumPolicy.ofJson? (.ofOption ChecksumPolicy.toJson checksum)
          let update ← Json.asOption UpdatePolicy.ofJson? (.ofOption UpdatePolicy.toJson update)
          return ⟨enabled, update, checksum⟩) := rfl
    _ = .ok ⟨enabled, update, checksum⟩ := by rw [hupdate, hchecksum]; rfl

theorem Mirror.ofJson?_toJson (m : Mirror) : ofJson? m.toJson = .ok m := rfl

namespace ProxySettings

theorem portOfJson?_ofNat (port : UInt16) : portOfJson? (.ofNat port.toNat) = .ok port := by
  have hle : port.toNat ≤ 65535 := Nat.le_of_lt_succ port.toNat_lt
  have hport : Json.asNatUpTo 65535 (.ofNat port.toNat) = .ok port.toNat := if_pos hle
  rw [portOfJson?, hport]
  exact congrArg Except.ok UInt16.ofNat_toNat

theorem ofJson?_toJson (p : ProxySettings) : ofJson? p.toJson = .ok p := by
  obtain ⟨id, protocol, host, port, username, password, nonProxyHosts⟩ := p
  have hport := portOfJson?_ofNat port
  have husername := Json.asOption_ofOption_string username
  have hpassword := Json.asOption_ofOption_string password
  have hhosts := Json.asOption_ofOption_string nonProxyHosts
  calc ofJson? (toJson ⟨id, protocol, host, port, username, password, nonProxyHosts⟩)
      = (do
          let port ← portOfJson? (.ofNat port.toNat)
          let username ← Json.asOption Json.asString (.ofOption .string username)
          let password ← Json.asOption Json.asString (.ofOption .string password)
          let hosts ← Json.asOption Json.asString (.ofOption .string nonProxyHosts)
          return ⟨id, protocol, host, port, username, password, hosts⟩) := rfl
    _ = .ok ⟨id, protocol, host, port, username, password, nonProxyHosts⟩ := by
      rw [hport, husername, hpassword, hhosts]
      rfl

end ProxySettings

namespace ConfigNode

theorem toJsons_eq : ∀ ns : List ConfigNode, toJsons ns = ns.map toJson
  | [] => rfl
  | n :: ns => by rw [toJsons, toJsons_eq ns, List.map_cons]

theorem ofJsons?_eq : ∀ js : List Json, ofJsons? js = js.mapM ofJson?
  | [] => rfl
  | j :: js => by rw [ofJsons?, ofJsons?_eq js, List.mapM_cons]

theorem ofJsonList?_eq : ofJsonList? = Json.asList ofJson? := by
  funext j
  cases j with
  | array items => exact ofJsons?_eq items
  | _ => rfl

theorem childrenIn?_eq : ∀ found : List (String × Json),
    childrenIn? found = Json.orElse "children" (Json.asList ofJson?) [] found
  | [] => rfl
  | (key, j) :: found => by
    rw [childrenIn?, childrenIn?_eq found, Json.orElse, Json.orElse, Dict.lookup, ofJsonList?_eq]
    split <;> rfl

/-- A tree in an object is read as other records are, its children by the reader itself. -/
theorem ofJson?_object (found : List (String × Json)) : ofJson? (.object found) = (do
    let name ← Json.required "name" Json.asString found
    let value ← Json.optional "value" Json.asString found
    let attributes ← Json.orElse "attributes" Json.asStrings .empty found
    let children ← Json.orElse "children" (Json.asList ofJson?) [] found
    return ⟨name, value, attributes, children⟩) := by
  rw [ofJson?, childrenIn?_eq, partsOf?]
  simp only [bind_assoc, pure_bind]

/-- A member that is written if there is something to write. -/
def part (name : String) (j : Option Json) : List (String × Json) :=
  j.toList.map fun j => (name, j)

theorem lookup_part (k name : String) (j : Option Json) :
    Dict.lookup k (part name j) = if k = name then j else none := by
  rcases j with _ | j
  · exact (ite_self none).symm
  · rfl

def attributesToJson? (n : ConfigNode) : Option Json :=
  if n.attributes.isEmpty then none else some (.ofDict .string n.attributes)

def childrenToJson? (n : ConfigNode) : Option Json :=
  if n.children = [] then none else some (.ofList toJson n.children)

/-- The members of a written tree. -/
def members (n : ConfigNode) : List (String × Json) :=
  ("name", .string n.name) :: (part "value" (n.value.map .string)
    ++ (part "attributes" n.attributesToJson? ++ part "children" n.childrenToJson?))

theorem toJson_eq (n : ConfigNode) : n.toJson = .object n.members := by
  obtain ⟨name, value, attributes, children⟩ := n
  have hattributes : (if attributes.isEmpty then [] else
      [("attributes", Json.ofDict .string attributes)])
      = part "attributes" (attributesToJson? ⟨name, value, attributes, children⟩) := by
    unfold attributesToJson?
    split <;> rfl
  rcases value with _ | v <;> rcases children with _ | ⟨c, cs⟩ <;>
    simp [toJson, toJsons_eq, members, part, hattributes, Json.ofList, childrenToJson?]

theorem lookup_members (n : ConfigNode) :
    Dict.lookup "value" n.members = n.value.map .string
      ∧ Dict.lookup "attributes" n.members = n.attributesToJson?
      ∧ Dict.lookup "children" n.members = n.childrenToJson? := by
  simp [members, Dict.lookup, Dict.lookup_append, lookup_part]

theorem optional_value (n : ConfigNode) :
    Json.optional "value" Json.asString n.members = .ok n.value := by
  rw [Json.optional, Json.orElse, n.lookup_members.1]
  rcases n.value with _ | v <;> rfl

theorem orElse_attributes (n : ConfigNode) :
    Json.orElse "attributes" Json.asStrings .empty n.members = .ok n.attributes := by
  rw [Json.orElse, n.lookup_members.2.1, attributesToJson?]
  by_cases h : n.attributes.isEmpty = true
  · rw [if_pos h, Dict.isEmpty_iff.1 h]
  · rw [if_neg h]
    exact Json.asStrings_ofDict n.attributes

theorem orElse_children {n : ConfigNode} (h : ∀ c ∈ n.children, ofJson? c.toJson = .ok c) :
    Json.orElse "children" (Json.asList ofJson?) [] n.members = .ok n.children := by
  rw [Json.orElse, n.lookup_members.2.2, childrenToJson?]
  by_cases hnil : n.children = []
  · rw [if_pos hnil, hnil]
  · rw [if_neg hnil]
    exact Json.mapM_map h

/-- A tree is read back by induction on its depth, since its reader calls itself on the children. -/
theorem ofJson?_toJson : ∀ n : ConfigNode, ofJson? n.toJson = .ok n
  | ⟨name, value, attributes, children⟩ => by
    have ih : ∀ c ∈ children, ofJson? c.toJson = .ok c := fun c _ => ofJson?_toJson c
    rw [toJson_eq, ofJson?_object, optional_value, orElse_attributes, orElse_children ih]
    rfl

/-- A written tree is an object, so an absent tree is no other written. -/
theorem toJson_ne_null (n : ConfigNode) : n.toJson ≠ .null := by
  rw [toJson_eq]
  exact Json.noConfusion

end ConfigNode

theorem Server.ofJson?_toJson (s : Server) : ofJson? s.toJson = .ok s := by
  obtain ⟨id, username, password, privateKey, passphrase, fileMode, directoryMode, tree⟩ := s
  have htree := Json.asOption_ofOption ConfigNode.ofJson?_toJson ConfigNode.toJson_ne_null tree
  calc ofJson? (toJson ⟨id, username, password, privateKey, passphrase, fileMode, directoryMode,
        tree⟩)
      = (do
          let username ← Json.asOption Json.asString (.ofOption .string username)
          let password ← Json.asOption Json.asString (.ofOption .string password)
          let privateKey ← Json.asOption Json.asString (.ofOption .string privateKey)
          let passphrase ← Json.asOption Json.asString (.ofOption .string passphrase)
          let fileMode ← Json.asOption Json.asString (.ofOption .string fileMode)
          let directoryMode ← Json.asOption Json.asString (.ofOption .string directoryMode)
          let tree ← Json.asOption ConfigNode.ofJson? (.ofOption ConfigNode.toJson tree)
          return ⟨id, username, password, privateKey, passphrase, fileMode, directoryMode,
            tree⟩) := rfl
    _ = .ok ⟨id, username, password, privateKey, passphrase, fileMode, directoryMode, tree⟩ := by
      simp only [Json.asOption_ofOption_string, htree]
      rfl

theorem Settings.ofJson?_toJson (s : Settings) : ofJson? s.toJson = .ok s := by
  obtain ⟨mirrors, proxies, servers⟩ := s
  have hmirrors := Json.asList_ofList Mirror.ofJson?_toJson mirrors
  have hproxies := Json.asList_ofList ProxySettings.ofJson?_toJson proxies
  have hservers := Json.asList_ofList Server.ofJson?_toJson servers
  calc ofJson? (toJson ⟨mirrors, proxies, servers⟩)
      = (do
          let mirrors ← Json.asList Mirror.ofJson? (.ofList Mirror.toJson mirrors)
          let proxies ← Json.asList ProxySettings.ofJson? (.ofList ProxySettings.toJson proxies)
          let servers ← Json.asList Server.ofJson? (.ofList Server.toJson servers)
          return ⟨mirrors, proxies, servers⟩) := rfl
    _ = .ok ⟨mirrors, proxies, servers⟩ := by rw [hmirrors, hproxies, hservers]; rfl

end BuildSession
