import BuildSession.Credentials.Decryption
import BuildSession.Proofs.SourceAddress
import Mathlib.Tactic.SplitIfs

/-!
# What problems clear

A source clears one credential of the entries it is the address of, and every other record and
field stays (`clearSource_eq`). Clearing by one source after another thus comes to asking of each
credential whether its address is among them (`foldl_clearSource`), and this is what decryption
makes of a decrypter's result (`value_decrypt`). Only sources that are addresses of credentials
count, in whatever order and number (`clearedBy_congr`, `decrypt_takes_named_credentials`).
-/

namespace BuildSession

/-- A credential, unless its address is among the sources. -/
def SourceAddress.unlessNamed (a : SourceAddress) (sources : List String)
    (credential : Option String) : Option String :=
  if a.text ∈ sources then none else credential

theorem SourceAddress.unlessNamed_nil (a : SourceAddress) (credential : Option String) :
    a.unlessNamed [] credential = credential := by
  simp [unlessNamed]

theorem SourceAddress.unlessNamed_cons (a : SourceAddress) (source : String)
    (sources : List String) (credential : Option String) :
    a.unlessNamed (source :: sources) credential
      = a.unlessNamed sources (a.unlessNamed [source] credential) := by
  unfold unlessNamed
  by_cases hfirst : a.text = source <;> by_cases hlater : a.text ∈ sources <;>
    simp [hfirst, hlater]

theorem SourceAddress.unlessNamed_congr {a : SourceAddress} {sources sources' : List String}
    (h : a.text ∈ sources ↔ a.text ∈ sources') (credential : Option String) :
    a.unlessNamed sources credential = a.unlessNamed sources' credential := by
  simp only [unlessNamed, h]

section OneSource

variable {source group field : String} (hgroup : group ∈ SourceAddress.sections)
  (hfield : field ∈ SourceAddress.credentials)

include hgroup hfield

theorem SourceAddress.unlessNamed_of_parse?_none (h : parse? source = none) (id : String)
    (credential : Option String) :
    (⟨group, id, field⟩ : SourceAddress).unlessNamed [source] credential = credential := by
  refine if_neg fun hmem => ?_
  have hsome := (text_eq_iff hgroup hfield).1 (List.mem_singleton.1 hmem)
  rw [h] at hsome
  cases hsome

/-- One source clears a credential exactly if it stands for its address. -/
theorem SourceAddress.unlessNamed_of_parse? {b : SourceAddress} (h : parse? source = some b)
    (id : String) (credential : Option String) :
    (⟨group, id, field⟩ : SourceAddress).unlessNamed [source] credential
      = if (b.group = group ∧ id = b.id) ∧ b.field = field then none else credential := by
  have htext : (⟨group, id, field⟩ : SourceAddress).text = source ↔ _ := text_eq_iff hgroup hfield
  rw [h] at htext
  obtain ⟨group', id', field'⟩ := b
  simp only [unlessNamed, List.mem_singleton, htext, Option.some.injEq, SourceAddress.mk.injEq,
    and_assoc, @eq_comm _ id]

end OneSource

/-- The proxy without the credentials whose addresses are among the sources. -/
def ProxySettings.clearedBy (sources : List String) (p : ProxySettings) : ProxySettings :=
  let address (field : String) : SourceAddress := ⟨SourceAddress.proxies, p.id, field⟩
  { p with
    username := (address "username").unlessNamed sources p.username
    password := (address "password").unlessNamed sources p.password }

/-- The server without the credentials whose addresses are among the sources. -/
def Server.clearedBy (sources : List String) (s : Server) : Server :=
  let address (field : String) : SourceAddress := ⟨SourceAddress.servers, s.id, field⟩
  { s with
    username := (address "username").unlessNamed sources s.username
    password := (address "password").unlessNamed sources s.password
    passphrase := (address "passphrase").unlessNamed sources s.passphrase }

section Records

open SourceAddress

variable {source : String}

/-- Clearing for one source does what the address says that the source is, and nothing if it is
none. -/
theorem ProxySettings.clearedBy_singleton (p : ProxySettings) : p.clearedBy [source] =
    match SourceAddress.parse? source with
    | some a => if a.group = SourceAddress.proxies ∧ p.id = a.id then p.clear a.field else p
    | none => p := by
  have hgroup := proxies_mem_sections
  rcases h : parse? source with _ | a
  · simp only [clearedBy, unlessNamed_of_parse?_none hgroup username_mem_credentials h,
      unlessNamed_of_parse?_none hgroup password_mem_credentials h]
  simp only [clearedBy, unlessNamed_of_parse? hgroup username_mem_credentials h,
    unlessNamed_of_parse? hgroup password_mem_credentials h]
  by_cases hentry : a.group = SourceAddress.proxies ∧ p.id = a.id
  · simp only [eq_true hentry, true_and, ↓reduceIte, clear]
    by_cases hp : a.field = "password"
    · simp [hp]
    by_cases hu : a.field = "username" <;> simp [hp, hu]
  · simp only [hentry, false_and, ↓reduceIte]

theorem Server.clearedBy_singleton (s : Server) : s.clearedBy [source] =
    match SourceAddress.parse? source with
    | some a => if a.group = SourceAddress.servers ∧ s.id = a.id then s.clear a.field else s
    | none => s := by
  have hgroup := servers_mem_sections
  rcases h : parse? source with _ | a
  · simp only [clearedBy, unlessNamed_of_parse?_none hgroup username_mem_credentials h,
      unlessNamed_of_parse?_none hgroup password_mem_credentials h,
      unlessNamed_of_parse?_none hgroup passphrase_mem_credentials h]
  simp only [clearedBy, unlessNamed_of_parse? hgroup username_mem_credentials h,
    unlessNamed_of_parse? hgroup password_mem_credentials h,
    unlessNamed_of_parse? hgroup passphrase_mem_credentials h]
  by_cases hentry : a.group = SourceAddress.servers ∧ s.id = a.id
  · simp only [eq_true hentry, true_and, ↓reduceIte, clear]
    by_cases hp : a.field = "password"
    · simp [hp]
    by_cases hpp : a.field = "passphrase"
    · simp [hpp]
    by_cases hu : a.field = "username" <;> simp [hp, hpp, hu]
  · simp only [hentry, false_and, ↓reduceIte]

theorem ProxySettings.clearedBy_nil (p : ProxySettings) : p.clearedBy [] = p := by
  simp only [clearedBy, SourceAddress.unlessNamed_nil]

theorem ProxySettings.clearedBy_cons (sources : List String) (p : ProxySettings) :
    p.clearedBy (source :: sources) = (p.clearedBy [source]).clearedBy sources := by
  simp only [clearedBy, ← SourceAddress.unlessNamed_cons]

theorem Server.clearedBy_nil (s : Server) : s.clearedBy [] = s := by
  simp only [clearedBy, SourceAddress.unlessNamed_nil]

theorem Server.clearedBy_cons (sources : List String) (s : Server) :
    s.clearedBy (source :: sources) = (s.clearedBy [source]).clearedBy sources := by
  simp only [clearedBy, ← SourceAddress.unlessNamed_cons]

/-- The addresses of a proxy's credentials. -/
def ProxySettings.addresses (p : ProxySettings) : List SourceAddress :=
  ["username", "password"].map fun field => ⟨SourceAddress.proxies, p.id, field⟩

/-- The addresses of a server's credentials. -/
def Server.addresses (s : Server) : List SourceAddress :=
  ["username", "password", "passphrase"].map fun field => ⟨SourceAddress.servers, s.id, field⟩

/-- Which of its own addresses are named is all that matters to a proxy. -/
theorem ProxySettings.clearedBy_congr {sources sources' : List String} (p : ProxySettings)
    (h : ∀ a ∈ p.addresses, a.text ∈ sources ↔ a.text ∈ sources') :
    p.clearedBy sources = p.clearedBy sources' := by
  simp only [addresses, List.forall_mem_map] at h
  simp only [clearedBy, unlessNamed_congr (h "username" (by decide)),
    unlessNamed_congr (h "password" (by decide))]

theorem Server.clearedBy_congr {sources sources' : List String} (s : Server)
    (h : ∀ a ∈ s.addresses, a.text ∈ sources ↔ a.text ∈ sources') :
    s.clearedBy sources = s.clearedBy sources' := by
  simp only [addresses, List.forall_mem_map] at h
  simp only [clearedBy, unlessNamed_congr (h "username" (by decide)),
    unlessNamed_congr (h "password" (by decide)), unlessNamed_congr (h "passphrase" (by decide))]

end Records

namespace DecryptedSettings

/-- The settings without the credentials whose addresses are among the sources. -/
def clearedBy (sources : List String) (d : DecryptedSettings) : DecryptedSettings :=
  { d with
    proxies := d.proxies.map (·.clearedBy sources)
    servers := d.servers.map (·.clearedBy sources) }

theorem clearSource_eq (d : DecryptedSettings) (source : String) :
    d.clearSource source = d.clearedBy [source] := by
  simp only [clearedBy, ProxySettings.clearedBy_singleton, Server.clearedBy_singleton, clearSource]
  rcases SourceAddress.parse? source with _ | a
  · simp
  have hne := SourceAddress.proxies_ne_servers
  simp only [clear]
  by_cases hproxies : a.group = SourceAddress.proxies
  · simp [hproxies, hne]
  · by_cases hservers : a.group = SourceAddress.servers
    · simp [hservers, hne.symm]
    · simp [hproxies, hservers]

/-- Clearing by one source after another asks of each credential whether one of them names it. -/
theorem foldl_clearSource : ∀ (sources : List String) (d : DecryptedSettings),
    sources.foldl clearSource d = d.clearedBy sources
  | [], d => by
    simp [clearedBy, ProxySettings.clearedBy_nil, Server.clearedBy_nil]
  | source :: sources, d => by
    rw [List.foldl_cons, clearSource_eq, foldl_clearSource sources]
    simp only [clearedBy, List.map_map, Function.comp_def, ← ProxySettings.clearedBy_cons,
      ← Server.clearedBy_cons]

/-- The addresses of all credentials of the proxies and servers. -/
def addresses (d : DecryptedSettings) : List SourceAddress :=
  d.proxies.flatMap (·.addresses) ++ d.servers.flatMap (·.addresses)

/-- Sources count only as far as they are addresses of credentials. -/
theorem clearedBy_congr {d : DecryptedSettings} {sources sources' : List String}
    (h : ∀ a ∈ d.addresses, a.text ∈ sources ↔ a.text ∈ sources') :
    d.clearedBy sources = d.clearedBy sources' := by
  have hproxies : ∀ p ∈ d.proxies, p.clearedBy sources = p.clearedBy sources' := fun p hp =>
    p.clearedBy_congr fun a ha => h a (List.mem_append_left _ (List.mem_flatMap.2 ⟨p, hp, ha⟩))
  have hservers : ∀ s ∈ d.servers, s.clearedBy sources = s.clearedBy sources' := fun s hs =>
    s.clearedBy_congr fun a ha => h a (List.mem_append_right _ (List.mem_flatMap.2 ⟨s, hs, ha⟩))
  rw [clearedBy, clearedBy, List.map_congr_left hproxies, List.map_congr_left hservers]

/-- Whether two results have the same records and name the same credentials of them. -/
structure NamedAlike (d d' : DecryptedSettings) : Prop where
  proxies : d.proxies = d'.proxies
  servers : d.servers = d'.servers
  named : ∀ a ∈ d.addresses,
    a.text ∈ d.problems.map (·.source) ↔ a.text ∈ d'.problems.map (·.source)

end DecryptedSettings

namespace Decrypter

variable (decrypter : Decrypter) (proxies : List ProxySettings) (servers : List Server)

/-- The problems of a decryption are cleared one after another, but it comes to clearing all at
once. -/
theorem value_decrypt : (decrypter.decrypt proxies servers).value =
    (decrypter proxies servers).map fun d => d.clearedBy (d.problems.map (·.source)) := by
  unfold decrypt
  rcases decrypter proxies servers with e | d
  · rfl
  simp only [Recorded.value_bind, Recorded.value_pure, Recorded.value_foldlM, Except.map,
    ← DecryptedSettings.foldl_clearSource, List.foldl_map]

section Ok

variable {decrypter proxies servers} {result : DecryptedSettings}
  (h : decrypter proxies servers = .ok result)

include h

theorem value_decrypt_of_ok : (decrypter.decrypt proxies servers).value =
    .ok (result.clearedBy (result.problems.map (·.source))) := by
  rw [value_decrypt, h]
  rfl

theorem records_decrypt_of_ok : (decrypter.decrypt proxies servers).records =
    result.problems.map SettingsProblem.log := by
  unfold decrypt
  rw [h]
  simp only [Recorded.records_bind, Recorded.records_pure, List.append_nil]
  exact Recorded.records_foldlM (fun _ _ => rfl) result.problems result

end Ok

/-- Decryption keeps records and problems in place, logs each problem once, and takes from the
records just the credentials whose addresses are sources of problems. So neither the order nor the
number of the problems matters, and a problem with any other source changes nothing. -/
theorem decrypt_takes_named_credentials (decrypter : Decrypter) (proxies : List ProxySettings)
    (servers : List Server) (result : DecryptedSettings)
    (h : decrypter proxies servers = .ok result) :
    let sources := result.problems.map (·.source)
    (decrypter.decrypt proxies servers).value = .ok
        { proxies := result.proxies.map (·.clearedBy sources)
          servers := result.servers.map (·.clearedBy sources)
          problems := result.problems }
      ∧ (decrypter.decrypt proxies servers).records = result.problems.map (fun p =>
        { level := .debug
          message := p.message
          fields := [("severity", p.severity.name), ("source", p.source),
            ("cause", p.cause.getD "")] })
      ∧ ∀ (other : Decrypter) (proxies' : List ProxySettings) (servers' : List Server)
        (result' : DecryptedSettings), other proxies' servers' = .ok result' →
        result.NamedAlike result' →
        ∃ d, (other.decrypt proxies' servers').value = .ok d
          ∧ d.proxies = result.proxies.map (·.clearedBy sources)
          ∧ d.servers = result.servers.map (·.clearedBy sources) := by
  intro sources
  refine ⟨value_decrypt_of_ok h, records_decrypt_of_ok h, ?_⟩
  intro other proxies' servers' result' h' halike
  have hsame : result.clearedBy sources
      = result.clearedBy (result'.problems.map (·.source)) :=
    DecryptedSettings.clearedBy_congr halike.named
  refine ⟨_, value_decrypt_of_ok h', ?_, ?_⟩
  · have hproxies := congrArg DecryptedSettings.proxies hsame
    rw [DecryptedSettings.clearedBy, ← halike.proxies]
    exact hproxies.symm
  · have hservers := congrArg DecryptedSettings.servers hsame
    rw [DecryptedSettings.clearedBy, ← halike.servers]
    exact hservers.symm

/-- Two servers share an id with a proxy; one problem comes twice and others are about no
credential of theirs. -/
theorem decrypt_takes_named_credentials_of_shared_id :
    let problem (source : String) : SettingsProblem := { message := "bad", source }
    let central : Server := { id := "a", password := some "x", passphrase := some "y" }
    let proxies : List ProxySettings := [{ id := "a", host := "proxy.example", password := some "z" }]
    let result : DecryptedSettings :=
      { proxies
        servers := [central, { id := "a", username := some "guest", password := some "x" }]
        problems := [problem "servers.server[a].password", problem "settings-security.xml",
          problem "servers.server[a].password"] }
    let other : DecryptedSettings :=
      { result with
        problems := [problem "proxies.proxy[b].password", problem "servers.server[a].password"] }
    let cleared : List Server :=
      [{ central with password := none }, { id := "a", username := some "guest" }]
    (∃ d, (decrypt (fun _ _ => .ok result) [] []).value = .ok d
      ∧ d.proxies = proxies ∧ d.servers = cleared)
      ∧ ∃ d, (decrypt (fun _ _ => .ok other) [] []).value = .ok d
        ∧ d.proxies = proxies ∧ d.servers = cleared := by
  intro problem central proxies result other cleared
  have halike : result.NamedAlike other := ⟨rfl, rfl, by decide⟩
  have hproxies : result.proxies.map (·.clearedBy (result.problems.map (·.source))) = proxies := by
    decide
  have hservers : result.servers.map (·.clearedBy (result.problems.map (·.source))) = cleared :=
    rfl
  obtain ⟨hvalue, -, hother⟩ :=
    decrypt_takes_named_credentials (fun _ _ => .ok result) [] [] result rfl
  obtain ⟨d, hd, hdproxies, hdservers⟩ := hother (fun _ _ => .ok other) [] [] other rfl halike
  exact ⟨⟨_, hvalue, hproxies, hservers⟩, d, hd, hdproxies.trans hproxies,
    hdservers.trans hservers⟩

end Decrypter

end BuildSession
