import BuildSession.Credentials.Braces
import BuildSession.Proofs.Clearing
import Mathlib.Data.List.Forall2

/-!
# Whose password survives decryption

A problem names an entry by its id alone, so a password that cannot be opened is cleared from every
entry of its kind with that id (`value_decrypt_braces`). A password that can be opened is thus kept
exactly if no entry with the same id has one that cannot (`braces_keep_iff_spared`).
-/

namespace BuildSession

namespace Braces

/-- The secret that cannot be opened. -/
def broken : String := "\x7b!\x7d"

/-- What stands between the braces of a secret; a secret without braces is open. -/
def opened (secret : String) : String :=
  match secret.toList with
  | '\x7b' :: rest => if rest.getLast? = some '\x7d' then String.ofList rest.dropLast else secret
  | _ => secret

theorem opened_braced (x : String) : opened ("\x7b" ++ x ++ "\x7d") = x := by
  have hlist : ("\x7b" ++ x ++ "\x7d").toList = '\x7b' :: (x.toList ++ ['\x7d']) := by
    simp
  simp only [opened, hlist, List.getLast?_concat, List.dropLast_concat, ↓reduceIte,
    String.ofList_toList]

theorem opened_bare {secret : String} (h : ∀ x, secret ≠ "\x7b" ++ x ++ "\x7d") :
    opened secret = secret := by
  unfold opened
  split
  · next rest hlist =>
    refine if_neg fun hlast => h (String.ofList rest.dropLast) (String.toList_injective ?_)
    obtain ⟨front, rfl⟩ := List.getLast?_eq_some_iff.1 hlast
    simp [hlist]
  · rfl

theorem openSecret_of_ne {secret : String} (a : SourceAddress) (h : secret ≠ broken) :
    openSecret a (some secret) = (some (opened secret), []) := by
  have hlist : secret.toList ≠ ['\x7b', '!', '\x7d'] :=
    fun heq => h (String.toList_injective heq)
  simp only [openSecret, opened]
  split
  · next heq => exact absurd heq hlist
  · next heq => simp only [heq]
  · next hbare =>
    split
    · next heq => exact (hbare _ heq).elim
    · rfl

/-- A secret is a problem, reported under its address, exactly if it cannot be opened. -/
theorem openSecret_sources (a : SourceAddress) (secret : Option String) :
    (openSecret a secret).2.map (·.source) = if secret = some broken then [a.text] else [] := by
  rcases secret with _ | secret
  · rfl
  by_cases h : secret = broken
  · subst h
    rfl
  · simp [openSecret_of_ne a h, h]

/-! ## The problems with a whole declaration -/

/-- The problems with the secrets of proxies and servers. -/
def problems (proxies : List ProxySettings) (servers : List Server) : List SettingsProblem :=
  proxies.flatMap (fun p => (openProxy p).2) ++ servers.flatMap fun s => (openServer s).2

section Sources

variable {group id field : String} (hgroup : group ∈ SourceAddress.sections)
  (hfield : field ∈ SourceAddress.credentials)

include hgroup hfield

theorem text_mem_openSecret_sources {b : SourceAddress} (hbgroup : b.group ∈ SourceAddress.sections)
    (hbfield : b.field ∈ SourceAddress.credentials) (secret : Option String) :
    (⟨group, id, field⟩ : SourceAddress).text ∈ (openSecret b secret).2.map (·.source) ↔
      secret = some broken ∧ b = ⟨group, id, field⟩ := by
  have htext : (⟨group, id, field⟩ : SourceAddress).text = b.text ↔ _ :=
    SourceAddress.text_eq_iff hgroup hfield
  rw [SourceAddress.parse?_text hbgroup hbfield, Option.some.injEq] at htext
  rw [openSecret_sources]
  split_ifs with h <;> simp [h, htext]

/-- A problem names a credential exactly if an entry with that id has a secret in its place that
cannot be opened. -/
theorem text_mem_sources (proxies : List ProxySettings) (servers : List Server) :
    (⟨group, id, field⟩ : SourceAddress).text ∈ (problems proxies servers).map (·.source) ↔
      (SourceAddress.proxies = group ∧ "password" = field ∧
        ∃ p ∈ proxies, p.password = some broken ∧ p.id = id) ∨
      (SourceAddress.servers = group ∧ "password" = field ∧
        ∃ s ∈ servers, s.password = some broken ∧ s.id = id) := by
  have hpassword := SourceAddress.password_mem_credentials
  have hnamed {group' field' : String} (hgroup' : group' ∈ SourceAddress.sections)
      (hfield' : field' ∈ SourceAddress.credentials) (id' : String) (secret : Option String) :=
    @text_mem_openSecret_sources group id field hgroup hfield ⟨group', id', field'⟩ hgroup' hfield'
      secret
  simp only [problems, openProxy, openServer, List.map_append, List.map_flatMap, List.mem_append,
    List.mem_flatMap, hnamed SourceAddress.proxies_mem_sections hpassword,
    hnamed SourceAddress.servers_mem_sections hpassword, SourceAddress.mk.injEq]
  constructor
  · rintro (⟨p, hp, hbroken, hg, hid, hf⟩ | ⟨s, hs, hbroken, hg, hid, hf⟩)
    · exact .inl ⟨hg, hf, p, hp, hbroken, hid⟩
    · exact .inr ⟨hg, hf, s, hs, hbroken, hid⟩
  · rintro (⟨hg, hf, p, hp, hbroken, hid⟩ | ⟨hg, hf, s, hs, hbroken, hid⟩)
    · exact .inl ⟨p, hp, hbroken, hg, hid, hf⟩
    · exact .inr ⟨s, hs, hbroken, hg, hid, hf⟩

end Sources

/-! ## What a record holds in the end -/

section Held

variable {α : Type} (l : List α) (id : α → String) (secret : α → Option String)

/-- What a record of a list holds once the secrets are open: nothing if an entry with its id has one
that cannot be opened. -/
def heldAmong (x : α) : Option String :=
  if ∃ y ∈ l, secret y = some broken ∧ id y = id x then none else (secret x).map opened

/-- Opening a secret and clearing what cannot be opened leaves what is held. -/
theorem ite_openSecret_eq_heldAmong {x : α} (hx : x ∈ l) (a : SourceAddress) :
    (if ∃ y ∈ l, secret y = some broken ∧ id y = id x then none else (openSecret a (secret x)).1)
      = heldAmong l id secret x := by
  unfold heldAmong
  split_ifs with h
  · rfl
  rcases hsecret : secret x with _ | text
  · rfl
  -- The record is an entry with its own id, so a broken secret of its own is cleared as well.
  have hne : text ≠ broken := by
    rintro rfl
    exact h ⟨x, hx, hsecret, rfl⟩
  rw [openSecret_of_ne a hne, Option.map_some]

/-- Whether a credential is what the input had, opened, and is missing only where the input had none
or one that cannot be opened. -/
structure Kept (before after : Option String) : Prop where
  braced : ∀ x, x ≠ "!" → before = some ("\x7b" ++ x ++ "\x7d") → after = some x
  bare : ∀ text, (∀ x, text ≠ "\x7b" ++ x ++ "\x7d") → before = some text → after = some text
  lost : after = none → before = none ∨ before = some broken

theorem kept_opened {text : String} : Kept (some text) (some (opened text)) where
  braced x _ h := by rw [Option.some.inj h, opened_braced]
  bare text' hbare h := by rw [Option.some.inj h, opened_bare hbare]
  lost h := by cases h

theorem kept_none {before : Option String} :
    Kept before none ↔ before = none ∨ before = some broken := by
  refine ⟨fun h => h.lost rfl, ?_⟩
  rintro (rfl | rfl)
  · exact ⟨nofun, nofun, fun _ => .inl rfl⟩
  -- The broken secret is written with braces, but what stands between them is excepted.
  refine ⟨fun x hx h => ?_, fun text hbare h => ?_, fun _ => .inr rfl⟩
  · have hbroken : broken = "\x7b" ++ "!" ++ "\x7d" := rfl
    rw [hbroken, Option.some.injEq, String.append_left_inj, String.append_right_inj] at h
    exact absurd h.symm hx
  · exact absurd (Option.some.inj h).symm (hbare "!")

/-- Whether no entry with a record's id has a secret that cannot be opened while its own can. -/
def Spared (x : α) : Prop :=
  ∀ y ∈ l, secret y = some broken → id y = id x → secret x = none ∨ secret x = some broken

theorem kept_heldAmong_iff (x : α) :
    Kept (secret x) (heldAmong l id secret x) ↔ Spared l id secret x := by
  unfold heldAmong Spared
  split_ifs with h
  · obtain ⟨y, hy, hbroken, hid⟩ := h
    rw [kept_none]
    exact ⟨fun hlost _ _ _ _ => hlost, fun hall => hall y hy hbroken hid⟩
  · refine iff_of_true ?_ fun y hy hbroken hid => absurd ⟨y, hy, hbroken, hid⟩ h
    rcases secret x with _ | text
    · exact kept_none.2 (.inl rfl)
    · exact kept_opened

end Held

end Braces

section Records

variable (proxies : List ProxySettings) (servers : List Server)

/-- What a proxy holds in the end. The problems of all entries count, not only its own. -/
theorem ProxySettings.clearedBy_openProxy {p : ProxySettings} (hp : p ∈ proxies) :
    (Braces.openProxy p).1.clearedBy ((Braces.problems proxies servers).map (·.source))
      = { p with password := Braces.heldAmong proxies (·.id) (·.password) p } := by
  have hnamed {field : String} (hfield : field ∈ SourceAddress.credentials) :=
    @Braces.text_mem_sources _ p.id field SourceAddress.proxies_mem_sections hfield proxies servers
  simp only [clearedBy, Braces.openProxy, SourceAddress.unlessNamed,
    hnamed SourceAddress.username_mem_credentials, hnamed SourceAddress.password_mem_credentials]
  simp [SourceAddress.proxies_ne_servers.symm,
    Braces.ite_openSecret_eq_heldAmong proxies (·.id) (·.password) hp]

theorem Server.clearedBy_openServer {s : Server} (hs : s ∈ servers) :
    (Braces.openServer s).1.clearedBy ((Braces.problems proxies servers).map (·.source))
      = { s with password := Braces.heldAmong servers (·.id) (·.password) s } := by
  have hnamed {field : String} (hfield : field ∈ SourceAddress.credentials) :=
    @Braces.text_mem_sources _ s.id field SourceAddress.servers_mem_sections hfield proxies servers
  simp only [clearedBy, Braces.openServer, SourceAddress.unlessNamed,
    hnamed SourceAddress.username_mem_credentials, hnamed SourceAddress.password_mem_credentials,
    hnamed SourceAddress.passphrase_mem_credentials]
  simp [SourceAddress.proxies_ne_servers,
    Braces.ite_openSecret_eq_heldAmong servers (·.id) (·.password) hs]

end Records

namespace Decrypter

theorem value_decrypt_braces (proxies : List ProxySettings) (servers : List Server) :
    (braces.decrypt proxies servers).value = .ok
      { proxies := proxies.map fun p =>
          { p with password := Braces.heldAmong proxies (·.id) (·.password) p }
        servers := servers.map fun s =>
          { s with password := Braces.heldAmong servers (·.id) (·.password) s }
        problems := Braces.problems proxies servers } := by
  have hproxies := List.map_congr_left fun _ => ProxySettings.clearedBy_openProxy proxies servers
  have hservers := List.map_congr_left fun _ => Server.clearedBy_openServer proxies servers
  rw [value_decrypt, ← hproxies, ← hservers]
  simp only [braces, bracesOf, Except.map, DecryptedSettings.clearedBy, List.flatMap_map,
    List.map_map, Function.comp_def, Braces.problems]

/-- The password of an entry survives decryption exactly if no entry of its kind with the same id
has one that cannot be opened, unless its own is missing or cannot be opened either. -/
theorem braces_keep_iff_spared (proxies : List ProxySettings) (servers : List Server) :
    ∃ d, (braces.decrypt proxies servers).value = .ok d ∧
      List.Forall₂ (fun p p' => Braces.Kept p.password p'.password ↔
        Braces.Spared proxies (·.id) (·.password) p) proxies d.proxies ∧
      List.Forall₂ (fun s s' => Braces.Kept s.password s'.password ↔
        Braces.Spared servers (·.id) (·.password) s) servers d.servers ∧
      (List.Forall₂ (fun p p' => Braces.Kept p.password p'.password) proxies d.proxies ∧
        List.Forall₂ (fun s s' => Braces.Kept s.password s'.password) servers d.servers ↔
        (∀ p ∈ proxies, Braces.Spared proxies (·.id) (·.password) p) ∧
          ∀ s ∈ servers, Braces.Spared servers (·.id) (·.password) s) := by
  have hproxy := Braces.kept_heldAmong_iff proxies (·.id) (·.password)
  have hserver := Braces.kept_heldAmong_iff servers (·.id) (·.password)
  refine ⟨_, value_decrypt_braces proxies servers, ?_, ?_, ?_⟩
  · rw [List.forall₂_map_right_iff, List.forall₂_same]
    exact fun p _ => hproxy p
  · rw [List.forall₂_map_right_iff, List.forall₂_same]
    exact fun s _ => hserver s
  · rw [List.forall₂_map_right_iff, List.forall₂_same, List.forall₂_map_right_iff,
      List.forall₂_same]
    simp only [hproxy, hserver]

/-- Two proxies without an id, one with a password that cannot be opened. -/
def namesakes : List ProxySettings :=
  [{ host := "bad.example", password := some "\x7b!\x7d" },
   { host := "good.example", password := some "\x7bsecret\x7d" }]

/-- The second password can be opened, but both proxies have the empty id, so it is cleared with the
first. -/
theorem braces_lose_namesake_password :
    ∃ d, (braces.decrypt namesakes []).value = .ok d ∧ d.proxies.map (·.password) = [none, none] ∧
      ¬ List.Forall₂ (fun p p' => Braces.Kept p.password p'.password) namesakes d.proxies := by
  refine ⟨_, value_decrypt_braces namesakes [], by decide, fun hkept => ?_⟩
  rw [List.forall₂_map_right_iff, List.forall₂_same] at hkept
  have hgood := hkept { host := "good.example", password := some "\x7bsecret\x7d" } (by decide)
  exact absurd (hgood.braced "secret" (by decide) (by decide)) (by decide)

end Decrypter

end BuildSession
