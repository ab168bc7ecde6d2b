import BuildSession.Credentials.SourceAddress

/-!
# Reading source addresses back

A text stands for an address exactly if it is the written address, the section has no bracket and
the field has no `].` (`parse?_eq_some_iff`). The id may be any text, so the address that a problem
with a credential has is always read back (`parse?_text`).
-/

namespace BuildSession

namespace SourceAddress

/-- The word that ends an id. -/
def closing : List Char := [']', '.']

theorem closing_infix_tail {field : List Char} :
    closing <:+: (closing ++ field).tail ↔ closing <:+: field := by
  rw [closing, List.cons_append, List.tail_cons, List.cons_append, List.nil_append,
    List.infix_cons_iff, List.cons_prefix_cons]
  exact or_iff_right fun h => absurd h.1 (by decide)

theorem toList_text (a : SourceAddress) : a.text.toList =
    a.group.toList ++ '[' :: (a.id.toList ++ (closing ++ a.field.toList)) := by
  simp [text, closing]

/-- A text has one reading as an address at most: the section ends at the first bracket and the
field starts behind the last closing. -/
theorem parse?_eq_some_iff {source : String} {a : SourceAddress} : parse? source = some a ↔
    source = a.text ∧ '[' ∉ a.group.toList ∧ ¬ closing <:+: a.field.toList := by
  constructor
  · intro h
    unfold parse? at h
    split at h
    · cases h
    rename_i group rest hfirst
    split at h
    · cases h
    rename_i id field hlast
    cases h
    refine ⟨String.toList_injective ?_, ?_, ?_⟩
    · rw [toList_text, Text.eq_of_cutFirst hfirst, Text.eq_of_cutLast hlast]
      simp [closing]
    · rw [String.toList_ofList]
      exact Text.not_mem_of_cutFirst hfirst
    · rw [String.toList_ofList, ← closing_infix_tail]
      exact Text.not_infix_of_cutLast (List.cons_ne_nil _ _) hlast
  · rintro ⟨rfl, hgroup, hfield⟩
    have hfirst := Text.cutFirst_append (a.id.toList ++ (closing ++ a.field.toList)) hgroup
    have hlast := Text.cutLast_append ((not_congr closing_infix_tail).2 hfield) a.id.toList
    rw [← toList_text] at hfirst
    unfold closing at hlast
    simp only [parse?, hfirst, closing, hlast, String.ofList_toList]

/-- The sections that problems with credentials are in. -/
def sections : List String := [proxies, servers]

/-- The fields that hold credentials. -/
def credentials : List String := ["username", "password", "passphrase"]

theorem proxies_mem_sections : proxies ∈ sections := by decide

theorem servers_mem_sections : servers ∈ sections := by decide

theorem proxies_ne_servers : proxies ≠ servers := by decide

theorem username_mem_credentials : "username" ∈ credentials := by decide

theorem password_mem_credentials : "password" ∈ credentials := by decide

theorem passphrase_mem_credentials : "passphrase" ∈ credentials := by decide

theorem parse?_text {a : SourceAddress} (hgroup : a.group ∈ sections)
    (hfield : a.field ∈ credentials) : parse? a.text = some a := by
  have hgroups : ∀ g ∈ sections, '[' ∉ g.toList := by decide
  have hfields : ∀ f ∈ credentials, ']' ∉ f.toList := by decide
  refine parse?_eq_some_iff.2 ⟨rfl, hgroups _ hgroup, fun h => hfields _ hfield ?_⟩
  exact h.subset List.mem_cons_self

/-- A text that stands for an address is written like a credential's only if it stands for that. -/
theorem text_eq_iff {source : String} {a : SourceAddress} (hgroup : a.group ∈ sections)
    (hfield : a.field ∈ credentials) : a.text = source ↔ parse? source = some a := by
  constructor
  · rintro rfl
    exact parse?_text hgroup hfield
  · intro h
    exact (parse?_eq_some_iff.1 h).1.symm

/-- A text stands for the address that it is written as, with a section without brackets and a
field without `].`, and for no other. The address of a credential is one of these, whatever text
the id is. -/
theorem parse?_decodes_uniquely :
    (∀ source group id field : String, parse? source = some ⟨group, id, field⟩ ↔
      source = group ++ "[" ++ id ++ "]." ++ field
        ∧ '[' ∉ group.toList ∧ ¬ "].".toList <:+: field.toList)
      ∧ ∀ id : String, ∀ group ∈ ["proxies.proxy", "servers.server"],
        ∀ field ∈ ["username", "password", "passphrase"],
          parse? (group ++ "[" ++ id ++ "]." ++ field) = some ⟨group, id, field⟩ := by
  refine ⟨fun source group id field => parse?_eq_some_iff, fun id group hgroup field hfield => ?_⟩
  have hsection : group ∈ sections := hgroup
  have hcredential : field ∈ credentials := hfield
  exact parse?_text (a := ⟨group, id, field⟩) hsection hcredential

/-- The id has both brackets and the very word that ends ids. -/
theorem parse?_decodes_uniquely_around_closing :
    "servers.server" ∈ ["proxies.proxy", "servers.server"]
      ∧ "password" ∈ ["username", "password", "passphrase"]
      ∧ parse? "servers.server[a].b[c].password" = some ⟨"servers.server", "a].b[c", "password"⟩ := by
  have hgroup : "servers.server" ∈ ["proxies.proxy", "servers.server"] := by decide
  have hfield : "password" ∈ ["username", "password", "passphrase"] := by decide
  refine ⟨hgroup, hfield, ?_⟩
  exact parse?_decodes_uniquely.2 "a].b[c" "servers.server" hgroup "password" hfield

end SourceAddress

end BuildSession
