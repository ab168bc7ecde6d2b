import BuildSession.Text.Blank

/-!
# Cutting texts

Texts are cut after a leading word (`afterLead`), at the first occurrence of a character
(`cutFirst`), at the last occurrence of a word (`cutLast`), and into trimmed segments
(`segments`). A cut loses nothing but the separator (`afterLead_eq_some_iff`, `eq_of_cutFirst`,
`eq_of_cutLast`), the first cut leaves no separator before it (`not_mem_of_cutFirst`), and behind
the start of the last one there is no other (`not_infix_of_cutLast`). Where a cut may be made is
thus where it is made (`cutFirst_append`, `cutLast_append`). A part is a word that occurs anywhere
(`hasPart_iff`), and it occurs only from where its first character does (`infix_append_iff`).
-/

namespace BuildSession.Text

/-- The text behind the leading word `lead`, if it has that lead. -/
def afterLead : List Char → List Char → Option (List Char)
  | [], cs => some cs
  | _ :: _, [] => none
  | l :: ls, c :: cs => if l = c then afterLead ls cs else none

def cutFirst (sep : Char) : List Char → Option (List Char × List Char)
  | [] => none
  | c :: cs => if c = sep then some ([], cs) else (cutFirst sep cs).map fun p => (c :: p.1, p.2)

/-- The texts before and after the last occurrence of the word `sep`. -/
def cutLast (sep : List Char) : List Char → Option (List Char × List Char)
  | [] => none
  | c :: cs =>
    match cutLast sep cs with
    | some (front, back) => some (c :: front, back)
    | none => (afterLead sep (c :: cs)).map fun back => ([], back)

/-- Whether the word `part` occurs in the text. -/
def hasPart (part : List Char) : List Char → Bool
  | [] => part.isEmpty
  | c :: cs => (afterLead part (c :: cs)).isSome || hasPart part cs

/-- The pieces between the separators, each without blank ends. -/
def segments (isSeparator : Char → Bool) (cs : List Char) : List (List Char) :=
  (cs.splitOnP isSeparator).map trim

/-- Lower case for the letters `A` to `Z`; every other character stays. -/
def lower (cs : List Char) : List Char :=
  cs.map Char.toLower

def lowerString (s : String) : String :=
  String.ofList (lower s.toList)

theorem length_le_of_mem_splitOnP {isSeparator : Char → Bool} :
    ∀ {cs piece : List Char}, piece ∈ cs.splitOnP isSeparator → piece.length ≤ cs.length
  | [], piece, h => by
    rw [List.splitOnP_nil, List.mem_singleton] at h
    exact Nat.le_of_eq (congrArg List.length h)
  | c :: cs, piece, h => by
    rw [List.splitOnP_cons_eq_if_modifyHead] at h
    split at h
    · rcases List.mem_cons.1 h with rfl | h
      · exact Nat.zero_le _
      · exact Nat.le_succ_of_le (length_le_of_mem_splitOnP h)
    · obtain ⟨first, later, hpieces⟩ :=
        List.exists_cons_of_ne_nil (List.splitOnP_ne_nil isSeparator cs)
      rw [hpieces, List.modifyHead_cons] at h
      rcases List.mem_cons.1 h with rfl | h
      · have hfirst := length_le_of_mem_splitOnP (hpieces ▸ List.mem_cons_self : first ∈ _)
        exact Nat.succ_le_succ hfirst
      · have hpiece := length_le_of_mem_splitOnP (hpieces ▸ List.mem_cons_of_mem first h)
        exact Nat.le_succ_of_le hpiece

theorem length_le_of_mem_segments {isSeparator : Char → Bool} {cs segment : List Char}
    (h : segment ∈ segments isSeparator cs) : segment.length ≤ cs.length := by
  obtain ⟨piece, hpiece, rfl⟩ := List.mem_map.1 h
  exact Nat.le_trans (isInfix_trim piece).length_le (length_le_of_mem_splitOnP hpiece)

theorem afterLead_eq_some_iff {lead cs rest : List Char} :
    afterLead lead cs = some rest ↔ cs = lead ++ rest := by
  induction lead generalizing cs with
  | nil => simp [afterLead, eq_comm]
  | cons l ls ih =>
    cases cs with
    | nil => simp [afterLead]
    | cons c cs => by_cases h : l = c <;> simp [afterLead, h, ih, eq_comm]

theorem hasPart_iff {part : List Char} : ∀ {cs : List Char},
    hasPart part cs = true ↔ part <:+: cs
  | [] => by rw [hasPart, List.isEmpty_iff, List.infix_nil]
  | c :: cs => by
    have hhere : (afterLead part (c :: cs)).isSome = true ↔ part <+: c :: cs := by
      rw [Option.isSome_iff_exists]
      simp only [afterLead_eq_some_iff, eq_comm (a := c :: cs)]
      rfl
    rw [hasPart, Bool.or_eq_true, hhere, hasPart_iff, List.infix_cons_iff]

/-- A word does not start in a text without its first character. -/
theorem infix_append_iff {c : Char} {word cs : List Char} : ∀ {front : List Char}, c ∉ front →
    (c :: word <:+: front ++ cs ↔ c :: word <:+: cs)
  | [], _ => Iff.rfl
  | d :: front, h => by
    have hstart : ¬ c :: word <+: d :: (front ++ cs) := fun hstart =>
      List.ne_of_not_mem_cons h (List.cons_prefix_cons.1 hstart).1
    rw [List.cons_append, List.infix_cons_iff, or_iff_right hstart,
      infix_append_iff (List.not_mem_of_not_mem_cons h)]

theorem eq_of_cutFirst {sep : Char} {cs front back : List Char}
    (h : cutFirst sep cs = some (front, back)) : cs = front ++ sep :: back := by
  induction cs generalizing front with
  | nil => simp [cutFirst] at h
  | cons c cs ih =>
    by_cases hc : c = sep
    · simp [cutFirst, hc] at h
      simp [hc, h]
    · simp only [cutFirst, hc, ↓reduceIte, Option.map_eq_some_iff, Prod.mk.injEq] at h
      obtain ⟨⟨f, b⟩, hf, rfl, rfl⟩ := h
      simp [ih hf]

theorem not_mem_of_cutFirst {sep : Char} {cs front back : List Char}
    (h : cutFirst sep cs = some (front, back)) : sep ∉ front := by
  induction cs generalizing front with
  | nil => simp [cutFirst] at h
  | cons c cs ih =>
    by_cases hc : c = sep
    · simp [cutFirst, hc] at h
      simp [h]
    · simp only [cutFirst, hc, ↓reduceIte, Option.map_eq_some_iff, Prod.mk.injEq] at h
      obtain ⟨⟨f, b⟩, hf, rfl, rfl⟩ := h
      simp [ih hf, Ne.symm hc]

theorem eq_of_cutLast {sep cs front back : List Char}
    (h : cutLast sep cs = some (front, back)) : cs = front ++ (sep ++ back) := by
  induction cs generalizing front with
  | nil => simp [cutLast] at h
  | cons c cs ih =>
    unfold cutLast at h
    split at h
    · next f b hf =>
      simp only [Option.some.injEq, Prod.mk.injEq] at h
      obtain ⟨rfl, rfl⟩ := h
      simp [ih hf]
    · simp only [Option.map_eq_some_iff, Prod.mk.injEq] at h
      obtain ⟨b, hb, rfl, rfl⟩ := h
      simpa using afterLead_eq_some_iff.1 hb

theorem cutFirst_append {sep : Char} (back : List Char) :
    ∀ {front : List Char}, sep ∉ front → cutFirst sep (front ++ sep :: back) = some (front, back)
  | [], _ => by simp [cutFirst]
  | c :: front, h => by
    obtain ⟨hc, hfront⟩ := not_or.1 fun hmem => h (List.mem_cons.2 hmem)
    rw [List.cons_append, cutFirst, if_neg (Ne.symm hc), cutFirst_append back hfront]
    rfl

theorem cutLast_eq_none_iff {sep : List Char} (hsep : sep ≠ []) :
    ∀ cs : List Char, cutLast sep cs = none ↔ ¬ sep <:+: cs
  | [] => by simp [cutLast, hsep]
  | c :: cs => by
    have hhere : afterLead sep (c :: cs) = none ↔ ¬ sep <+: c :: cs := by
      rw [Option.eq_none_iff_forall_ne_some]
      refine ⟨fun h ⟨rest, hrest⟩ => h rest (afterLead_eq_some_iff.2 hrest.symm),
        fun h rest hr => ?_⟩
      exact h ⟨rest, (afterLead_eq_some_iff.1 hr).symm⟩
    rw [List.infix_cons_iff, not_or, ← hhere, ← cutLast_eq_none_iff hsep cs, cutLast]
    rcases cutLast sep cs with _ | p <;> simp

theorem not_infix_of_cutLast {sep : List Char} (hsep : sep ≠ []) {cs front back : List Char}
    (h : cutLast sep cs = some (front, back)) : ¬ sep <:+: (sep ++ back).tail := by
  induction cs generalizing front with
  | nil => simp [cutLast] at h
  | cons c cs ih =>
    unfold cutLast at h
    split at h
    · next f b hf =>
      simp only [Option.some.injEq, Prod.mk.injEq] at h
      exact ih (h.2 ▸ hf)
    · next hnone =>
      simp only [Option.map_eq_some_iff, Prod.mk.injEq] at h
      obtain ⟨b, hb, -, rfl⟩ := h
      rw [← afterLead_eq_some_iff.1 hb]
      exact (cutLast_eq_none_iff hsep cs).1 hnone

theorem cutLast_append {sep : List Char} {back : List Char}
    (h : ¬ sep <:+: (sep ++ back).tail) :
    ∀ front : List Char, cutLast sep (front ++ (sep ++ back)) = some (front, back)
  | [] => by
    cases sep with
    | nil => exact absurd (List.nil_infix) h
    | cons s sep =>
      have hnone := (cutLast_eq_none_iff (List.cons_ne_nil s sep) _).2 h
      rw [List.cons_append, List.tail_cons] at hnone
      rw [List.nil_append, List.cons_append, cutLast, hnone]
      simp [afterLead_eq_some_iff]
  | c :: front => by
    rw [List.cons_append, cutLast, cutLast_append h front]

end BuildSession.Text
