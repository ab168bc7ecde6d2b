import BuildSession.Text.Cut

/-!
# Capital and small letters

Making letters small changes the twenty-six capitals and nothing else (`toLower_cases`), so what
treats each capital like its small letter cannot tell a text from the text in small letters
(`apply_toLower`). Cuts at other characters than letters are the same in both.
-/

namespace BuildSession.Text

variable {p : Char → Bool} {sep : Char} {word cs : List Char}

/-- What holds of all characters below a code point is checked one by one. -/
theorem of_toNat_lt {P : Char → Prop} {bound : Nat} (h : ∀ n < bound, P (Char.ofNat n)) {c : Char}
    (hc : c.toNat < bound) : P c := by
  have hofNat := h c.toNat hc
  rwa [Char.ofNat_toNat] at hofNat

theorem toLower_cases (c : Char) :
    c.toLower = c ∨ ∃ n < 26, c = Char.ofNat (65 + n) ∧ c.toLower = Char.ofNat (97 + n) := by
  by_cases hcapital : 65 ≤ c.toNat ∧ c.toNat ≤ 90
  · have hsmall : ∀ n < 26, (Char.ofNat (65 + n)).toLower = Char.ofNat (97 + n) := by decide
    have hc : Char.ofNat (65 + (c.toNat - 65)) = c := by
      rw [Nat.add_sub_cancel' hcapital.1, Char.ofNat_toNat]
    have hlow := hsmall (c.toNat - 65) (by omega)
    rw [hc] at hlow
    exact .inr ⟨c.toNat - 65, by omega, hc.symm, hlow⟩
  · exact .inl (dif_neg hcapital)

/-- What is the same of each small letter and its capital is the same in small letters. -/
theorem apply_toLower {β : Type} {f : Char → β}
    (h : ∀ n < 26, f (Char.ofNat (97 + n)) = f (Char.ofNat (65 + n))) (c : Char) :
    f c.toLower = f c := by
  rcases toLower_cases c with hc | ⟨n, hn, hc, hlow⟩
  · rw [hc]
  · rw [hlow, hc, h n hn]

/-- The property does not tell capital letters from small ones. -/
def IgnoresCase (p : Char → Bool) : Prop :=
  ∀ c : Char, p c.toLower = p c

theorem IgnoresCase.of_letters
    (h : ∀ n < 26, p (Char.ofNat (97 + n)) = p (Char.ofNat (65 + n))) : IgnoresCase p :=
  apply_toLower h

theorem IgnoresCase.not (hp : IgnoresCase p) : IgnoresCase fun c => !p c :=
  fun c => congrArg (! ·) (hp c)

theorem toLower_toLower (c : Char) : c.toLower.toLower = c.toLower :=
  apply_toLower (by decide) c

theorem ignoresCase_isAlpha : IgnoresCase Char.isAlpha :=
  .of_letters (by decide)

theorem ignoresCase_isDigit : IgnoresCase Char.isDigit :=
  .of_letters (by decide)

theorem toLower_of_isDigit {c : Char} (h : c.isDigit = true) : c.toLower = c := by
  have hletters : ∀ n < 26, (Char.ofNat (65 + n)).isDigit = false := by decide
  rcases toLower_cases c with hc | ⟨n, hn, rfl, -⟩
  · exact hc
  · rw [hletters n hn] at h
    cases h

theorem toLower_eq_iff (hsep : sep.isAlpha = false) {c : Char} : c.toLower = sep ↔ c = sep := by
  rcases toLower_cases c with hc | ⟨n, hn, hc, hlow⟩
  · rw [hc]
  · have hletters : ∀ n < 26,
        (Char.ofNat (65 + n)).isAlpha = true ∧ (Char.ofNat (97 + n)).isAlpha = true := by decide
    obtain ⟨hcapital, hsmall⟩ := hletters n hn
    constructor
    · intro h
      rw [hlow] at h
      exact absurd (h ▸ hsmall) (by simp [hsep])
    · intro h
      rw [hc] at h
      exact absurd (h ▸ hcapital) (by simp [hsep])

theorem map_toLower_eq_some_iff (hsep : sep.isAlpha = false) {o : Option Char} :
    o.map Char.toLower = some sep ↔ o = some sep := by
  rcases o with _ | c
  · simp
  · rw [Option.map_some, Option.some.injEq, Option.some.injEq, toLower_eq_iff hsep]

/-! ## Texts in small letters -/

theorem lower_cons (c : Char) (cs : List Char) : lower (c :: cs) = c.toLower :: lower cs :=
  rfl

theorem lower_append (cs ds : List Char) : lower (cs ++ ds) = lower cs ++ lower ds :=
  List.map_append

theorem lower_lower (cs : List Char) : lower (lower cs) = lower cs := by
  simp only [lower, List.map_map, Function.comp_def, toLower_toLower]

theorem lower_eq_nil_iff : lower cs = [] ↔ cs = [] :=
  List.map_eq_nil_iff

theorem isEmpty_lower (cs : List Char) : (lower cs).isEmpty = cs.isEmpty :=
  List.isEmpty_map

theorem lower_eq_self (h : ∀ c ∈ cs, c.toLower = c) : lower cs = cs := by
  rw [lower, List.map_congr_left h, List.map_id']

theorem contains_lower (hsep : sep.isAlpha = false) (cs : List Char) :
    (lower cs).contains sep = cs.contains sep := by
  rw [Bool.eq_iff_iff, List.contains_iff_mem, List.contains_iff_mem, lower, List.mem_map]
  simp only [toLower_eq_iff hsep, exists_eq_right]

section

variable (hp : IgnoresCase p)

include hp

theorem all_lower (cs : List Char) : (lower cs).all p = cs.all p := by
  simp only [lower, List.all_map, Function.comp_def, hp _]

theorem any_lower (cs : List Char) : (lower cs).any p = cs.any p := by
  simp only [lower, List.any_map, Function.comp_def, hp _]

theorem any_head?_lower (cs : List Char) : (lower cs).head?.any p = cs.head?.any p := by
  rcases cs with _ | ⟨c, cs⟩
  · rfl
  · exact hp c

theorem filter_lower (cs : List Char) : (lower cs).filter p = lower (cs.filter p) := by
  simp only [lower, List.filter_map, Function.comp_def, hp _]

theorem takeWhile_lower (cs : List Char) : (lower cs).takeWhile p = lower (cs.takeWhile p) := by
  simp only [lower, List.takeWhile_map, Function.comp_def, hp _]

theorem dropWhile_lower (cs : List Char) : (lower cs).dropWhile p = lower (cs.dropWhile p) := by
  simp only [lower, List.dropWhile_map, Function.comp_def, hp _]

theorem splitOnP_lower : ∀ cs : List Char, (lower cs).splitOnP p = (cs.splitOnP p).map lower
  | [] => rfl
  | c :: cs => by
    rw [lower_cons, List.splitOnP_cons_eq_if_modifyHead, hp, splitOnP_lower cs,
      List.splitOnP_cons_eq_if_modifyHead]
    split
    · rfl
    · rcases cs.splitOnP p with _ | ⟨first, later⟩ <;> rfl

end

theorem splitOn_lower (hsep : sep.isAlpha = false) (cs : List Char) :
    (lower cs).splitOn sep = (cs.splitOn sep).map lower := by
  have hsame : IgnoresCase (· == sep) := fun c => by
    rw [Bool.eq_iff_iff, beq_iff_eq, beq_iff_eq, toLower_eq_iff hsep]
  exact splitOnP_lower hsame cs

theorem cutFirst_lower (hsep : sep.isAlpha = false) : ∀ cs : List Char,
    cutFirst sep (lower cs) = (cutFirst sep cs).map (Prod.map lower lower)
  | [] => rfl
  | c :: cs => by
    rw [lower_cons, cutFirst, cutFirst, cutFirst_lower hsep cs]
    simp only [toLower_eq_iff hsep]
    split
    · rfl
    · rw [Option.map_map, Option.map_map]
      rfl

/-- A lead without letters is found in small letters where it was found before. -/
theorem afterLead_lower : ∀ {lead : List Char}, lead.all (!·.isAlpha) = true → ∀ cs : List Char,
    afterLead lead (lower cs) = (afterLead lead cs).map lower
  | [], _, cs => rfl
  | l :: lead, _, [] => rfl
  | l :: lead, hlead, c :: cs => by
    rw [List.all_cons, Bool.and_eq_true, Bool.not_eq_true'] at hlead
    rw [lower_cons, afterLead, afterLead, afterLead_lower hlead.2 cs]
    simp only [eq_comm (a := l), toLower_eq_iff hlead.1]
    split <;> rfl

theorem cutLast_lower (hword : word.all (!·.isAlpha) = true) : ∀ cs : List Char,
    cutLast word (lower cs) = (cutLast word cs).map (Prod.map lower lower)
  | [] => rfl
  | c :: cs => by
    rw [lower_cons, cutLast, cutLast, cutLast_lower hword cs, ← lower_cons,
      afterLead_lower hword (c :: cs)]
    rcases cutLast word cs with _ | ⟨front, back⟩
    · rcases afterLead word (c :: cs) with _ | back <;> rfl
    · rfl

end BuildSession.Text
