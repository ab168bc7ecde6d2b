/-!
# Blank characters

`isBlank` is Unicode's `White_Space` property, and `trim` removes blank characters from both ends
of a text. Nothing blank is left at either end (`isBlank_head_trim`, `isBlank_last_trim`), and a
text without blank ends stays as it is (`trim_eq_self`). A text is thus trimmed to the one part of
it that has no blank ends and only blanks around it (`trim_eq_iff`).
-/

namespace BuildSession.Text

/-- Unicode's `White_Space` property. -/
def isBlank (c : Char) : Bool :=
  let n := c.toNat
  (9 ≤ n && n ≤ 13) || n == 0x20 || n == 0x85 || n == 0xA0 || n == 0x1680
    || (0x2000 ≤ n && n ≤ 0x200A) || n == 0x2028 || n == 0x2029 || n == 0x202F || n == 0x205F
    || n == 0x3000

def trimEnd (cs : List Char) : List Char :=
  (cs.reverse.dropWhile isBlank).reverse

/-- The text without the blank characters at its ends. -/
def trim (cs : List Char) : List Char :=
  trimEnd (cs.dropWhile isBlank)

theorem isBlank_eq_false_of_isDigit {c : Char} (h : c.isDigit = true) : isBlank c = false := by
  simp only [Char.isDigit, Bool.and_eq_true, decide_eq_true_eq, ge_iff_le,
    UInt32.le_iff_toNat_le] at h
  have hlow : 48 ≤ c.toNat := h.1
  have hhigh : c.toNat ≤ 57 := h.2
  simp only [isBlank, Bool.or_eq_false_iff, Bool.and_eq_false_iff, decide_eq_false_iff_not,
    beq_eq_false_iff_ne]
  omega

theorem trimEnd_eq_self {cs : List Char} (h : ∀ c ∈ cs.getLast?, isBlank c = false) :
    trimEnd cs = cs := by
  rcases List.eq_nil_or_concat cs with rfl | ⟨l, c, rfl⟩
  · rfl
  · have hc : isBlank c = false := h c (by simp)
    simp [trimEnd, hc]

theorem isBlank_head_dropWhile {cs : List Char} {c : Char}
    (h : c ∈ (cs.dropWhile isBlank).head?) : isBlank c = false := by
  have hd := List.head?_dropWhile_not isBlank cs
  rw [Option.mem_def.1 h] at hd
  exact hd

theorem trimEnd_prefix (cs : List Char) : trimEnd cs <+: cs := by
  have h := List.reverse_prefix.2 (List.dropWhile_suffix isBlank (l := cs.reverse))
  rwa [List.reverse_reverse] at h

theorem isInfix_trim (cs : List Char) : trim cs <:+: cs := by
  have hback := trimEnd_prefix (cs.dropWhile isBlank)
  exact hback.isInfix.trans (List.dropWhile_suffix isBlank).isInfix

theorem isBlank_last_trimEnd {cs : List Char} {c : Char} (h : c ∈ (trimEnd cs).getLast?) :
    isBlank c = false := by
  rw [trimEnd, List.getLast?_reverse] at h
  exact isBlank_head_dropWhile h

theorem isBlank_head_trim {cs : List Char} {c : Char} (h : c ∈ (trim cs).head?) :
    isBlank c = false := by
  obtain ⟨rest, hr⟩ := trimEnd_prefix (cs.dropWhile isBlank)
  have hc : c ∈ (cs.dropWhile isBlank).head? := by
    rw [trim] at h
    rw [← hr, List.head?_append, Option.mem_def.1 h]
    rfl
  exact isBlank_head_dropWhile hc

theorem isBlank_last_trim {cs : List Char} {c : Char} (h : c ∈ (trim cs).getLast?) :
    isBlank c = false :=
  isBlank_last_trimEnd h

/-- A text that neither starts nor ends blank has nothing to trim. -/
theorem trim_eq_self {cs : List Char} (hs : ∀ c ∈ cs.head?, isBlank c = false)
    (he : ∀ c ∈ cs.getLast?, isBlank c = false) : trim cs = cs := by
  cases cs with
  | nil => rfl
  | cons c cs =>
    have hc : isBlank c = false := hs c (by simp)
    rw [trim, List.dropWhile_cons_of_neg (by simp [hc]), trimEnd_eq_self he]

theorem trimEnd_append {cs back : List Char} (h : ∀ c ∈ back, isBlank c = true) :
    trimEnd (cs ++ back) = trimEnd cs := by
  have hreverse : ∀ c ∈ back.reverse, isBlank c = true := fun c hc => h c (List.mem_reverse.1 hc)
  rw [trimEnd, List.reverse_append, List.dropWhile_append_of_pos hreverse, trimEnd]

theorem exists_trimEnd_append (cs : List Char) :
    ∃ back, cs = trimEnd cs ++ back ∧ ∀ c ∈ back, isBlank c = true := by
  refine ⟨(cs.reverse.takeWhile isBlank).reverse, ?_, fun c hc => ?_⟩
  · rw [trimEnd, ← List.reverse_append, List.takeWhile_append_dropWhile, List.reverse_reverse]
  · exact List.all_eq_true.1 List.all_takeWhile c (List.mem_reverse.1 hc)

/-- The part of a text that has no blank ends and only blanks around it. -/
structure IsCore (cs core : List Char) : Prop where
  around : ∃ front back, cs = front ++ (core ++ back)
    ∧ (∀ c ∈ front, isBlank c = true) ∧ ∀ c ∈ back, isBlank c = true
  head : ∀ c ∈ core.head?, isBlank c = false
  last : ∀ c ∈ core.getLast?, isBlank c = false

theorem trim_eq_iff {cs core : List Char} : trim cs = core ↔ IsCore cs core := by
  constructor
  · rintro rfl
    refine ⟨?_, fun _ => isBlank_head_trim, fun _ => isBlank_last_trim⟩
    obtain ⟨back, hback, hblank⟩ := exists_trimEnd_append (cs.dropWhile isBlank)
    refine ⟨cs.takeWhile isBlank, back, ?_, List.all_eq_true.1 List.all_takeWhile, hblank⟩
    rw [trim, ← hback, List.takeWhile_append_dropWhile]
  · rintro ⟨⟨front, back, rfl, hfront, hback⟩, hhead, hlast⟩
    rw [trim, List.dropWhile_append_of_pos hfront]
    cases core with
    | nil =>
      have hnil : (back ++ []).dropWhile isBlank = [] := List.dropWhile_append_of_pos hback
      rw [List.append_nil] at hnil
      rw [List.nil_append, hnil]
      rfl
    | cons c core =>
      have hc : isBlank c = false := hhead c (by simp)
      rw [List.cons_append, List.dropWhile_cons_of_neg (by simp [hc]), ← List.cons_append,
        trimEnd_append hback, trimEnd_eq_self hlast]

end BuildSession.Text
