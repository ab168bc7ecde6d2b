/-!
# Wildcard patterns

In a wildcard pattern `*` stands for any text on one line and every other character for one that
counts as the same. `Wildcard.covers` works from the end of the pattern: for each rest of the
pattern it knows which rests of the text are covered, so many stars cost no search. What it comes
to can be told from the front of the pattern: a star covers nothing more or one character and goes
on (`covers_star_cons`), a letter covers one (`covers_letter_cons`).
-/

namespace BuildSession.Wildcard

variable (same : Char → Char → Bool)

/-- Coverage of each rest of a text by a pattern, from that of the pattern behind its star. -/
def starRow : List Char → List Bool → List Bool
  | c :: cs, b :: row =>
    let rest := starRow cs row
    (b || (c != '\n' && rest.headD false)) :: rest
  | _, row => row

/-- Coverage of each rest of a text by a pattern, from that of the pattern behind its letter `p`. -/
def letterRow (p : Char) : List Char → List Bool → List Bool
  | c :: cs, _ :: row => (same p c && row.headD false) :: letterRow p cs row
  | _, _ => [false]

/-- Coverage of each rest of a text, the whole text first, by the empty pattern. -/
def emptyRow : List Char → List Bool
  | [] => [true]
  | _ :: cs => false :: emptyRow cs

/-- Coverage of each rest of the text, the whole text first. -/
def row : List Char → List Char → List Bool
  | [], cs => emptyRow cs
  | p :: ps, cs => if p = '*' then starRow cs (row ps cs) else letterRow same p cs (row ps cs)

/-- Whether the pattern covers the whole text. -/
def covers (pattern cs : List Char) : Bool :=
  (row same pattern cs).headD false

/-- A row starts with the coverage of the whole text and goes on with the row of its rest. -/
theorem row_cons (ps : List Char) (c : Char) (cs : List Char) :
    row same ps (c :: cs) = covers same ps (c :: cs) :: row same ps cs := by
  have hcons : ∀ qs,
      row same qs (c :: cs) = (row same qs (c :: cs)).headD false :: row same qs cs := by
    intro qs
    induction qs with
    | nil => rfl
    | cons q qs ih =>
      rw [row]
      split
      · next hq => rw [ih]; simp [starRow, row, hq]
      · next hq => rw [ih]; simp [letterRow, row, hq]
  exact hcons ps

theorem covers_nil (cs : List Char) : covers same [] cs = cs.isEmpty := by
  cases cs <;> rfl

theorem covers_star_nil (ps : List Char) : covers same ('*' :: ps) [] = covers same ps [] := by
  simp [covers, row, starRow]

theorem covers_star_cons (ps : List Char) (c : Char) (cs : List Char) :
    covers same ('*' :: ps) (c :: cs)
      = (covers same ps (c :: cs) || (c != '\n' && covers same ('*' :: ps) cs)) := by
  rw [covers, row, if_pos rfl, row_cons]
  simp [starRow, covers, row]

theorem covers_letter_nil {p : Char} (ps : List Char) (hp : p ≠ '*') :
    covers same (p :: ps) [] = false := by
  simp [covers, row, hp, letterRow]

theorem covers_letter_cons {p : Char} (ps : List Char) (c : Char) (cs : List Char) (hp : p ≠ '*') :
    covers same (p :: ps) (c :: cs) = (same p c && covers same ps cs) := by
  rw [covers, row, if_neg hp, row_cons]
  simp [letterRow, covers]

end BuildSession.Wildcard
