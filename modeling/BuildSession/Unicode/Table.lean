import BuildSession.Text.Hexadecimal

/-!
# Tables of code points

A `Table α` lists ranges of code points in ascending order, each with a value, and is searched by
halving. Tables are written as text: ranges as `41-5A` or `AA`, classes as `300-314=E6`, runs that
shift to other code points as `C0-D6>E0` (`100-12E/2>101` for every second one), and sequences as
`DF>73.73`, all numbers hexadecimal.
-/

namespace BuildSession.Unicode

structure TableRange (α : Type) where
  first : Nat
  last : Nat
  value : α

/-- Ranges of code points in ascending order, each with a value. -/
structure Table (α : Type) where
  ranges : Array (TableRange α)

/-- Every `step`-th code point of a range goes to one from `target` on, at the same distance. -/
structure Run where
  step : Nat
  target : Nat

namespace Table

variable {α : Type}

/-- The first of the ranges from `low` to below `high` that does not end before `n`. -/
def search (ranges : Array (TableRange α)) (n low high : Nat) : Option (TableRange α) :=
  if _h : low < high then
    let middle := (low + high) / 2
    match ranges[middle]? with
    | none => none
    | some r => if r.last < n then search ranges n (middle + 1) high
                else if n < r.first then search ranges n low middle
                else some r
  else none
termination_by high - low
decreasing_by all_goals omega

def range? (t : Table α) (n : Nat) : Option (TableRange α) :=
  search t.ranges n 0 t.ranges.size

def find? (t : Table α) (n : Nat) : Option α :=
  (t.range? n).map (·.value)

def contains (t : Table α) (n : Nat) : Bool :=
  (t.range? n).isSome

/-- The code point `n` is shifted to. -/
def shift? (t : Table Run) (n : Nat) : Option Nat :=
  match t.range? n with
  | some r =>
    let place := n - r.first
    if place % r.value.step = 0 then some (r.value.target + place) else none
  | none => none

/-- The number a token of a table stands for; a malformed one is zero. -/
def number (token : List Char) : Nat :=
  (Hexadecimal.read? token).getD 0

/-- The ends of a range written as `41-5A` or `AA`. -/
def ends (token : List Char) : Nat × Nat :=
  match token.splitOn '-' with
  | [a, b] => (number a, number b)
  | _ => (number token, number token)

/-- The table of a text whose tokens, between blanks, `entry` reads. -/
def ofTokens (text : String) (entry : List Char → Option (TableRange α)) : Table α :=
  let tokens := (text.toList.splitOnP Char.isWhitespace).filter (· ≠ [])
  ⟨(tokens.filterMap entry).toArray⟩

def ofRanges (text : String) : Table Unit :=
  ofTokens text fun token => some ⟨(ends token).1, (ends token).2, ()⟩

def ofClasses (text : String) : Table Nat :=
  ofTokens text fun token =>
    match token.splitOn '=' with
    | [range, cls] => some ⟨(ends range).1, (ends range).2, number cls⟩
    | _ => none

def ofRuns (text : String) : Table Run :=
  ofTokens text fun token =>
    match token.splitOn '>' with
    | [source, target] =>
      match source.splitOn '/' with
      | [range, step] => some ⟨(ends range).1, (ends range).2, ⟨number step, number target⟩⟩
      | _ => some ⟨(ends source).1, (ends source).2, ⟨1, number target⟩⟩
    | _ => none

def ofSequences (text : String) : Table (List Nat) :=
  ofTokens text fun token =>
    match token.splitOn '>' with
    | [source, target] => some ⟨number source, number source, (target.splitOn '.').map number⟩
    | _ => none

end Table

end BuildSession.Unicode
