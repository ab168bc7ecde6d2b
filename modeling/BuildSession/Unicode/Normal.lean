import BuildSession.Unicode.CombiningClass
import BuildSession.Unicode.Decomposition

/-!
# Normalization form C

`compose (decompose cs)` is the form in which canonically equal texts are equal and everything that
can be put together is. Hangul syllables are taken apart and put together by arithmetic, everything
else by table.
-/

namespace BuildSession.Unicode

/-- The parts of a Hangul syllable: leading consonant, vowel and possibly trailing consonant. -/
def hangulParts (n : Nat) : List Nat :=
  let index := n - 0xAC00
  let front := [0x1100 + index / 588, 0x1161 + index % 588 / 28]
  if index % 28 = 0 then front else front ++ [0x11A7 + index % 28]

/-- The full decomposition of a code point; no decomposition is nested deeper than `depth`. -/
def decomposeOne : (depth : Nat) → Nat → List Nat
  | 0, n => [n]
  | depth + 1, n =>
    if 0xAC00 ≤ n ∧ n ≤ 0xD7A3 then hangulParts n
    else
      match decompositions.find? n with
      | some parts => parts.flatMap (decomposeOne depth)
      | none => [n]

/-- Puts a mark in front of the first one that it may not be moved past from the right. -/
def insertMark (n : Nat) : List Nat → List Nat
  | [] => [n]
  | m :: ms =>
    if combiningClass n < combiningClass m then n :: m :: ms
    else m :: insertMark n ms

/-- Code points with each run of marks in ascending order of their classes; `run` is the run being
collected. -/
def orderMarks (run : List Nat) : List Nat → List Nat
  | [] => run
  | n :: ns =>
    if combiningClass n = 0 then run ++ n :: orderMarks [] ns
    else orderMarks (insertMark n run) ns

def decompose (ns : List Nat) : List Nat :=
  orderMarks [] (ns.flatMap (decomposeOne 8))

/-- The key of a pair of code points: no two pairs share one, as both are below `0x110000`. -/
def pairKey (a b : Nat) : Nat :=
  a * 0x110000 + b

/-- What a pair is put together to by table, by the key of the pair. -/
def compositions : Table Nat :=
  let entries := decompositions.ranges.toList.filterMap fun r =>
    match r.value with
    | [a, b] =>
      if compositionExclusions.contains r.first then none
      else some ⟨pairKey a b, pairKey a b, r.first⟩
    | _ => none
  ⟨(entries.mergeSort fun x y => x.first ≤ y.first).toArray⟩

def composePair? (a b : Nat) : Option Nat :=
  if 0x1100 ≤ a ∧ a < 0x1113 ∧ 0x1161 ≤ b ∧ b < 0x1176 then
    some (0xAC00 + ((a - 0x1100) * 21 + (b - 0x1161)) * 28)
  else if 0xAC00 ≤ a ∧ a ≤ 0xD7A3 ∧ (a - 0xAC00) % 28 = 0 ∧ 0x11A8 ≤ b ∧ b < 0x11C3 then
    some (a + (b - 0x11A7))
  else compositions.find? (pairKey a b)

/-- Composition under way: `starter` is the last code point of class zero, `marks` what follows it
in reverse, and `before` all that precedes it in reverse. -/
structure Composition where
  before : List Nat := []
  starter : Option Nat := none
  marks : List Nat := []

namespace Composition

/-- Takes one more code point of a decomposed text in. -/
def step (c : Composition) (n : Nat) : Composition :=
  let isOpen := match c.marks with
    | [] => true
    | m :: _ => combiningClass m ≠ 0 ∧ combiningClass m < combiningClass n
  match c.starter.bind fun s => if isOpen then composePair? s n else none with
  | some composed => { c with starter := some composed }
  | none =>
    if combiningClass n = 0 then
      { before := c.marks ++ c.starter.toList ++ c.before, starter := some n, marks := [] }
    else { c with marks := n :: c.marks }

def toList (c : Composition) : List Nat :=
  (c.marks ++ c.starter.toList ++ c.before).reverse

end Composition

def compose (ns : List Nat) : List Nat :=
  (ns.foldl Composition.step {}).toList

def normalize (ns : List Nat) : List Nat :=
  compose (decompose ns)

end BuildSession.Unicode
