import BuildSession.Text.Cut
import BuildSession.Text.Decimal
import BuildSession.Text.Hexadecimal

/-!
# IPv6 addresses

An address has eight pieces of 16 bits. A text may leave out one run of zero pieces as `::` and
give the last two pieces as four decimal bytes; it is written in small hexadecimal digits, its
longest run of at least two zero pieces left out.
-/

namespace BuildSession.Ipv6

/-- The piece of one to four hexadecimal digits. -/
def piece? (cs : List Char) : Option Nat :=
  if cs.length ≤ 4 then Hexadecimal.read? cs else none

/-- A decimal byte, without leading zeros. -/
def byte? (cs : List Char) : Option Nat :=
  if cs.length ≤ 3 ∧ (cs.length = 1 ∨ cs.head? ≠ some '0') then
    (Decimal.read? cs).filter (· < 256)
  else none

/-- The two pieces of four decimal bytes. -/
def dotted? (cs : List Char) : Option (List Nat) :=
  match (cs.splitOn '.').mapM byte? with
  | some [a, b, c, d] => some [256 * a + b, 256 * c + d]
  | _ => none

/-- The pieces between colons; the last group may be four decimal bytes if `mayEndDotted`. -/
def groups? (mayEndDotted : Bool) : List (List Char) → Option (List Nat)
  | [] => some []
  | [last] =>
    match piece? last with
    | some n => some [n]
    | none => if mayEndDotted then dotted? last else none
  | g :: gs =>
    match piece? g with
    | some n => (groups? mayEndDotted gs).map (n :: ·)
    | none => none

/-- The pieces of a possibly empty text between colons. -/
def pieces? (mayEndDotted : Bool) (cs : List Char) : Option (List Nat) :=
  if cs = [] then some [] else groups? mayEndDotted (cs.splitOn ':')

/-- The texts before and after the first `::`. -/
def cutGap : List Char → Option (List Char × List Char)
  | ':' :: ':' :: rest => some ([], rest)
  | c :: rest => (cutGap rest).map fun p => (c :: p.1, p.2)
  | [] => none

/-- The eight pieces of an address. -/
def address? (cs : List Char) : Option (List Nat) :=
  match cutGap cs with
  | none =>
    match pieces? true cs with
    | some pieces => if pieces.length = 8 then some pieces else none
    | none => none
  | some (front, back) =>
    match pieces? false front, pieces? true back with
    | some before, some after =>
      if before.length + after.length ≤ 7 then
        some (before ++ List.replicate (8 - before.length - after.length) 0 ++ after)
      else none
    | _, _ => none

/-- The number of zero pieces at the start. -/
def zeros (pieces : List Nat) : Nat :=
  (pieces.takeWhile (· == 0)).length

/-- Start and length of the first longest run of zero pieces, from the pieces at `start` on. -/
def longestZeros : (start : Nat) → List Nat → Nat × Nat
  | start, [] => (start, 0)
  | start, p :: ps =>
    let later := longestZeros (start + 1) ps
    let here := zeros (p :: ps)
    if later.2 ≤ here then (start, here) else later

/-- Pieces in hexadecimal between colons. -/
def joined (pieces : List Nat) : List Char :=
  List.intercalate [':'] (pieces.map Hexadecimal.write)

/-- The address in its shortest form. -/
def text (pieces : List Nat) : List Char :=
  let (start, length) := longestZeros 0 pieces
  if length < 2 then joined pieces
  else joined (pieces.take start) ++ ':' :: ':' :: joined (pieces.drop (start + length))

end BuildSession.Ipv6
