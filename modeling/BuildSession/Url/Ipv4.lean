import BuildSession.Text.Decimal
import BuildSession.Text.Hexadecimal

/-!
# Numeric hosts

A host whose last label is a number is an IPv4 address: up to four numbers, decimal, octal with a
leading `0` or hexadecimal with a leading `0x`, of which the last fills all the bytes that are
left. A dot at the end does not count.
-/

namespace BuildSession.Ipv4

/-- The digit of a numeral in base eight, ten or sixteen. -/
def digit? (base : Nat) (c : Char) : Option Nat :=
  (Hexadecimal.digit? c).filter (· < base)

/-- The number that a run of digits stands for; no digits stand for zero. -/
def digits? (base : Nat) (cs : List Char) : Option Nat :=
  cs.foldlM (fun n c => (digit? base c).map (base * n + ·)) 0

def number? : List Char → Option Nat
  | [] => none
  | '0' :: 'x' :: cs | '0' :: 'X' :: cs => digits? 16 cs
  | '0' :: c :: cs => digits? 8 (c :: cs)
  | cs => digits? 10 cs

/-- The labels of a host, one empty label at the end left out. -/
def labels (host : List Char) : List (List Char) :=
  let parts := host.splitOn '.'
  if parts.getLast? = some [] then parts.dropLast else parts

/-- Whether the last label is a number, so that the host can only be an address. -/
def endsInNumber (host : List Char) : Bool :=
  match (labels host).getLast? with
  | some last => !last.isEmpty && (last.all Char.isDigit || (number? last).isSome)
  | none => false

def address? (host : List Char) : Option Nat :=
  match (labels host).mapM number? with
  | none => none
  | some numbers =>
    match numbers.getLast? with
    | none => none
    | some last =>
      let front := numbers.dropLast
      let room := Nat.pow 256 (4 - front.length)
      if front.length ≤ 3 ∧ last < room ∧ front.all (· < 256) then
        some (front.foldl (fun a n => 256 * a + n) 0 * room + last)
      else none

/-- The four bytes of an address in decimal. -/
def text (address : Nat) : List Char :=
  List.intercalate ['.'] <|
    [16777216, 65536, 256, 1].map fun unit => Decimal.write (address / unit % 256)

end BuildSession.Ipv4
