/-!
# Punycode

Labels beyond ASCII are written as their ASCII characters, a hyphen, and digits that say where the
other code points stand (RFC 3492). `Punycode.decode?` reads that form and `Punycode.encode` writes
it.
-/

namespace BuildSession.Punycode

/-- The value of a digit: the letters are 0 to 25, the digits 26 to 35. -/
def digitValue? (c : Char) : Option Nat :=
  let n := c.toNat
  if 97 ≤ n ∧ n ≤ 122 then some (n - 97)
  else if 65 ≤ n ∧ n ≤ 90 then some (n - 65)
  else if 48 ≤ n ∧ n ≤ 57 then some (n - 22)
  else none

def digit (value : Nat) : Char :=
  Char.ofNat (if value < 26 then value + 97 else value + 22)

/-- Adaptation, for deltas that remain large: the bias counts the divisions by 35. -/
def adaptLoop (k delta : Nat) : Nat × Nat :=
  if 455 < delta then adaptLoop (k + 36) (delta / 35) else (k, delta)
termination_by delta
decreasing_by omega

/-- The bias after a delta, among so many code points. -/
def adapt (delta count : Nat) (isFirst : Bool) : Nat :=
  let delta := if isFirst then delta / 700 else delta / 2
  let (k, delta) := adaptLoop 0 (delta + delta / count)
  k + 36 * delta / (delta + 38)

/-- Where the digit at position `k` ends a number. -/
def threshold (k bias : Nat) : Nat :=
  min 26 (max 1 (k - bias))

/-- The number that the digits stand for, added to `i`, and the digits behind it. -/
def readDelta? (bias : Nat) : (k i weight : Nat) → List Char → Option (Nat × List Char)
  | _, _, _, [] => none
  | k, i, weight, c :: cs =>
    match digitValue? c with
    | none => none
    | some value =>
      let i := i + value * weight
      let t := threshold k bias
      if value < t then some (i, cs) else readDelta? bias (k + 36) i (weight * (36 - t)) cs

/-- Inserts the code points that the digits describe; each number takes at least one digit, so
`steps` is enough when it is at least the number of digits. -/
def insertAll? : (steps n i bias : Nat) → List Char → List Nat → Option (List Nat)
  | _, _, _, _, [], output => some output
  | 0, _, _, _, _ :: _, _ => none
  | steps + 1, n, i, bias, digits, output =>
    match readDelta? bias 36 i 1 digits with
    | none => none
    | some (next, rest) =>
      let count := output.length + 1
      let n := n + next / count
      let place := next % count
      if 0x10FFFF < n ∨ (0xD800 ≤ n ∧ n ≤ 0xDFFF) then none
      else insertAll? steps n (place + 1) (adapt (next - i) count (i = 0)) rest
        (output.take place ++ n :: output.drop place)

/-- The code points of a label behind its `xn--`. A hyphen without a character before it is no
separator, and no digit either. -/
def decode? (cs : List Char) : Option (List Nat) :=
  let behind := (cs.reverse.takeWhile (· != '-')).reverse
  let front := cs.take (cs.length - behind.length)
  let plain := front.dropLast.map Char.toNat
  if front ≠ ['-'] ∧ plain.all (· < 128) then insertAll? (behind.length + 1) 128 0 72 behind plain
  else none

/-- The digits of a number. -/
def writeDelta (bias k q : Nat) : List Char :=
  let t := threshold k bias
  if q < t then [digit q]
  else digit (t + (q - t) % (36 - t)) :: writeDelta bias (k + 36) ((q - t) / (36 - t))
termination_by q
decreasing_by
  have ht : 1 ≤ threshold k bias := by unfold threshold; omega
  exact Nat.lt_of_le_of_lt (Nat.div_le_self _ _) (by omega)

structure Writing where
  delta : Nat
  bias : Nat
  handled : Nat
  output : List Char

/-- Writes the places of the code point `n` in the label. -/
def writePlaces (plain n : Nat) (w : Writing) (label : List Nat) : Writing :=
  label.foldl (fun w c =>
    if c < n then { w with delta := w.delta + 1 }
    else if c = n then
      { delta := 0
        bias := adapt w.delta (w.handled + 1) (w.handled = plain)
        handled := w.handled + 1
        output := w.output ++ writeDelta w.bias 36 w.delta }
    else w) w

/-- Writes the places of all code points from `n` on; each round writes at least one. -/
def writeAll (label : List Nat) (plain : Nat) : (rounds n : Nat) → Writing → Writing
  | 0, _, w => w
  | rounds + 1, n, w =>
    match (label.filter (n ≤ ·)).min? with
    | none => w
    | some m =>
      let w := { w with delta := w.delta + (m - n) * (w.handled + 1) }
      let w := writePlaces plain m w label
      writeAll label plain rounds (m + 1) { w with delta := w.delta + 1 }

def encode (label : List Nat) : List Char :=
  let plain := label.filter (· < 128)
  let front := if plain.isEmpty then [] else plain.map Char.ofNat ++ ['-']
  front ++ (writeAll label plain.length label.length 128 ⟨0, 72, plain.length, []⟩).output

end BuildSession.Punycode
