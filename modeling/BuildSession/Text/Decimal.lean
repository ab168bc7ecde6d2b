/-!
# Decimal numerals

`Decimal.write` gives the digits of a number without leading zeros, and `Decimal.read?` takes a
non-empty run of the digits `0` to `9`, leading zeros allowed. What is written is read back
(`read?_write`).
-/

namespace BuildSession.Decimal

def digitValue (c : Char) : Nat :=
  c.toNat - 48

/-- The number whose digits are read behind the digits of `n`. -/
def extend (n : Nat) (cs : List Char) : Nat :=
  cs.foldl (fun n c => 10 * n + digitValue c) n

/-- The number a non-empty run of digits stands for. -/
def read? (cs : List Char) : Option Nat :=
  if cs ≠ [] ∧ cs.all Char.isDigit then some (extend 0 cs) else none

def write (n : Nat) : List Char :=
  Nat.toDigits 10 n

/-- The digits of a number with leading zeros up to the given width. -/
def writePadded (width n : Nat) : List Char :=
  let digits := write n
  List.replicate (width - digits.length) '0' ++ digits

theorem isDigit_of_mem_write {n : Nat} {c : Char} (h : c ∈ write n) : c.isDigit = true :=
  Nat.isDigit_of_mem_toDigits (by decide) (by decide) h

theorem write_ne_nil (n : Nat) : write n ≠ [] :=
  Nat.toDigits_ne_nil

theorem read?_write (n : Nat) : read? (write n) = some n := by
  have hdigits : write n ≠ [] ∧ (write n).all Char.isDigit = true :=
    ⟨write_ne_nil n, List.all_eq_true.2 fun c hc => isDigit_of_mem_write hc⟩
  have hvalue : extend 0 (write n) = n :=
    Nat.ofDigitChars_toDigits (b := 10) (by decide) (by decide)
  rw [read?, if_pos hdigits, hvalue]

end BuildSession.Decimal
