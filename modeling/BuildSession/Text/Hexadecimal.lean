/-!
# Hexadecimal numerals

Writing uses the digits `0` to `f` in lower case; reading takes both cases. A byte written behind
two zeros is read back (`read?_writeByte`).
-/

namespace BuildSession.Hexadecimal

/-- The value of a digit of either case. -/
def digit? (c : Char) : Option Nat :=
  let n := c.toNat
  if 48 ≤ n ∧ n ≤ 57 then some (n - 48)
  else if 97 ≤ n ∧ n ≤ 102 then some (n - 87)
  else if 65 ≤ n ∧ n ≤ 70 then some (n - 55)
  else none

/-- The digits of a number, without leading zeros. -/
def write (n : Nat) : List Char :=
  Nat.toDigits 16 n

/-- The number a non-empty run of digits stands for. -/
def read? (cs : List Char) : Option Nat :=
  if cs = [] then none
  else cs.foldlM (fun n c => (digit? c).map (16 * n + ·)) 0

def writeByte (n : Nat) : List Char :=
  [Nat.digitChar (n / 16), Nat.digitChar (n % 16)]

theorem digit?_digitChar : ∀ n < 16, digit? (Nat.digitChar n) = some n := by
  decide

theorem le_of_mem_writeByte {n : Nat} (h : n < 256) : ∀ x ∈ writeByte n, 32 ≤ x.toNat := by
  have hdigit : ∀ n < 16, 32 ≤ (Nat.digitChar n).toNat := by decide
  simp [writeByte, hdigit (n / 16) (by omega), hdigit (n % 16) (by omega)]

theorem read?_writeByte {n : Nat} (h : n < 256) : read? ('0' :: '0' :: writeByte n) = some n := by
  have hhigh := digit?_digitChar (n / 16) (by omega)
  have hlow := digit?_digitChar (n % 16) (by omega)
  have hzero : digit? '0' = some 0 := by decide
  have hvalue : 16 * (n / 16) + n % 16 = n := Nat.div_add_mod n 16
  simp [read?, writeByte, hzero, hhigh, hlow, hvalue]

end BuildSession.Hexadecimal
