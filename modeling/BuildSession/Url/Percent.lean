import BuildSession.Text.Hexadecimal

/-!
# Percent-encoding in hosts

`Percent.decode?` replaces each `%` with two hexadecimal digits behind it by the byte of that
number and reads the bytes as UTF-8. `Percent.encodeControls` writes controls and all characters
beyond ASCII as such triples.
-/

namespace BuildSession.Percent

/-- The bytes with their percent triples replaced. A `%` without two digits behind it stays. -/
def decodeBytes : List UInt8 → List UInt8
  | [] => []
  | [b] => [b]
  | [a, b] => [a, b]
  | p :: a :: b :: rest =>
    if p = 37 then
      match Hexadecimal.digit? (Char.ofNat a.toNat), Hexadecimal.digit? (Char.ofNat b.toNat) with
      | some high, some low => UInt8.ofNat (16 * high + low) :: decodeBytes rest
      | _, _ => p :: decodeBytes (a :: b :: rest)
    else p :: decodeBytes (a :: b :: rest)

/-- The text with its percent triples replaced, if the bytes are UTF-8. A text without `%` is
itself. -/
def decode? (cs : List Char) : Option (List Char) :=
  if cs.contains '%' then
    let bytes := decodeBytes (String.ofList cs).toUTF8.data.toList
    (String.fromUTF8? ⟨bytes.toArray⟩).map String.toList
  else some cs

/-- A byte as a percent triple. -/
def triple (b : UInt8) : List Char :=
  '%' :: (Hexadecimal.writeByte b.toNat).map Char.toUpper

/-- The text with controls and characters beyond ASCII as percent triples. -/
def encodeControls (cs : List Char) : List Char :=
  cs.flatMap fun c =>
    if 32 ≤ c.toNat ∧ c.toNat ≤ 126 then [c]
    else (String.singleton c).toUTF8.data.toList.flatMap triple

end BuildSession.Percent
