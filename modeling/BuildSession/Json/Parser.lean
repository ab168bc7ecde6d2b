import BuildSession.Json.Printer
import BuildSession.Text.Cut
import BuildSession.Text.Decimal

/-!
# Reading JSON

`Json.parse?` reads a whole text as one value. Objects come out with their members in key order,
of several members of one name the last. Values nested deeper than 127 levels, numbers that no
64-bit floating-point number comes near and escapes that stand for half a character are refused.
The step count that bounds the recursion is the length of the text, which no reading exhausts,
since every step takes a character.
-/

namespace BuildSession.Json

def skipBlanks (cs : List Char) : List Char :=
  cs.dropWhile fun c => c == ' ' || c == '\n' || c == '\t' || c == '\r'

/-- The 16-bit unit of the four hexadecimal digits that the text starts with. -/
def readUnit? : List Char → Option (Nat × List Char)
  | a :: b :: c :: d :: rest => (Hexadecimal.read? [a, b, c, d]).map fun n => (n, rest)
  | _ => none

/-- The character of an escape, from the text behind its backslash. -/
def readEscape? : List Char → Option (Char × List Char)
  | '"' :: rest => some ('"', rest)
  | '\\' :: rest => some ('\\', rest)
  | '/' :: rest => some ('/', rest)
  | 'b' :: rest => some ('\x08', rest)
  | 'f' :: rest => some ('\x0c', rest)
  | 'n' :: rest => some ('\n', rest)
  | 'r' :: rest => some ('\r', rest)
  | 't' :: rest => some ('\t', rest)
  | 'u' :: rest =>
    match readUnit? rest with
    | none => none
    | some (unit, rest) =>
      if 0xDC00 ≤ unit ∧ unit ≤ 0xDFFF then none
      else if 0xD800 ≤ unit ∧ unit ≤ 0xDBFF then
        match rest with
        | '\\' :: 'u' :: rest =>
          match readUnit? rest with
          | none => none
          | some (low, rest) =>
            if 0xDC00 ≤ low ∧ low ≤ 0xDFFF then
              some (Char.ofNat (0x10000 + (unit - 0xD800) * 0x400 + (low - 0xDC00)), rest)
            else none
        | _ => none
      else some (Char.ofNat unit, rest)
  | _ => none

/-- The characters of a string up to its closing quote. -/
def readChars? : Nat → List Char → Option (List Char × List Char)
  | 0, _ => none
  | _, [] => none
  | n + 1, c :: cs =>
    if c = '"' then some ([], cs)
    else if c = '\\' then
      match readEscape? cs with
      | none => none
      | some (e, rest) => (readChars? n rest).map fun p => (e :: p.1, p.2)
    else if c.toNat < 32 then none
    else (readChars? n cs).map fun p => (c :: p.1, p.2)

/-- The string behind an opening quote. -/
def readString? (cs : List Char) : Option (String × List Char) :=
  (readChars? (cs.length + 1) cs).map fun p => (String.ofList p.1, p.2)

/-- The digits at the start of a text and the text behind them. -/
def spanDigits (cs : List Char) : List Char × List Char :=
  (cs.takeWhile Char.isDigit, cs.dropWhile Char.isDigit)

/-- The fraction a number may have. -/
def readFraction? : List Char → Option (List Char × List Char)
  | '.' :: rest =>
    match spanDigits rest with
    | ([], _) => none
    | (digits, rest) => some (digits, rest)
  | rest => some ([], rest)

/-- The exponent a number may have. -/
def readExponent? : List Char → Option (Option Int × List Char)
  | c :: rest =>
    if c = 'e' ∨ c = 'E' then
      let (negative, rest) := match rest with
        | '-' :: rest => (true, rest)
        | '+' :: rest => (false, rest)
        | rest => (false, rest)
      match spanDigits rest with
      | ([], _) => none
      | (digits, rest) =>
        let n : Int := (Decimal.extend 0 digits : Nat)
        some (some (if negative then -n else n), rest)
    else some (none, c :: rest)
  | [] => some (none, [])

/-- Half a unit above the largest 64-bit floating-point number. -/
def numberLimit : Nat := 0x3FFFFFFFFFFFFF <<< 970

/-- Whether `mantissa` times the power of ten reaches the limit. A number below one does not, and
one with more than 400 digits in front of its point does, whatever the digits. -/
def isTooLarge (mantissa : Nat) (exponent : Int) : Bool :=
  let size := ((Nat.toDigits 10 mantissa).length : Int) + exponent
  if mantissa = 0 ∨ size ≤ 0 then false
  else if 400 < size then true
  else numberLimit * Nat.pow 10 (-exponent).toNat ≤ mantissa * Nat.pow 10 exponent.toNat

/-- The number that a text starts with, its sign already taken. -/
def readNumber? (negative : Bool) (cs : List Char) : Option (Json.Number × List Char) :=
  match spanDigits cs with
  | ([], _) => none
  | (digits, rest) =>
    if digits.length ≠ 1 ∧ digits.head? = some '0' then none
    else
      match readFraction? rest with
      | none => none
      | some (fraction, rest) =>
        match readExponent? rest with
        | none => none
        | some (exponent, behind) =>
          let n := Decimal.extend 0 digits
          let text := (if negative then ['-'] else []) ++ cs.take (cs.length - behind.length)
          let plain := fraction = [] ∧ exponent = none
          if plain ∧ negative = false ∧ n < UInt64.size then some (.integer n, behind)
          else if plain ∧ negative = true ∧ 0 < n ∧ n ≤ 0x8000000000000000 then
            some (.integer (-(n : Int)), behind)
          else if isTooLarge (Decimal.extend 0 (digits ++ fraction))
              (exponent.getD 0 - (fraction.length : Int)) then none
          else some (.written (String.ofList text), behind)

mutual

/-- The value that a text starts with, at most `depth` levels deep. -/
def readValue? : Nat → Nat → List Char → Option (Json × List Char)
  | 0, _, _ => none
  | steps + 1, depth, cs =>
    match skipBlanks cs with
    | [] => none
    | c :: rest =>
      if c = 'n' then (Text.afterLead ['u', 'l', 'l'] rest).map fun r => (.null, r)
      else if c = 't' then (Text.afterLead ['r', 'u', 'e'] rest).map fun r => (.bool true, r)
      else if c = 'f' then (Text.afterLead ['a', 'l', 's', 'e'] rest).map fun r => (.bool false, r)
      else if c = '"' then (readString? rest).map fun p => (.string p.1, p.2)
      else if c = '-' then (readNumber? true rest).map fun p => (.number p.1, p.2)
      else if c.isDigit then (readNumber? false (c :: rest)).map fun p => (.number p.1, p.2)
      else if c = '[' then
        match depth with
        | 0 => none
        | depth + 1 =>
          match skipBlanks rest with
          | ']' :: rest => some (.array [], rest)
          | rest => (readItems? steps depth rest).map fun p => (.array p.1, p.2)
      else if c = '\x7b' then
        match depth with
        | 0 => none
        | depth + 1 =>
          match skipBlanks rest with
          | '\x7d' :: rest => some (.object [], rest)
          | rest => (readMembers? steps depth rest).map fun p => (.object (sortMembers p.1), p.2)
      else none

/-- The items of an array up to its closing bracket. -/
def readItems? : Nat → Nat → List Char → Option (List Json × List Char)
  | 0, _, _ => none
  | steps + 1, depth, cs =>
    match readValue? steps depth cs with
    | none => none
    | some (j, rest) =>
      match skipBlanks rest with
      | ',' :: rest => (readItems? steps depth rest).map fun p => (j :: p.1, p.2)
      | ']' :: rest => some ([j], rest)
      | _ => none

/-- The members of an object up to its closing brace. -/
def readMembers? : Nat → Nat → List Char → Option (List (String × Json) × List Char)
  | 0, _, _ => none
  | steps + 1, depth, cs =>
    match skipBlanks cs with
    | '"' :: rest =>
      match readString? rest with
      | none => none
      | some (k, rest) =>
        match skipBlanks rest with
        | ':' :: rest =>
          match readValue? steps depth rest with
          | none => none
          | some (v, rest) =>
            match skipBlanks rest with
            | ',' :: rest => (readMembers? steps depth rest).map fun p => ((k, v) :: p.1, p.2)
            | '\x7d' :: rest => some ([(k, v)], rest)
            | _ => none
        | _ => none
    | _ => none

end

/-- The value that a whole text stands for. -/
def parse? (text : String) : Option Json :=
  match readValue? (2 * text.length + 2) 127 text.toList with
  | some (j, rest) => if skipBlanks rest = [] then some j else none
  | none => none

end BuildSession.Json
