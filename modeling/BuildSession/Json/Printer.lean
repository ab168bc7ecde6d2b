import BuildSession.Json.Basic
import BuildSession.Text.Hexadecimal

/-!
# Writing JSON

The written form has no blanks and keeps the order of members. Inside strings only quotes,
backslashes and the characters below the blank are escaped, so a written value has no line breaks.
-/

namespace BuildSession.Json

def escapeChar (c : Char) : List Char :=
  if c = '"' then ['\\', '"']
  else if c = '\\' then ['\\', '\\']
  else if c = '\x08' then ['\\', 'b']
  else if c = '\x0c' then ['\\', 'f']
  else if c = '\n' then ['\\', 'n']
  else if c = '\r' then ['\\', 'r']
  else if c = '\t' then ['\\', 't']
  else if c.toNat < 32 then ['\\', 'u', '0', '0'] ++ Hexadecimal.writeByte c.toNat
  else [c]

def writeString (s : String) : List Char :=
  '"' :: (s.toList.flatMap escapeChar ++ ['"'])

def Number.write : Number → List Char
  | .integer (.ofNat n) => Nat.toDigits 10 n
  | .integer (.negSucc n) => '-' :: Nat.toDigits 10 (n + 1)
  | .written text => text.toList

mutual

def write : Json → List Char
  | .null => ['n', 'u', 'l', 'l']
  | .bool true => ['t', 'r', 'u', 'e']
  | .bool false => ['f', 'a', 'l', 's', 'e']
  | .number n => n.write
  | .string s => writeString s
  | .array [] => ['[', ']']
  | .array (j :: js) => '[' :: (write j ++ writeItems js)
  | .object [] => ['\x7b', '\x7d']
  | .object ((k, v) :: rest) => '\x7b' :: (writeString k ++ ':' :: (write v ++ writeMembers rest))

/-- The items of an array behind its first, and the closing bracket. -/
def writeItems : List Json → List Char
  | [] => [']']
  | j :: js => ',' :: (write j ++ writeItems js)

/-- The members of an object behind its first, and the closing brace. -/
def writeMembers : List (String × Json) → List Char
  | [] => ['\x7d']
  | (k, v) :: rest => ',' :: (writeString k ++ ':' :: (write v ++ writeMembers rest))

end

def writeMember (m : String × Json) : List Char :=
  writeString m.1 ++ ':' :: write m.2

theorem writeMembers_cons (m : String × Json) (ms : List (String × Json)) :
    writeMembers (m :: ms) = ',' :: (writeMember m ++ writeMembers ms) := by
  simp [writeMembers, writeMember]

theorem append_writeMembers : ∀ (m : String × Json) (ms : List (String × Json)),
    writeMember m ++ writeMembers ms = [','].intercalate ((m :: ms).map writeMember) ++ ['\x7d']
  | m, [] => by simp [writeMembers, List.intercalate]
  | m, m' :: ms => by
    rw [writeMembers_cons, append_writeMembers m' ms]
    simp [List.intercalate]

theorem write_object_cons (m : String × Json) (ms : List (String × Json)) :
    write (.object (m :: ms)) = '\x7b' :: (writeMember m ++ writeMembers ms) := by
  simp [write, writeMember]

/-- An object is written with its members in their order, between commas. -/
theorem write_object (ms : List (String × Json)) : write (.object ms) =
    '\x7b' :: ([','].intercalate (ms.map writeMember) ++ ['\x7d']) := by
  rcases ms with _ | ⟨m, ms⟩
  · rfl
  · rw [write_object_cons, append_writeMembers]

theorem infix_writeMembers {m : String × Json} : ∀ {ms : List (String × Json)}, m ∈ ms →
    writeMember m <:+: writeMembers ms
  | m' :: ms, h => by
    rw [writeMembers_cons]
    rcases List.mem_cons.1 h with rfl | h
    · exact ⟨[','], writeMembers ms, by simp⟩
    · exact (infix_writeMembers h).trans ⟨',' :: writeMember m', [], by simp⟩

theorem infix_write_object {m : String × Json} : ∀ {ms : List (String × Json)}, m ∈ ms →
    writeMember m <:+: write (.object ms)
  | m' :: ms, h => by
    rw [write_object_cons]
    rcases List.mem_cons.1 h with rfl | h
    · exact ⟨['\x7b'], writeMembers ms, by simp⟩
    · exact (infix_writeMembers h).trans ⟨'\x7b' :: writeMember m', [], by simp⟩

def render (j : Json) : String :=
  String.ofList (write j)

end BuildSession.Json
