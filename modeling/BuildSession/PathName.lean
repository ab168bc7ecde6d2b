import BuildSession.Shown
import BuildSession.Text.Utf8

/-!
# Paths

The name of a file is a run of bytes. Most such runs are texts (`text?_eq_some_iff`), but none has
to be, so what can be said of a path does not depend on it: `pieces` finds the characters among
its bytes, and the bytes between them, that make up no character, show as one replacement character
or as numerals. Of a path that is a text there is nothing between the characters
(`pieces_ofText`).
-/

namespace BuildSession

structure PathName where
  bytes : List UInt8
  deriving DecidableEq

namespace PathName

def ofText (s : String) : PathName :=
  ⟨Text.utf8 s.toList⟩

/-- The text that a path is; without one its bytes are not UTF-8. -/
def text? (p : PathName) : Option String :=
  (Text.ofUtf8? p.bytes).map String.ofList

theorem text?_eq_some_iff {p : PathName} {s : String} : p.text? = some s ↔ p = ofText s := by
  rw [text?, Option.map_eq_some_iff]
  constructor
  · rintro ⟨cs, hcs, rfl⟩
    rw [ofText, String.toList_ofList, ← Text.ofUtf8?_eq_some_iff.1 hcs]
  · rintro rfl
    exact ⟨s.toList, Text.ofUtf8?_eq_some_iff.2 rfl, String.ofList_toList⟩

theorem text?_ofText (s : String) : (ofText s).text? = some s :=
  text?_eq_some_iff.2 rfl

/-- A part of a path: a character, or bytes from which none can be made. -/
inductive Piece where
  | char (c : Char)
  | broken (bytes : List UInt8)
  deriving DecidableEq

/-- The bounds of the bytes that may follow a byte in the same character. -/
def boundsBehind (b : UInt8) : List (UInt8 × UInt8) :=
  let tail := (0x80, 0xBF)
  if b < 0xC2 ∨ 0xF4 < b then []
  else if b < 0xE0 then [tail]
  else if b = 0xE0 then [(0xA0, 0xBF), tail]
  else if b = 0xED then [(0x80, 0x9F), tail]
  else if b < 0xF0 then [tail, tail]
  else if b = 0xF0 then [(0x90, 0xBF), tail, tail]
  else if b = 0xF4 then [(0x80, 0x8F), tail, tail]
  else [tail, tail, tail]

/-- How many bytes from the front are within the bounds, one by one. -/
def countWithin : List (UInt8 × UInt8) → List UInt8 → Nat
  | (low, high) :: bounds, b :: bs => if low ≤ b ∧ b ≤ high then countWithin bounds bs + 1 else 0
  | _, _ => 0

/-- The parts of a run of bytes whose first `n` belong to a part already told. Bytes that could
have started a character are broken together. -/
def pieces : Nat → List UInt8 → List Piece
  | _, [] => []
  | n + 1, _ :: bs => pieces n bs
  | 0, b :: bs =>
    match (b :: bs).toByteArray.utf8DecodeChar? 0 with
    | some c => .char c :: pieces (c.utf8Size - 1) bs
    | none =>
      let n := countWithin (boundsBehind b) bs
      .broken (b :: bs.take n) :: pieces n bs

theorem pieces_append : ∀ as bs : List UInt8, pieces as.length (as ++ bs) = pieces 0 bs
  | [], _ => rfl
  | _ :: as, bs => pieces_append as bs

theorem pieces_utf8EncodeChar (c : Char) (bs : List UInt8) :
    pieces 0 (String.utf8EncodeChar c ++ bs) = .char c :: pieces 0 bs := by
  have hdecode : (String.utf8EncodeChar c ++ bs).toByteArray.utf8DecodeChar? 0 = some c := by
    rw [List.toByteArray_append, ByteArray.utf8DecodeChar?_utf8EncodeChar_append]
  have hsize := String.length_utf8EncodeChar c
  rcases hchar : String.utf8EncodeChar c with _ | ⟨a, as⟩
  · rw [hchar] at hsize
    exact absurd hsize.symm (Nat.ne_of_gt c.utf8Size_pos)
  · rw [hchar] at hdecode hsize
    have hskip : c.utf8Size - 1 = as.length := by rw [← hsize, List.length_cons, Nat.add_sub_cancel]
    rw [List.cons_append] at hdecode ⊢
    rw [pieces, hdecode]
    simp only [hskip, pieces_append]

theorem pieces_ofText (s : String) : pieces 0 (ofText s).bytes = s.toList.map .char := by
  rw [ofText, Text.utf8]
  induction s.toList with
  | nil => rfl
  | cons c cs ih => rw [List.flatMap_cons, pieces_utf8EncodeChar, ih, List.map_cons]

def display (p : PathName) : String :=
  String.ofList ((pieces 0 p.bytes).map fun
    | .char c => c
    | .broken _ => '\ufffd')

theorem display_ofText (s : String) : (ofText s).display = s := by
  rw [display, pieces_ofText, List.map_map, Function.comp_def, List.map_id', String.ofList_toList]

/-- A part of a path inside a quoted text; broken bytes are numerals of two digits. -/
def Piece.quote : Piece → List Char
  | .char c => Text.quoteChar c
  | .broken bytes =>
    bytes.flatMap fun b => '\\' :: 'x' :: (Hexadecimal.writeByte b.toNat).map Char.toUpper

def shown (p : PathName) : Shown :=
  .plain (String.ofList ('"' :: (pieces 0 p.bytes).flatMap Piece.quote ++ ['"']))

theorem text_shown_ofText (s : String) : (ofText s).shown.text = (Shown.quoted s).text := by
  rw [shown, pieces_ofText, List.flatMap_map]
  rfl

/-- Bytes that are no characters do not hide the characters around them. -/
example : (PathName.mk [0x61, 0xE2, 0x82, 0x62]).display = "a\ufffdb"
    ∧ (PathName.mk [0x61, 0xE2, 0x82, 0x62]).shown.text = "\"a\\xE2\\x82b\"" := by
  decide

end PathName

end BuildSession
