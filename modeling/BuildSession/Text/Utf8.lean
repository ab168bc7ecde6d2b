/-!
# Texts as bytes

A text has bytes in UTF-8, and bytes have at most one text (`ofUtf8?_eq_some_iff`).
-/

namespace BuildSession.Text

def utf8 (cs : List Char) : List UInt8 :=
  cs.flatMap String.utf8EncodeChar

def ofUtf8? (bs : List UInt8) : Option (List Char) :=
  (String.fromUTF8? ⟨bs.toArray⟩).map String.toList

theorem toUTF8_ofList (cs : List Char) : (String.ofList cs).toUTF8.data.toList = utf8 cs := by
  rw [String.toUTF8, String.toByteArray_ofList, List.utf8Encode, List.toList_data_toByteArray]
  rfl

theorem ofUtf8?_eq_some_iff {bs : List UInt8} {cs : List Char} :
    ofUtf8? bs = some cs ↔ bs = utf8 cs := by
  have hsame : ∀ s : String, s.toByteArray = ⟨bs.toArray⟩ ↔ utf8 s.toList = bs := by
    intro s
    rw [← toUTF8_ofList, String.ofList_toList, String.toUTF8, ByteArray.ext_iff,
      ← Array.toList_inj]
  unfold ofUtf8? String.fromUTF8?
  constructor
  · intro h
    split at h
    · rw [Option.map_some, Option.some.injEq] at h
      rw [← h, (hsame _).1 rfl]
    · cases h
  · rintro rfl
    have hbytes : (String.ofList cs).toByteArray = ⟨(utf8 cs).toArray⟩ :=
      (hsame _).2 (by rw [String.toList_ofList])
    have hvalid : ByteArray.IsValidUTF8 ⟨(utf8 cs).toArray⟩ := hbytes ▸ String.isValidUTF8 _
    have hstring : String.fromUTF8 _ hvalid = String.ofList cs :=
      String.toByteArray_inj.1 hbytes.symm
    rw [dif_pos hvalid, hstring, Option.map_some, String.toList_ofList]

end BuildSession.Text
