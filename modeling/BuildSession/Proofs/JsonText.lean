import BuildSession.Json.Parser
import BuildSession.Json.Printer
import Mathlib.Tactic.SplitIfs

/-!
# Reading written objects

A written object whose members are strings or `null` has no control characters
(`le_of_mem_write_object`) and is read back with its members in key order
(`parse?_render_object`). It comes down to a single character inside a string, which stands for
itself or behind a backslash (`escapeChar_cases`), and to a single member, where the character
behind it decides whether another one follows.
-/

namespace BuildSession

namespace Json

theorem readUnit?_control {c : Char} (h : c.toNat < 32) (cs : List Char) :
    readUnit? ('0' :: '0' :: (Hexadecimal.writeByte c.toNat ++ cs)) = some (c.toNat, cs) := by
  have hread := Hexadecimal.read?_writeByte (n := c.toNat) (by omega)
  unfold Hexadecimal.writeByte at hread ⊢
  show (Hexadecimal.read? _).map (fun n => (n, cs)) = _
  rw [hread]
  rfl

theorem readEscape?_control {c : Char} (h : c.toNat < 32) (cs : List Char) :
    readEscape? ('u' :: '0' :: '0' :: (Hexadecimal.writeByte c.toNat ++ cs)) = some (c, cs) := by
  have hlow : ¬ (0xDC00 ≤ c.toNat ∧ c.toNat ≤ 0xDFFF) := by omega
  have hhigh : ¬ (0xD800 ≤ c.toNat ∧ c.toNat ≤ 0xDBFF) := by omega
  rw [readEscape?]
  simp only [readUnit?_control h, if_neg hlow, if_neg hhigh, Char.ofNat_toNat]

/-- A character stands for itself or is behind a backslash, never as a control character. -/
theorem escapeChar_cases (c : Char) :
    (escapeChar c = [c] ∧ c ≠ '"' ∧ c ≠ '\\' ∧ 32 ≤ c.toNat)
      ∨ ∃ e, escapeChar c = '\\' :: e ∧ (∀ x ∈ e, 32 ≤ x.toNat)
        ∧ ∀ cs, readEscape? (e ++ cs) = some (c, cs) := by
  unfold escapeChar
  split_ifs with hquote hback hb hf hn hr ht hlow
  · exact .inr ⟨['"'], rfl, by simp, fun _ => by rw [hquote]; rfl⟩
  · exact .inr ⟨['\\'], rfl, by simp, fun _ => by rw [hback]; rfl⟩
  · exact .inr ⟨['b'], rfl, by simp, fun _ => by rw [hb]; rfl⟩
  · exact .inr ⟨['f'], rfl, by simp, fun _ => by rw [hf]; rfl⟩
  · exact .inr ⟨['n'], rfl, by simp, fun _ => by rw [hn]; rfl⟩
  · exact .inr ⟨['r'], rfl, by simp, fun _ => by rw [hr]; rfl⟩
  · exact .inr ⟨['t'], rfl, by simp, fun _ => by rw [ht]; rfl⟩
  · refine .inr ⟨'u' :: '0' :: '0' :: Hexadecimal.writeByte c.toNat, rfl, ?_,
      readEscape?_control hlow⟩
    have hdigits := Hexadecimal.le_of_mem_writeByte (n := c.toNat) (by omega)
    simpa using hdigits
  · exact .inl ⟨rfl, hquote, hback, Nat.not_lt.1 hlow⟩

/-- Reading a written character gives the character. -/
theorem readChars?_escapeChar (n : Nat) (c : Char) (cs : List Char) :
    readChars? (n + 1) (escapeChar c ++ cs) = (readChars? n cs).map fun p => (c :: p.1, p.2) := by
  rcases escapeChar_cases c with ⟨heq, hquote, hback, hle⟩ | ⟨e, heq, -, hread⟩
  · have hlt : ¬ c.toNat < 32 := Nat.not_lt.2 hle
    rw [heq, List.singleton_append, readChars?, if_neg hquote, if_neg hback, if_neg hlt]
  · rw [heq, List.cons_append, readChars?, if_neg (by decide), if_pos rfl, hread cs]

theorem readChars?_write : ∀ (s cs : List Char) (n : Nat), s.length < n →
    readChars? n (s.flatMap escapeChar ++ '"' :: cs) = some (s, cs)
  | [], cs, n + 1, _ => by
    rw [List.flatMap_nil, List.nil_append, readChars?, if_pos rfl]
  | c :: s, cs, n + 1, h => by
    rw [List.flatMap_cons, List.append_assoc, readChars?_escapeChar,
      readChars?_write s cs n (Nat.lt_of_succ_lt_succ h)]
    rfl

theorem length_le_escaped : ∀ s : List Char, s.length ≤ (s.flatMap escapeChar).length
  | [] => Nat.le_refl 0
  | c :: s => by
    have hc : 0 < (escapeChar c).length := by
      rcases escapeChar_cases c with ⟨heq, -⟩ | ⟨e, heq, -⟩ <;> rw [heq] <;> exact Nat.succ_pos _
    have hs := length_le_escaped s
    simp only [List.flatMap_cons, List.length_cons, List.length_append]
    omega

theorem readString?_write (s : String) (cs : List Char) :
    readString? (s.toList.flatMap escapeChar ++ '"' :: cs) = some (s, cs) := by
  have hlength : s.toList.length < (s.toList.flatMap escapeChar ++ '"' :: cs).length + 1 := by
    have hs := length_le_escaped s.toList
    rw [List.length_append]
    omega
  rw [readString?, readChars?_write s.toList cs _ hlength, Option.map_some, String.ofList_toList]

/-- A string, or `null` in its place. -/
def IsOptionalText : Json → Prop
  | .null | .string _ => True
  | _ => False

theorem readValue?_write {j : Json} (h : j.IsOptionalText) (n depth : Nat) (cs : List Char) :
    readValue? (n + 1) depth (write j ++ cs) = some (j, cs) := by
  cases j with
  | null =>
    rw [write, readValue?]
    rfl
  | string s =>
    rw [write, writeString, readValue?]
    simp [skipBlanks, readString?_write]
  | _ => exact h.elim

theorem readValue?_brace (n depth : Nat) (cs : List Char) :
    readValue? (n + 1) (depth + 1) ('\x7b' :: '"' :: cs)
      = (readMembers? n depth ('"' :: cs)).map fun p => (.object (sortMembers p.1), p.2) := by
  rw [readValue?]
  rfl

theorem skipBlanks_cons {c : Char} (h : (c == ' ' || c == '\n' || c == '\t' || c == '\r') = false)
    (cs : List Char) : skipBlanks (c :: cs) = c :: cs :=
  List.dropWhile_cons_of_neg (by rw [h]; decide)

theorem writeMember_append (m : String × Json) (cs : List Char) : writeMember m ++ cs
    = '"' :: (m.1.toList.flatMap escapeChar ++ '"' :: ':' :: (write m.2 ++ cs)) := by
  simp only [writeMember, writeString, List.cons_append, List.append_assoc, List.nil_append]

/-- How the reading of members goes on behind the member `m`. -/
def readBehind? (m : String × Json) (n depth : Nat) (cs : List Char) :
    Option (List (String × Json) × List Char) :=
  match skipBlanks cs with
  | ',' :: rest => (readMembers? n depth rest).map fun p => (m :: p.1, p.2)
  | '\x7d' :: rest => some ([m], rest)
  | _ => none

theorem readMembers?_writeMember {m : String × Json} (h : m.2.IsOptionalText) (n depth : Nat)
    (cs : List Char) :
    readMembers? (n + 2) depth (writeMember m ++ cs) = readBehind? m (n + 1) depth cs := by
  rw [writeMember_append, readMembers?, skipBlanks_cons (by decide)]
  simp only [readString?_write]
  rw [skipBlanks_cons (by decide)]
  simp only [readValue?_write h]
  rfl

/-- A written row of members is read back, whatever stands behind its closing brace. Each member
takes a step, so the steps have to outnumber them. -/
theorem readMembers?_write : ∀ (m : String × Json) (ms : List (String × Json)) (n depth : Nat)
    (cs : List Char), (∀ x ∈ m :: ms, x.2.IsOptionalText) → ms.length + 1 < n →
    readMembers? n depth (writeMember m ++ (writeMembers ms ++ cs)) = some (m :: ms, cs)
  | m, [], n + 2, depth, cs, h, _ =>
    readMembers?_writeMember (h m List.mem_cons_self) n depth ('\x7d' :: cs)
  | m, m' :: ms, n + 2, depth, cs, h, hn => by
    obtain ⟨hm, hms⟩ := List.forall_mem_cons.1 h
    have hlength : ms.length + 1 < n + 1 := Nat.lt_of_succ_lt_succ hn
    have hrest := readMembers?_write m' ms (n + 1) depth cs hms hlength
    rw [writeMembers_cons, List.cons_append, readMembers?_writeMember hm, List.append_assoc,
      readBehind?, skipBlanks_cons (by decide)]
    exact congrArg (Option.map fun p => (m :: p.1, p.2)) hrest

theorem readValue?_write_object (m : String × Json) (ms : List (String × Json))
    (h : ∀ x ∈ m :: ms, x.2.IsOptionalText) {n : Nat} (hn : ms.length + 1 < n) (depth : Nat)
    (cs : List Char) : readValue? (n + 1) (depth + 1) (write (.object (m :: ms)) ++ cs)
      = some (.object (sortMembers (m :: ms)), cs) := by
  rw [write_object_cons, List.cons_append, List.append_assoc, writeMember_append,
    readValue?_brace, ← writeMember_append, readMembers?_write m ms n depth cs h hn]
  rfl

theorem length_lt_writeMembers : ∀ ms : List (String × Json), ms.length < (writeMembers ms).length
  | [] => Nat.zero_lt_one
  | m :: ms => by
    have hms := length_lt_writeMembers ms
    rw [writeMembers_cons, List.length_cons, List.length_cons, List.length_append]
    omega

/-- Objects of optional texts are read back as written, with their members in key order. -/
theorem parse?_render_object {ms : List (String × Json)} (h : ∀ x ∈ ms, x.2.IsOptionalText) :
    parse? (render (.object ms)) = some (.object (sortMembers ms)) := by
  rw [parse?, render, String.length_ofList, String.toList_ofList]
  rcases ms with _ | ⟨m, ms⟩
  · rfl
  · have hsteps : ms.length + 1 < 2 * (write (.object (m :: ms))).length + 1 := by
      have hms := length_lt_writeMembers ms
      rw [write_object_cons, List.length_cons, List.length_append]
      omega
    have hread := readValue?_write_object m ms h hsteps 126 []
    rw [List.append_nil] at hread
    rw [hread]
    rfl

theorem le_of_mem_writeString {s : String} {x : Char} (h : x ∈ writeString s) : 32 ≤ x.toNat := by
  rw [writeString, List.mem_cons, List.mem_append, List.mem_singleton, List.mem_flatMap] at h
  rcases h with rfl | ⟨c, -, hx⟩ | rfl
  · decide
  · rcases escapeChar_cases c with ⟨heq, -, -, hle⟩ | ⟨e, heq, hle, -⟩
    · rw [heq, List.mem_singleton] at hx
      exact hx ▸ hle
    · rw [heq] at hx
      rcases List.mem_cons.1 hx with rfl | hx
      · decide
      · exact hle x hx
  · decide

theorem le_of_mem_writeMember {m : String × Json} (h : m.2.IsOptionalText) {x : Char}
    (hx : x ∈ writeMember m) : 32 ≤ x.toNat := by
  obtain ⟨k, j⟩ := m
  rw [writeMember, List.mem_append, List.mem_cons] at hx
  rcases hx with hx | rfl | hx
  · exact le_of_mem_writeString hx
  · decide
  · cases j with
    | null =>
      have hnull : ∀ x ∈ ['n', 'u', 'l', 'l'], 32 ≤ x.toNat := by simp
      rw [write] at hx
      exact hnull x hx
    | string s =>
      rw [write] at hx
      exact le_of_mem_writeString hx
    | _ => exact h.elim

theorem le_of_mem_writeMembers {x : Char} : ∀ {ms : List (String × Json)},
    (∀ m ∈ ms, m.2.IsOptionalText) → x ∈ writeMembers ms → 32 ≤ x.toNat
  | [], _, hx => by
    obtain rfl := List.mem_singleton.1 hx
    decide
  | m :: ms, h, hx => by
    obtain ⟨hm, hms⟩ := List.forall_mem_cons.1 h
    rw [writeMembers_cons, List.mem_cons, List.mem_append] at hx
    rcases hx with rfl | hx | hx
    · decide
    · exact le_of_mem_writeMember hm hx
    · exact le_of_mem_writeMembers hms hx

/-- No text, whatever its characters, brings a control character into a written object. -/
theorem le_of_mem_write_object {ms : List (String × Json)} (h : ∀ x ∈ ms, x.2.IsOptionalText)
    {x : Char} (hx : x ∈ write (.object ms)) : 32 ≤ x.toNat := by
  rcases ms with _ | ⟨m, ms⟩
  · have hbraces : ∀ x ∈ ['\x7b', '\x7d'], 32 ≤ x.toNat := by simp
    rw [write] at hx
    exact hbraces x hx
  · obtain ⟨hm, hms⟩ := List.forall_mem_cons.1 h
    rw [write_object_cons, List.mem_cons, List.mem_append] at hx
    rcases hx with rfl | hx | hx
    · decide
    · exact le_of_mem_writeMember hm hx
    · exact le_of_mem_writeMembers hms hx

end Json

end BuildSession
