import BuildSession.Policy.Update
import BuildSession.Recorded
import Mathlib.Data.Nat.Digits.Defs

/-!
# The texts of update policies

Which policy a text stands for is said by the form of its core, the part between blank ends
(`Says`): a digit run counts by its value, however many zeros it starts with (`IsNumeral`). Reading
finds exactly these forms (`ofTrimmed?_eq_some_iff`). The text of a policy has no blank ends and
stands for the policy again (`parse_text`); for an interval this comes to reading back the digits of
a number (`minutes?_write`). So the text of a policy is the canonical one of its forms
(`parse_finds_forms`).
-/

namespace BuildSession

namespace Decimal

/-- A non-empty run of digits with its value. -/
structure IsNumeral (digits : List Char) (n : Nat) : Prop where
  nonempty : digits ≠ []
  isDigit : ∀ c ∈ digits, c.isDigit = true
  value : Nat.ofDigits 10 (digits.map digitValue).reverse = n

theorem extend_eq_ofDigits : ∀ (cs : List Char) (n : Nat),
    extend n cs = Nat.ofDigits 10 (cs.map digitValue).reverse + 10 ^ cs.length * n
  | [], n => by simp [extend]
  | c :: cs, n => by
    have hrest := extend_eq_ofDigits cs (10 * n + digitValue c)
    rw [extend] at hrest ⊢
    rw [List.foldl_cons, hrest, List.map_cons, List.reverse_cons, Nat.ofDigits_append,
      Nat.ofDigits_singleton, List.length_reverse, List.length_map, List.length_cons]
    ring

theorem read?_eq_some_iff {cs : List Char} {n : Nat} : read? cs = some n ↔ IsNumeral cs n := by
  have hvalue : extend 0 cs = Nat.ofDigits 10 (cs.map digitValue).reverse := by
    rw [extend_eq_ofDigits, Nat.mul_zero, Nat.add_zero]
  unfold read?
  rw [hvalue]
  constructor
  · intro h
    split at h
    · next hdigits => exact ⟨hdigits.1, List.all_eq_true.1 hdigits.2, Option.some.inj h⟩
    · cases h
  · rintro ⟨hne, hdigits, rfl⟩
    exact if_pos ⟨hne, List.all_eq_true.2 hdigits⟩

end Decimal

namespace UpdatePolicy

open Decimal (IsNumeral)

/-- What a text without blank ends says: one of three words, or an interval with an optional plus
sign and a number of minutes in 32 bits. -/
inductive Says : List Char → UpdatePolicy → Prop
  | never : Says "never".toList never
  | always : Says "always".toList always
  | daily : Says "daily".toList daily
  | interval {sign digits : List Char} {n : Nat} (hsign : sign = [] ∨ sign = ['+'])
      (hdigits : IsNumeral digits n) (hn : n < 2 ^ 32) :
      Says ("interval:".toList ++ (sign ++ digits)) (interval (.ofNatLT n hn))

/-! ## Minutes -/

/-- A text without the plus sign in front of it. -/
def unsigned : List Char → List Char
  | '+' :: rest => rest
  | cs => cs

variable {cs digits : List Char} {p : UpdatePolicy}

theorem exists_sign (cs : List Char) :
    ∃ sign, (sign = [] ∨ sign = ['+']) ∧ cs = sign ++ unsigned cs := by
  unfold unsigned
  split
  · exact ⟨['+'], .inr rfl, rfl⟩
  · exact ⟨[], .inl rfl, rfl⟩

theorem unsigned_append {sign : List Char} {n : Nat} (hsign : sign = [] ∨ sign = ['+'])
    (hdigits : IsNumeral digits n) : unsigned (sign ++ digits) = digits := by
  rcases hsign with rfl | rfl
  · rw [List.nil_append]
    unfold unsigned
    split
    · exact absurd (hdigits.isDigit '+' List.mem_cons_self) (by decide)
    · rfl
  · rfl

/-- Minutes are a numeral, with a plus sign or not, that fits 32 bits. -/
theorem minutes?_eq (cs : List Char) : minutes? cs = (Decimal.read? (unsigned cs)).bind fun n =>
    if n < UInt32.size then some (UInt32.ofNat n) else none := by
  unfold minutes?
  split
  · next rest =>
    have hrest : unsigned ('+' :: rest) = rest := rfl
    rw [hrest]
    dsimp only
    rcases Decimal.read? rest with _ | n <;> rfl
  · next hplain =>
    have hcs : unsigned cs = cs := by
      unfold unsigned
      split
      · next rest => exact absurd rfl (hplain rest)
      · rfl
    rw [hcs]
    dsimp only
    rcases Decimal.read? cs with _ | n <;> rfl

theorem minutes?_eq_some_iff {minutes : UInt32} :
    minutes? cs = some minutes ↔ IsNumeral (unsigned cs) minutes.toNat := by
  rw [minutes?_eq, Option.bind_eq_some_iff, ← Decimal.read?_eq_some_iff]
  constructor
  · rintro ⟨n, hread, h⟩
    split at h
    · next hn =>
      have hvalue : (UInt32.ofNat n).toNat = n := UInt32.toNat_ofNat_of_lt hn
      rw [← Option.some.inj h, hvalue, hread]
    · cases h
  · intro hread
    exact ⟨minutes.toNat, hread, by rw [if_pos minutes.toNat_lt, UInt32.ofNat_toNat]⟩

theorem isNumeral_write (n : Nat) : IsNumeral (Decimal.write n) n :=
  Decimal.read?_eq_some_iff.1 (Decimal.read?_write n)

theorem minutes?_write (minutes : UInt32) :
    minutes? (Decimal.write minutes.toNat) = some minutes := by
  have hdigits := isNumeral_write minutes.toNat
  rw [minutes?_eq_some_iff]
  rwa [← unsigned_append (.inl rfl) hdigits] at hdigits

/-! ## Texts without blank ends -/

theorem ofTrimmed?_interval (digits : List Char) :
    ofTrimmed? ("interval:".toList ++ digits) = (minutes? digits).map .interval := by
  have hnever : "interval:".toList ++ digits ≠ "never".toList := by simp
  have halways : "interval:".toList ++ digits ≠ "always".toList := by simp
  have hdaily : "interval:".toList ++ digits ≠ "daily".toList := by simp
  have hlead : Text.afterLead "interval:".toList ("interval:".toList ++ digits) = some digits :=
    Text.afterLead_eq_some_iff.2 rfl
  rw [ofTrimmed?, if_neg hnever, if_neg halways, if_neg hdaily, hlead]

theorem ofTrimmed?_of_says (h : Says cs p) : ofTrimmed? cs = some p := by
  cases h with
  | never => rfl
  | always => rfl
  | daily => rfl
  | @interval sign digits n hsign hdigits hn =>
    have hminutes : minutes? (sign ++ digits) = some (.ofNatLT n hn) := by
      rwa [minutes?_eq_some_iff, unsigned_append hsign hdigits, UInt32.toNat_ofNatLT]
    rw [ofTrimmed?_interval, hminutes]
    rfl

theorem says_of_ofTrimmed? (h : ofTrimmed? cs = some p) : Says cs p := by
  unfold ofTrimmed? at h
  split_ifs at h with hnever halways hdaily
  · cases h
    exact hnever ▸ .never
  · cases h
    exact halways ▸ .always
  · cases h
    exact hdaily ▸ .daily
  split at h
  · next behind hlead =>
    obtain ⟨minutes, hminutes, rfl⟩ := Option.map_eq_some_iff.1 h
    obtain ⟨sign, hsign, hbehind⟩ := exists_sign behind
    have hnumeral := minutes?_eq_some_iff.1 hminutes
    rw [Text.afterLead_eq_some_iff.1 hlead, hbehind]
    have hsays := Says.interval hsign hnumeral minutes.toNat_lt
    rwa [UInt32.ofNatLT_toNat] at hsays
  · cases h

theorem ofTrimmed?_eq_some_iff : ofTrimmed? cs = some p ↔ Says cs p :=
  ⟨says_of_ofTrimmed?, ofTrimmed?_of_says⟩

/-! ## Whole texts -/

theorem parse_eq_ok_iff (s : String) :
    parse s = .ok p ↔ ∃ core, Text.IsCore s.toList core ∧ Says core p := by
  have hcore : (∃ core, Text.IsCore s.toList core ∧ Says core p)
      ↔ Says (Text.trim s.toList) p := by
    simp only [← Text.trim_eq_iff, exists_eq_left']
  rw [hcore, ← ofTrimmed?_eq_some_iff, parse]
  rcases ofTrimmed? (Text.trim s.toList) with _ | q <;> simp

theorem parse_eq_error_iff (s : String) (e : InvalidUpdatePolicy) :
    parse s = .error e ↔ (∀ p, parse s ≠ .ok p) ∧ e = ⟨s⟩ := by
  rw [parse]
  rcases ofTrimmed? (Text.trim s.toList) with _ | q <;> simp [eq_comm]

theorem toList_text_interval (minutes : UInt32) : (interval minutes).text.toList
    = "interval:".toList ++ Decimal.write minutes.toNat := by
  rw [text, String.toList_append]
  exact congrArg _ String.toList_ofList

theorem trim_interval {digits : List Char} (hne : digits ≠ [])
    (hdigits : ∀ c ∈ digits, c.isDigit = true) :
    Text.trim ("interval:".toList ++ digits) = "interval:".toList ++ digits := by
  refine Text.trim_eq_self (fun c hc => ?_) fun c hc => ?_
  · obtain rfl : 'i' = c := by simpa using hc
    decide
  · rw [List.getLast?_append, List.getLast?_eq_some_getLast hne, Option.some_or] at hc
    obtain rfl : digits.getLast hne = c := Option.some.inj hc
    exact Text.isBlank_eq_false_of_isDigit (hdigits _ (List.getLast_mem hne))

theorem parse_text (p : UpdatePolicy) : parse p.text = .ok p := by
  cases p with
  | never => rfl
  | always => rfl
  | daily => rfl
  | interval minutes =>
    have htrim := trim_interval (Decimal.write_ne_nil minutes.toNat)
      fun _ => Decimal.isDigit_of_mem_write
    rw [parse, toList_text_interval, htrim, ofTrimmed?_interval, minutes?_write]
    rfl

/-- A text stands for a policy exactly if its core has one of the forms, and otherwise the error
keeps the text with its blank ends. The text of every policy stands for that policy, so a text that
is read has a canonical form, which stands for the same policy and is its own canonical form. -/
theorem parse_finds_forms (s : String) :
    (∀ p, parse s = .ok p ↔ ∃ core, Text.IsCore s.toList core ∧ Says core p)
      ∧ (∀ e, parse s = .error e ↔
        (∀ core p, Text.IsCore s.toList core → ¬ Says core p) ∧ e = ⟨s⟩)
      ∧ (∀ p : UpdatePolicy, parse p.text = .ok p)
      ∧ ∀ canonical, (parse s).map text = .ok canonical →
        parse canonical = parse s ∧ (parse canonical).map text = .ok canonical := by
  refine ⟨fun p => parse_eq_ok_iff s, fun e => ?_, parse_text, fun canonical h => ?_⟩
  · rw [parse_eq_error_iff]
    refine and_congr_left fun _ => ?_
    simp only [ne_eq, parse_eq_ok_iff, not_exists, not_and]
    exact forall_comm
  · obtain ⟨p, hp, rfl⟩ := Except.map_eq_ok_iff.1 h
    rw [parse_text, hp]
    exact ⟨rfl, rfl⟩

-- Zeros in front do not count against the 32 bits; a number beyond them does.
example : parse "\u2003interval:+0000000000007\n" = .ok (.interval 7) := rfl

example : parse "interval:4294967296 " = .error ⟨"interval:4294967296 "⟩ := rfl

end UpdatePolicy

end BuildSession
