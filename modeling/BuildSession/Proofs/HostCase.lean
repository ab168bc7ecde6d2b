import BuildSession.Proofs.LetterCase
import BuildSession.Text.Utf8
import BuildSession.Url.Basic
import Mathlib.Data.List.Basic
import Mathlib.Tactic.SplitIfs

/-!
# Hosts do not depend on letter case

A host that is written in capital letters is read as the same host as in small letters, whether it
is a domain name, possibly with percent triples and characters beyond ASCII, or a numeric address
(`Host.ofWeb?_lower`). Triples may stand for capital letters too, so the texts without them only
agree in small letters (`Percent.decode?_lower`); the form of a domain name has no others.
-/

namespace BuildSession

open Text (IgnoresCase lower lower_lower apply_toLower utf8 ofUtf8?)

/-! ## Percent triples -/

namespace Percent

/-- The byte of the small letter for that of a capital. -/
def lowerByte (b : UInt8) : UInt8 :=
  if 65 ≤ b ∧ b ≤ 90 then b + 32 else b

theorem lowerByte_of_le {b : UInt8} (h : 128 ≤ b) : lowerByte b = b := by
  refine if_neg fun hcapital => ?_
  exact absurd (UInt8.le_trans h hcapital.2) (by decide)

/-- What is the same of the byte of each small letter and that of its capital is the same in small
letters. -/
theorem apply_lowerByte {β : Type} {f : UInt8 → β}
    (h : ∀ n < 26, f (UInt8.ofNat (97 + n)) = f (UInt8.ofNat (65 + n))) (b : UInt8) :
    f (lowerByte b) = f b := by
  by_cases hcapital : 65 ≤ b ∧ b ≤ 90
  · have hsmall : ∀ n < 26, UInt8.ofNat (65 + n) + 32 = UInt8.ofNat (97 + n) := by decide
    have hlow : 65 ≤ b.toNat := hcapital.1
    have hhigh : b.toNat ≤ 90 := hcapital.2
    have hn : b.toNat - 65 < 26 := by omega
    have hb : UInt8.ofNat (65 + (b.toNat - 65)) = b := by
      rw [Nat.add_sub_cancel' hlow, UInt8.ofNat_toNat]
    rw [lowerByte, if_pos hcapital, ← hb, hsmall _ hn, h _ hn]
  · rw [lowerByte, if_neg hcapital]

theorem lowerByte_lowerByte (b : UInt8) : lowerByte (lowerByte b) = lowerByte b :=
  apply_lowerByte (by decide) b

theorem lowerByte_lt_iff {b : UInt8} : lowerByte b < 128 ↔ b < 128 := by
  have hlt := apply_lowerByte (f := fun b => decide (b < 128)) (by decide) b
  exact decide_eq_decide.1 hlt

theorem le_of_mem_utf8EncodeChar {c : Char} (hc : 128 ≤ c.toNat) :
    ∀ b ∈ String.utf8EncodeChar c, 128 ≤ b := by
  have hlong : ¬ c.val.toNat ≤ 127 := fun h => absurd (Nat.le_trans hc h) (by decide)
  unfold String.utf8EncodeChar
  simp only [hlong, if_false]
  split_ifs <;> simp [UInt8.le_iff_toNat_le] <;> omega

theorem map_lowerByte_of_le {bs : List UInt8} (h : ∀ b ∈ bs, 128 ≤ b) : bs.map lowerByte = bs := by
  rw [List.map_congr_left fun b hb => lowerByte_of_le (h b hb), List.map_id']

theorem utf8EncodeChar_toLower (c : Char) :
    String.utf8EncodeChar c.toLower = (String.utf8EncodeChar c).map lowerByte := by
  rcases Nat.lt_or_ge c.toNat 128 with hc | hc
  · exact Text.of_toNat_lt (P := fun c => String.utf8EncodeChar c.toLower
      = (String.utf8EncodeChar c).map lowerByte) (by decide) hc
  · have hsmall : c.toLower = c := by
      refine dif_neg fun hcapital => ?_
      exact absurd (Nat.le_trans hc hcapital.2) (by decide)
    rw [hsmall, map_lowerByte_of_le (le_of_mem_utf8EncodeChar hc)]

theorem utf8_lower (cs : List Char) : utf8 (lower cs) = (utf8 cs).map lowerByte := by
  simp only [utf8, lower, List.flatMap_map, List.map_flatMap, utf8EncodeChar_toLower]

/-- Bytes that are those of a character in small letters are those of some character. -/
theorem exists_utf8EncodeChar {bs : List UInt8} {c : Char}
    (h : bs.map lowerByte = (String.utf8EncodeChar c).map lowerByte) :
    ∃ d : Char, bs = String.utf8EncodeChar d ∧ d.toLower = c.toLower := by
  rcases Nat.lt_or_ge c.toNat 128 with hc | hc
  · have hshort : ∀ n < 128, String.utf8EncodeChar (Char.ofNat n) = [UInt8.ofNat n]
        ∧ (Char.ofNat n).toLower = Char.ofNat (lowerByte (UInt8.ofNat n)).toNat := by decide
    obtain ⟨hbytes, hlow⟩ := hshort c.toNat hc
    rw [Char.ofNat_toNat] at hbytes hlow
    rw [hbytes, List.map_singleton] at h
    obtain ⟨b, rfl, hb⟩ := List.map_eq_singleton_iff.1 h
    have hsize : c.toNat < UInt8.size := Nat.lt_trans hc (by decide)
    have hsmall : lowerByte b < 128 :=
      hb ▸ lowerByte_lt_iff.2 ((UInt8.ofNat_lt_iff_lt hsize (by decide)).2 hc)
    have hlt : b < 128 := lowerByte_lt_iff.1 hsmall
    obtain ⟨hbytes', hlow'⟩ := hshort b.toNat hlt
    rw [UInt8.ofNat_toNat] at hbytes' hlow'
    exact ⟨Char.ofNat b.toNat, hbytes'.symm, by rw [hlow', hb, hlow]⟩
  · rw [map_lowerByte_of_le (le_of_mem_utf8EncodeChar hc)] at h
    have hlong : ∀ b ∈ bs, 128 ≤ b := by
      intro b hb
      have hmem : lowerByte b ∈ String.utf8EncodeChar c := h ▸ List.mem_map_of_mem hb
      have hle := le_of_mem_utf8EncodeChar hc _ hmem
      exact UInt8.not_lt.1 fun hlt => UInt8.not_lt.2 hle (lowerByte_lt_iff.2 hlt)
    rw [map_lowerByte_of_le hlong] at h
    exact ⟨c, h, rfl⟩

theorem exists_utf8 : ∀ {cs : List Char} {bs : List UInt8},
    bs.map lowerByte = (utf8 cs).map lowerByte → ∃ ds, bs = utf8 ds ∧ lower ds = lower cs
  | [], bs, h => ⟨[], List.map_eq_nil_iff.1 h, rfl⟩
  | c :: cs, bs, h => by
    rw [utf8, List.flatMap_cons, List.map_append, List.map_eq_append_iff] at h
    obtain ⟨front, back, rfl, hfront, hback⟩ := h
    obtain ⟨d, rfl, hd⟩ := exists_utf8EncodeChar hfront
    obtain ⟨ds, rfl, hds⟩ := exists_utf8 hback
    exact ⟨d :: ds, rfl, congrArg₂ List.cons hd hds⟩

theorem ofUtf8?_congr {as bs : List UInt8} (h : as.map lowerByte = bs.map lowerByte) :
    (ofUtf8? as).map lower = (ofUtf8? bs).map lower := by
  have hsome : ∀ {as bs : List UInt8} {cs : List Char}, as.map lowerByte = bs.map lowerByte →
      ofUtf8? bs = some cs → ∃ ds, ofUtf8? as = some ds ∧ lower ds = lower cs := by
    intro as bs cs h hcs
    rw [Text.ofUtf8?_eq_some_iff] at hcs
    obtain ⟨ds, hds, hlow⟩ := exists_utf8 (hcs ▸ h)
    exact ⟨ds, Text.ofUtf8?_eq_some_iff.2 hds, hlow⟩
  rcases hbs : ofUtf8? bs with _ | cs
  · rcases has : ofUtf8? as with _ | ds
    · rfl
    · obtain ⟨cs, hcs, -⟩ := hsome h.symm has
      rw [hbs] at hcs
      cases hcs
  · obtain ⟨ds, hds, hlow⟩ := hsome h hbs
    rw [hds, Option.map_some, Option.map_some, hlow]

theorem digit?_lowerByte (b : UInt8) :
    Hexadecimal.digit? (Char.ofNat (lowerByte b).toNat)
      = Hexadecimal.digit? (Char.ofNat b.toNat) :=
  apply_lowerByte (f := fun b => Hexadecimal.digit? (Char.ofNat b.toNat)) (by decide) b

theorem lowerByte_eq_percent_iff {b : UInt8} : lowerByte b = 37 ↔ b = 37 := by
  have hsame := apply_lowerByte (f := fun b => decide (b = 37)) (by decide) b
  exact decide_eq_decide.1 hsame

theorem decodeBytes_lowerByte : ∀ bs : List UInt8,
    (decodeBytes (bs.map lowerByte)).map lowerByte = (decodeBytes bs).map lowerByte
  | [] => rfl
  | [b] => by simp [decodeBytes, lowerByte_lowerByte]
  | [a, b] => by simp [decodeBytes, lowerByte_lowerByte]
  | p :: a :: b :: rest => by
    have htail := decodeBytes_lowerByte (a :: b :: rest)
    have hrest := decodeBytes_lowerByte rest
    simp only [List.map_cons] at htail ⊢
    simp only [decodeBytes, lowerByte_eq_percent_iff, digit?_lowerByte]
    split
    · split
      · rw [List.map_cons, List.map_cons, hrest]
      · rw [List.map_cons, List.map_cons, htail, lowerByte_lowerByte]
    · rw [List.map_cons, List.map_cons, htail, lowerByte_lowerByte]

theorem decode?_lower (cs : List Char) :
    (decode? (lower cs)).map lower = (decode? cs).map lower := by
  unfold decode?
  rw [Text.contains_lower (by decide), Text.toUTF8_ofList, Text.toUTF8_ofList, utf8_lower]
  split
  · exact ofUtf8?_congr (decodeBytes_lowerByte (utf8 cs))
  · rw [Option.map_some, Option.map_some, lower_lower]

end Percent

/-! ## Domain names -/

namespace DomainName

theorem mapAll?_cons (n : Nat) (ns : List Nat) :
    mapAll? (n :: ns) = (mapAll? [n]).bind fun front => (mapAll? ns).map (front ++ ·) := by
  simp only [mapAll?, List.mapM_cons, List.mapM_nil]
  rcases Unicode.hostMapping n with _ | image | _ | _ <;> rcases List.mapM _ ns with _ | later <;>
    simp

theorem mapAll?_lower : ∀ cs : List Char,
    mapAll? ((lower cs).map Char.toNat) = mapAll? (cs.map Char.toNat)
  | [] => rfl
  | c :: cs => by
    have hone : mapAll? [c.toLower.toNat] = mapAll? [c.toNat] :=
      apply_toLower (f := fun c => mapAll? [c.toNat]) (by decide) c
    rw [Text.lower_cons, List.map_cons, List.map_cons, mapAll?_cons, hone, mapAll?_lower cs,
      ← mapAll?_cons]

theorem isPlain_lower (cs : List Char) : isPlain (lower cs) = isPlain cs := by
  have hascii : IgnoresCase fun c => decide (c.toNat < 128) := .of_letters (by decide)
  rw [isPlain, isPlain, lower_lower, Text.all_lower hascii]

theorem toAscii?_lower (cs : List Char) : toAscii? (lower cs) = toAscii? cs := by
  have hforbidden : IgnoresCase fun c => isForbidden c.toNat := .of_letters (by decide)
  rw [toAscii?, toAscii?, isPlain_lower, lower_lower, Text.any_lower hforbidden,
    internationalToAscii?, internationalToAscii?, mapAll?_lower]

end DomainName

/-! ## Numeric addresses -/

theorem Hexadecimal.digit?_toLower (c : Char) : digit? c.toLower = digit? c :=
  apply_toLower (by decide) c

theorem Hexadecimal.read?_lower (cs : List Char) : read? (lower cs) = read? cs := by
  rw [read?, read?, lower, List.foldlM_map]
  simp only [List.map_eq_nil_iff, digit?_toLower]

theorem Decimal.read?_lower (cs : List Char) : read? (lower cs) = read? cs := by
  rw [read?, read?, Text.all_lower Text.ignoresCase_isDigit]
  simp only [ne_eq, Text.lower_eq_nil_iff]
  split
  · next h =>
    have hdigits : ∀ c ∈ cs, c.toLower = c := fun c hc =>
      Text.toLower_of_isDigit (List.all_eq_true.1 h.2 c hc)
    rw [Text.lower_eq_self hdigits]
  · rfl

namespace Ipv6

theorem piece?_lower (cs : List Char) : piece? (lower cs) = piece? cs := by
  rw [piece?, piece?, Hexadecimal.read?_lower, lower, List.length_map]

theorem byte?_lower (cs : List Char) : byte? (lower cs) = byte? cs := by
  rw [byte?, byte?, Decimal.read?_lower, lower, List.length_map, List.head?_map]
  simp only [ne_eq, Text.map_toLower_eq_some_iff (by decide : '0'.isAlpha = false)]

theorem dotted?_lower (cs : List Char) : dotted? (lower cs) = dotted? cs := by
  rw [dotted?, dotted?, Text.splitOn_lower (by decide), List.mapM_map]
  simp only [Function.comp_def, byte?_lower]

theorem groups?_lower (mayEndDotted : Bool) : ∀ groups : List (List Char),
    groups? mayEndDotted (groups.map lower) = groups? mayEndDotted groups
  | [] => rfl
  | [last] => by
    simp only [List.map_singleton, groups?, piece?_lower, dotted?_lower]
  | g :: g' :: gs => by
    have ih := groups?_lower mayEndDotted (g' :: gs)
    simp only [List.map_cons] at ih ⊢
    simp only [groups?, piece?_lower, ih]

theorem pieces?_lower (mayEndDotted : Bool) (cs : List Char) :
    pieces? mayEndDotted (lower cs) = pieces? mayEndDotted cs := by
  simp only [pieces?, Text.lower_eq_nil_iff, Text.splitOn_lower (by decide : ':'.isAlpha = false),
    groups?_lower]

theorem cutGap_cons (c : Char) (cs : List Char) : cutGap (c :: cs) =
    if c = ':' ∧ cs.head? = some ':' then some ([], cs.tail)
    else (cutGap cs).map fun p => (c :: p.1, p.2) := by
  by_cases hc : c = ':'
  · subst hc
    rcases cs with _ | ⟨d, cs⟩
    · rfl
    · by_cases hd : d = ':'
      · subst hd
        rfl
      · simp [cutGap, hd]
  · simp [cutGap, hc]

theorem cutGap_lower : ∀ cs : List Char,
    cutGap (lower cs) = (cutGap cs).map (Prod.map lower lower)
  | [] => rfl
  | c :: cs => by
    have hcolon : ':'.isAlpha = false := by decide
    rw [Text.lower_cons, cutGap_cons, cutGap_cons, cutGap_lower cs, lower, List.head?_map]
    simp only [Text.toLower_eq_iff hcolon, Text.map_toLower_eq_some_iff hcolon]
    split
    · rw [← List.map_tail]; rfl
    · rw [Option.map_map, Option.map_map]; rfl

theorem address?_lower (cs : List Char) : address? (lower cs) = address? cs := by
  rw [address?, address?, cutGap_lower]
  rcases cutGap cs with _ | ⟨front, back⟩
  · simp only [Option.map_none, pieces?_lower]
  · simp only [Option.map_some, Prod.map_apply, pieces?_lower]

end Ipv6

/-! ## Hosts of the web -/

namespace Url

theorem bracketed?_lower (cs : List Char) : bracketed? (lower cs) = bracketed? cs := by
  have hinner : (lower cs).tail.dropLast = lower cs.tail.dropLast := by
    rw [lower, ← List.map_tail, ← List.map_dropLast]
    rfl
  rw [bracketed?, bracketed?, hinner, Ipv6.address?_lower, lower, List.getLast?_map]
  simp only [Text.map_toLower_eq_some_iff (by decide : ']'.isAlpha = false)]

theorem Host.ofWeb?_lower (cs : List Char) : ofWeb? (lower cs) = ofWeb? cs := by
  have hname : (Percent.decode? (lower cs)).bind DomainName.toAscii?
      = (Percent.decode? cs).bind DomainName.toAscii? := by
    have h := congrArg (Option.bind · DomainName.toAscii?) (Percent.decode?_lower cs)
    simpa only [Option.bind_map, Function.comp_def, DomainName.toAscii?_lower] using h
  rw [ofWeb?, ofWeb?, bracketed?_lower, hname, lower, List.head?_map]
  simp only [Text.map_toLower_eq_some_iff (by decide : '['.isAlpha = false)]

end Url

end BuildSession
