import BuildSession.Text.Cut
import BuildSession.Unicode.BidiClass
import BuildSession.Unicode.HostMapping
import BuildSession.Unicode.JoiningType
import BuildSession.Unicode.Mark
import BuildSession.Unicode.Normal
import BuildSession.Url.Punycode

/-!
# Domain names

`DomainName.toAscii?` brings a domain name to its ASCII form: characters are mapped and normalised,
labels beyond ASCII are checked and written with `xn--`. A plain name, ASCII without encoded
labels, only changes to lower case. Characters that mean something elsewhere in a url are refused.
-/

namespace BuildSession.DomainName

open Unicode

/-- Characters that no domain name has. -/
def isForbidden (n : Nat) : Bool :=
  n ≤ 32 || n == 35 || n == 37 || n == 47 || n == 58 || n == 60 || n == 62 || n == 63 || n == 64
    || n == 91 || n == 92 || n == 93 || n == 94 || n == 124 || n == 127

/-- The lead of an encoded label. -/
def encodedLead : List Nat := [120, 110, 45, 45]

/-- The most characters of a label that has to be encoded. Encoding takes quadratic time. -/
def maxInternationalLength : Nat := 1000

/-- The most characters behind the lead of an encoded label. -/
def maxEncodedLength : Nat := 2000

/-- The rest of an encoded label. -/
def encodedRest? (label : List Nat) : Option (List Nat) :=
  if label.take 4 = encodedLead then some (label.drop 4) else none

/-- A text with its characters mapped, unless one is refused. -/
def mapAll? (ns : List Nat) : Option (List Nat) :=
  (ns.mapM fun n =>
    match hostMapping n with
    | .kept => some [n]
    | .replaced image => some image
    | .ignored => some []
    | .refused => none).map List.flatten

/-- Whether a joiner may stand behind `before` (nearest first) and in front of `after`. -/
def joinerAllowed (n : Nat) (before after : List Nat) : Bool :=
  let behindVirama := before.head?.any fun b => combiningClass b = 9
  if n = 0x200D then behindVirama
  else if n = 0x200C then
    let near := fun ns : List Nat => (ns.dropWhile fun m => joiningType m = .transparent).head?
    behindVirama
      || ((near before).any (fun b => joiningType b = .left ∨ joiningType b = .dual)
        && (near after).any (fun a => joiningType a = .right ∨ joiningType a = .dual))
  else true

/-- Whether all joiners of a label stand where they may. -/
def joinersAllowed : (before : List Nat) → List Nat → Bool
  | _, [] => true
  | before, n :: ns => joinerAllowed n before ns && joinersAllowed (n :: before) ns

/-- Whether a label, mapped or decoded, is one that may be written. -/
def isValidLabel (label : List Nat) : Bool :=
  (label.all (· < 128) || label.length ≤ maxInternationalLength)
    && normalize label = label
    && label.all (fun n => hostMapping n = .kept)
    && !label.head?.any isMark
    && joinersAllowed [] label

/-- The label that a mapped label stands for, unless it may not be written. -/
def decodeLabel? (label : List Nat) : Option (List Nat) :=
  match encodedRest? label with
  | none => if isValidLabel label then some label else none
  | some digits =>
    if digits.all (· < 128) && digits.length ≤ maxEncodedLength then
      match Punycode.decode? (digits.map Char.ofNat) with
      | some decoded =>
        if decoded.any (128 ≤ ·) && isValidLabel decoded then some decoded else none
      | none => none
    else none

/-- Whether a character is written from right to left. -/
def isRightToLeft (n : Nat) : Bool :=
  match bidiClass n with
  | .rightToLeft | .arabicLetter | .arabicNumber => true
  | _ => false

/-- Whether a label keeps the direction rule (RFC 5893). -/
def keepsDirection (label : List Nat) : Bool :=
  let classes := label.map bidiClass
  let last := (classes.reverse.dropWhile (· = .nonspacingMark)).head?
  match classes with
  | [] => true
  | .rightToLeft :: _ | .arabicLetter :: _ =>
    classes.all (fun c => c ≠ .leftToRight ∧ c ≠ .layout)
      && last.any (fun c => c = .rightToLeft ∨ c = .arabicLetter ∨ c = .europeanNumber
        ∨ c = .arabicNumber)
      && !(classes.contains .europeanNumber && classes.contains .arabicNumber)
  | .leftToRight :: _ =>
    classes.all (fun c => c ≠ .rightToLeft ∧ c ≠ .arabicLetter ∧ c ≠ .arabicNumber ∧ c ≠ .layout)
      && last.any (fun c => c = .leftToRight ∨ c = .europeanNumber)
  | _ => false

/-- The written form of a label. -/
def writeLabel (label : List Nat) : List Char :=
  if label.all (· < 128) then label.map Char.ofNat
  else encodedLead.map Char.ofNat ++ Punycode.encode label

/-- The ASCII form of a name that is not plain. -/
def internationalToAscii? (ns : List Nat) : Option (List Char) :=
  match mapAll? ns with
  | none => none
  | some mapped =>
    match ((normalize mapped).splitOn 46).mapM decodeLabel? with
    | none => none
    | some labels =>
      if labels.any (·.any isForbidden) then none
      else if labels.any (·.any isRightToLeft) && !labels.all keepsDirection then none
      else some (List.intercalate ['.'] (labels.map writeLabel))

/-- Whether a name is ASCII and has no encoded label. -/
def isPlain (cs : List Char) : Bool :=
  cs.all (·.toNat < 128)
    && ((Text.lower cs).splitOn '.').all fun label => (encodedRest? (label.map Char.toNat)).isNone

/-- The ASCII form of a domain name. -/
def toAscii? (cs : List Char) : Option (List Char) :=
  if isPlain cs then
    if cs.any fun c => isForbidden c.toNat then none else some (Text.lower cs)
  else internationalToAscii? (cs.map Char.toNat)

end BuildSession.DomainName
