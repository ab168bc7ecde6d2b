import BuildSession.Proofs.HostCase
import Mathlib.Data.List.TakeWhile

/-!
# Urls do not depend on letter case

Scheme, user data, host, port and path are told apart by characters that are no letters, so a url
and the same url in small letters fall apart in the same way, and each part is read alike
(`webHost?_lower`, `opaqueHost?_lower`, `fileHost?_lower`). The scheme comes out in small letters,
the host up to its letter case (`read?_lower`).
-/

namespace BuildSession

open Text (IgnoresCase lower lower_lower apply_toLower)

namespace Url

/-- The host in small letters. -/
def Host.lowered : Host → Host
  | .domain name => .domain (lower name)
  | host => host

/-- The url with its host in small letters. -/
def lowered (u : Url) : Url :=
  { u with host := u.host.map lower }

theorem ignoresCase_isDelimiter : IgnoresCase isDelimiter :=
  .of_letters (by decide)

theorem ignoresCase_isBreak : IgnoresCase isBreak :=
  .of_letters (by decide)

theorem ignoresCase_endsAuthority : IgnoresCase endsAuthority :=
  .of_letters (by decide)

/-! ## Hosts of other schemes -/

theorem encodeControls_cons (c : Char) (cs : List Char) :
    Percent.encodeControls (c :: cs) = Percent.encodeControls [c] ++ Percent.encodeControls cs := by
  simp only [Percent.encodeControls, List.flatMap_cons, List.flatMap_nil, List.append_nil]

theorem lower_encodeControls_lower : ∀ cs : List Char,
    lower (Percent.encodeControls (lower cs)) = lower (Percent.encodeControls cs)
  | [] => rfl
  | c :: cs => by
    have hone : lower (Percent.encodeControls [c.toLower]) = lower (Percent.encodeControls [c]) :=
      apply_toLower (f := fun c => lower (Percent.encodeControls [c])) (by decide) c
    rw [Text.lower_cons, encodeControls_cons, encodeControls_cons c, Text.lower_append,
      Text.lower_append, hone, lower_encodeControls_lower cs]

theorem Host.ofOpaque?_lower (cs : List Char) :
    (ofOpaque? (lower cs)).map lowered = (ofOpaque? cs).map lowered := by
  have hhead : (lower cs).head? = some '[' ↔ cs.head? = some '[' := by
    rw [lower, List.head?_map, Text.map_toLower_eq_some_iff (by decide)]
  simp only [ofOpaque?, hhead, bracketed?_lower, Text.any_lower ignoresCase_isDelimiter]
  split
  · rfl
  · split
    · rfl
    · simp only [Option.map_some, lowered, lower_encodeControls_lower]

/-! ## Authorities -/

theorem spanHost_lower : ∀ (inBrackets : Bool) (cs : List Char),
    spanHost inBrackets (lower cs) = (spanHost inBrackets cs).map lower lower
  | _, [] => rfl
  | inBrackets, c :: cs => by
    simp only [Text.lower_cons, spanHost, Text.toLower_eq_iff (by decide : ':'.isAlpha = false),
      Text.toLower_eq_iff (by decide : '['.isAlpha = false),
      Text.toLower_eq_iff (by decide : ']'.isAlpha = false), spanHost_lower _ cs]
    split <;> rfl

theorem isPort_lower : ∀ cs : List Char, isPort (lower cs) = isPort cs
  | [] => rfl
  | c :: cs => by
    by_cases hc : c = ':'
    · subst hc
      have hback : IgnoresCase (· == '\\') := .of_letters (by decide)
      have hdigits : lower (cs.takeWhile Char.isDigit) = cs.takeWhile Char.isDigit :=
        Text.lower_eq_self fun c hc => Text.toLower_of_isDigit (List.mem_takeWhile_imp hc)
      have hcolon : lower (':' :: cs) = ':' :: lower cs := rfl
      rw [hcolon, isPort, isPort, Text.takeWhile_lower Text.ignoresCase_isDigit,
        Text.dropWhile_lower Text.ignoresCase_isDigit, hdigits]
      rcases cs.dropWhile Char.isDigit with _ | ⟨d, rest⟩
      · rfl
      · exact congrArg (_ && ·) (hback d)
    · have hlow : c.toLower ≠ ':' := fun h => hc ((Text.toLower_eq_iff (by decide)).1 h)
      simp [Text.lower_cons, isPort, hc, hlow]

theorem cutUserInfo_lower (cs : List Char) :
    cutUserInfo (lower cs) = (cutUserInfo cs).map lower lower := by
  rw [cutUserInfo, cutUserInfo, Text.cutLast_lower (by decide)]
  rcases Text.cutLast ['@'] cs with _ | ⟨front, host⟩ <;> rfl

theorem hasUserInfo_lower (cs : List Char) : hasUserInfo (lower cs) = hasUserInfo cs := by
  have hcolon : lower cs = [':'] ↔ cs = [':'] := by
    rw [lower, List.map_eq_singleton_iff]
    simp only [Text.toLower_eq_iff (by decide : ':'.isAlpha = false)]
    simp
  rw [Bool.eq_iff_iff]
  simp only [hasUserInfo, Bool.and_eq_true, bne_iff_ne, ne_eq, Text.lower_eq_nil_iff, hcolon]

theorem webHost?_lower (cs : List Char) : webHost? (lower cs) = webHost? cs := by
  simp only [webHost?, cutUserInfo_lower, Prod.map_snd, spanHost_lower]
  generalize spanHost false (cutUserInfo cs).2 = parts
  obtain ⟨host, port⟩ := parts
  simp only [Prod.map_apply, Text.lower_eq_nil_iff, Host.ofWeb?_lower, isPort_lower]

theorem opaqueHost?_lower (cs : List Char) (isLast : Bool) :
    (opaqueHost? (lower cs) isLast).map Host.lowered
      = (opaqueHost? cs isLast).map Host.lowered := by
  have hhead : (lower cs).head? = some '@' ↔ cs.head? = some '@' := by
    rw [lower, List.head?_map, Text.map_toLower_eq_some_iff (by decide)]
  rw [opaqueHost?, opaqueHost?, cutUserInfo_lower]
  generalize cutUserInfo cs = parts
  obtain ⟨user, behind⟩ := parts
  simp only [Prod.map_apply, hhead, Text.lower_eq_nil_iff, spanHost_lower]
  generalize spanHost false behind = parts
  obtain ⟨host, port⟩ := parts
  simp only [Prod.map_apply, ne_eq, Text.lower_eq_nil_iff, hasUserInfo_lower, isPort_lower]
  have hopaque := Host.ofOpaque?_lower host
  split
  · rfl
  · split
    · rfl
    · generalize Host.ofOpaque? (lower host) = small at hopaque
      generalize Host.ofOpaque? host = found at hopaque
      rcases small with _ | h <;> rcases found with _ | h'
      · rfl
      · cases hopaque
      · cases hopaque
      · simp only
        split
        · exact hopaque
        · rfl

/-! ## Paths of files -/

theorem isDriveLetter_lower (cs : List Char) : isDriveLetter (lower cs) = isDriveLetter cs := by
  have hmark : IgnoresCase fun c => c == ':' || c == '|' := .of_letters (by decide)
  rcases cs with _ | ⟨c, _ | ⟨mark, _ | ⟨d, cs⟩⟩⟩
  · rfl
  · rfl
  · exact congrArg₂ (· && ·) (Text.ignoresCase_isAlpha c) (hmark mark)
  · rfl

theorem isDot_lower (cs : List Char) : isDot (lower cs) = isDot cs := by
  rw [isDot, isDot, lower_lower]

theorem isDoubleDot_lower (cs : List Char) : isDoubleDot (lower cs) = isDoubleDot cs := by
  rw [isDoubleDot, isDoubleDot, lower_lower]

theorem joined_lower (cs : List Char) : joined (lower cs) = lower (joined cs) :=
  Text.filter_lower ignoresCase_isBreak.not cs

theorem dropJoined_lower : ∀ (n : Nat) (cs : List Char),
    dropJoined n (lower cs) = lower (dropJoined n cs)
  | 0, _ => by simp [dropJoined]
  | _ + 1, [] => rfl
  | n + 1, c :: cs => by
    rw [Text.lower_cons, dropJoined, dropJoined, ignoresCase_isBreak c, dropJoined_lower (n + 1) cs,
      dropJoined_lower n cs]
    split <;> rfl

theorem isBrokenDrive_lower (cs : List Char) : isBrokenDrive (lower cs) = isBrokenDrive cs := by
  rw [isBrokenDrive, isBrokenDrive, joined_lower, dropJoined_lower,
    Text.any_head?_lower ignoresCase_isBreak]
  rcases joined cs with _ | ⟨c, _ | ⟨mark, rest⟩⟩
  · rfl
  · rfl
  · by_cases hmark : mark = ':'
    · subst hmark
      rcases rest with _ | ⟨d, rest⟩
      · rfl
      · exact congrArg (· && _) (Text.ignoresCase_isAlpha c)
    · have hlow : mark.toLower ≠ ':' := fun h => hmark ((Text.toLower_eq_iff (by decide)).1 h)
      simp [Text.lower_cons, hmark, hlow]

theorem reachesDrive_lower : ∀ (depth : Nat) (segments : List (List Char)),
    reachesDrive depth (segments.map lower) = reachesDrive depth segments
  | _, [] => rfl
  | depth, segment :: rest => by
    rw [List.map_cons, reachesDrive, reachesDrive, joined_lower, isDoubleDot_lower, isDot_lower,
      isDriveLetter_lower, isBrokenDrive_lower, reachesDrive_lower (depth - 1) rest,
      reachesDrive_lower depth rest, reachesDrive_lower (depth + 1) rest]

theorem fileHost?_lower (cs : List Char) : fileHost? (lower cs) = fileHost? cs := by
  have hpath : IgnoresCase fun c => c != '?' && c != '#' := .of_letters (by decide)
  have hslash : IgnoresCase fun c => c == '/' || c == '\\' := .of_letters (by decide)
  have hdrop : ∀ cs : List Char, (lower cs).drop 1 = lower (cs.drop 1) :=
    fun cs => List.map_drop.symm
  simp only [fileHost?, Text.takeWhile_lower ignoresCase_endsAuthority.not,
    Text.dropWhile_lower ignoresCase_endsAuthority.not,
    Text.takeWhile_lower hpath, joined_lower, Text.lower_eq_nil_iff, isDriveLetter_lower,
    Host.ofWeb?_lower, hdrop, Text.splitOnP_lower hslash, reachesDrive_lower]

/-! ## Urls -/

theorem ignoresCase_schemeCharacter :
    IgnoresCase fun c => c.isAlphanum || c == '+' || c == '-' || c == '.' :=
  .of_letters (by decide)

theorem cutScheme?_lower (cs : List Char) :
    cutScheme? (lower cs) = (cutScheme? cs).map (Prod.map id lower) := by
  rw [cutScheme?, cutScheme?, Text.cutFirst_lower (by decide)]
  rcases Text.cutFirst ':' cs with _ | ⟨scheme, rest⟩
  · rfl
  · simp only [Option.map_some, Prod.map_apply, Text.any_head?_lower Text.ignoresCase_isAlpha,
      Text.all_lower ignoresCase_schemeCharacter, lower_lower]
    split <;> rfl

theorem trimmed_lower (cs : List Char) : trimmed (lower cs) = lower (trimmed cs) := by
  have hedge : IgnoresCase fun c => decide (c.toNat ≤ 32) := .of_letters (by decide)
  have hreverse : ∀ cs : List Char, (lower cs).reverse = lower cs.reverse :=
    fun cs => List.map_reverse.symm
  simp only [trimmed, Text.dropWhile_lower hedge, hreverse]

theorem Host.text_lowered (host : Host) :
    lower host.lowered.text = lower host.text ∧ (host.lowered.text = [] ↔ host.text = []) := by
  rcases host with name | address | pieces
  · exact ⟨lower_lower name, Text.lower_eq_nil_iff⟩
  · exact ⟨rfl, Iff.rfl⟩
  · exact ⟨rfl, Iff.rfl⟩

/-- Hosts that agree in small letters make urls that do. -/
theorem map_url_congr {found found' : Option Host}
    (h : found.map Host.lowered = found'.map Host.lowered) (scheme : List Char) :
    (found.map fun host => (⟨scheme, if host.text = [] then none else some host.text⟩ : Url)).map
        lowered
      = (found'.map fun host => ⟨scheme, if host.text = [] then none else some host.text⟩).map
        lowered := by
  have hurl : ∀ host : Host,
      lowered ⟨scheme, if host.text = [] then none else some host.text⟩
        = lowered ⟨scheme, if host.lowered.text = [] then none else some host.lowered.text⟩ := by
    intro host
    obtain ⟨htext, hempty⟩ := host.text_lowered
    simp only [lowered, hempty]
    split
    · rfl
    · rw [Option.map_some, Option.map_some, htext]
  rcases found with _ | host <;> rcases found' with _ | host'
  · rfl
  · cases h
  · cases h
  · rw [Option.map_some, Option.map_some, Option.some.injEq] at h
    rw [Option.map_some, Option.map_some, Option.map_some, Option.map_some, hurl, h, ← hurl]

/-- A url and the same url in small letters have the same scheme, and the same host up to its letter
case. -/
theorem read?_lower (url : List Char) :
    (read? (lower url)).map lowered = (read? url).map lowered := by
  rw [read?, read?, trimmed_lower, joined_lower, cutScheme?_lower]
  rcases cutScheme? (joined (trimmed url)) with _ | ⟨scheme, rest⟩
  · rfl
  simp only [Option.map_some, Prod.map_apply, id]
  split
  · rcases rest with _ | ⟨a, _ | ⟨b, rest⟩⟩
    · rfl
    · rfl
    · simp only [Text.lower_cons, Text.toLower_eq_iff (by decide : '/'.isAlpha = false),
        Text.toLower_eq_iff (by decide : '\\'.isAlpha = false), dropJoined_lower, fileHost?_lower]
  · split
    · have hslash : IgnoresCase fun c => c == '/' || c == '\\' := .of_letters (by decide)
      rw [Text.dropWhile_lower hslash, Text.takeWhile_lower ignoresCase_endsAuthority.not,
        webHost?_lower]
    · rw [Text.afterLead_lower (by decide)]
      rcases Text.afterLead ['/', '/'] rest with _ | rest
      · rfl
      · have hend : IgnoresCase fun c => c == '/' || c == '?' || c == '#' := .of_letters (by decide)
        simp only [Option.map_some, Text.takeWhile_lower hend.not, Text.dropWhile_lower hend.not,
          Text.isEmpty_lower]
        exact map_url_congr (opaqueHost?_lower _ _) scheme

end Url

end BuildSession
