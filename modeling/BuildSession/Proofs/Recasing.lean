import BuildSession.Proofs.Mirroring
import BuildSession.Proofs.Proxying
import BuildSession.Proofs.Transports
import BuildSession.Proofs.UrlCase

/-!
# Urls in other letter case

Two urls that are the same in small letters are reached alike if both nest another url or neither
does (`Transport.ofUrl_congr`). The lead `dav:` is the one thing that has to be in small letters:
where only one of the two nests another url, the other one has the protocol `dav`, and the first has
not unless it cannot be read (`Transport.ofUrl_eq_iff_of_nests`).
-/

namespace BuildSession

open Text (IgnoresCase lower lower_lower)

theorem Url.IsScheme.of_lower {scheme : List Char} (h : IsScheme (lower scheme)) :
    IsScheme scheme where
  startsWithLetter := by
    rw [← Text.any_head?_lower Text.ignoresCase_isAlpha]
    exact h.startsWithLetter
  characters := by
    rw [← Text.all_lower ignoresCase_schemeCharacter]
    exact h.characters

namespace Transport

variable {url url' : String}

theorem ofRead_congr {lead front front' : List Char} {found found' : Option Url}
    (hfront : lower front = lower front')
    (hfound : found.map Url.lowered = found'.map Url.lowered) :
    ofRead lead front found = ofRead lead front' found' := by
  rcases found with _ | u <;> rcases found' with _ | u'
  · rw [ofRead, ofRead, hfront]
  · cases hfound
  · cases hfound
  · obtain ⟨hscheme, hhost⟩ := Url.mk.inj (Option.some.inj hfound)
    have hsmall : ∀ host : Option (List Char), host.map (fun h => String.ofList (lower h))
        = (host.map lower).map String.ofList := fun host => by rw [Option.map_map]; rfl
    rw [ofRead, ofRead, hscheme, hsmall, hsmall, hhost]

theorem lower_beforeColon (cs : List Char) : lower (beforeColon cs) = beforeColon (lower cs) := by
  have hcolon : IgnoresCase (· != ':') := .of_letters (by decide)
  exact (Text.takeWhile_lower hcolon cs).symm

theorem ofUrl_congr (h : lower url.toList = lower url'.toList)
    (hnests : Nests url.toList ↔ Nests url'.toList) : ofUrl url = ofUrl url' := by
  have hfront : lower (beforeColon url.toList) = lower (beforeColon url'.toList) := by
    rw [lower_beforeColon, h, lower_beforeColon]
  suffices hcut : (cutDav url.toList).1 = (cutDav url'.toList).1
      ∧ lower (cutDav url.toList).2 = lower (cutDav url'.toList).2 by
    rw [ofUrl_eq, ofUrl_eq, hcut.1]
    refine ofRead_congr hfront ?_
    rw [← Url.read?_lower, hcut.2, Url.read?_lower]
  by_cases hn : Nests url.toList
  · obtain ⟨inner', heq', hinner'⟩ := hnests.1 hn
    obtain ⟨inner, heq, hinner⟩ := hn
    rw [heq, heq', Text.lower_append, Text.lower_append] at h
    rw [heq, heq', cutDav_of_nests hinner, cutDav_of_nests hinner']
    exact ⟨rfl, List.append_cancel_left h⟩
  · rw [cutDav_of_not_nests hn, cutDav_of_not_nests fun hn' => hn (hnests.2 hn')]
    exact ⟨rfl, h⟩

/-- A nested url that can be read keeps its lead, so the protocol is longer than `dav`. -/
theorem eq_of_protocol_eq_dav (hn : Nests url.toList) (h : (ofUrl url).protocol = "dav") :
    ofUrl url = ⟨"dav", none⟩ := by
  obtain ⟨inner, heq, hinner⟩ := hn
  rw [ofUrl_eq, heq, cutDav_of_nests hinner] at h ⊢
  generalize Url.read? inner = found at h ⊢
  rcases found with _ | u
  · rfl
  · have htext := congrArg String.toList h
    rw [ofRead, String.toList_ofList] at htext
    have hlead : davLead <+: "dav".toList := ⟨u.scheme, htext⟩
    exact absurd hlead (by decide)

/-- Of two urls that differ in letter case alone, one that nests no url while the other does has the
lead for its scheme. -/
theorem protocol_eq_dav_of_nests (h : lower url.toList = lower url'.toList)
    (hn : Nests url.toList) (hnot : ¬ Nests url'.toList) : (ofUrl url').protocol = "dav" := by
  obtain ⟨inner, heq, -⟩ := hn
  have hlead : lower url'.toList = "dav".toList ++ ':' :: lower inner := by
    rw [← h, heq, Text.lower_append]
    rfl
  obtain ⟨scheme, behind, heq', hscheme, hbehind⟩ := List.map_eq_append_iff.1 hlead
  obtain ⟨c, rest, rfl, hc, -⟩ := List.map_eq_cons_iff.1 hbehind
  rw [Text.toLower_eq_iff (by decide)] at hc
  subst hc
  have hlower : Url.IsScheme (lower scheme) := by
    rw [lower, hscheme]
    exact ⟨by decide, by decide⟩
  rw [protocol_of_isScheme hlower.of_lower heq' fun hn' => absurd hn' hnot, lower, hscheme,
    String.ofList_toList]

/-- Where only one of two urls nests another, they are reached alike only as `dav` urls that cannot
be read. -/
theorem ofUrl_eq_iff_of_nests (h : lower url.toList = lower url'.toList)
    (hn : Nests url.toList) (hnot : ¬ Nests url'.toList) :
    ofUrl url = ofUrl url' ↔ ofUrl url = ⟨"dav", none⟩ ∧ ofUrl url' = ⟨"dav", none⟩ := by
  constructor
  · intro heq
    have hprotocol := protocol_eq_dav_of_nests h hn hnot
    have hdav := eq_of_protocol_eq_dav hn (heq ▸ hprotocol)
    exact ⟨hdav, heq ▸ hdav⟩
  · rintro ⟨hdav, hdav'⟩
    rw [hdav, hdav']

end Transport

namespace RemoteRepository

/-- Letter case does not matter for how a repository is reached, nor for the mirror and the proxy it
gets, unless a change of it makes or breaks the lead `dav:` of a nested url. If it does, the
transports differ, except where both come to `dav` without a host. -/
theorem letter_case_matters_for_nesting_only (r : RemoteRepository) (url : String)
    (h : lower url.toList = lower r.url.toList) :
    let r' := { r with url := url }
    ((Transport.Nests url.toList ↔ Transport.Nests r.url.toList) →
        r'.protocol = r.protocol ∧ r'.host = r.host
          ∧ r'.transport.isExternal = r.transport.isExternal
          ∧ r'.transport.isExternalHttp = r.transport.isExternalHttp
          ∧ (∀ s : MirrorSelector, s.find? r' = s.find? r)
          ∧ ∀ s : ProxySelector, s.proxyFor r' = s.proxyFor r)
      ∧ (¬ (Transport.Nests url.toList ↔ Transport.Nests r.url.toList) →
        (r'.transport = r.transport ↔
          r'.transport = ⟨"dav", none⟩ ∧ r.transport = ⟨"dav", none⟩)) := by
  intro r'
  constructor
  · intro hnests
    have htransport : r'.transport = r.transport := Transport.ofUrl_congr h hnests
    rw [protocol, host, htransport]
    refine ⟨rfl, rfl, rfl, rfl, fun s => ?_, fun s => s.proxyFor_congr htransport⟩
    exact s.find?_congr rfl htransport rfl
  · intro hnests
    by_cases hn : Transport.Nests url.toList
    · have hnot : ¬ Transport.Nests r.url.toList := fun hn' => hnests (iff_of_true hn hn')
      exact Transport.ofUrl_eq_iff_of_nests h hn hnot
    · have hn' : Transport.Nests r.url.toList :=
        by_contra fun hn' => hnests (iff_of_false hn hn')
      exact eq_comm.trans ((Transport.ofUrl_eq_iff_of_nests h.symm hn' hn).trans and_comm)

theorem nested_scheme_in_capitals :
    let r : RemoteRepository := { id := "central", url := "dav:https://repo.example/m2" }
    let r' := { r with url := "dav:HTTPS://repo.example/m2" }
    lower r'.url.toList = lower r.url.toList
      ∧ r'.protocol = "dav:https" ∧ r'.host = some "repo.example"
      ∧ (∀ s : MirrorSelector, s.find? r' = s.find? r)
      ∧ ∀ s : ProxySelector, s.proxyFor r' = s.proxyFor r := by
  intro r r'
  have hlower : lower "dav:HTTPS://repo.example/m2".toList = lower r.url.toList := by decide
  obtain ⟨hprotocol, hhost, -, -, hmirror, hproxy⟩ :=
    (letter_case_matters_for_nesting_only r "dav:HTTPS://repo.example/m2" hlower).1 (by decide)
  exact ⟨hlower, hprotocol.trans (by decide), hhost.trans (by decide), hmirror, hproxy⟩

/-- A nested url behind `DAV:` loses its host and counts as external. -/
theorem lead_in_capitals_hides_host :
    let r : RemoteRepository := { id := "central", url := "dav:https" ++ "://localhost/m2" }
    let r' := { r with url := "DAV:https" ++ "://localhost/m2" }
    Text.lowerString "DAV:https" = Text.lowerString "dav:https"
      ∧ r.transport = ⟨"dav:https", some "localhost"⟩ ∧ r.transport.isExternal = false
      ∧ r'.transport = ⟨"dav", none⟩ ∧ r'.transport.isExternal = true := by
  decide

end RemoteRepository

end BuildSession
