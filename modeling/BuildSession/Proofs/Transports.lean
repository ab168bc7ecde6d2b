import BuildSession.Proofs.LetterCase
import BuildSession.Proofs.Proxying
import BuildSession.Repository.Pattern
import Mathlib.Data.List.DropRight

/-!
# Protocols of repositories

A url that starts with `dav:` nests another one if `://` occurs behind that lead, wherever it does
(`Transport.Nests`). A url that does not starts with its protocol, and so does one that cannot be
read (`Transport.protocol_of_isScheme`). The protocol is in small letters
(`Transport.lower_protocol`). Mirror rules name the forms of http and proxy rules rewrite them; both
have the same forms in mind except for `davs`, which counts as https for proxies only
(`http_for_mirrors_iff_for_proxies`).
-/

namespace BuildSession

open Text (lower lower_lower)

namespace Url

/-- A text that can be the scheme of a url. -/
structure IsScheme (cs : List Char) : Prop where
  startsWithLetter : cs.head?.any Char.isAlpha = true
  characters : cs.all (fun c => c.isAlphanum || c == '+' || c == '-' || c == '.') = true

namespace IsScheme

variable {scheme : List Char} (h : IsScheme scheme)

include h

theorem ne_nil : scheme ≠ [] := by
  rintro rfl
  cases h.startsWithLetter

theorem not_mem_colon : ':' ∉ scheme :=
  fun hmem => absurd (List.all_eq_true.1 h.characters _ hmem) (by decide)

theorem lt_of_mem : ∀ c ∈ scheme, 32 < c.toNat := by
  intro c hc
  by_contra hlow
  have hlt : c.toNat < 33 := Nat.lt_succ_of_le (Nat.le_of_not_lt hlow)
  exact Text.of_toNat_lt (P := fun c => ¬ (c.isAlphanum || c == '+' || c == '-' || c == '.') = true)
    (by decide) hlt (List.all_eq_true.1 h.characters c hc)

theorem cutScheme?_append (rest : List Char) :
    cutScheme? (scheme ++ ':' :: rest) = some (lower scheme, rest) := by
  rw [cutScheme?, Text.cutFirst_append rest h.not_mem_colon]
  exact if_pos ⟨h.startsWithLetter, h.characters⟩

end IsScheme

theorem le_of_isBreak {c : Char} (h : isBreak c = true) : c.toNat ≤ 32 := by
  simp only [isBreak, Bool.or_eq_true, beq_iff_eq] at h
  rcases h with (rfl | rfl) | rfl <;> decide

/-- Trimming and joining take nothing away from a start without blanks and controls. -/
theorem exists_joined_trimmed {front : List Char} (hne : front ≠ [])
    (hfront : ∀ c ∈ front, 32 < c.toNat) (rest : List Char) :
    ∃ rest', joined (trimmed (front ++ rest)) = front ++ rest' := by
  let isEdge := fun c : Char => decide (c.toNat ≤ 32)
  have hedge : ∀ c ∈ front, ¬ isEdge c = true := fun c hc hle =>
    Nat.not_lt.2 (of_decide_eq_true hle) (hfront c hc)
  have hstart : (front ++ rest).dropWhile isEdge = front ++ rest := by
    obtain ⟨c, cs, rfl⟩ := List.exists_cons_of_ne_nil hne
    exact List.dropWhile_cons_of_neg (hedge c List.mem_cons_self)
  have hend : ∀ rest : List Char, ∃ rest', (front ++ rest).rdropWhile isEdge = front ++ rest' := by
    intro rest
    induction rest using List.reverseRecOn with
    | nil =>
      have hlast := List.rdropWhile_eq_self_iff.2 fun hl => hedge _ (List.getLast_mem hl)
      exact ⟨[], by rw [List.append_nil, hlast]⟩
    | append_singleton rest c ih =>
      rw [← List.append_assoc, List.rdropWhile_concat]
      split
      · exact ih
      · exact ⟨rest ++ [c], List.append_assoc _ _ _⟩
  obtain ⟨rest', hrest⟩ := hend rest
  have hjoined : joined front = front := by
    refine List.filter_eq_self.2 fun c hc => ?_
    rw [Bool.not_eq_true', ← Bool.not_eq_true]
    exact fun hbreak => hedge c hc (decide_eq_true (le_of_isBreak hbreak))
  refine ⟨joined rest', ?_⟩
  calc joined (trimmed (front ++ rest))
      = joined ((front ++ rest).rdropWhile isEdge) := by
        rw [trimmed, hstart]
        rfl
    _ = joined front ++ joined rest' := by rw [hrest, joined, List.filter_append]; rfl
    _ = front ++ joined rest' := by rw [hjoined]

theorem IsScheme.exists_joined_trimmed {scheme : List Char} (h : IsScheme scheme)
    (rest : List Char) :
    ∃ rest', joined (trimmed (scheme ++ ':' :: rest)) = scheme ++ ':' :: rest' := by
  have hfront : ∀ c ∈ scheme ++ [':'], 32 < c.toNat :=
    List.forall_mem_append.2 ⟨h.lt_of_mem, List.forall_mem_singleton.2 (by decide)⟩
  simpa using Url.exists_joined_trimmed (List.append_ne_nil_of_left_ne_nil h.ne_nil _) hfront rest

/-- A url that is read has the scheme in front of its first colon. -/
theorem exists_cutScheme?_of_read? {url : List Char} {u : Url} (h : read? url = some u) :
    ∃ rest, cutScheme? (joined (trimmed url)) = some (u.scheme, rest) := by
  unfold read? at h
  rcases hcut : cutScheme? (joined (trimmed url)) with _ | ⟨scheme, rest⟩ <;> rw [hcut] at h
  · cases h
  · suffices hscheme : u.scheme = scheme from ⟨rest, by rw [hscheme]⟩
    simp only at h
    split at h
    · split at h
      · split at h
        · obtain ⟨host, -, rfl⟩ := Option.map_eq_some_iff.1 h
          rfl
        · cases h
          rfl
      · cases h
        rfl
    · split at h
      · obtain ⟨host, -, rfl⟩ := Option.map_eq_some_iff.1 h
        rfl
      · split at h
        · cases h
          rfl
        · obtain ⟨host, -, rfl⟩ := Option.map_eq_some_iff.1 h
          rfl

theorem lower_scheme {url : List Char} {u : Url} (h : read? url = some u) :
    lower u.scheme = u.scheme := by
  obtain ⟨rest, hcut⟩ := exists_cutScheme?_of_read? h
  unfold cutScheme? at hcut
  split at hcut
  · split at hcut
    · obtain ⟨hscheme, -⟩ := Prod.mk.inj (Option.some.inj hcut)
      rw [← hscheme, lower_lower]
    · cases hcut
  · cases hcut

/-- A url that starts like one has that scheme, if it is read at all. -/
theorem IsScheme.scheme_of_read? {scheme rest : List Char} {u : Url} (h : IsScheme scheme)
    (hread : read? (scheme ++ ':' :: rest) = some u) : u.scheme = lower scheme := by
  obtain ⟨behind, hcut⟩ := exists_cutScheme?_of_read? hread
  obtain ⟨rest', hrest⟩ := h.exists_joined_trimmed rest
  rw [hrest, h.cutScheme?_append] at hcut
  exact (Prod.mk.inj (Option.some.inj hcut)).1.symm

end Url

namespace Transport

/-- The transport that comes of reading a url behind a lead; `front` is what the whole url has in
front of its first colon. -/
def ofRead (lead front : List Char) : Option Url → Transport
  | some u => ⟨String.ofList (lead ++ u.scheme), u.host.map fun h => String.ofList (lower h)⟩
  | none => ⟨String.ofList (lower front), none⟩

theorem ofUrl_eq (url : String) : ofUrl url =
    ofRead (cutDav url.toList).1 (beforeColon url.toList) (Url.read? (cutDav url.toList).2) := by
  unfold ofUrl
  rcases cutDav url.toList with ⟨lead, nested⟩
  dsimp only
  rcases Url.read? nested with _ | u <;> rfl

/-- The url is another one behind `dav:`. -/
def Nests (url : List Char) : Prop :=
  ∃ inner, url = davLead ++ inner ∧ "://".toList <:+: inner

theorem nests_iff {url : List Char} :
    Nests url ↔ (Text.afterLead davLead url).any (Text.hasPart "://".toList) = true := by
  rw [Option.any_eq_true]
  simp only [Text.afterLead_eq_some_iff, Text.hasPart_iff]
  rfl

instance (url : List Char) : Decidable (Nests url) :=
  decidable_of_iff _ nests_iff.symm

theorem cutDav_of_nests {inner : List Char} (h : "://".toList <:+: inner) :
    cutDav (davLead ++ inner) = (davLead, inner) := by
  rw [cutDav, Text.afterLead_eq_some_iff.2 rfl]
  exact if_pos (Text.hasPart_iff.2 h)

theorem cutDav_of_not_nests {url : List Char} (h : ¬ Nests url) : cutDav url = ([], url) := by
  unfold cutDav
  split
  · next rest hrest =>
    refine if_neg fun hpart => h ⟨rest, Text.afterLead_eq_some_iff.1 hrest, ?_⟩
    exact Text.hasPart_iff.1 hpart
  · rfl

/-- Only a url whose scheme is the lead itself nests another, and only if the mark of one is behind
it. -/
theorem nests_iff_of_isScheme {scheme rest : List Char} (h : Url.IsScheme scheme) :
    Nests (scheme ++ ':' :: rest) ↔ scheme = "dav".toList ∧ "://".toList <:+: rest := by
  constructor
  · rintro ⟨inner, heq, hinner⟩
    have hdav : ':' ∉ "dav".toList := by decide
    have hcut : Text.cutFirst ':' (davLead ++ inner) = some ("dav".toList, inner) :=
      Text.cutFirst_append inner hdav
    rw [← heq, Text.cutFirst_append rest h.not_mem_colon] at hcut
    obtain ⟨hscheme, hrest⟩ := Prod.mk.inj (Option.some.inj hcut)
    exact ⟨hscheme, hrest ▸ hinner⟩
  · rintro ⟨rfl, hinner⟩
    exact ⟨rest, rfl, hinner⟩

/-- The protocol is the scheme, unless the url is read behind `dav:`. -/
theorem protocol_of_isScheme {url : String} {scheme rest : List Char} (h : Url.IsScheme scheme)
    (hurl : url.toList = scheme ++ ':' :: rest)
    (hnests : Nests url.toList → Url.read? (cutDav url.toList).2 = none) :
    (ofUrl url).protocol = String.ofList (lower scheme) := by
  have hbefore : beforeColon url.toList = scheme := by
    have hno : ∀ c ∈ scheme, (c != ':') = true := fun c hc =>
      bne_iff_ne.2 fun heq => h.not_mem_colon (heq ▸ hc)
    rw [hurl, beforeColon, List.takeWhile_append_of_pos hno]
    simp
  rw [ofUrl_eq, hbefore]
  rcases hread : Url.read? (cutDav url.toList).2 with _ | u
  · rfl
  · have hnot : ¬ Nests url.toList := by
      intro hn
      rw [hnests hn] at hread
      cases hread
    rw [cutDav_of_not_nests hnot] at hread ⊢
    rw [hurl] at hread
    rw [ofRead, h.scheme_of_read? hread]
    rfl

theorem lower_protocol (url : String) :
    lower (ofUrl url).protocol.toList = (ofUrl url).protocol.toList := by
  rw [ofUrl_eq]
  have hlead : lower (cutDav url.toList).1 = (cutDav url.toList).1 := by
    by_cases h : Nests url.toList
    · obtain ⟨inner, heq, hinner⟩ := h
      rw [heq, cutDav_of_nests hinner]
      rfl
    · rw [cutDav_of_not_nests h]
      rfl
  rcases hread : Url.read? (cutDav url.toList).2 with _ | u
  · rw [ofRead, String.toList_ofList, lower_lower]
  · rw [ofRead, String.toList_ofList, Text.lower_append, hlead, Url.lower_scheme hread]

end Transport

namespace ProxySelector

variable {p q : String}

/-- What a protocol in small letters counts as; `q` is no form of `dav:` itself. -/
theorem normalizeProtocol_eq_iff (hp : lower p.toList = p.toList)
    (hq : ¬ Transport.davLead <+: q.toList) : normalizeProtocol p = q ↔
      p = "davs" ∧ q = "https" ∨ p = "dav" ∧ q = "http"
        ∨ p ≠ "davs" ∧ p ≠ "dav" ∧ (p = q ∨ p = "dav:" ++ q) := by
  unfold normalizeProtocol
  rw [hp]
  simp only [String.toList_inj]
  by_cases hdavs : p = "davs"
  · simp [hdavs, eq_comm]
  by_cases hdav : p = "dav"
  · simp [hdav, eq_comm]
  rw [if_neg hdavs, if_neg hdav]
  rcases hlead : Text.afterLead Transport.davLead p.toList with _ | rest
  · have hnone : p ≠ "dav:" ++ q := by
      rintro rfl
      rw [String.toList_append] at hlead
      cases (Text.afterLead_eq_some_iff.2 rfl).symm.trans hlead
    simp [hdavs, hdav, hnone]
  · have hp := Text.afterLead_eq_some_iff.1 hlead
    have hne : p ≠ q := by
      rintro rfl
      exact hq ⟨rest, hp.symm⟩
    have hrest : p = "dav:" ++ q ↔ String.ofList rest = q := by
      have hsame : String.ofList rest = q ↔ rest = q.toList := by
        rw [← String.toList_inj, String.toList_ofList]
      rw [hsame, ← String.toList_inj, hp, String.toList_append]
      exact List.append_right_inj Transport.davLead
    simp [hdavs, hdav, hne, hrest]

theorem normalizeProtocol_eq_http_iff (hp : lower p.toList = p.toList) :
    normalizeProtocol p = "http" ↔ p = "dav" ∨ p = "http" ∨ p = "dav:http" := by
  rw [normalizeProtocol_eq_iff hp (by decide)]
  constructor
  · rintro (⟨-, h⟩ | ⟨h, -⟩ | ⟨-, -, h⟩)
    · exact absurd h (by decide)
    · exact .inl h
    · exact .inr h
  · rintro (rfl | rfl | rfl) <;> decide

theorem normalizeProtocol_eq_https_iff (hp : lower p.toList = p.toList) :
    normalizeProtocol p = "https" ↔ p = "davs" ∨ p = "https" ∨ p = "dav:https" := by
  rw [normalizeProtocol_eq_iff hp (by decide)]
  constructor
  · rintro (⟨h, -⟩ | ⟨-, h⟩ | ⟨-, -, h⟩)
    · exact .inl h
    · exact absurd h (by decide)
    · exact .inr h
  · rintro (rfl | rfl | rfl) <;> decide

end ProxySelector

namespace RemoteRepository

variable (r : RemoteRepository)

/-- What proxy rules take for http or https is that for mirror rules, except `davs`. -/
theorem mem_httpForms_iff :
    r.protocol ∈ ["http", "https", "dav", "dav:http", "dav:https"] ↔
      (ProxySelector.normalizeProtocol r.protocol = "http"
        ∨ ProxySelector.normalizeProtocol r.protocol = "https") ∧ r.protocol ≠ "davs" := by
  have hlower : lower r.protocol.toList = r.protocol.toList := Transport.lower_protocol r.url
  rw [ProxySelector.normalizeProtocol_eq_http_iff hlower,
    ProxySelector.normalizeProtocol_eq_https_iff hlower]
  generalize r.protocol = p
  simp only [List.mem_cons, List.not_mem_nil, or_false]
  constructor
  · rintro (rfl | rfl | rfl | rfl | rfl) <;> decide
  · rintro ⟨(rfl | rfl | rfl) | rfl | rfl | rfl, hdavs⟩ <;> first | decide | exact absurd rfl hdavs

/-- A repository is one of http for mirror rules exactly if it is external and one of http or https
for proxy rules, unless it is external and its protocol is `davs`: then it is one for proxy rules
only. -/
theorem http_for_mirrors_iff_for_proxies :
    (r.transport.isExternalHttp = true ↔
      r.transport.isExternal = true
        ∧ (ProxySelector.normalizeProtocol r.protocol = "http"
          ∨ ProxySelector.normalizeProtocol r.protocol = "https"))
    ↔ ¬ (r.transport.isExternal = true ∧ r.protocol = "davs") := by
  have hhttp : r.transport.isExternalHttp = true ↔
      (ProxySelector.normalizeProtocol r.protocol = "http"
        ∨ ProxySelector.normalizeProtocol r.protocol = "https") ∧ r.protocol ≠ "davs"
      ∧ r.transport.isExternal = true := by
    rw [Transport.isExternalHttp, Bool.and_eq_true, List.contains_iff_mem, ← and_assoc]
    exact and_congr_left' r.mem_httpForms_iff
  have hdavs : r.protocol = "davs" → ProxySelector.normalizeProtocol r.protocol = "https" := by
    intro h
    rw [h]
    decide
  rw [hhttp]
  constructor
  · rintro h ⟨hexternal, hprotocol⟩
    exact (h.2 ⟨hexternal, .inr (hdavs hprotocol)⟩).2.1 hprotocol
  · intro h
    constructor
    · rintro ⟨hforms, -, hexternal⟩
      exact ⟨hexternal, hforms⟩
    · rintro ⟨hexternal, hforms⟩
      exact ⟨hforms, fun hprotocol => h ⟨hexternal, hprotocol⟩, hexternal⟩

theorem davs_is_https_for_proxies_only :
    let r : RemoteRepository := { id := "central", url := "davs://repo.example/m2" }
    r.transport.isExternal = true ∧ ProxySelector.normalizeProtocol r.protocol = "https"
      ∧ r.transport.isExternalHttp = false := by
  decide

end RemoteRepository

end BuildSession
