import BuildSession.Proofs.Mirroring
import BuildSession.Proofs.Proxying
import BuildSession.Proofs.Transports

/-!
# Nested urls

A choice depends on a repository's transport only through its host, the wildcards that cover it and
the protocol that proxies are chosen by (`ChosenAlike`). Behind `dav:`, a url that can be read keeps
its host and its protocol gets the lead (`Transport.ofUrl_behindDav`). Forms of http have the same
wildcards and the same proxies with and without that lead, so mirror and proxy stay
(`nested_http_chosen_alike`).
-/

namespace BuildSession

open Text (lower)

namespace Transport

variable {t : Transport} {url : String} {u : Url}

/-- The transport with the lead of a nested url on its protocol. -/
def behindDav (t : Transport) : Transport :=
  { t with protocol := "dav:" ++ t.protocol }

@[simp]
theorem protocol_behindDav : t.behindDav.protocol = "dav:" ++ t.protocol := rfl

@[simp]
theorem host_behindDav : t.behindDav.host = t.host := rfl

theorem not_nests_of_read? (hread : Url.read? url.toList = some u)
    (hscheme : u.scheme ≠ "dav".toList) : ¬ Nests url.toList := by
  rintro ⟨inner, heq, -⟩
  have hdav : Url.IsScheme "dav".toList := ⟨by decide, by decide⟩
  have hurl : url.toList = "dav".toList ++ ':' :: inner := heq
  rw [hurl] at hread
  exact hscheme (hdav.scheme_of_read? hread)

theorem ofUrl_of_read? (hread : Url.read? url.toList = some u)
    (hscheme : u.scheme ≠ "dav".toList) :
    ofUrl url = ⟨String.ofList u.scheme, u.host.map fun h => String.ofList (lower h)⟩ := by
  rw [ofUrl_eq, cutDav_of_not_nests (not_nests_of_read? hread hscheme), hread]
  rfl

/-- A lead in front of a url changes the protocol of its transport, not the host. -/
theorem ofUrl_behindDav (hmark : "://".toList <:+: url.toList)
    (hread : Url.read? url.toList = some u) (hscheme : u.scheme ≠ "dav".toList) :
    ofUrl ("dav:" ++ url) = (ofUrl url).behindDav := by
  have hnested : ("dav:" ++ url).toList = davLead ++ url.toList := String.toList_append
  have hprotocol : String.ofList (davLead ++ u.scheme) = "dav:" ++ String.ofList u.scheme :=
    String.ofList_append
  rw [ofUrl_of_read? hread hscheme, ofUrl_eq, hnested, cutDav_of_nests hmark, hread, ofRead,
    hprotocol]
  rfl

theorem ne_file_of_http (hhttp : t.protocol = "http" ∨ t.protocol = "https") :
    t.protocol ≠ "file" := by
  rcases hhttp with h | h <;> rw [h] <;> decide

theorem isExternal_behindDav (hfile : t.protocol ≠ "file") :
    t.behindDav.isExternal = t.isExternal := by
  have hlead : "dav:" ++ t.protocol ≠ "file" := by
    intro h
    have hprefix : davLead <+: "file".toList := by
      rw [← h, String.toList_append]
      exact List.prefix_append davLead t.protocol.toList
    exact absurd hprefix (by decide)
  simp only [isExternal, protocol_behindDav, host_behindDav, beq_false_of_ne hlead,
    beq_false_of_ne hfile]

theorem isExternalHttp_behindDav (hhttp : t.protocol = "http" ∨ t.protocol = "https") :
    t.behindDav.isExternalHttp = t.isExternalHttp := by
  have hforms : ["http", "https", "dav", "dav:http", "dav:https"].contains ("dav:" ++ t.protocol)
      = ["http", "https", "dav", "dav:http", "dav:https"].contains t.protocol := by
    rcases hhttp with h | h <;> rw [h] <;> decide
  rw [isExternalHttp, isExternalHttp, isExternal_behindDav (ne_file_of_http hhttp),
    protocol_behindDav, hforms]

theorem normalizeProtocol_behindDav (hhttp : t.protocol = "http" ∨ t.protocol = "https") :
    ProxySelector.normalizeProtocol t.behindDav.protocol
      = ProxySelector.normalizeProtocol t.protocol := by
  rw [protocol_behindDav]
  rcases hhttp with h | h <;> rw [h] <;> decide

end Transport

namespace RemoteRepository

/-- What the choice of mirror and proxy depends on is the same of both repositories. -/
structure ChosenAlike (r r' : RemoteRepository) : Prop where
  id : r.id = r'.id
  layout : r.layout = r'.layout
  host : r.host = r'.host
  wildcards : r.wildcards = r'.wildcards
  protocol : ProxySelector.normalizeProtocol r.protocol
    = ProxySelector.normalizeProtocol r'.protocol

namespace ChosenAlike

variable {r r' : RemoteRepository} (h : ChosenAlike r r')

include h

theorem find? (s : MirrorSelector) : s.find? r = s.find? r' :=
  s.find?_congr_wildcards h.id h.wildcards h.layout

theorem proxyFor (s : ProxySelector) : s.proxyFor r = s.proxyFor r' := by
  rw [s.proxyFor_eq_search, s.proxyFor_eq_search, h.host, h.protocol]

end ChosenAlike

/-- A repository that is reached by http is chosen for alike with and without the lead. -/
theorem ChosenAlike.of_behindDav {r r' : RemoteRepository} (hid : r'.id = r.id)
    (hlayout : r'.layout = r.layout) (htransport : r'.transport = r.transport.behindDav)
    (hhttp : r.protocol = "http" ∨ r.protocol = "https") : ChosenAlike r' r where
  id := hid
  layout := hlayout
  host := by
    rw [RemoteRepository.host, RemoteRepository.host, htransport, Transport.host_behindDav]
  wildcards := by
    have hfile : r.transport.protocol ≠ "file" := Transport.ne_file_of_http hhttp
    rw [RemoteRepository.wildcards, RemoteRepository.wildcards, htransport,
      Transport.isExternal_behindDav hfile, Transport.isExternalHttp_behindDav hhttp]
  protocol := by
    rw [RemoteRepository.protocol, RemoteRepository.protocol, htransport,
      Transport.normalizeProtocol_behindDav hhttp]

/-- A url of http or https that contains `://` can stand behind `dav:` as well: the protocol gets
the lead, but the host, the proxy of any rules and the mirror of any rules stay. Such a url does not
start with `dav:` itself. -/
theorem nested_http_chosen_alike (r : RemoteRepository) (u : Url)
    (hmark : "://".toList <:+: r.url.toList) (hread : Url.read? r.url.toList = some u)
    (hhttp : u.scheme = "http".toList ∨ u.scheme = "https".toList) :
    let r' := { r with url := "dav:" ++ r.url }
    r'.protocol = "dav:" ++ r.protocol ∧ r'.host = r.host
      ∧ (∀ rules : List ProxyRule,
        ProxySelector.proxyFor ⟨rules⟩ r' = ProxySelector.proxyFor ⟨rules⟩ r)
      ∧ ∀ rules : List Mirror,
        MirrorSelector.mirrorIdFor ⟨rules⟩ r' = MirrorSelector.mirrorIdFor ⟨rules⟩ r := by
  intro r'
  have hscheme : u.scheme ≠ "dav".toList := by
    rcases hhttp with h | h <;> rw [h] <;> decide
  have htransport : r'.transport = r.transport.behindDav :=
    Transport.ofUrl_behindDav hmark hread hscheme
  have hprotocol : r.protocol = String.ofList u.scheme := by
    rw [protocol, transport, Transport.ofUrl_of_read? hread hscheme]
  have halike : ChosenAlike r' r := by
    refine .of_behindDav rfl rfl htransport ?_
    rcases hhttp with h | h <;> rw [hprotocol, h] <;> decide
  refine ⟨?_, halike.host, fun rules => halike.proxyFor ⟨rules⟩, fun rules => ?_⟩
  · rw [protocol, htransport, Transport.protocol_behindDav, protocol]
  · rw [MirrorSelector.mirrorIdFor, halike.find?, MirrorSelector.mirrorIdFor]

/-- Capitals, a port and another nested url in the query make no difference. -/
theorem nested_http_chosen_alike_on_this_machine :
    let r : RemoteRepository :=
      { id := "central", url := "HTTPS://LocalHost:8443/m2?from=dav:http://repo.example" }
    let u : Url := ⟨"https".toList, some "localhost".toList⟩
    let r' := { r with url := "dav:" ++ r.url }
    "://".toList <:+: r.url.toList ∧ Url.read? r.url.toList = some u
      ∧ r'.protocol = "dav:https" ∧ r'.host = some "localhost"
      ∧ (∀ rules : List ProxyRule,
        ProxySelector.proxyFor ⟨rules⟩ r' = ProxySelector.proxyFor ⟨rules⟩ r)
      ∧ ∀ rules : List Mirror,
        MirrorSelector.mirrorIdFor ⟨rules⟩ r' = MirrorSelector.mirrorIdFor ⟨rules⟩ r := by
  intro r u r'
  have hmark : "://".toList <:+: r.url.toList :=
    ⟨"HTTPS".toList, "LocalHost:8443/m2?from=dav:http://repo.example".toList, by decide⟩
  have hread : Url.read? r.url.toList = some u := by decide +kernel
  obtain ⟨hprotocol, hhost, hchoices⟩ := nested_http_chosen_alike r u hmark hread (.inr rfl)
  exact ⟨hmark, hread, hprotocol.trans (by decide +kernel), hhost.trans (by decide +kernel),
    hchoices⟩

end RemoteRepository

end BuildSession
