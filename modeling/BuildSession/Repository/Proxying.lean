import BuildSession.Repository.Transport
import BuildSession.Settings.Proxy
import BuildSession.Text.Wildcard
import BuildSession.Unicode.CaseFold

/-!
# The choice of a proxy

Of the proxies whose list of hosts to be reached directly leaves a repository's host out, the first
of the repository's protocol is taken. A repository reached by https makes do with the first proxy
for http.
-/

namespace BuildSession

/-- Wildcard patterns of hosts that are reached without a proxy. -/
structure NonProxyHosts where
  patterns : List (List Char) := []

namespace NonProxyHosts

/-- The patterns of a text, cut at `|` and `,`. -/
def parse (text : Option String) : NonProxyHosts :=
  ⟨(Text.segments (fun c => c == '|' || c == ',') (text.getD "").toList).filter (· ≠ [])⟩

/-- Whether a host is reached without a proxy; case does not matter. -/
def excludes (h : NonProxyHosts) (host : Option String) : Bool :=
  host.any fun host =>
    h.patterns.any fun pattern => Wildcard.covers Unicode.sameLetter pattern host.toList

def isEmpty (h : NonProxyHosts) : Bool :=
  h.patterns.isEmpty

end NonProxyHosts

/-- A proxy with the hosts that are reached without it. -/
structure ProxyRule where
  proxy : Proxy
  nonProxyHosts : NonProxyHosts

namespace ProxyRule

/-- The protocol a rule is for, in lower case. -/
def protocol (r : ProxyRule) : String :=
  Text.lowerString r.proxy.protocol

/-- The rule of a declared proxy; it has credentials if it has a user name or a password. -/
def ofSettings (p : ProxySettings) : ProxyRule where
  proxy := {
    protocol := p.protocol
    host := p.host
    port := p.port
    authentication :=
      (({} : AuthenticationBuilder).username p.username |>.password p.password).build }
  nonProxyHosts := .parse p.nonProxyHosts

end ProxyRule

structure ProxySelector where
  rules : List ProxyRule := []

namespace ProxySelector

def ofSettings (proxies : List ProxySettings) : ProxySelector :=
  ⟨proxies.map ProxyRule.ofSettings⟩

def add (s : ProxySelector) (proxy : Proxy) (nonProxyHosts : Option String) : ProxySelector :=
  ⟨s.rules ++ [⟨proxy, .parse nonProxyHosts⟩]⟩

/-- The protocol that proxies are chosen by: `dav` forms count as the http forms they are. -/
def normalizeProtocol (protocol : String) : String :=
  let lower := Text.lower protocol.toList
  if lower = "davs".toList then "https"
  else if lower = "dav".toList then "http"
  else String.ofList ((Text.afterLead Transport.davLead lower).getD lower)

/-- For each protocol, the first rule that does not leave the host out. -/
def candidates (s : ProxySelector) (host : Option String) : Dict ProxyRule :=
  s.rules.foldl
    (fun found rule =>
      if rule.nonProxyHosts.excludes host || found.contains rule.protocol then found
      else found.insert rule.protocol rule)
    .empty

def proxyFor (s : ProxySelector) (r : RemoteRepository) : Option Proxy :=
  let found := s.candidates r.host
  let protocol := normalizeProtocol r.protocol
  let rule := match found.get? protocol with
    | some rule => some rule
    | none => if protocol = "https" then found.get? "http" else none
  rule.map (·.proxy)

end ProxySelector

end BuildSession
