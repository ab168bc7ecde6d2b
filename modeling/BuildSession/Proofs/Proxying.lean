import BuildSession.Repository.Proxying

/-!
# Which proxy is chosen

Going through the rules once and keeping the first of each protocol comes to a search for each
protocol among the rules that do not leave the host out (`get?_candidates`). A proxy that is chosen
is thus always the proxy of some rule (`exists_rule_of_proxyFor`).

The plain search is `search`, among the rules that are open to the host (`openTo`). A rule that
leaves the host out is not among them, and one that does not speak the repository's protocol is
passed over by both passes (`search_filter_speaks`), so neither kind has a say.
-/

namespace BuildSession.ProxySelector

/-- Whether a rule is for a protocol and does not leave the host out. -/
def serves (host : Option String) (protocol : String) (rule : ProxyRule) : Bool :=
  !rule.nonProxyHosts.excludes host && rule.protocol == protocol

variable (host : Option String) (protocol : String)

/-- What is found of a protocol stays; what is not found is searched for among the rules that are
still to come. -/
theorem get?_foldl_candidates : ∀ (rules : List ProxyRule) (found : Dict ProxyRule),
    (rules.foldl
      (fun found rule =>
        if rule.nonProxyHosts.excludes host || found.contains rule.protocol then found
        else found.insert rule.protocol rule) found).get? protocol
      = (found.get? protocol).or (rules.find? (serves host protocol))
  | [], found => by simp
  | rule :: rules, found => by
    rw [List.foldl_cons, get?_foldl_candidates rules, List.find?_cons]
    by_cases hexcluded : rule.nonProxyHosts.excludes host = true
    · simp [serves, hexcluded]
    by_cases hprotocol : rule.protocol = protocol
    · subst hprotocol
      rcases hfound : found.get? rule.protocol with _ | earlier <;>
        simp [serves, hexcluded, Dict.contains, hfound, Dict.get?_insert]
    · have hserves : serves host protocol rule = false := by simp [serves, hprotocol]
      have hother : (found.insert rule.protocol rule).get? protocol = found.get? protocol := by
        rw [Dict.get?_insert, if_neg (Ne.symm hprotocol)]
      rw [hserves]
      split
      · rfl
      · rw [hother]

variable (s : ProxySelector)

theorem get?_candidates :
    (s.candidates host).get? protocol = s.rules.find? (serves host protocol) := by
  rw [candidates, get?_foldl_candidates, Dict.get?_empty, Option.none_or]

/-- Two searches: for the repository's own protocol, and for http if that is https. -/
theorem proxyFor_eq (r : RemoteRepository) : s.proxyFor r =
    ((s.rules.find? (serves r.host (normalizeProtocol r.protocol))).or
      (if normalizeProtocol r.protocol = "https" then s.rules.find? (serves r.host "http")
        else none)).map (·.proxy) := by
  simp only [proxyFor, get?_candidates]
  generalize normalizeProtocol r.protocol = protocol
  rcases s.rules.find? (serves r.host protocol) with _ | rule
  · simp only [Option.none_or]
  · simp only [Option.some_or]

/-- The choice of a proxy depends on the transport of a repository alone. -/
theorem proxyFor_congr {r r' : RemoteRepository} (h : r.transport = r'.transport) :
    s.proxyFor r = s.proxyFor r' := by
  rw [proxyFor, proxyFor, RemoteRepository.host, RemoteRepository.host, RemoteRepository.protocol,
    RemoteRepository.protocol, h]

theorem exists_rule_of_proxyFor {r : RemoteRepository} {p : Proxy} (h : s.proxyFor r = some p) :
    ∃ rule ∈ s.rules, rule.proxy = p := by
  rw [proxyFor_eq] at h
  obtain ⟨rule, hrule, hproxy⟩ := Option.map_eq_some_iff.1 h
  refine ⟨rule, ?_, hproxy⟩
  rcases Option.or_eq_some_iff.1 hrule with hown | ⟨-, hhttp⟩
  · exact List.mem_of_find?_eq_some hown
  · split at hhttp
    · exact List.mem_of_find?_eq_some hhttp
    · cases hhttp

/-- The rules that do not leave a host out. -/
def openTo (rules : List ProxyRule) : List ProxyRule :=
  rules.filter fun rule => !rule.nonProxyHosts.excludes host

/-- Whether a rule can be taken for a protocol: one for http can for https too. The protocol of its
proxy may be written in letters of either case. -/
def speaks (rule : ProxyRule) : Bool :=
  Text.lowerString rule.proxy.protocol == protocol
    || (protocol == "https" && Text.lowerString rule.proxy.protocol == "http")

/-- The first rule for a protocol, and if there is none for https the first for http. -/
def search (rules : List ProxyRule) : Option ProxyRule :=
  (rules.find? (Text.lowerString ·.proxy.protocol == protocol)).or
    (if protocol = "https" then rules.find? (Text.lowerString ·.proxy.protocol == "http") else none)

theorem find?_openTo (rules : List ProxyRule) :
    (openTo host rules).find? (Text.lowerString ·.proxy.protocol == protocol)
      = rules.find? (serves host protocol) := by
  rw [openTo, List.find?_filter]
  refine congrArg (List.find? · rules) (funext fun rule => ?_)
  rw [serves, ProxyRule.protocol, Bool.decide_and, Bool.decide_eq_true, Bool.decide_eq_true]

theorem proxyFor_eq_search (r : RemoteRepository) : s.proxyFor r =
    (search (normalizeProtocol r.protocol) (openTo r.host s.rules)).map (·.proxy) := by
  rw [proxyFor_eq, search, find?_openTo, find?_openTo]

variable {protocol} in
theorem find?_filter_speaks {q : String}
    (hq : ∀ rule : ProxyRule, Text.lowerString rule.proxy.protocol = q → speaks protocol rule)
    (rules : List ProxyRule) :
    (rules.filter (speaks protocol)).find? (Text.lowerString ·.proxy.protocol == q)
      = rules.find? (Text.lowerString ·.proxy.protocol == q) := by
  rw [List.find?_filter]
  refine congrArg (List.find? · rules) (funext fun rule => ?_)
  by_cases h : Text.lowerString rule.proxy.protocol = q
  · simp [h, hq rule h]
  · simp [h]

/-- Rules that do not speak the protocol are passed over, so the search does without them. -/
theorem search_filter_speaks (rules : List ProxyRule) :
    search protocol (rules.filter (speaks protocol)) = search protocol rules := by
  have hown : ∀ rule : ProxyRule, Text.lowerString rule.proxy.protocol = protocol →
      speaks protocol rule := by
    intro rule h
    simp [speaks, h]
  unfold search
  rw [find?_filter_speaks hown]
  by_cases hhttps : protocol = "https"
  · have hhttp : ∀ rule : ProxyRule, Text.lowerString rule.proxy.protocol = "http" →
        speaks protocol rule := by
      intro rule h
      simp [speaks, h, hhttps]
    rw [find?_filter_speaks hhttp]
  · simp only [hhttps, if_false]

variable {protocol} in
theorem mem_of_search {rules : List ProxyRule} {rule : ProxyRule}
    (h : search protocol rules = some rule) : rule ∈ rules ∧ speaks protocol rule := by
  unfold search at h
  rcases Option.or_eq_some_iff.1 h with hown | ⟨-, hhttp⟩
  · have hprotocol := List.find?_some hown
    exact ⟨List.mem_of_find?_eq_some hown, by simp [speaks, eq_of_beq hprotocol]⟩
  · split at hhttp
    · next hhttps =>
      have hprotocol := List.find?_some hhttp
      exact ⟨List.mem_of_find?_eq_some hhttp, by simp [speaks, hhttps, eq_of_beq hprotocol]⟩
    · cases hhttp

theorem openTo_filter_speaks (rules : List ProxyRule) :
    openTo host (rules.filter (speaks protocol))
      = (openTo host rules).filter (speaks protocol) := by
  simp only [openTo, List.filter_filter, Bool.and_comm]

end BuildSession.ProxySelector
