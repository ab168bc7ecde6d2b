import BuildSession.Proofs.LetterCase
import BuildSession.Proofs.Transports

/-!
# Only the authority names the host

In a url that is a scheme, `://`, a plain host name and a path, neither trimming nor any cut reaches
into the path before the name is found, so the path cannot change scheme or host
(`Url.exists_read?_of_isHostName`). Whether the url nests another one is looked up in the whole
text, though: with the scheme `dav`, a path that contains `://` makes the authority part of a nested
url that cannot be read (`Transport.nests_iff_of_isHostName`).
-/

namespace BuildSession

open Text (lower)

/-! ## Plain host names -/

/-- The characters of host names, with the dot between two labels. -/
def isNameCharacter (c : Char) : Bool :=
  c.isAlphanum || c == '-' || c == '_' || c == '.'

/-- A host name in ASCII that is no number and has no encoded labels. -/
structure IsHostName (name : List Char) : Prop where
  characters : name.all isNameCharacter = true
  unencoded : ∀ label ∈ name.splitOn '.', ¬ "xn--".toList <+: lower label
  lastLabel : ∃ label c, (name.splitOn '.').getLast? = some (c :: label) ∧ c.isAlpha = true

theorem lt_of_isAlphanum {c : Char} (h : c.isAlphanum = true) : c.toNat < 128 := by
  have hupTo : ∀ high : Char, high.toNat < 128 → c.val ≤ high.val → c.toNat < 128 :=
    fun _ hhigh hle => Nat.lt_of_le_of_lt hle hhigh
  rcases Bool.or_eq_true_iff.1 h with h | h
  · rcases Bool.or_eq_true_iff.1 h with h | h
    · exact hupTo 'Z' (by decide) (of_decide_eq_true h).2
    · exact hupTo 'z' (by decide) (of_decide_eq_true (Bool.and_eq_true_iff.1 h).2)
  · exact hupTo '9' (by decide) (of_decide_eq_true (Bool.and_eq_true_iff.1 h).2)

/-- What holds of all name characters is checked one by one. -/
theorem of_isNameCharacter {P : Char → Prop}
    (h : ∀ n < 128, isNameCharacter (Char.ofNat n) = true → P (Char.ofNat n)) {c : Char}
    (hc : isNameCharacter c = true) : P c := by
  have hlt : c.toNat < 128 := by
    have hname := hc
    simp only [isNameCharacter, Bool.or_eq_true, beq_iff_eq] at hname
    rcases hname with ((halphanum | rfl) | rfl) | rfl
    · exact lt_of_isAlphanum halphanum
    all_goals decide
  exact Text.of_toNat_lt (P := fun c => isNameCharacter c = true → P c) h hlt hc

theorem isNameCharacter_of_isAlpha {c : Char} (h : c.isAlpha = true) :
    isNameCharacter c = true := by
  simp [isNameCharacter, Char.isAlphanum, h]

namespace Ipv4

theorem no_digit_of_isAlpha {c : Char} (hc : c.isAlpha = true) :
    c.isDigit = false ∧ digit? 10 c = none :=
  of_isNameCharacter (P := fun c => c.isAlpha = true → c.isDigit = false ∧ digit? 10 c = none)
    (by decide) (isNameCharacter_of_isAlpha hc) hc

/-- A label that starts with a letter is no number. -/
theorem number?_cons_of_isAlpha {c : Char} {label : List Char} (hc : c.isAlpha = true) :
    number? (c :: label) = none := by
  have hzero : c ≠ '0' := by
    rintro rfl
    cases hc
  unfold number?
  split
  · next heq => cases heq
  · next heq => exact absurd (List.cons.inj heq).1 hzero
  · next heq => exact absurd (List.cons.inj heq).1 hzero
  · next heq => exact absurd (List.cons.inj heq).1 hzero
  · simp [digits?, (no_digit_of_isAlpha hc).2]

end Ipv4

theorem DomainName.encodedRest?_eq_none {label : List Char} (h : ¬ "xn--".toList <+: label) :
    encodedRest? (label.map Char.toNat) = none := by
  refine if_neg fun hlead => h ?_
  have htake : (label.take 4).map Char.toNat = "xn--".toList.map Char.toNat := by
    rw [List.map_take, hlead]
    rfl
  have hinjective : Function.Injective Char.toNat := fun _ _ => Char.toNat_inj.1
  rw [← List.map_injective_iff.2 hinjective htake]
  exact List.take_prefix 4 label

/-- A host without colon and bracket is all that an authority has. -/
theorem Url.spanHost_eq_self : ∀ {cs : List Char}, ':' ∉ cs → '[' ∉ cs →
    spanHost false cs = (cs, [])
  | [], _, _ => rfl
  | c :: cs, hcolon, hbracket => by
    have hc : c ≠ ':' := (List.ne_of_not_mem_cons hcolon).symm
    have hc' : c ≠ '[' := (List.ne_of_not_mem_cons hbracket).symm
    have hrest := spanHost_eq_self (List.not_mem_of_not_mem_cons hcolon)
      (List.not_mem_of_not_mem_cons hbracket)
    simp [spanHost, hc, hc', hrest]

namespace IsHostName

variable {name : List Char} (h : IsHostName name)

include h

theorem forall_mem {P : Char → Prop}
    (hP : ∀ n < 128, isNameCharacter (Char.ofNat n) = true → P (Char.ofNat n)) :
    ∀ c ∈ name, P c :=
  fun c hc => of_isNameCharacter hP (List.all_eq_true.1 h.characters c hc)

theorem ne_nil : name ≠ [] := by
  rintro rfl
  obtain ⟨label, c, hlast, -⟩ := h.lastLabel
  cases hlast

theorem endsInNumber_lower : Ipv4.endsInNumber (lower name) = false := by
  obtain ⟨label, c, hlast, hc⟩ := h.lastLabel
  have hparts : ((lower name).splitOn '.').getLast? = some (c.toLower :: lower label) := by
    rw [Text.splitOn_lower (by decide), List.getLast?_map, hlast]
    rfl
  have hletter : c.toLower.isAlpha = true := (Text.ignoresCase_isAlpha c).trans hc
  have hdigit : c.toLower.isDigit = false := (Ipv4.no_digit_of_isAlpha hletter).1
  have hlabels : Ipv4.labels (lower name) = (lower name).splitOn '.' := by
    rw [Ipv4.labels, hparts]
    exact if_neg (by simp)
  rw [Ipv4.endsInNumber, hlabels, hparts]
  simp [hdigit, Ipv4.number?_cons_of_isAlpha hletter]

theorem isPlain : DomainName.isPlain name = true := by
  have hascii : ∀ c ∈ name, c.toNat < 128 := h.forall_mem (by decide)
  rw [DomainName.isPlain, Bool.and_eq_true, List.all_eq_true, List.all_eq_true,
    Text.splitOn_lower (by decide)]
  refine ⟨fun c hc => decide_eq_true (hascii c hc), fun label hlabel => ?_⟩
  obtain ⟨label, hmem, rfl⟩ := List.mem_map.1 hlabel
  rw [DomainName.encodedRest?_eq_none (h.unencoded label hmem)]
  rfl

theorem toAscii? : DomainName.toAscii? name = some (lower name) := by
  have hforbidden : ∀ c ∈ name, ¬ DomainName.isForbidden c.toNat = true := h.forall_mem (by decide)
  rw [DomainName.toAscii?, if_pos h.isPlain]
  exact if_neg (by simpa using hforbidden)

theorem not_mem {sep : Char} (hsep : isNameCharacter sep = false) : sep ∉ name := by
  intro hmem
  have hname := List.all_eq_true.1 h.characters sep hmem
  rw [hsep] at hname
  cases hname

theorem head?_ne {sep : Char} (hsep : isNameCharacter sep = false) : name.head? ≠ some sep :=
  fun hhead => h.not_mem hsep (List.mem_of_mem_head? hhead)

theorem ofWeb? : Url.Host.ofWeb? name = some (.domain (lower name)) := by
  have hdecoded : Percent.decode? name = some name :=
    if_neg fun hpercent => h.not_mem (by decide) (List.contains_iff_mem.1 hpercent)
  have hnil : lower name ≠ [] := fun hnil => h.ne_nil (Text.lower_eq_nil_iff.1 hnil)
  have hnumber := h.endsInNumber_lower
  rw [Url.Host.ofWeb?, if_neg (h.head?_ne (by decide)), hdecoded, Option.bind_some, h.toAscii?]
  generalize lower name = small at hnil hnumber ⊢
  rcases small with _ | ⟨c, cs⟩
  · exact absurd rfl hnil
  · exact if_neg (Bool.eq_false_iff.1 hnumber)

theorem ofOpaque? : Url.Host.ofOpaque? name = some (.domain name) := by
  have hdelimiter : ∀ c ∈ name, ¬ Url.isDelimiter c = true := h.forall_mem (by decide)
  have hprintable : ∀ c ∈ name, 32 ≤ c.toNat ∧ c.toNat ≤ 126 := h.forall_mem (by decide)
  have hencoded : Percent.encodeControls name = name := by
    rw [Percent.encodeControls, List.flatMap_congr fun c hc => if_pos (hprintable c hc)]
    exact List.flatMap_singleton' name
  rw [Url.Host.ofOpaque?, if_neg (h.head?_ne (by decide)), if_neg (by simpa using hdelimiter),
    hencoded]

/-- What ends an authority ends it behind the name. -/
theorem cut_at_path {p : Char → Bool}
    (hp : ∀ n < 128, isNameCharacter (Char.ofNat n) = true → (!p (Char.ofNat n)) = true)
    (hslash : p '/' = true) (path : List Char) :
    (name ++ '/' :: path).takeWhile (!p ·) = name
      ∧ (name ++ '/' :: path).dropWhile (!p ·) = '/' :: path := by
  have hname : ∀ c ∈ name, (!p c) = true := h.forall_mem hp
  rw [List.takeWhile_append_of_pos hname, List.dropWhile_append_of_pos hname]
  simp [hslash]

theorem dropWhile_slashes (path : List Char) :
    ('/' :: '/' :: (name ++ path)).dropWhile (fun c => c == '/' || c == '\\') = name ++ path := by
  have hslash : ∀ c ∈ name, c ≠ '/' ∧ c ≠ '\\' := h.forall_mem (by decide)
  obtain ⟨c, cs, rfl⟩ := List.exists_cons_of_ne_nil h.ne_nil
  simp [hslash c List.mem_cons_self]

theorem cutUserInfo : Url.cutUserInfo name = ([], name) := by
  have hno : ¬ ['@'] <:+: name := fun hat =>
    h.not_mem (by decide) (hat.subset (List.mem_singleton_self '@'))
  rw [Url.cutUserInfo, (Text.cutLast_eq_none_iff (by decide) name).2 hno]

theorem spanHost : Url.spanHost false name = (name, []) :=
  Url.spanHost_eq_self (h.not_mem (by decide)) (h.not_mem (by decide))

theorem webHost? : Url.webHost? name = some (.domain (lower name)) := by
  rw [Url.webHost?, h.cutUserInfo]
  simp only [h.spanHost, h.ne_nil, h.ofWeb?, if_false]
  rfl

theorem opaqueHost? : Url.opaqueHost? name false = some (.domain name) := by
  rw [Url.opaqueHost?, h.cutUserInfo]
  simp only [h.spanHost, h.ne_nil, h.ofOpaque?, if_false, false_and, and_false]
  rfl

end IsHostName

/-! ## Urls with a plain host name -/

namespace Url

variable {scheme name : List Char}

/-- Only the path of a url can lose anything when blank ends and line breaks are taken out. -/
theorem IsScheme.joined_trimmed_of_isHostName (hs : IsScheme scheme) (hn : IsHostName name)
    (path : List Char) :
    ∃ path', joined (trimmed (scheme ++ ':' :: '/' :: '/' :: (name ++ '/' :: path)))
      = scheme ++ ':' :: '/' :: '/' :: (name ++ '/' :: path') := by
  have hname : ∀ c ∈ name, 32 < c.toNat := hn.forall_mem (by decide)
  have hfront : ∀ c ∈ scheme ++ ':' :: '/' :: '/' :: (name ++ ['/']), 32 < c.toNat := by
    simp only [List.forall_mem_append, List.forall_mem_cons]
    exact ⟨hs.lt_of_mem, by decide, by decide, by decide, hname, by decide, List.forall_mem_nil _⟩
  have hne := List.append_ne_nil_of_left_ne_nil hs.ne_nil (':' :: '/' :: '/' :: (name ++ ['/']))
  simpa only [List.append_assoc, List.cons_append, List.nil_append]
    using Url.exists_joined_trimmed hne hfront path

/-- Whatever the path, the scheme is kept and the host is the name, up to letter case. -/
theorem exists_read?_of_isHostName (hs : IsScheme scheme) (hfile : lower scheme ≠ "file".toList)
    (hn : IsHostName name) (path : List Char) :
    ∃ host, read? (scheme ++ ':' :: '/' :: '/' :: (name ++ '/' :: path))
        = some ⟨lower scheme, some host⟩ ∧ lower host = lower name := by
  obtain ⟨path', hpath⟩ := hs.joined_trimmed_of_isHostName hn path
  rw [read?, hpath, hs.cutScheme?_append]
  simp only [if_neg hfile]
  by_cases hweb : lower scheme ∈ webSchemes
  · obtain ⟨htake, -⟩ := hn.cut_at_path (p := endsAuthority) (by decide) (by decide) path'
    refine ⟨lower name, ?_, Text.lower_lower name⟩
    rw [if_pos hweb, hn.dropWhile_slashes, htake, hn.webHost?]
    rfl
  · obtain ⟨htake, hdrop⟩ := hn.cut_at_path (p := fun c => c == '/' || c == '?' || c == '#')
      (by decide) (by decide) path'
    refine ⟨name, ?_, rfl⟩
    have hlead : Text.afterLead ['/', '/'] ('/' :: '/' :: (name ++ '/' :: path'))
        = some (name ++ '/' :: path') := rfl
    have htext : (Host.domain name).text ≠ [] := hn.ne_nil
    rw [if_neg hweb, hlead]
    simp only [htake, hdrop, List.isEmpty_cons, hn.opaqueHost?, Option.map_some, if_neg htext]
    rfl

/-- A text that starts with a slash is no url. -/
theorem read?_slash (cs : List Char) : read? ('/' :: cs) = none := by
  have hslash : ∀ c ∈ ['/'], 32 < c.toNat := List.forall_mem_singleton.2 (by decide)
  obtain ⟨rest, hrest⟩ := exists_joined_trimmed (List.cons_ne_nil '/' []) hslash cs
  have hcut : cutScheme? ('/' :: rest) = none := by
    rw [cutScheme?, Text.cutFirst, if_neg (by decide)]
    rcases Text.cutFirst ':' rest with _ | ⟨scheme, rest⟩
    · rfl
    · exact if_neg fun hscheme => absurd hscheme.1 (by simp)
  rw [read?, ← List.singleton_append, hrest]
  simp [hcut]

end Url

namespace Transport

/-- The host name has no part in whether a url nests another; the path has. -/
theorem nests_iff_of_isHostName {scheme name path : List Char} (hs : Url.IsScheme scheme)
    (hn : IsHostName name) : Nests (scheme ++ ':' :: '/' :: '/' :: (name ++ '/' :: path)) ↔
      scheme = "dav".toList ∧ "://".toList <:+: path := by
  have hcolon : ':' ∉ '/' :: '/' :: (name ++ ['/']) := by
    simp [hn.not_mem (by decide : isNameCharacter ':' = false)]
  have hpath : [':', '/', '/'] <:+: '/' :: '/' :: (name ++ '/' :: path)
      ↔ [':', '/', '/'] <:+: path := by
    simpa only [List.append_assoc, List.cons_append, List.nil_append]
      using Text.infix_append_iff hcolon
  exact (nests_iff_of_isScheme hs).trans (and_congr_right' hpath)

section

variable {url : String} {scheme name path : List Char}
  (hurl : url.toList = scheme ++ ':' :: '/' :: '/' :: (name ++ '/' :: path))

include hurl

/-- Where no url is nested, the scheme is the protocol and the name behind it the host. -/
theorem ofUrl_of_isHostName (hs : Url.IsScheme scheme) (hfile : lower scheme ≠ "file".toList)
    (hn : IsHostName name) (hnests : ¬ Nests url.toList) :
    ofUrl url = ⟨String.ofList (lower scheme), some (String.ofList (lower name))⟩ := by
  obtain ⟨host, hread, hhost⟩ := Url.exists_read?_of_isHostName hs hfile hn path
  rw [ofUrl_eq, cutDav_of_not_nests hnests, hurl, hread, ofRead, Option.map_some, hhost]
  rfl

theorem ofUrl_of_path_nests (hscheme : scheme = "dav".toList) (hnests : Nests url.toList) :
    ofUrl url = ⟨"dav", none⟩ := by
  obtain ⟨inner, heq, hinner⟩ := hnests
  have hslash : inner = '/' :: '/' :: (name ++ '/' :: path) := by
    rw [heq, hscheme] at hurl
    exact List.append_cancel_left (hurl : davLead ++ inner = davLead ++ _)
  rw [ofUrl_eq, heq, cutDav_of_nests hinner, hslash, Url.read?_slash]
  rfl

end

end Transport

/-- The name is none of this machine's addresses, only possibly its name. -/
theorem IsHostName.isExternal_iff {name : List Char} (h : IsHostName name)
    {protocol : String} (hfile : protocol ≠ "file") :
    Transport.isExternal ⟨protocol, some (String.ofList (lower name))⟩ = true
      ↔ String.ofList (lower name) ≠ "localhost" := by
  have haddress : String.ofList (lower name) ≠ "127.0.0.1" := by
    intro heq
    have hnumber := h.endsInNumber_lower
    rw [← String.toList_ofList (l := lower name), heq] at hnumber
    exact absurd hnumber (by decide)
  simp [Transport.isExternal, haddress, hfile]

namespace RemoteRepository

open Transport (Nests)

/-- A url of a scheme other than `file`, a plain host name and any path has the scheme for its
protocol, whatever the path contains. Its host is the name, unless the scheme is `dav` and the path
contains `://`: then it has none, so it counts as external and no list takes it out. -/
theorem authority_decides_unless_path_nests (r : RemoteRepository) (scheme name path : String)
    (hs : Url.IsScheme scheme.toList) (hfile : Text.lowerString scheme ≠ "file")
    (hn : IsHostName name.toList) (hurl : r.url = scheme ++ "://" ++ name ++ "/" ++ path) :
    r.protocol = Text.lowerString scheme
      ∧ (¬ (scheme = "dav" ∧ "://".toList <:+: path.toList) →
        r.host = some (Text.lowerString name)
          ∧ (r.transport.isExternal = true ↔ Text.lowerString name ≠ "localhost")
          ∧ ∀ hosts : NonProxyHosts,
            hosts.excludes r.host = hosts.excludes (some (Text.lowerString name)))
      ∧ (scheme = "dav" ∧ "://".toList <:+: path.toList →
        r.host = none ∧ r.transport.isExternal = true
          ∧ ∀ hosts : NonProxyHosts, hosts.excludes r.host = false) := by
  have hlist : r.url.toList
      = scheme.toList ++ ':' :: '/' :: '/' :: (name.toList ++ '/' :: path.toList) := by
    rw [hurl]
    simp
  have hnests : Nests r.url.toList ↔ scheme = "dav" ∧ "://".toList <:+: path.toList := by
    rw [hlist, Transport.nests_iff_of_isHostName hs hn, String.toList_inj]
  have hscheme : lower scheme.toList ≠ "file".toList := by
    intro heq
    exact hfile (congrArg String.ofList heq)
  rw [← hnests, protocol, host, transport]
  by_cases h : Nests r.url.toList
  · have hdav : scheme.toList = "dav".toList := congrArg String.toList (hnests.1 h).1
    rw [Transport.ofUrl_of_path_nests hlist hdav h, Text.lowerString, hdav]
    exact ⟨rfl, fun hnot => absurd h hnot, fun _ => ⟨rfl, rfl, fun _ => rfl⟩⟩
  · rw [Transport.ofUrl_of_isHostName hlist hs hscheme hn h]
    exact ⟨rfl, fun _ => ⟨rfl, hn.isExternal_iff hfile, fun _ => rfl⟩, fun h' => absurd h' h⟩

theorem authority_decides_beside_url_in_query :
    let r : RemoteRepository :=
      { id := "central", url := "HTTPS://Repo.example/m2?from=dav:https://other.example" }
    Url.IsScheme "HTTPS".toList ∧ IsHostName "Repo.example".toList
      ∧ r.protocol = "https" ∧ r.host = some "repo.example" ∧ r.transport.isExternal = true := by
  intro r
  have hs : Url.IsScheme "HTTPS".toList := ⟨by decide, by decide⟩
  have hn : IsHostName "Repo.example".toList :=
    ⟨by decide, by decide, "xample".toList, 'e', by decide, by decide⟩
  obtain ⟨hprotocol, hhost, -⟩ := authority_decides_unless_path_nests r "HTTPS" "Repo.example"
    "m2?from=dav:https://other.example" hs (by decide) hn (by decide)
  obtain ⟨hhost, hexternal, -⟩ := hhost fun h => absurd h.1 (by decide)
  exact ⟨hs, hn, hprotocol.trans (by decide), hhost.trans (by decide), hexternal.2 (by decide)⟩

/-- With another url in its query, a `dav` repository on this machine counts as external. -/
theorem url_in_query_hides_host :
    let r : RemoteRepository := { id := "central", url := "dav://localhost/m2" }
    let r' := { r with url := r.url ++ "?from=https://other.example" }
    r.transport = ⟨"dav", some "localhost"⟩ ∧ r.transport.isExternal = false
      ∧ r'.transport = ⟨"dav", none⟩ ∧ r'.transport.isExternal = true := by
  decide

end RemoteRepository

end BuildSession
