import BuildSession.Proofs.Mirroring
import Mathlib.Data.List.Basic

/-!
# What a pattern matches

A segment decides about a name if it is the name or excludes it, and the first segment that decides
settles the matter. Only where none decides do the wildcards count, in any order and number
(`scan_eq_true_iff`, `matchesPattern_iff_first_decision`). So an exclusion overrides all wildcards,
before it or behind it, but not the name itself in front of it
(`exclusion_vetoes_iff_excludedFirst`). Patterns over layouts are read in the same way, with fewer
wildcards (`matchesLayout_eq_matchesPattern`).
-/

namespace BuildSession

namespace Pattern

variable {name s : List Char} {wild segs : List (List Char)}

/-- `!` in front of the name. -/
def Excludes (name s : List Char) : Prop :=
  name ≠ [] ∧ s = '!' :: name

/-- The name itself, unless it reads as the exclusion of another one. -/
def Includes (name s : List Char) : Prop :=
  s = name ∧ ∀ rest, rest ≠ [] → s ≠ '!' :: rest

/-- A segment that decides about the name, whatever else the pattern says. -/
def Decides (name s : List Char) : Prop :=
  Excludes name s ∨ Includes name s

/-- Of the segments that decide, the first is the name. -/
def IncludedFirst (name : List Char) (segs : List (List Char)) : Prop :=
  ∃ s, IsFirst (Decides name) segs s ∧ Includes name s

/-- Of the segments that decide, the first excludes the name. -/
def ExcludedFirst (name : List Char) (segs : List (List Char)) : Prop :=
  ∃ s, IsFirst (Decides name) segs s ∧ Excludes name s

theorem not_decides (hbang : s ≠ '!' :: name) (hname : s ≠ name) : ¬ Decides name s := by
  rintro (⟨-, h⟩ | ⟨h, -⟩)
  · exact hbang h
  · exact hname h

theorem not_includes_of_excludes (h : Excludes name s) : ¬ Includes name s := by
  rintro ⟨-, hplain⟩
  exact hplain name h.1 h.2

/-! ## One segment -/

theorem verdict_bang {rest : List Char} (hrest : rest ≠ []) :
    verdict name wild ('!' :: rest) = if rest = name then .excludes else .silent := by
  obtain ⟨c, cs, rfl⟩ := List.exists_cons_of_ne_nil hrest
  rfl

theorem verdict_plain (h : ∀ rest, rest ≠ [] → s ≠ '!' :: rest) :
    verdict name wild s =
      if s = name then .includes else if wild.contains s then .covers else .silent := by
  unfold verdict
  split
  · next c cs => exact absurd rfl (h (c :: cs) (List.cons_ne_nil c cs))
  · rfl

/-- What a segment can say about a name, and when it says so. -/
theorem verdict_cases (hwild : ∀ w ∈ wild, ∀ rest, w ≠ '!' :: rest) (name s : List Char) :
    (Excludes name s ∧ verdict name wild s = .excludes)
      ∨ (Includes name s ∧ verdict name wild s = .includes)
      ∨ (¬ Decides name s ∧ s ∈ wild ∧ verdict name wild s = .covers)
      ∨ (¬ Decides name s ∧ s ∉ wild ∧ verdict name wild s = .silent) := by
  by_cases hbang : ∃ rest, rest ≠ [] ∧ s = '!' :: rest
  · obtain ⟨rest, hrest, rfl⟩ := hbang
    have hsilent : '!' :: rest ∉ wild := fun h => hwild _ h rest rfl
    have hplain : ¬ Includes name ('!' :: rest) := fun h => h.2 rest hrest rfl
    rw [verdict_bang hrest]
    by_cases hname : rest = name
    · subst hname
      exact .inl ⟨⟨hrest, rfl⟩, if_pos rfl⟩
    · have hkept : ¬ Excludes name ('!' :: rest) := fun h => hname (List.cons.inj h.2).2
      exact .inr (.inr (.inr ⟨not_or.2 ⟨hkept, hplain⟩, hsilent, if_neg hname⟩))
  · have hplain : ∀ rest, rest ≠ [] → s ≠ '!' :: rest := fun rest hrest h => hbang ⟨rest, hrest, h⟩
    have hkept : ¬ Excludes name s := fun h => hplain name h.1 h.2
    rw [verdict_plain hplain]
    by_cases hname : s = name
    · exact .inr (.inl ⟨⟨hname, hplain⟩, if_pos hname⟩)
    · have hopen : ¬ Decides name s := not_or.2 ⟨hkept, fun h => hname h.1⟩
      rw [if_neg hname]
      by_cases hcovers : s ∈ wild
      · exact .inr (.inr (.inl ⟨hopen, hcovers, if_pos (List.contains_iff_mem.2 hcovers)⟩))
      · refine .inr (.inr (.inr ⟨hopen, hcovers, if_neg ?_⟩))
        rwa [List.contains_iff_mem]

/-! ## All segments -/

theorem includedFirst_nil : ¬ IncludedFirst name [] := by
  rintro ⟨s, hfirst, -⟩
  exact not_isFirst_nil hfirst

theorem includedFirst_cons : IncludedFirst name (s :: segs) ↔
    Includes name s ∨ ¬ Decides name s ∧ IncludedFirst name segs := by
  unfold IncludedFirst
  simp only [isFirst_cons]
  constructor
  · rintro ⟨t, ⟨-, rfl⟩ | ⟨hs, hfirst⟩, ht⟩
    · exact .inl ht
    · exact .inr ⟨hs, t, hfirst, ht⟩
  · rintro (hs | ⟨hs, t, hfirst, ht⟩)
    · exact ⟨s, .inl ⟨.inr hs, rfl⟩, hs⟩
    · exact ⟨t, .inr ⟨hs, hfirst⟩, ht⟩

/-- Segments match if the first that decides includes the name. Wildcards count only where none
decides. -/
theorem scan_eq_true_iff (hwild : ∀ w ∈ wild, ∀ rest, w ≠ '!' :: rest) :
    ∀ (segs : List (List Char)) (covered : Bool), scan name wild covered segs = true ↔
      IncludedFirst name segs
        ∨ (∀ s ∈ segs, ¬ Decides name s) ∧ (covered = true ∨ ∃ s ∈ segs, s ∈ wild)
  | [], covered => by simp [scan, includedFirst_nil]
  | s :: segs, covered => by
    rw [scan, includedFirst_cons, List.forall_mem_cons]
    -- A segment that decides ends the scan; any other leaves the matter to the rest.
    rcases verdict_cases hwild name s with
      ⟨hs, hv⟩ | ⟨hs, hv⟩ | ⟨hs, hmem, hv⟩ | ⟨hs, hmem, hv⟩
    · have hdecides : Decides name s := .inl hs
      simp [hv, hdecides, not_includes_of_excludes hs]
    · simp [hv, hs]
    · have hplain : ¬ Includes name s := fun h => hs (.inr h)
      simp [hv, hs, hmem, hplain, scan_eq_true_iff hwild segs]
    · have hplain : ¬ Includes name s := fun h => hs (.inr h)
      simp [hv, hs, hmem, hplain, scan_eq_true_iff hwild segs]

theorem not_includedFirst_of_excludedFirst (h : ExcludedFirst name segs) :
    ¬ IncludedFirst name segs := by
  obtain ⟨s, hfirst, hs⟩ := h
  rintro ⟨t, hfirst', ht⟩
  obtain rfl := hfirst.unique hfirst'
  exact not_includes_of_excludes hs ht

/-- An exclusion of the name vetoes the match exactly if no inclusion of it stands in front of all
exclusions. -/
theorem scan_eq_false_iff (hwild : ∀ w ∈ wild, ∀ rest, w ≠ '!' :: rest) (hname : name ≠ [])
    (hexclusion : '!' :: name ∈ segs) :
    scan name wild false segs = false ↔ ExcludedFirst name segs := by
  have hdecides : Decides name ('!' :: name) := .inl ⟨hname, rfl⟩
  rw [← Bool.not_eq_true, scan_eq_true_iff hwild]
  constructor
  · intro h
    obtain ⟨s, hfirst⟩ := exists_isFirst_iff.2 ⟨_, hexclusion, hdecides⟩
    rcases hfirst.holds with hs | hs
    · exact ⟨s, hfirst, hs⟩
    · exact absurd (.inl ⟨s, hfirst, hs⟩) h
  · rintro hexcluded (hincluded | ⟨hopen, -⟩)
    · exact not_includedFirst_of_excludedFirst hexcluded hincluded
    · exact hopen _ hexclusion hdecides

/-! ## Whole patterns -/

theorem ne_of_exclusion {name pattern : String} (hname : name ≠ "")
    (h : '!' :: name.toList ∈ segments pattern) :
    pattern ≠ "" ∧ pattern ≠ anything ∧ pattern ≠ name := by
  have hpos : name.toList ≠ [] := fun h => hname (String.toList_eq_nil_iff.1 h)
  -- An exclusion is longer than the name, and so than every pattern that is read as a whole.
  have hlong := Text.length_le_of_mem_segments h
  rw [List.length_cons] at hlong
  have hlength := List.length_pos_iff.2 hpos
  refine ⟨?_, ?_, ?_⟩ <;> rintro rfl
  · rw [String.toList_empty, List.length_nil] at hlong
    omega
  · have hone : anything.toList.length = 1 := rfl
    omega
  · omega

end Pattern

namespace RemoteRepository

variable (r : RemoteRepository)

/-- A wildcard that covers the repository. -/
def CoveredBy (s : List Char) : Prop :=
  s = "*".toList
    ∨ s = "external:*".toList ∧ r.transport.isExternal = true
    ∨ s = "external:http:*".toList ∧ r.transport.isExternalHttp = true

theorem mem_wildcards_iff {s : List Char} : s ∈ r.wildcards ↔ r.CoveredBy s := by
  rw [wildcards, List.mem_append, List.mem_append, List.mem_ite_nil_right,
    List.mem_ite_nil_right, List.mem_singleton, List.mem_singleton, List.mem_singleton]
  constructor
  · rintro ((⟨hexternal, h⟩ | ⟨hhttp, h⟩) | h)
    · exact .inr (.inl ⟨h, hexternal⟩)
    · exact .inr (.inr ⟨h, hhttp⟩)
    · exact .inl h
  · rintro (h | ⟨h, hexternal⟩ | ⟨h, hhttp⟩)
    · exact .inr h
    · exact .inl (.inl ⟨hexternal, h⟩)
    · exact .inl (.inr ⟨hhttp, h⟩)

theorem ne_bang_of_mem_wildcards : ∀ w ∈ r.wildcards, ∀ rest, w ≠ '!' :: rest := by
  intro w hw rest heq
  rcases r.mem_wildcards_iff.1 hw with rfl | ⟨rfl, -⟩ | ⟨rfl, -⟩ <;>
    exact absurd (List.cons.inj heq).1 (by decide)

/-- A pattern matches as one of its two shortcuts, or by the first segment that decides, or, where
none decides, by a wildcard. -/
theorem matchesPattern_eq_true_iff (pattern : String) :
    r.matchesPattern pattern = true ↔ pattern = "*" ∨ pattern = r.id
      ∨ Pattern.IncludedFirst r.id.toList (Pattern.segments pattern)
      ∨ (∀ s ∈ Pattern.segments pattern, ¬ Pattern.Decides r.id.toList s)
        ∧ ∃ s ∈ Pattern.segments pattern, r.CoveredBy s := by
  have hscan := @Pattern.scan_eq_true_iff r.id.toList r.wildcards r.ne_bang_of_mem_wildcards
  simp only [matchesPattern, Pattern.anything, Bool.or_eq_true, beq_iff_eq, hscan, or_assoc,
    Bool.false_eq_true, false_or, mem_wildcards_iff]

/-- A pattern matches a repository if it is the wildcard for everything or the id, if of its
segments the first that decides about the id is the id, or if none decides and one is a wildcard
that covers the repository. Where none decides, the order and the number of the segments do not
matter. -/
theorem matchesPattern_iff_first_decision (pattern : String) :
    (r.matchesPattern pattern = true ↔ pattern = "*" ∨ pattern = r.id
      ∨ Pattern.IncludedFirst r.id.toList (Pattern.segments pattern)
      ∨ (∀ s ∈ Pattern.segments pattern, ¬ Pattern.Decides r.id.toList s)
        ∧ ∃ s ∈ Pattern.segments pattern, r.CoveredBy s)
    ∧ ∀ other : String, (∀ s, s ∈ Pattern.segments other ↔ s ∈ Pattern.segments pattern) →
      (∀ s ∈ Pattern.segments pattern, ¬ Pattern.Decides r.id.toList s) →
      (r.matchesPattern other = true ↔
        other = r.id ∨ ∃ s ∈ Pattern.segments pattern, r.CoveredBy s) := by
  refine ⟨r.matchesPattern_eq_true_iff pattern, fun other hsame hopen => ?_⟩
  have hopen' : ∀ s ∈ Pattern.segments other, ¬ Pattern.Decides r.id.toList s :=
    fun s hs => hopen s ((hsame s).1 hs)
  have hcovered : (∃ s ∈ Pattern.segments other, r.CoveredBy s) ↔
      ∃ s ∈ Pattern.segments pattern, r.CoveredBy s :=
    exists_congr fun s => and_congr_left fun _ => hsame s
  rw [r.matchesPattern_eq_true_iff, ← hcovered]
  constructor
  · rintro (rfl | hid | ⟨s, hfirst, -⟩ | ⟨-, h⟩)
    · exact .inr ⟨"*".toList, by decide, .inl rfl⟩
    · exact .inl hid
    · exact absurd hfirst.holds (hopen' s hfirst.mem)
    · exact .inr h
  · rintro (hid | h)
    · exact .inr (.inl hid)
    · exact .inr (.inr (.inr ⟨hopen', h⟩))

/-- The id `!a` stands in a pattern as the exclusion of `a`, so only the wildcard covers it. -/
theorem matchesPattern_iff_first_decision_of_banged_id :
    let r : RemoteRepository := { id := "!a", url := "https://repo.example" }
    let segments : List (List Char) := Pattern.segments "!a, external:*"
    (∀ s, s ∈ Pattern.segments "external:*,external:*, !a" ↔ s ∈ segments)
      ∧ (∀ s ∈ segments, ¬ Pattern.Decides r.id.toList s)
      ∧ r.matchesPattern "external:*,external:*, !a" = true := by
  intro r segments
  have hsegments : segments = ["!a".toList, "external:*".toList] := by decide
  have hother : Pattern.segments "external:*,external:*, !a"
      = ["external:*".toList, "external:*".toList, "!a".toList] := by decide
  have hsame : ∀ s, s ∈ Pattern.segments "external:*,external:*, !a" ↔ s ∈ segments := by
    intro s
    simp only [hother, hsegments, List.mem_cons, List.not_mem_nil, or_false]
    rw [or_self_left, or_comm]
  have hopen : ∀ s ∈ segments, ¬ Pattern.Decides r.id.toList s := by
    intro s hs
    rw [hsegments, List.mem_pair] at hs
    rcases hs with rfl | rfl
    · rintro (⟨-, h⟩ | ⟨-, hplain⟩)
      · exact absurd h (by decide)
      · exact hplain ['a'] (by decide) rfl
    · exact Pattern.not_decides (by decide) (by decide)
  have hexternal : r.CoveredBy "external:*".toList := .inr (.inl ⟨rfl, by decide⟩)
  refine ⟨hsame, hopen, ?_⟩
  rw [(r.matchesPattern_iff_first_decision "!a, external:*").2 _ hsame hopen]
  exact .inr ⟨"external:*".toList, by decide, hexternal⟩

end RemoteRepository

/-- An exclusion vetoes the match, of a repository by its id or of a layout, exactly if no segment
in front of all exclusions is the name itself. -/
theorem exclusion_vetoes_iff_excludedFirst (r : RemoteRepository) (layout pattern : String) :
    (r.id ≠ "" → '!' :: r.id.toList ∈ Pattern.segments pattern →
      (r.matchesPattern pattern = false ↔
        Pattern.ExcludedFirst r.id.toList (Pattern.segments pattern)))
    ∧ (layout ≠ "" → '!' :: layout.toList ∈ Pattern.segments pattern →
      (matchesLayout layout pattern = false ↔
        Pattern.ExcludedFirst layout.toList (Pattern.segments pattern))) := by
  refine ⟨fun hname hexclusion => ?_, fun hname hexclusion => ?_⟩
  · obtain ⟨-, hanything, hid⟩ := Pattern.ne_of_exclusion hname hexclusion
    rw [← Pattern.scan_eq_false_iff r.ne_bang_of_mem_wildcards
      (fun h => hname (String.toList_eq_nil_iff.1 h)) hexclusion]
    simp [RemoteRepository.matchesPattern, hanything, hid]
  · obtain ⟨hempty, hanything, hlayout⟩ := Pattern.ne_of_exclusion hname hexclusion
    have hwild : ∀ w ∈ [Pattern.anything.toList], ∀ rest, w ≠ '!' :: rest := by
      simp [Pattern.anything]
    rw [← Pattern.scan_eq_false_iff hwild
      (fun h => hname (String.toList_eq_nil_iff.1 h)) hexclusion]
    simp [matchesLayout, hempty, hanything, hlayout]

/-- Wildcards on both sides and the name behind do not help against an exclusion. -/
theorem exclusion_vetoes_wildcards_and_name_behind :
    let r : RemoteRepository := { id := "central", url := "https://repo.example" }
    r.id ≠ "" ∧ '!' :: r.id.toList ∈ Pattern.segments "*, !central ,external:*,central"
      ∧ r.matchesPattern "*, !central ,external:*,central" = false
      ∧ "p2" ≠ "" ∧ '!' :: "p2".toList ∈ Pattern.segments "!p2,*,p2"
      ∧ matchesLayout "p2" "!p2,*,p2" = false := by
  intro r
  have hid : r.id ≠ "" := by decide
  have hexclusion : '!' :: r.id.toList ∈ Pattern.segments "*, !central ,external:*,central" := by
    decide
  have hlayout : '!' :: "p2".toList ∈ Pattern.segments "!p2,*,p2" := by decide
  refine ⟨hid, hexclusion, ?_, by decide, hlayout, ?_⟩
  · have hexcludes : Pattern.Excludes r.id.toList ('!' :: r.id.toList) := ⟨by decide, rfl⟩
    refine ((exclusion_vetoes_iff_excludedFirst r "p2" _).1 hid hexclusion).2 ⟨_, ?_, hexcludes⟩
    refine ⟨["*".toList], ["external:*".toList, "central".toList], by decide, .inl hexcludes, ?_⟩
    rw [List.forall_mem_singleton]
    exact Pattern.not_decides (by decide) (by decide)
  · have hexcludes : Pattern.Excludes "p2".toList ('!' :: "p2".toList) := ⟨by decide, rfl⟩
    refine ((exclusion_vetoes_iff_excludedFirst r "p2" _).2 (by decide) hlayout).2
      ⟨_, ?_, hexcludes⟩
    exact ⟨[], ["*".toList, "p2".toList], by decide, .inl hexcludes, by simp⟩

theorem name_overrides_exclusion_behind :
    let r : RemoteRepository := { id := "central", url := "https://repo.example" }
    r.id ≠ "" ∧ '!' :: r.id.toList ∈ Pattern.segments "central,!central"
      ∧ r.matchesPattern "central,!central" = true
      ∧ "default" ≠ "" ∧ '!' :: "default".toList ∈ Pattern.segments "default,!default"
      ∧ matchesLayout "default" "default,!default" = true := by
  decide

/-! ## Patterns over ids and over layouts -/

namespace Pattern

variable {name s : List Char} {wild wild' : List (List Char)}

theorem verdict_congr (h : s ≠ name → (s ∈ wild ↔ s ∈ wild')) :
    verdict name wild s = verdict name wild' s := by
  unfold verdict
  split
  · rfl
  · by_cases hname : s = name
    · rw [if_pos hname, if_pos hname]
    · rw [if_neg hname, if_neg hname]
      simp only [List.contains_iff_mem, h hname]

/-- A scan asks of the wildcards only whether they are among the segments that are not the name. -/
theorem scan_congr : ∀ (segs : List (List Char)) (covered : Bool),
    (∀ s ∈ segs, s ≠ name → (s ∈ wild ↔ s ∈ wild')) →
      scan name wild covered segs = scan name wild' covered segs
  | [], _, _ => rfl
  | s :: segs, covered, h => by
    obtain ⟨hs, hsegs⟩ := List.forall_mem_cons.1 h
    rw [scan, scan, verdict_congr hs, scan_congr segs true hsegs, scan_congr segs covered hsegs]

end Pattern

/-- Apart from the wildcards for other machines, a repository is covered by what covers a layout. -/
theorem RemoteRepository.mem_wildcards_iff_of_ne_external (r : RemoteRepository) {s : List Char}
    (hexternal : s ≠ "external:*".toList) (hhttp : s ≠ "external:http:*".toList) :
    s ∈ r.wildcards ↔ s ∈ [Pattern.anything.toList] := by
  rw [r.mem_wildcards_iff, CoveredBy, List.mem_singleton]
  simp only [hexternal, hhttp, false_and, or_false]
  rfl

/-- A layout matches a pattern as a repository does that has it as its id, if the pattern is not
empty and of the wildcards for other machines it has at most the id itself. -/
theorem matchesLayout_eq_matchesPattern (r : RemoteRepository) (layout pattern : String)
    (hid : r.id = layout) (hpattern : pattern ≠ "")
    (hexternal : ∀ s ∈ Pattern.segments pattern, s ≠ layout.toList →
      s ≠ "external:*".toList ∧ s ≠ "external:http:*".toList) :
    matchesLayout layout pattern = r.matchesPattern pattern := by
  subst hid
  have hscan : Pattern.scan r.id.toList [Pattern.anything.toList] false (Pattern.segments pattern)
      = Pattern.scan r.id.toList r.wildcards false (Pattern.segments pattern) := by
    refine Pattern.scan_congr _ _ fun s hs hname => ?_
    obtain ⟨hplain, hhttp⟩ := hexternal s hs hname
    exact (r.mem_wildcards_iff_of_ne_external hplain hhttp).symm
  have hempty : pattern.isEmpty = false := by simpa using hpattern
  rw [matchesLayout, RemoteRepository.matchesPattern, hscan, hempty, Bool.false_or]

/-- The one segment that is a wildcard for other machines is the id, of a repository on this
machine. -/
theorem matchesLayout_eq_matchesPattern_of_wild_id :
    let r : RemoteRepository := { id := "external:*", url := "http://localhost/m2" }
    r.id = "external:*" ∧ "!external:http:*, external:* ,!" ≠ ""
      ∧ (∀ s ∈ Pattern.segments "!external:http:*, external:* ,!", s ≠ "external:*".toList →
        s ≠ "external:*".toList ∧ s ≠ "external:http:*".toList)
      ∧ matchesLayout "external:*" "!external:http:*, external:* ,!" = true
      ∧ r.matchesPattern "!external:http:*, external:* ,!" = true := by
  intro r
  have hpattern : "!external:http:*, external:* ,!" ≠ "" := by decide
  have hexternal : ∀ s ∈ Pattern.segments "!external:http:*, external:* ,!",
      s ≠ "external:*".toList → s ≠ "external:*".toList ∧ s ≠ "external:http:*".toList := by
    decide
  have hlayout : matchesLayout "external:*" "!external:http:*, external:* ,!" = true := by decide
  refine ⟨rfl, hpattern, hexternal, hlayout, ?_⟩
  rw [← matchesLayout_eq_matchesPattern r "external:*" _ rfl hpattern hexternal, hlayout]

end BuildSession
