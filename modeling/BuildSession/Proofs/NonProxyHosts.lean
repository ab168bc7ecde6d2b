import BuildSession.Repository.Proxying
import Mathlib.Data.List.Forall2

/-!
# Hosts that are reached without a proxy

A wildcard pattern is cut at its stars into literal pieces. The texts it covers are those that
consist of a copy of each piece, in order, with some text in place of each star
(`covers_iff_written`). A list of such patterns takes a host out if one of its segments covers the
host, so nothing in a segment but `*` and the separators has a meaning of its own
(`excludes_iff_segment_written`).
-/

namespace BuildSession

namespace Wildcard

variable {same : Char → Char → Bool} {ps cs : List Char} {pieces gaps : List (List Char)}

/-- The text consists of a copy of each piece, with the texts of the gaps between them. -/
def Written (same : Char → Char → Bool) (pieces gaps : List (List Char)) (cs : List Char) : Prop :=
  ∃ copies, List.Forall₂ (List.Forall₂ fun p c => same p c = true) pieces copies
    ∧ gaps.length + 1 = copies.length
    ∧ cs = (List.zipWith (· ++ ·) copies (gaps ++ [[]])).flatten

theorem written_empty : Written same [[]] gaps cs ↔ gaps = [] ∧ cs = [] := by
  constructor
  · rintro ⟨copies, hcopies, hlength, rfl⟩
    obtain ⟨copy, none, hcopy, hnone, rfl⟩ := List.forall₂_cons_left_iff.1 hcopies
    obtain rfl := List.forall₂_nil_left_iff.1 hcopy
    obtain rfl := List.forall₂_nil_left_iff.1 hnone
    obtain rfl : gaps = [] := List.length_eq_zero_iff.1 (Nat.succ.inj hlength)
    exact ⟨rfl, rfl⟩
  · rintro ⟨rfl, rfl⟩
    exact ⟨[[]], .cons .nil .nil, rfl, rfl⟩

/-- Where a piece ends and others are to come, a gap comes first. -/
theorem written_gap (hpieces : pieces ≠ []) : Written same ([] :: pieces) gaps cs ↔
    ∃ gap later rest, gaps = gap :: later ∧ cs = gap ++ rest ∧ Written same pieces later rest := by
  constructor
  · rintro ⟨copies, hcopies, hlength, rfl⟩
    obtain ⟨copy, copies, hcopy, hlater, rfl⟩ := List.forall₂_cons_left_iff.1 hcopies
    obtain rfl := List.forall₂_nil_left_iff.1 hcopy
    have hlength := Nat.succ.inj hlength
    rcases gaps with _ | ⟨gap, later⟩
    · have hnone : pieces.length = 0 := hlater.length_eq.trans hlength.symm
      exact absurd (List.length_eq_zero_iff.1 hnone) hpieces
    · exact ⟨gap, later, _, rfl, rfl, copies, hlater, hlength, rfl⟩
  · rintro ⟨gap, later, rest, rfl, rfl, copies, hcopies, hlength, rfl⟩
    exact ⟨[] :: copies, .cons .nil hcopies, congrArg (· + 1) hlength, rfl⟩

theorem written_letter {p : Char} {piece : List Char} :
    Written same ((p :: piece) :: pieces) gaps cs ↔
      ∃ c rest, cs = c :: rest ∧ same p c = true ∧ Written same (piece :: pieces) gaps rest := by
  constructor
  · rintro ⟨copies, hcopies, hlength, rfl⟩
    obtain ⟨copy, copies, hcopy, hlater, rfl⟩ := List.forall₂_cons_left_iff.1 hcopies
    obtain ⟨c, copy, hc, hrest, rfl⟩ := List.forall₂_cons_left_iff.1 hcopy
    refine ⟨c, _, ?_, hc, copy :: copies, .cons hrest hlater, hlength, rfl⟩
    rcases gaps with _ | ⟨gap, later⟩ <;> rfl
  · rintro ⟨c, rest, rfl, hc, copies, hcopies, hlength, rfl⟩
    obtain ⟨copy, copies, hcopy, hlater, rfl⟩ := List.forall₂_cons_left_iff.1 hcopies
    refine ⟨(c :: copy) :: copies, .cons (.cons hc hcopy) hlater, hlength, ?_⟩
    rcases gaps with _ | ⟨gap, later⟩ <;> rfl

/-- What stands in a gap stands in the text. -/
theorem gap_subset : ∀ {copies gaps : List (List Char)}, gaps.length + 1 = copies.length →
    ∀ gap ∈ gaps, gap ⊆ (List.zipWith (· ++ ·) copies (gaps ++ [[]])).flatten
  | copy :: copies, first :: gaps, hlength, gap, hgap => by
    rw [List.cons_append, List.zipWith_cons_cons, List.flatten_cons]
    rcases List.mem_cons.1 hgap with rfl | hgap
    · exact List.Subset.trans (List.subset_append_right copy gap) (List.subset_append_left _ _)
    · exact List.Subset.trans (gap_subset (Nat.succ.inj hlength) gap hgap)
        (List.subset_append_right _ _)

/-- A star stands for any text on one line. -/
theorem covers_star_iff : ∀ {cs : List Char}, covers same ('*' :: ps) cs = true ↔
    ∃ gap rest, cs = gap ++ rest ∧ '\n' ∉ gap ∧ covers same ps rest = true
  | [] => by
    rw [covers_star_nil]
    constructor
    · intro h
      exact ⟨[], [], rfl, List.not_mem_nil, h⟩
    · rintro ⟨gap, rest, hcs, -, h⟩
      obtain ⟨rfl, rfl⟩ := List.append_eq_nil_iff.1 hcs.symm
      exact h
  | c :: cs => by
    rw [covers_star_cons, Bool.or_eq_true, Bool.and_eq_true, bne_iff_ne, covers_star_iff]
    constructor
    · rintro (h | ⟨hc, gap, rest, rfl, hgap, h⟩)
      · exact ⟨[], c :: cs, rfl, List.not_mem_nil, h⟩
      · exact ⟨c :: gap, rest, rfl, List.not_mem_cons_of_ne_of_not_mem hc.symm hgap, h⟩
    · rintro ⟨gap, rest, hcs, hgap, h⟩
      rcases gap with _ | ⟨d, gap⟩
      · exact .inl (hcs ▸ h)
      · obtain ⟨rfl, rfl⟩ := List.cons.inj hcs
        have hc : c ≠ '\n' := (List.ne_of_not_mem_cons hgap).symm
        exact .inr ⟨hc, gap, rest, rfl, List.not_mem_of_not_mem_cons hgap, h⟩

/-- A pattern covers the texts written as its pieces between the stars, with text on one line in
each gap. -/
theorem covers_iff_written : ∀ (ps cs : List Char), covers same ps cs = true ↔
    ∃ gaps, (∀ gap ∈ gaps, '\n' ∉ gap) ∧ Written same (ps.splitOn '*') gaps cs
  | [], cs => by
    simp [covers_nil, written_empty]
  | p :: ps, cs => by
    have hne : ps.splitOn '*' ≠ [] := List.splitOnP_ne_nil (· == '*') ps
    rw [List.splitOn_cons_eq_if_modifyHead]
    by_cases hp : p = '*'
    · subst hp
      simp only [beq_self_eq_true, if_true, written_gap hne, covers_star_iff, covers_iff_written ps]
      constructor
      · rintro ⟨gap, rest, rfl, hgap, gaps, hgaps, h⟩
        exact ⟨gap :: gaps, List.forall_mem_cons.2 ⟨hgap, hgaps⟩, gap, gaps, rest, rfl, rfl, h⟩
      · rintro ⟨_, hgaps, gap, gaps, rest, rfl, rfl, h⟩
        obtain ⟨hgap, hgaps⟩ := List.forall_mem_cons.1 hgaps
        exact ⟨gap, rest, rfl, hgap, gaps, hgaps, h⟩
    · obtain ⟨piece, pieces, hpieces⟩ := List.exists_cons_of_ne_nil hne
      rw [if_neg (by simpa using hp), hpieces, List.modifyHead_cons]
      simp only [written_letter]
      rcases cs with _ | ⟨c, cs⟩
      · simp [covers_letter_nil same ps hp]
      · rw [covers_letter_cons same ps c cs hp, Bool.and_eq_true, covers_iff_written ps, hpieces]
        constructor
        · rintro ⟨hc, gaps, hgaps, h⟩
          exact ⟨gaps, hgaps, c, cs, rfl, hc, h⟩
        · rintro ⟨gaps, hgaps, d, rest, hcs, hc, h⟩
          obtain ⟨rfl, rfl⟩ := List.cons.inj hcs
          exact ⟨hc, gaps, hgaps, h⟩

/-- On one line, the texts in the gaps are any texts. -/
theorem covers_iff_written_of_line (ps : List Char) {cs : List Char} (hline : '\n' ∉ cs) :
    covers same ps cs = true ↔ ∃ gaps, Written same (ps.splitOn '*') gaps cs := by
  rw [covers_iff_written]
  constructor
  · rintro ⟨gaps, -, h⟩
    exact ⟨gaps, h⟩
  · rintro ⟨gaps, copies, hcopies, hlength, rfl⟩
    have hgaps : ∀ gap ∈ gaps, '\n' ∉ gap := fun gap hgap hmem =>
      hline (gap_subset hlength gap hgap hmem)
    exact ⟨gaps, hgaps, copies, hcopies, hlength, rfl⟩

end Wildcard

namespace NonProxyHosts

/-- A pattern is a segment without its blank ends; a segment with nothing else is none. -/
theorem mem_patterns_parse {text : Option String} {pattern : List Char} :
    pattern ∈ (parse text).patterns ↔
      ∃ segment ∈ (text.getD "").toList.splitOnP (fun c => c == '|' || c == ','),
        Text.trim segment = pattern ∧ pattern ≠ [] := by
  rw [parse, List.mem_filter, Text.segments, List.mem_map, decide_eq_true_iff]
  constructor
  · rintro ⟨⟨segment, hsegment, htrim⟩, hpattern⟩
    exact ⟨segment, hsegment, htrim, hpattern⟩
  · rintro ⟨segment, hsegment, htrim, hpattern⟩
    exact ⟨⟨segment, hsegment, htrim⟩, hpattern⟩

/-- A host on one line is reached without a proxy exactly if some segment of the text between `|`
and `,`, trimmed and not empty, gives the whole host when it is cut at `*` and some text is put
into each of the gaps, case aside. An absent host never is. -/
theorem excludes_iff_segment_written (text : Option String) :
    (parse text).excludes none = false
    ∧ ∀ host : String, '\n' ∉ host.toList →
      ((parse text).excludes (some host) = true ↔
        ∃ segment ∈ (text.getD "").toList.splitOnP (fun c => c == '|' || c == ','),
          Text.trim segment ≠ []
          ∧ ∃ gaps, Wildcard.Written Unicode.sameLetter ((Text.trim segment).splitOn '*') gaps
              host.toList) := by
  refine ⟨rfl, fun host hline => ?_⟩
  simp only [excludes, Option.any_some, List.any_eq_true, mem_patterns_parse,
    Wildcard.covers_iff_written_of_line _ hline]
  constructor
  · rintro ⟨pattern, ⟨segment, hsegment, rfl, hpattern⟩, hgaps⟩
    exact ⟨segment, hsegment, hpattern, hgaps⟩
  · rintro ⟨segment, hsegment, hpattern, hgaps⟩
    exact ⟨_, ⟨segment, hsegment, rfl, hpattern⟩, hgaps⟩

/-- Two stars, an empty gap and capital letters on either side. -/
theorem excludes_iff_segment_written_of_two_stars :
    '\n' ∉ "NEXUS.corp.example".toList
      ∧ (parse (some "10.*|, *.Corp.*example")).excludes (some "NEXUS.corp.example") = true := by
  have hline : '\n' ∉ "NEXUS.corp.example".toList := by decide
  refine ⟨hline, ((excludes_iff_segment_written _).2 _ hline).2 ?_⟩
  refine ⟨" *.Corp.*example".toList, by decide, by decide, ["NEXUS".toList, []],
    [[], ".corp.".toList, "example".toList], ?_, by decide, by decide⟩
  decide

end NonProxyHosts

end BuildSession
