import BuildSession.Proofs.Occurrence
import BuildSession.Repository.Mirroring
import Mathlib.Tactic.SplitIfs

/-!
# Which mirror stands in

A repository with an id gives way to the first rule that names its id outright, wherever the
pattern rules stand, and only without such a rule to the first whose pattern matches it
(`find?_eq_some_iff`). A rule that names an id also covers it (`covers_of_namesExactly`), so a
repository is left alone exactly if no rule covers it or it has no id (`find?_eq_none_iff`).
-/

namespace BuildSession

namespace Mirror

variable {m : Mirror} {r : RemoteRepository}

theorem namesExactly_iff : m.namesExactly r = true ↔
    m.mirrorOf = r.id ∧ matchesLayout r.layout m.mirrorOfLayouts = true := by
  simp [namesExactly]

theorem covers_iff : m.covers r = true ↔
    r.matchesPattern m.mirrorOf = true ∧ matchesLayout r.layout m.mirrorOfLayouts = true := by
  simp [covers]

theorem covers_of_namesExactly (h : m.namesExactly r = true) : m.covers r = true := by
  obtain ⟨hid, hlayout⟩ := namesExactly_iff.1 h
  refine covers_iff.2 ⟨?_, hlayout⟩
  simp [RemoteRepository.matchesPattern, hid]

end Mirror

namespace MirrorSelector

/-- Precedence: the first rule whose text is the id, and if there is none the first whose pattern
matches; either must accept the layout. -/
inductive Decides (rules : List Mirror) (r : RemoteRepository) (m : Mirror) : Prop where
  | byId
      (first : IsFirst (fun n => n.mirrorOf = r.id
        ∧ matchesLayout r.layout n.mirrorOfLayouts = true) rules m)
  | byPattern
      (unnamed : ∀ n ∈ rules, ¬ (n.mirrorOf = r.id
        ∧ matchesLayout r.layout n.mirrorOfLayouts = true))
      (first : IsFirst (fun n => r.matchesPattern n.mirrorOf = true
        ∧ matchesLayout r.layout n.mirrorOfLayouts = true) rules m)

/-- Rules added one by one stand in the order they were added in. -/
theorem foldl_add : ∀ (rules : List Mirror) (s : MirrorSelector),
    rules.foldl add s = ⟨s.rules ++ rules⟩
  | [], s => by simp
  | m :: rules, s => by
    rw [List.foldl_cons, foldl_add rules]
    simp [add]

variable (s : MirrorSelector) (r : RemoteRepository)

theorem find?_eq_none_iff : s.find? r = none ↔
    r.id = "" ∨ ∀ m ∈ s.rules, ¬ m.covers r = true := by
  unfold find?
  split_ifs with hid
  · simp [String.isEmpty_iff.1 hid]
  · have hne : r.id ≠ "" := fun h => hid (by simp [h])
    rw [Option.or_eq_none_iff, List.find?_eq_none, List.find?_eq_none]
    refine ⟨fun h => .inr h.2, fun h => ?_⟩
    have hcovers := h.resolve_left hne
    exact ⟨fun m hm hn => hcovers m hm (Mirror.covers_of_namesExactly hn), hcovers⟩

theorem find?_eq_some_iff (m : Mirror) : s.find? r = some m ↔
    r.id ≠ "" ∧ Decides s.rules r m := by
  unfold find?
  split_ifs with hid
  · simp [String.isEmpty_iff.1 hid]
  · have hne : r.id ≠ "" := fun h => hid (by simp [h])
    rw [Option.or_eq_some_iff, find?_eq_some_iff_isFirst, find?_eq_some_iff_isFirst,
      List.find?_eq_none]
    simp only [Mirror.namesExactly_iff, Mirror.covers_iff]
    constructor
    · rintro (h | ⟨hnone, h⟩)
      · exact ⟨hne, .byId h⟩
      · exact ⟨hne, .byPattern hnone h⟩
    · rintro ⟨-, h | ⟨hnone, h⟩⟩
      · exact .inl h
      · exact .inr ⟨hnone, h⟩

variable {r} in
theorem find?_congr_wildcards {r' : RemoteRepository} (hid : r.id = r'.id)
    (hwildcards : r.wildcards = r'.wildcards) (hlayout : r.layout = r'.layout) :
    s.find? r = s.find? r' := by
  unfold find? Mirror.namesExactly Mirror.covers RemoteRepository.matchesPattern
  rw [hid, hlayout, hwildcards]

variable {r} in
/-- The choice of a mirror depends on the id, transport and layout of a repository and on nothing
else. -/
theorem find?_congr {r' : RemoteRepository} (hid : r.id = r'.id)
    (htransport : r.transport = r'.transport) (hlayout : r.layout = r'.layout) :
    s.find? r = s.find? r' := by
  have hwildcards : r.wildcards = r'.wildcards := by
    rw [RemoteRepository.wildcards, RemoteRepository.wildcards, htransport]
  exact s.find?_congr_wildcards hid hwildcards hlayout

variable {s r} in
theorem mem_of_find? {m : Mirror} (h : s.find? r = some m) : m ∈ s.rules := by
  unfold find? at h
  split_ifs at h
  rcases Option.or_eq_some_iff.1 h with h | ⟨-, h⟩
  · exact List.mem_of_find?_eq_some h
  · exact List.mem_of_find?_eq_some h

/-- A repository is left alone exactly if it has no id or no rule covers it and its layout.
Otherwise one rule decides by precedence; the mirror takes its id, url and blocking from that
rule, its policies from the repository, and no proxy or credentials from either. -/
theorem exact_before_pattern (rules : List Mirror) (r : RemoteRepository) :
    ∃ chosen : Option Mirror,
      (chosen = none ↔ r.id = "" ∨ ∀ m ∈ rules, ¬ (r.matchesPattern m.mirrorOf = true
        ∧ matchesLayout r.layout m.mirrorOfLayouts = true))
      ∧ (∀ m, chosen = some m ↔ r.id ≠ "" ∧ Decides rules r m)
      ∧ (rules.foldl add {}).mirrorIdFor r = chosen.map (·.id)
      ∧ (rules.foldl add {}).mirrorFor r = chosen.map fun m =>
        { id := m.id
          url := m.url
          layout := if m.layout = "" then r.layout else m.layout
          releases := r.releases
          snapshots := r.snapshots
          blocked := m.blocked
          mirrored := [r]
          proxy := none
          authentication := none } := by
  have hs : rules.foldl add {} = ⟨rules⟩ := by simpa using foldl_add rules {}
  rw [hs]
  refine ⟨find? ⟨rules⟩ r, ?_, fun m => find?_eq_some_iff ⟨rules⟩ r m, rfl, ?_⟩
  · simpa only [Mirror.covers_iff] using find?_eq_none_iff ⟨rules⟩ r
  · simp only [mirrorFor, Mirror.standIn, String.isEmpty_iff]

end MirrorSelector

end BuildSession
