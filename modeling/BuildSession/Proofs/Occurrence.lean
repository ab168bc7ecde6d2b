import Mathlib.Data.List.Induction

/-!
# First and last entries

The first entry with a property is what a search from the front finds, and the last one what a
search from the back finds (`find?_eq_some_iff_isFirst`, `find?_reverse_eq_some_iff_isLast`). One
more entry, in front or behind, either has the property or leaves the matter to the others
(`isFirst_cons`, `isLast_concat`).
-/

namespace BuildSession

variable {α : Type} {p : α → Prop} {l : List α} {x y : α}

/-- `x` is the first entry of `l` with the property `p`. -/
def IsFirst {α : Type} (p : α → Prop) (l : List α) (x : α) : Prop :=
  ∃ before after, l = before ++ x :: after ∧ p x ∧ ∀ y ∈ before, ¬ p y

theorem find?_eq_some_iff_isFirst {α : Type} {p : α → Bool} {l : List α} {x : α} :
    l.find? p = some x ↔ IsFirst (fun y => p y = true) l x := by
  rw [List.find?_eq_some_iff_append]
  constructor
  · rintro ⟨hx, before, after, rfl, hbefore⟩
    exact ⟨before, after, rfl, hx, fun y hy => by simpa using hbefore y hy⟩
  · rintro ⟨before, after, rfl, hx, hbefore⟩
    exact ⟨hx, before, after, rfl, fun y hy => by simpa using hbefore y hy⟩

theorem not_isFirst_nil : ¬ IsFirst p [] y := by
  rintro ⟨before, after, h, -⟩
  simp at h

theorem isFirst_cons : IsFirst p (x :: l) y ↔ p x ∧ y = x ∨ ¬ p x ∧ IsFirst p l y := by
  constructor
  · rintro ⟨before, after, heq, hy, hbefore⟩
    rcases before with _ | ⟨z, before⟩
    · obtain ⟨rfl, rfl⟩ := List.cons.inj heq
      exact .inl ⟨hy, rfl⟩
    · obtain ⟨rfl, rfl⟩ := List.cons.inj heq
      obtain ⟨hx, hbefore⟩ := List.forall_mem_cons.1 hbefore
      exact .inr ⟨hx, before, after, rfl, hy, hbefore⟩
  · rintro (⟨hx, rfl⟩ | ⟨hx, before, after, rfl, hy, hbefore⟩)
    · exact ⟨[], l, rfl, hx, by simp⟩
    · exact ⟨x :: before, after, rfl, hy, List.forall_mem_cons.2 ⟨hx, hbefore⟩⟩

theorem IsFirst.holds (h : IsFirst p l x) : p x := by
  obtain ⟨before, after, -, hx, -⟩ := h
  exact hx

theorem IsFirst.mem (h : IsFirst p l x) : x ∈ l := by
  obtain ⟨before, after, rfl, -, -⟩ := h
  exact List.mem_append_right before List.mem_cons_self

theorem IsFirst.unique (hx : IsFirst p l x) (hy : IsFirst p l y) : x = y := by
  induction l with
  | nil => exact absurd hx not_isFirst_nil
  | cons z l ih =>
    rcases isFirst_cons.1 hx with ⟨hz, rfl⟩ | ⟨hz, hx⟩ <;>
      rcases isFirst_cons.1 hy with ⟨hz', rfl⟩ | ⟨hz', hy⟩
    · rfl
    · exact absurd hz hz'
    · exact absurd hz' hz
    · exact ih hx hy

theorem exists_isFirst_iff : ∀ {l : List α}, (∃ y, IsFirst p l y) ↔ ∃ y ∈ l, p y
  | [] => by simp [not_isFirst_nil]
  | x :: l => by
    simp only [isFirst_cons, exists_or, exists_and_left, exists_isFirst_iff, List.mem_cons,
      exists_eq_or_imp]
    by_cases hx : p x <;> simp [hx]

/-- `x` is the last entry of `l` with the property `p`. -/
def IsLast (p : α → Prop) (l : List α) (x : α) : Prop :=
  ∃ before after, l = before ++ x :: after ∧ p x ∧ ∀ y ∈ after, ¬ p y

theorem isFirst_reverse : IsFirst p l.reverse x ↔ IsLast p l x := by
  constructor
  · rintro ⟨before, after, heq, hx, hbefore⟩
    refine ⟨after.reverse, before.reverse, ?_, hx, by simpa using hbefore⟩
    rw [List.reverse_eq_iff] at heq
    simp [heq]
  · rintro ⟨before, after, rfl, hx, hafter⟩
    exact ⟨after.reverse, before.reverse, by simp, hx, by simpa using hafter⟩

theorem not_isLast_nil : ¬ IsLast p [] y := by
  rw [← isFirst_reverse]
  exact not_isFirst_nil

theorem isLast_concat : IsLast p (l ++ [x]) y ↔ p x ∧ y = x ∨ ¬ p x ∧ IsLast p l y := by
  rw [← isFirst_reverse, List.reverse_append, List.reverse_singleton, List.singleton_append,
    isFirst_cons, isFirst_reverse]

theorem IsLast.holds (h : IsLast p l x) : p x :=
  (isFirst_reverse.2 h).holds

theorem find?_reverse_eq_some_iff_isLast {p : α → Bool} :
    l.reverse.find? p = some x ↔ IsLast (fun y => p y = true) l x :=
  find?_eq_some_iff_isFirst.trans isFirst_reverse

theorem isLast_map {β : Type} {p : β → Prop} {f : α → β} {y : β} (l : List α) :
    IsLast p (l.map f) y ↔ ∃ x, IsLast (fun x => p (f x)) l x ∧ f x = y := by
  induction l using List.reverseRecOn with
  | nil => simp [not_isLast_nil]
  | append_singleton l x ih =>
    rw [List.map_append, List.map_singleton, isLast_concat, ih]
    simp only [isLast_concat]
    constructor
    · rintro (⟨hx, rfl⟩ | ⟨hx, z, hz, rfl⟩)
      · exact ⟨x, .inl ⟨hx, rfl⟩, rfl⟩
      · exact ⟨z, .inr ⟨hx, hz⟩, rfl⟩
    · rintro ⟨z, ⟨hx, rfl⟩ | ⟨hx, hz⟩, rfl⟩
      · exact .inl ⟨hx, rfl⟩
      · exact .inr ⟨hx, z, hz, rfl⟩

end BuildSession
