/-!
# Values with a record of how they came about

A `Recorded σ α` is a value together with what was recorded on the way to it, in order. Running
one computation after another puts the records of the first before those of the second
(`records_bind`), a run over a list comes to the same value as without the records
(`value_foldlM`), and steps that record the same whatever they start from record the same in a row
(`records_foldlM`). Where a computation may fail, its value is an `Except`.
-/

namespace BuildSession

/-- A value and what was recorded on the way to it, oldest first. -/
structure Recorded (σ α : Type) where
  value : α
  records : List σ := []
  deriving DecidableEq

namespace Recorded

variable {σ τ α β : Type}

instance : Monad (Recorded σ) where
  pure a := ⟨a, []⟩
  bind x f := ⟨(f x.value).value, x.records ++ (f x.value).records⟩

def note (s : σ) : Recorded σ Unit :=
  ⟨(), [s]⟩

/-- The same value with `f` applied to every record. -/
def mapRecords (f : σ → τ) (x : Recorded σ α) : Recorded τ α :=
  ⟨x.value, x.records.map f⟩

@[simp]
theorem value_pure (a : α) : (pure a : Recorded σ α).value = a := rfl

@[simp]
theorem records_pure (a : α) : (pure a : Recorded σ α).records = [] := rfl

@[simp]
theorem value_bind (x : Recorded σ α) (f : α → Recorded σ β) :
    (x >>= f).value = (f x.value).value := rfl

@[simp]
theorem records_bind (x : Recorded σ α) (f : α → Recorded σ β) :
    (x >>= f).records = x.records ++ (f x.value).records := rfl

@[simp]
theorem value_map (f : α → β) (x : Recorded σ α) : (f <$> x).value = f x.value := rfl

@[simp]
theorem records_map (f : α → β) (x : Recorded σ α) : (f <$> x).records = x.records :=
  List.append_nil x.records

instance : LawfulMonad (Recorded σ) :=
  LawfulMonad.mk' (Recorded σ)
    (fun x => congrArg (Recorded.mk x.value) (List.append_nil x.records))
    (fun _ _ => rfl)
    (fun x f g => congrArg (Recorded.mk _) (List.append_assoc x.records _ _))

theorem value_foldlM (f : β → α → Recorded σ β) : ∀ (l : List α) (b : β),
    (l.foldlM f b).value = l.foldl (fun b a => (f b a).value) b
  | [], _ => rfl
  | a :: l, b => by rw [List.foldlM_cons, value_bind, value_foldlM f l, List.foldl_cons]

theorem records_foldlM {f : β → α → Recorded σ β} {g : α → σ} (h : ∀ b a, (f b a).records = [g a]) :
    ∀ (l : List α) (b : β), (l.foldlM f b).records = l.map g
  | [], _ => rfl
  | a :: l, b => by
    rw [List.foldlM_cons, records_bind, h, records_foldlM h l, List.map_cons, List.singleton_append]

end Recorded

section Except

variable {ε α β : Type} {x : Except ε α} {f : α → β}

theorem Except.map_eq_ok_iff {b : β} : x.map f = .ok b ↔ ∃ a, x = .ok a ∧ f a = b := by
  cases x <;> simp [Except.map]

theorem Except.map_eq_error_iff {e : ε} : x.map f = .error e ↔ x = .error e := by
  cases x <;> simp [Except.map]

end Except

end BuildSession
