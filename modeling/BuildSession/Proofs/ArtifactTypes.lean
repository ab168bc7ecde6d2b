import BuildSession.Artifact.Type
import Mathlib.Data.List.Nodup

/-!
# Which handlers make a registry

While handlers are taken in one by one, the registry has the type of each of them under its id, and
no id came twice (`Registers`). So the registration fails exactly at the first handler whose type
came before (`ofHandlers_eq_error_iff`), and there is one if two handlers are of one type
(`exists_isFirstRepeat_iff`). A registry that comes about holds one type for each handler
(`Registers.holdsTypesOf`), in whatever order the handlers stood (`ofHandlers_perm`).
-/

namespace BuildSession

/-- Whether a handler is the first, in order, whose type came before. -/
def ArtifactHandler.IsFirstRepeat (x : ArtifactHandler) (hs : List ArtifactHandler) : Prop :=
  ∃ before after, hs = before ++ x :: after
    ∧ (before.map (·.typeId)).Nodup ∧ x.typeId ∈ before.map (·.typeId)

namespace ArtifactTypeRegistry

/-- What a registry is after some handlers were taken in. -/
structure Registers (r : ArtifactTypeRegistry) (hs : List ArtifactHandler) : Prop where
  nodup : (hs.map (·.typeId)).Nodup
  get? : ∀ id, r.get? id = (hs.find? (·.typeId == id)).map .ofHandler

variable {r r' : ArtifactTypeRegistry} {hs seen : List ArtifactHandler} {x : ArtifactHandler}
  {e : ArtifactTypeError}

theorem registers_nil : Registers {} [] := ⟨.nil, fun _ => rfl⟩

namespace Registers

theorem contains_iff (hr : Registers r seen) (id : String) :
    r.types.contains id ↔ id ∈ seen.map (·.typeId) := by
  have hget : r.types.get? id = (seen.find? (·.typeId == id)).map .ofHandler := hr.get? id
  rw [Dict.contains, hget, Option.isSome_map, List.find?_isSome]
  simp only [List.mem_map, beq_iff_eq]

theorem step_eq_error_iff (hr : Registers r seen) :
    r.step x = .error e ↔ x.typeId ∈ seen.map (·.typeId) ∧ e = .duplicateType x.typeId := by
  rw [← hr.contains_iff]
  unfold step
  split
  · next hmem => simp only [hmem, true_and, Except.error.injEq, eq_comm]
  · next hnew => simp only [hnew, reduceCtorEq, false_and]

theorem step (hr : Registers r seen) (hok : r.step x = .ok r') : Registers r' (seen ++ [x]) := by
  have hnew : x.typeId ∉ seen.map (·.typeId) := by
    intro hmem
    rw [hr.step_eq_error_iff.2 ⟨hmem, rfl⟩] at hok
    cases hok
  unfold ArtifactTypeRegistry.step at hok
  split at hok
  · cases hok
  cases hok
  refine ⟨?_, fun id => ?_⟩
  · rw [List.map_append]
    exact List.nodup_append.2 ⟨hr.nodup, List.nodup_singleton _, by simpa using hnew⟩
  · have hget : r.types.get? id = (seen.find? (·.typeId == id)).map .ofHandler := hr.get? id
    rw [ArtifactTypeRegistry.get?, Dict.get?_insert, hget, List.find?_append]
    by_cases hid : id = x.typeId
    · have hnone : seen.find? (·.typeId == x.typeId) = none := by
        simpa using hnew
      rw [if_pos hid, hid, hnone]
      simp
    · simp [hid, Ne.symm hid]

/-- Taking handlers in either goes through to the end or stops at the first repeated type. -/
theorem run (hr : Registers r seen) :
    (∃ r', hs.foldlM ArtifactTypeRegistry.step r = .ok r' ∧ Registers r' (seen ++ hs))
      ∨ ∃ x : ArtifactHandler,
        hs.foldlM ArtifactTypeRegistry.step r = .error (.duplicateType x.typeId)
        ∧ x.IsFirstRepeat (seen ++ hs) := by
  induction hs generalizing r seen with
  | nil => exact .inl ⟨r, rfl, by rwa [List.append_nil]⟩
  | cons x hs ih =>
    rw [List.foldlM_cons]
    rcases hstep : r.step x with e | r'
    · obtain ⟨hmem, rfl⟩ := hr.step_eq_error_iff.1 hstep
      exact .inr ⟨x, rfl, seen, hs, rfl, hr.nodup, hmem⟩
    · rw [List.append_cons]
      exact ih (hr.step hstep)

end Registers

/-- Registering handlers ends with all of their types, or with the first handler whose type is there
already. -/
theorem ofHandlers_cases (hs : List ArtifactHandler) :
    (∃ r, ofHandlers hs = .ok r ∧ Registers r hs)
      ∨ ∃ x : ArtifactHandler, ofHandlers hs = .error (.duplicateType x.typeId)
        ∧ x.IsFirstRepeat hs :=
  registers_nil.run

theorem not_nodup_of_isFirstRepeat (hx : x.IsFirstRepeat hs) : ¬ (hs.map (·.typeId)).Nodup := by
  obtain ⟨before, after, rfl, -, hmem⟩ := hx
  rw [List.map_append, List.map_cons]
  exact fun hnodup => (List.nodup_append.1 hnodup).2.2 _ hmem _ List.mem_cons_self rfl

theorem ofHandlers_of_nodup (hnodup : (hs.map (·.typeId)).Nodup) :
    ∃ r, ofHandlers hs = .ok r ∧ Registers r hs := by
  refine (ofHandlers_cases hs).resolve_right ?_
  rintro ⟨x, -, hx⟩
  exact not_nodup_of_isFirstRepeat hx hnodup

/-- A registration fails at the first handler whose type came before, and names that type. -/
theorem ofHandlers_eq_error_iff :
    ofHandlers hs = .error e ↔
      ∃ x : ArtifactHandler, x.IsFirstRepeat hs ∧ e = .duplicateType x.typeId := by
  constructor
  · intro herr
    rcases ofHandlers_cases hs with ⟨r, hok, -⟩ | ⟨x, herr', hx⟩
    · rw [hok] at herr
      cases herr
    · rw [herr'] at herr
      exact ⟨x, hx, (Except.error.inj herr).symm⟩
  · rintro ⟨x, ⟨before, after, rfl, hnodup, hmem⟩, rfl⟩
    -- The handlers before the repeated one are all taken in, and then the registry knows its type.
    obtain ⟨r, hok, hr⟩ := ofHandlers_of_nodup hnodup
    have hstep : r.step x = .error (.duplicateType x.typeId) :=
      hr.step_eq_error_iff.2 ⟨hmem, rfl⟩
    unfold ofHandlers at hok ⊢
    rw [List.foldlM_append, hok]
    change (x :: after).foldlM ArtifactTypeRegistry.step r = _
    rw [List.foldlM_cons, hstep]
    rfl

theorem exists_isFirstRepeat_iff :
    (∃ x : ArtifactHandler, x.IsFirstRepeat hs) ↔ ¬ (hs.map (·.typeId)).Nodup := by
  constructor
  · rintro ⟨x, hx⟩
    exact not_nodup_of_isFirstRepeat hx
  · intro hdup
    rcases ofHandlers_cases hs with ⟨r, -, hr⟩ | ⟨x, -, hx⟩
    · exact absurd hr.nodup hdup
    · exact ⟨x, hx⟩

theorem exists_ofHandlers_iff :
    (∃ r, ofHandlers hs = .ok r) ↔ (hs.map (·.typeId)).Nodup := by
  constructor
  · rintro ⟨r, hok⟩
    by_contra hdup
    obtain ⟨x, hx⟩ := exists_isFirstRepeat_iff.2 hdup
    rw [ofHandlers_eq_error_iff.2 ⟨x, hx, rfl⟩] at hok
    cases hok
  · intro hnodup
    obtain ⟨r, hok, -⟩ := ofHandlers_of_nodup hnodup
    exact ⟨r, hok⟩

end ArtifactTypeRegistry

/-! ## What a registry holds -/

/-- What the type of a handler says: four properties besides id, extension and classifier. -/
structure ArtifactType.Describes (t : ArtifactType) (h : ArtifactHandler) : Prop where
  id : t.id = h.typeId
  extension : t.extension = h.extension
  classifier : t.classifier = h.classifier.getD ""
  properties : t.properties.entries = [
    ("constitutesBuildPath", if h.addedToClasspath then "true" else "false"),
    ("includesDependencies", if h.includesDependencies then "true" else "false"),
    ("language", h.language),
    ("type", h.typeId)]

theorem ArtifactType.describes_ofHandler (h : ArtifactHandler) : (ofHandler h).Describes h where
  id := rfl
  extension := rfl
  classifier := rfl
  properties := by
    have hlanguage : "language" < "type" := by decide
    have hpath : "constitutesBuildPath" < "language" := by decide
    have hbehind : "constitutesBuildPath" < "includesDependencies" := by decide
    have hbefore : "includesDependencies" < "language" := by decide
    rw [ofHandler, Dict.entries_ofList]
    simp only [List.foldl_cons, List.foldl_nil]
    rw [Dict.put, Dict.put_cons_of_lt hlanguage, Dict.put_cons_of_lt hpath,
      Dict.put_cons_of_gt hbehind, Dict.put_cons_of_lt hbefore]
    rfl

theorem ArtifactType.describes_iff {t : ArtifactType} {h : ArtifactHandler} :
    t.Describes h ↔ ofHandler h = t := by
  constructor
  · intro ht
    have hproperties : (ofHandler h).properties = t.properties :=
      Dict.ext_entries ((describes_ofHandler h).properties.trans ht.properties.symm)
    obtain ⟨id, extension, classifier, properties⟩ := t
    obtain ⟨rfl, rfl, rfl, -⟩ := ht
    cases hproperties
    rfl
  · rintro rfl
    exact describes_ofHandler h

namespace ArtifactTypeRegistry

variable {r : ArtifactTypeRegistry} {hs hs' : List ArtifactHandler}

/-- The registry has one type for each handler and no others. -/
structure HoldsTypesOf (r : ArtifactTypeRegistry) (hs : List ArtifactHandler) : Prop where
  size : r.size = hs.length
  ascending : r.ids.Pairwise (· < ·)
  ids : r.ids.Perm (hs.map (·.typeId))
  get?_eq_some_iff : ∀ id t, r.get? id = some t ↔ ∃ h ∈ hs, h.typeId = id ∧ t.Describes h
  get?_eq_none_iff : ∀ id, r.get? id = none ↔ ∀ h ∈ hs, h.typeId ≠ id

namespace Registers

variable (hr : Registers r hs)

include hr

theorem perm_ids : r.ids.Perm (hs.map (·.typeId)) := by
  refine (List.perm_ext_iff_of_nodup r.types.nodup_keys hr.nodup).2 fun id => ?_
  rw [Dict.mem_keys_iff, hr.contains_iff]

theorem find?_eq_some_iff (id : String) (x : ArtifactHandler) :
    hs.find? (·.typeId == id) = some x ↔ x ∈ hs ∧ x.typeId = id := by
  constructor
  · intro hx
    have hid := List.find?_some hx
    exact ⟨List.mem_of_find?_eq_some hx, eq_of_beq hid⟩
  · rintro ⟨hx, rfl⟩
    rcases hfound : hs.find? (·.typeId == x.typeId) with _ | y
    · exact absurd (List.find?_eq_none.1 hfound x hx) (by simp)
    · have hy := List.mem_of_find?_eq_some hfound
      have hid := List.find?_some hfound
      rw [hfound, List.inj_on_of_nodup_map hr.nodup hy hx (eq_of_beq hid)]

theorem holdsTypesOf : HoldsTypesOf r hs where
  size := by
    rw [← List.length_map (·.typeId), ← hr.perm_ids.length_eq, ids, Dict.keys, List.length_map]
    rfl
  ascending := r.types.ascending_keys
  ids := hr.perm_ids
  get?_eq_some_iff id t := by
    rw [hr.get?, Option.map_eq_some_iff]
    simp only [hr.find?_eq_some_iff, ArtifactType.describes_iff, and_assoc]
  get?_eq_none_iff id := by
    rw [hr.get?, Option.map_eq_none_iff, List.find?_eq_none]
    simp only [beq_iff_eq, ne_eq]

end Registers

/-- What is registered says which registry it is. -/
theorem HoldsTypesOf.unique {r' : ArtifactTypeRegistry} (h : HoldsTypesOf r hs)
    (h' : HoldsTypesOf r' hs') (hperm : hs'.Perm hs) : r' = r := by
  have htypes : r'.types = r.types := by
    refine Dict.ext_get? fun id => Option.ext fun t => ?_
    have ht := h.get?_eq_some_iff id t
    have ht' := h'.get?_eq_some_iff id t
    simp only [hperm.mem_iff] at ht'
    exact ht'.trans ht.symm
  cases r
  cases r'
  cases htypes
  rfl

theorem holdsTypesOf_of_ofHandlers (hok : ofHandlers hs = .ok r) : HoldsTypesOf r hs := by
  obtain ⟨r', hok', hr⟩ := ofHandlers_of_nodup (exists_ofHandlers_iff.1 ⟨r, hok⟩)
  rw [hok] at hok'
  cases hok'
  exact hr.holdsTypesOf

theorem ofHandlers_perm (hperm : hs'.Perm hs) (hok : ofHandlers hs = .ok r) :
    ofHandlers hs' = .ok r := by
  have hnodup := exists_ofHandlers_iff.1 ⟨r, hok⟩
  obtain ⟨r', hok'⟩ := exists_ofHandlers_iff.2 ((hperm.map (·.typeId)).nodup_iff.2 hnodup)
  have hunique := (holdsTypesOf_of_ofHandlers hok).unique (holdsTypesOf_of_ofHandlers hok') hperm
  rw [hok', hunique]

/-- More handlers can stand beside the standard ones exactly if their types are new and distinct. -/
theorem exists_ofSource_standardWith_iff (extra : List ArtifactHandler) :
    (∃ r, ofSource (.standardWith extra) = .ok r) ↔
      (∀ x ∈ extra, ∀ y ∈ ArtifactHandler.standard, x.typeId ≠ y.typeId)
        ∧ (extra.map (·.typeId)).Nodup := by
  have hstandard : (ArtifactHandler.standard.map (·.typeId)).Nodup := by decide
  have hsource : ofSource (.standardWith extra) = ofHandlers (ArtifactHandler.standard ++ extra) :=
    rfl
  rw [hsource, exists_ofHandlers_iff, List.map_append, List.nodup_append]
  constructor
  · rintro ⟨-, hextra, hapart⟩
    refine ⟨fun x hx y hy heq => ?_, hextra⟩
    exact hapart _ (List.mem_map_of_mem hy) _ (List.mem_map_of_mem hx) heq.symm
  · rintro ⟨hapart, hextra⟩
    refine ⟨hstandard, hextra, fun id hid id' hid' => ?_⟩
    obtain ⟨y, hy, rfl⟩ := List.mem_map.1 hid
    obtain ⟨x, hx, rfl⟩ := List.mem_map.1 hid'
    exact (hapart x hx y hy).symm

/-- Handlers make a registry exactly if no two of them are of one type; otherwise the first one
whose type came before is named. The registry has one type for each handler, ids ascending, and the
order of the handlers does not matter. So handlers can be added to the standard ones exactly if they
clash neither with these nor with each other. -/
theorem registers_each_handler_once (hs : List ArtifactHandler) :
    ((∃ e, ofHandlers hs = .error e) ↔ ¬ (hs.map (·.typeId)).Nodup)
      ∧ (∀ e, ofHandlers hs = .error e ↔
        ∃ x : ArtifactHandler, x.IsFirstRepeat hs ∧ e = .duplicateType x.typeId)
      ∧ (∀ r, ofHandlers hs = .ok r → HoldsTypesOf r hs
        ∧ ∀ hs' : List ArtifactHandler, hs'.Perm hs → ofHandlers hs' = .ok r)
      ∧ ∀ extra, (∃ r, ofSource (.standardWith extra) = .ok r) ↔
        (∀ x ∈ extra, ∀ y ∈ ArtifactHandler.standard, x.typeId ≠ y.typeId)
          ∧ (extra.map (·.typeId)).Nodup := by
  refine ⟨?_, fun e => ofHandlers_eq_error_iff, fun r hok => ?_, exists_ofSource_standardWith_iff⟩
  · rw [← exists_isFirstRepeat_iff]
    constructor
    · rintro ⟨e, herr⟩
      obtain ⟨x, hx, -⟩ := ofHandlers_eq_error_iff.1 herr
      exact ⟨x, hx⟩
    · rintro ⟨x, hx⟩
      exact ⟨_, ofHandlers_eq_error_iff.2 ⟨x, hx, rfl⟩⟩
  · exact ⟨holdsTypesOf_of_ofHandlers hok, fun hs' hperm => ofHandlers_perm hperm hok⟩

end ArtifactTypeRegistry

end BuildSession
