import BuildSession.Config.Layer
import BuildSession.Proofs.Insertions

/-!
# Merged configuration

A merge reads the entries of its layers one after another, and what it has come to after some of
them (`MergesTo`) is told by these entries alone. It holds them all in their order
(`holds_ofLayers`); the owner of a key is the kind of layer that set it last (`owner?`), and an
entry of another kind takes the key over (`takeover?`). So the overrides are the takeovers in the
order of the entries, logged as they come (`merge_tells_takeovers`).

Layers whose own keys are distinct add to the keys of the earlier ones just those that are new
(`eraseDups_append_of_nodup`).
-/

namespace BuildSession

/-- An entry of a layer with the kind of the layer. -/
structure LayerEntry where
  kind : LayerKind
  key : String
  value : ConfigValue

namespace LayerEntry

variable {es : List LayerEntry} {e : LayerEntry} {key : String}

/-- The entries of all layers, in order. -/
def all (layers : List ConfigLayer) : List LayerEntry :=
  layers.flatMap fun layer => layer.entries.map fun e => ⟨layer.kind, e.1, e.2⟩

theorem map_all (layers : List ConfigLayer) :
    (all layers).map (fun e => (e.key, e.value)) = layers.flatMap (·.entries) := by
  simp [all, List.map_flatMap, Function.comp_def]

/-- The kind of layer that set a key last. -/
def owner? (es : List LayerEntry) (key : String) : Option LayerKind :=
  (es.reverse.find? (·.key == key)).map (·.kind)

/-- The override by an entry behind others, if the owner of its key is of another kind. -/
def takeover? (es : List LayerEntry) (e : LayerEntry) : Option PropertyOverride :=
  match owner? es e.key with
  | some before => if before = e.kind then none else some ⟨e.key, before, e.kind⟩
  | none => none

/-- The override by the entry at a place, if it is one. -/
def overrideAt (es : List LayerEntry) (i : Nat) : Option PropertyOverride :=
  es[i]?.bind (takeover? (es.take i))

/-- The overrides by the entries, in their order. -/
def overrides (es : List LayerEntry) : List PropertyOverride :=
  (List.range es.length).filterMap (overrideAt es)

theorem owner?_eq_some_iff {kind : LayerKind} : owner? es key = some kind ↔
    ∃ before, IsLast (·.key = key) es before ∧ before.kind = kind := by
  simp only [owner?, Option.map_eq_some_iff, find?_reverse_eq_some_iff_isLast, beq_iff_eq]

/-- An entry behind others becomes the owner of its key, and of no other. -/
theorem owner?_concat (es : List LayerEntry) (e : LayerEntry) (key : String) :
    owner? (es ++ [e]) key = if key = e.key then some e.kind else owner? es key := by
  rw [owner?, List.reverse_append, List.reverse_singleton, List.singleton_append, List.find?_cons]
  by_cases h : key = e.key
  · simp [h]
  · rw [if_neg h, beq_false_of_ne (Ne.symm h), owner?]

/-- An entry is an override if the last one of its key is from a layer of another kind; entries
further back do not matter. -/
theorem takeover?_eq_some_iff {o : PropertyOverride} : takeover? es e = some o ↔
    ∃ before, IsLast (·.key = e.key) es before ∧ before.kind ≠ e.kind
      ∧ o = ⟨e.key, before.kind, e.kind⟩ := by
  constructor
  · intro h
    unfold takeover? at h
    split at h
    · next kind howner =>
      obtain ⟨before, hlast, rfl⟩ := owner?_eq_some_iff.1 howner
      split_ifs at h with hkind
      exact ⟨before, hlast, hkind, (Option.some.inj h).symm⟩
    · cases h
  · rintro ⟨before, hlast, hkind, rfl⟩
    have howner : owner? es e.key = some before.kind := owner?_eq_some_iff.2 ⟨before, hlast, rfl⟩
    simp only [takeover?, howner, if_neg hkind]

theorem overrideAt_concat_of_lt {i : Nat} (hi : i < es.length) :
    overrideAt (es ++ [e]) i = overrideAt es i := by
  rw [overrideAt, overrideAt, List.getElem?_append_left hi,
    List.take_append_of_le_length (Nat.le_of_lt hi)]

theorem overrides_concat (es : List LayerEntry) (e : LayerEntry) :
    overrides (es ++ [e]) = overrides es ++ (takeover? es e).toList := by
  have hbefore : (List.range es.length).filterMap (overrideAt (es ++ [e])) = overrides es :=
    List.filterMap_congr fun i hi => overrideAt_concat_of_lt (List.mem_range.1 hi)
  have hlast : overrideAt (es ++ [e]) es.length = takeover? es e := by
    simp [overrideAt]
  rw [overrides, List.length_append, List.length_singleton, List.range_succ,
    List.filterMap_append, hbefore, List.filterMap_cons, hlast]
  rcases takeover? es e with _ | o <;> rfl

end LayerEntry

namespace ConfigMerge

open LayerEntry (takeover? owner?)

variable {x : Recorded LogRecord Progress} {es : List LayerEntry}

/-- What a merge has come to after some entries. -/
structure MergesTo (x : Recorded LogRecord Progress) (es : List LayerEntry) : Prop where
  holds : x.value.merge.properties.Holds (es.map fun e => (e.key, e.value))
  owners : ∀ key, x.value.origin.get? key = owner? es key
  overrides : x.value.merge.overrides = LayerEntry.overrides es
  logged : x.records = (LayerEntry.overrides es).map (·.log)

theorem mergesTo_nil : MergesTo (pure {}) [] :=
  ⟨ConfigProperties.holds_empty, fun _ => rfl, rfl, rfl⟩

/-- What a step does to a merge that knows the owners of all keys. -/
theorem step_eq {p : Progress} (howner : ∀ key, p.origin.get? key = owner? es key)
    (e : LayerEntry) : step e.kind p (e.key, e.value) =
      { value :=
          { merge :=
              { properties := (p.merge.properties.insert e.key e.value).2
                overrides := p.merge.overrides ++ (takeover? es e).toList }
            origin := p.origin.insert e.key e.kind }
        records := (takeover? es e).toList.map (·.log) } := by
  simp only [step, takeover?, howner]
  rcases owner? es e.key with _ | before
  · rw [Option.toList_none, List.append_nil]
    rfl
  · by_cases hkind : before = e.kind
    · simp only [hkind, ↓reduceIte, Option.toList_none, List.append_nil]
      rfl
    · simp only [hkind, ↓reduceIte]
      rfl

theorem MergesTo.step (h : MergesTo x es) (e : LayerEntry) :
    MergesTo (x >>= fun p => ConfigMerge.step e.kind p (e.key, e.value)) (es ++ [e]) := by
  have hstep := step_eq h.owners e
  refine ⟨?_, fun key => ?_, ?_, ?_⟩
  · rw [Recorded.value_bind, hstep, List.map_append]
    exact h.holds.insert
  · rw [Recorded.value_bind, hstep, Dict.get?_insert, h.owners, LayerEntry.owner?_concat]
  · rw [Recorded.value_bind, hstep, h.overrides, LayerEntry.overrides_concat]
  · rw [Recorded.records_bind, hstep, h.logged, LayerEntry.overrides_concat, List.map_append]

theorem MergesTo.entries (kind : LayerKind) : ∀ (entries : List (String × ConfigValue))
    {x : Recorded LogRecord Progress} {es : List LayerEntry}, MergesTo x es →
      MergesTo (x >>= fun p => entries.foldlM (ConfigMerge.step kind) p)
        (es ++ entries.map fun e => ⟨kind, e.1, e.2⟩)
  | [], x, es, h => by simpa using h
  | e :: entries, x, es, h => by
    have hstep := MergesTo.entries kind entries (h.step ⟨kind, e.1, e.2⟩)
    rw [bind_assoc] at hstep
    simpa using hstep

/-- Merging layers takes all of their entries in, layer by layer. -/
theorem MergesTo.layers : ∀ (layers : List ConfigLayer)
    {x : Recorded LogRecord Progress} {es : List LayerEntry}, MergesTo x es →
      MergesTo (x >>= fun p => layers.foldlM
        (fun p (layer : ConfigLayer) => layer.entries.foldlM (ConfigMerge.step layer.kind) p) p)
        (es ++ LayerEntry.all layers)
  | [], x, es, h => by simpa [LayerEntry.all] using h
  | layer :: layers, x, es, h => by
    have hlayer := MergesTo.layers layers (MergesTo.entries layer.kind layer.entries h)
    rw [bind_assoc] at hlayer
    simpa [LayerEntry.all] using hlayer

theorem exists_mergesTo_ofLayers (layers : List ConfigLayer) :
    ∃ x, MergesTo x (LayerEntry.all layers) ∧ ofLayers layers = (·.merge) <$> x := by
  refine ⟨_, mergesTo_nil.layers layers, ?_⟩
  rw [pure_bind]
  rfl

theorem holds_ofLayers (layers : List ConfigLayer) :
    (ofLayers layers).value.properties.Holds (layers.flatMap (·.entries)) := by
  obtain ⟨x, h, hmerge⟩ := exists_mergesTo_ofLayers layers
  rw [hmerge, Recorded.value_map, ← LayerEntry.map_all]
  exact h.holds

theorem MergesTo.get?_eq_some_iff (h : MergesTo x es) (k : String) (v : ConfigValue) :
    x.value.merge.properties.get? k = some v ↔ ∃ e, IsLast (·.key = k) es e ∧ e.value = v := by
  rw [h.holds.get?, Dict.lookup_reverse_eq_some_iff, isLast_map]
  refine exists_congr fun e => and_congr_right fun hlast => ?_
  rw [Prod.mk.injEq, and_iff_right hlast.holds]

end ConfigMerge

section Keys

variable {keys seen : List String}

theorem eraseDups_of_nodup : ∀ {keys : List String}, keys.Nodup → keys.eraseDups = keys
  | [], _ => rfl
  | key :: keys, h => by
    obtain ⟨hkey, hkeys⟩ := List.nodup_cons.1 h
    have hother : keys.filter (fun k => !k == key) = keys := by
      refine List.filter_eq_self.2 fun k hk => ?_
      simpa using fun heq : k = key => hkey (heq ▸ hk)
    rw [List.eraseDups_cons, hother, eraseDups_of_nodup hkeys]

theorem eraseDups_append_of_nodup (h : keys.Nodup) :
    (seen ++ keys).eraseDups = seen.eraseDups ++ keys.filter (· ∉ seen) := by
  have hnew : keys.removeAll seen = keys.filter (· ∉ seen) := by
    simp [List.removeAll]
  rw [List.eraseDups_append, hnew, eraseDups_of_nodup (h.filter _)]

end Keys

end BuildSession
