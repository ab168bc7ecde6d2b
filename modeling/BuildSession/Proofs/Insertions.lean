import BuildSession.Proofs.Occurrence
import BuildSession.Proofs.Properties
import Mathlib.Data.Finset.Card

/-!
# Runs of insertions

Whatever is inserted into properties, one entry after another, they stay an ordered map: the keys
stand in the order of their first insertions, each has the value of its last, and the index knows
the place of each key and nothing else (`holds_ofInserts`, `isOrderedMapOf_ofInserts`). So the
index holds no more than the entries tell (`Indexed.ext_entries`).
-/

namespace BuildSession

theorem Dict.lookup_reverse_eq_some_iff {α : Type} {k : String} {v : α} (es : List (String × α)) :
    Dict.lookup k es.reverse = some v ↔ IsLast (·.1 = k) es (k, v) := by
  induction es using List.reverseRecOn with
  | nil => simp [Dict.lookup, not_isLast_nil]
  | append_singleton es e ih =>
    rw [List.reverse_append, List.reverse_singleton, List.singleton_append, Dict.lookup,
      isLast_concat, ← ih]
    by_cases hk : k = e.1
    · subst hk
      simp [Prod.ext_iff, eq_comm]
    · simp [hk, Ne.symm hk]

namespace ConfigProperties

variable {p q : ConfigProperties} {key k : String} {value : ConfigValue}
  {es : List (String × ConfigValue)}

/-- The properties after the entries were inserted one after another. -/
def ofInserts (es : List (String × ConfigValue)) : ConfigProperties :=
  es.foldl (fun p e => (p.insert e.1 e.2).2) empty

theorem ofInserts_concat (es : List (String × ConfigValue)) (key : String) (value : ConfigValue) :
    ofInserts (es ++ [(key, value)]) = ((ofInserts es).insert key value).2 := by
  rw [ofInserts, List.foldl_append, List.foldl_cons, List.foldl_nil, ofInserts]

theorem holds_ofInserts (es : List (String × ConfigValue)) : (ofInserts es).Holds es := by
  induction es using List.reverseRecOn with
  | nil => exact holds_empty
  | append_singleton es e ih =>
    rw [ofInserts_concat]
    exact ih.insert

theorem fst_insert : (p.insert key value).1 = p.get? key := by
  unfold insert get?
  split <;> rfl

theorem index_insert_of_ne (h : k ≠ key) : (p.insert key value).2.index[k]? = p.index[k]? := by
  unfold insert
  split
  · rfl
  · rw [Std.ExtHashMap.getElem?_insert, if_neg (by simpa using h.symm)]

namespace Indexed

theorem index_eq_some_iff (hp : p.Indexed) {i : Nat} :
    p.index[k]? = some i ↔ ∃ h : i < p.entries.size, p.entries[i].1 = k := by
  rw [hp.place_iff, keys, List.getElem?_map, Option.map_eq_some_iff, Array.getElem?_toList]
  constructor
  · rintro ⟨e, he, rfl⟩
    obtain ⟨hi, rfl⟩ := Array.getElem?_eq_some_iff.1 he
    exact ⟨hi, rfl⟩
  · rintro ⟨hi, rfl⟩
    exact ⟨p.entries[i], Array.getElem?_eq_getElem hi, rfl⟩

/-- The index of properties follows from their entries. -/
theorem ext_entries (hp : p.Indexed) (hq : q.Indexed) (h : p.entries = q.entries) : p = q := by
  have hkeys : p.keys = q.keys := by rw [keys, keys, h]
  have hindex : p.index = q.index := by
    refine Std.ExtHashMap.ext_getElem? fun k => Option.ext fun i => ?_
    rw [hp.place_iff, hq.place_iff, hkeys]
  cases p
  cases q
  cases h
  cases hindex
  rfl

end Indexed

/-- What an ordered map is after some entries were inserted into it one after another. -/
structure IsOrderedMapOf (p : ConfigProperties) (es : List (String × ConfigValue)) : Prop where
  nodup : p.keys.Nodup
  /-- The index gives a place for each key, within the entries, and none for another key. -/
  index : ∀ (k : String) (i : Nat),
    p.index[k]? = some i ↔ ∃ h : i < p.entries.size, p.entries[i].1 = k
  keys : p.keys = (es.map (·.1)).eraseDups
  size : p.size = (es.map (·.1)).toFinset.card
  get?_some : ∀ k v, p.get? k = some v ↔ IsLast (·.1 = k) es (k, v)
  get?_none : ∀ k, p.get? k = none ↔ ∀ v, (k, v) ∉ es
  /-- One more insertion gives what the key had, and touches no other key. -/
  insert : ∀ key value, (p.insert key value).1 = p.get? key
    ∧ (p.insert key value).2 = ofInserts (es ++ [(key, value)])
    ∧ (p.insert key value).2.keys = (if key ∈ p.keys then p.keys else p.keys ++ [key])
    ∧ (p.insert key value).2.get? key = some value
    ∧ ∀ k, k ≠ key → (p.insert key value).2.get? k = p.get? k
      ∧ (p.insert key value).2.index[k]? = p.index[k]?

theorem Holds.size_eq_card (h : p.Holds es) : p.size = (es.map (·.1)).toFinset.card := by
  have hset : (es.map (·.1)).toFinset = p.keys.toFinset := by
    ext k
    rw [List.mem_toFinset, List.mem_toFinset, h.keys, List.mem_eraseDups]
  rw [hset, List.toFinset_card_of_nodup h.indexed.nodup]
  simp [size, ConfigProperties.keys]

theorem Holds.get?_eq_none_iff (h : p.Holds es) : p.get? k = none ↔ ∀ v, (k, v) ∉ es := by
  rw [h.get?, Dict.lookup_eq_none_iff]
  simp

theorem isOrderedMapOf_ofInserts (es : List (String × ConfigValue)) :
    (ofInserts es).IsOrderedMapOf es := by
  have h := holds_ofInserts es
  refine ⟨h.indexed.nodup, fun k i => h.indexed.index_eq_some_iff, h.keys, h.size_eq_card,
    fun k v => ?_, fun k => h.get?_eq_none_iff, fun key value => ?_⟩
  · rw [h.get?, Dict.lookup_reverse_eq_some_iff]
  · refine ⟨fst_insert, (ofInserts_concat es key value).symm, h.indexed.keys_insert, ?_, ?_⟩
    · rw [h.indexed.get?_insert, if_pos rfl]
    · intro k hk
      exact ⟨by rw [h.indexed.get?_insert, if_neg hk], index_insert_of_ne hk⟩

/-- A run of insertions makes an ordered map, and two runs make the same one exactly if they leave
the same entries in the same order. -/
theorem inserts_make_ordered_map (es fs : List (String × ConfigValue)) :
    (ofInserts es).IsOrderedMapOf es
    ∧ (ofInserts es = ofInserts fs ↔ (ofInserts es).entries = (ofInserts fs).entries) := by
  refine ⟨isOrderedMapOf_ofInserts es, congrArg entries, fun h => ?_⟩
  exact (holds_ofInserts es).indexed.ext_entries (holds_ofInserts fs).indexed h

end ConfigProperties

end BuildSession
