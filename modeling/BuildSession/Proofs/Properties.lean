import BuildSession.Config.Properties
import Mathlib.Data.List.Nodup
import Mathlib.Data.String.Basic

/-!
# Properties are an ordered map

As long as the index gives the place of each key and of nothing else (`Indexed`), inserting a key
leaves the order of the keys alone, or adds the key at the end (`Indexed.keys_insert`), and changes
what that key and no other has (`Indexed.get?_insert`). So after a run of insertions the keys stand
in the order in which they first came, each with the value that came last (`Holds`).
-/

namespace BuildSession.ConfigProperties

/-- Whether the index gives the place of each key, and of nothing else. -/
structure Indexed (p : ConfigProperties) : Prop where
  place_iff : ∀ (k : String) (i : Nat), p.index[k]? = some i ↔ p.keys[i]? = some k

variable {p : ConfigProperties} {key k : String} {value : ConfigValue} {place : Nat}

theorem indexed_empty : empty.Indexed where
  place_iff := by simp [empty, keys]

namespace Indexed

theorem nodup (hp : p.Indexed) : p.keys.Nodup := by
  refine List.nodup_iff_getElem?_ne_getElem?.2 fun i j hij hj heq => ?_
  -- The index would have two places for a key that stands twice.
  have hkey : p.keys[j]? = some p.keys[j] := List.getElem?_eq_getElem hj
  have hi := (hp.place_iff _ _).2 (heq.trans hkey)
  have hj := (hp.place_iff _ _).2 hkey
  rw [hi] at hj
  exact absurd (Option.some.inj hj) (Nat.ne_of_lt hij)

theorem index_eq_none_iff (hp : p.Indexed) : p.index[key]? = none ↔ key ∉ p.keys := by
  rw [Option.eq_none_iff_forall_ne_some, List.mem_iff_getElem?, not_exists]
  exact forall_congr' fun i => not_congr (hp.place_iff key i)

theorem exists_place (hp : p.Indexed) (h : key ∈ p.keys) :
    ∃ i, p.keys[i]? = some key ∧ p.index[key]? = some i := by
  obtain ⟨i, hi⟩ := List.mem_iff_getElem?.1 h
  exact ⟨i, hi, (hp.place_iff key i).2 hi⟩

end Indexed

theorem insert_of_index (h : p.index[key]? = some place) :
    (p.insert key value).2 =
      { p with entries := p.entries.modify place fun e => (e.1, value) } := by
  rw [insert, h]

theorem insert_of_index_eq_none (h : p.index[key]? = none) :
    (p.insert key value).2 = ⟨p.entries.push (key, value), p.index.insert key p.entries.size⟩ := by
  rw [insert, h]

theorem getElem?_concat_eq_some_iff {keys : List String} {i : Nat} :
    (keys ++ [key])[i]? = some k ↔ keys[i]? = some k ∨ i = keys.length ∧ key = k := by
  rcases Nat.lt_trichotomy i keys.length with hi | rfl | hi
  · simp [List.getElem?_append_left hi, Nat.ne_of_lt hi]
  · simp
  · have hold : keys[i]? = none := List.getElem?_eq_none (Nat.le_of_lt hi)
    have hnew : (keys ++ [key])[i]? = none := List.getElem?_eq_none (by rwa [List.length_append])
    simp [hold, hnew, Nat.ne_of_gt hi]

theorem keys_modify :
    keys { p with entries := p.entries.modify place fun e => (e.1, value) } = p.keys := by
  refine List.ext_getElem? fun j => ?_
  simp only [keys, Array.toList_modify, List.getElem?_map, List.getElem?_modify]
  rcases p.entries.toList[j]? with _ | e
  · rfl
  · by_cases h : place = j <;> simp [h]

namespace Indexed

theorem keys_insert (hp : p.Indexed) :
    (p.insert key value).2.keys = if key ∈ p.keys then p.keys else p.keys ++ [key] := by
  split
  · next h =>
    obtain ⟨i, -, hi⟩ := hp.exists_place h
    rw [insert_of_index hi, keys_modify]
  · next h =>
    rw [insert_of_index_eq_none (hp.index_eq_none_iff.2 h)]
    simp [keys]

theorem lt_length (hp : p.Indexed) (h : p.index[key]? = some place) : place < p.keys.length :=
  (List.getElem?_eq_some_iff.1 ((hp.place_iff key place).1 h)).1

theorem insert (hp : p.Indexed) : (p.insert key value).2.Indexed := by
  refine ⟨fun k i => ?_⟩
  by_cases h : key ∈ p.keys
  · obtain ⟨j, -, hj⟩ := hp.exists_place h
    rw [insert_of_index hj, keys_modify]
    exact hp.place_iff k i
  · have hnone := hp.index_eq_none_iff.2 h
    have hsize : p.entries.size = p.keys.length := by simp [keys]
    rw [hp.keys_insert, if_neg h, insert_of_index_eq_none hnone, Std.ExtHashMap.getElem?_insert,
      hsize, getElem?_concat_eq_some_iff]
    by_cases hk : key = k
    · have hold : p.keys[i]? ≠ some key := fun hi => h (List.mem_of_getElem? hi)
      simp [← hk, hold, eq_comm]
    · simp [hk, hp.place_iff k i]

theorem get?_insert (hp : p.Indexed) :
    (p.insert key value).2.get? k = if k = key then some value else p.get? k := by
  by_cases h : key ∈ p.keys
  · obtain ⟨i, hkey, hi⟩ := hp.exists_place h
    obtain ⟨e, he, -⟩ : ∃ e, p.entries[i]? = some e ∧ e.1 = key := by
      simpa [keys] using hkey
    rw [insert_of_index hi, get?, get?]
    by_cases hk : k = key
    · rw [if_pos hk, hk, hi]
      simp [Array.getElem?_modify, he]
    · rw [if_neg hk]
      rcases hj : p.index[k]? with _ | j
      · rfl
      · have hne : i ≠ j := by
          rintro rfl
          rw [hp.place_iff, hkey] at hj
          exact hk (Option.some.inj hj).symm
        simp [Array.getElem?_modify, hne]
  · have hnone := hp.index_eq_none_iff.2 h
    rw [insert_of_index_eq_none hnone, get?, get?, Std.ExtHashMap.getElem?_insert]
    by_cases hk : k = key
    · simp [hk]
    · rw [if_neg (by simpa using Ne.symm hk), if_neg hk]
      rcases hj : p.index[k]? with _ | j
      · rfl
      · have hlt : j < p.entries.size := by
          simpa [keys] using hp.lt_length hj
        simp [Array.getElem?_push, Nat.ne_of_lt hlt]

end Indexed

/-- What properties are after some entries were inserted one after another. -/
structure Holds (p : ConfigProperties) (es : List (String × ConfigValue)) : Prop where
  indexed : p.Indexed
  keys : p.keys = (es.map (·.1)).eraseDups
  get? : ∀ k, p.get? k = Dict.lookup k es.reverse

theorem holds_empty : empty.Holds [] :=
  ⟨indexed_empty, rfl, fun k => by simp [get?, empty, Dict.lookup]⟩

theorem Holds.insert {es : List (String × ConfigValue)} (h : p.Holds es) :
    (p.insert key value).2.Holds (es ++ [(key, value)]) where
  indexed := h.indexed.insert
  keys := by
    rw [h.indexed.keys_insert, List.map_append, List.eraseDups_append, ← h.keys]
    have hmem : key ∈ p.keys ↔ key ∈ es.map (·.1) := by rw [h.keys, List.mem_eraseDups]
    by_cases hkey : key ∈ es.map (·.1)
    · simp [hmem, hkey, List.removeAll]
    · simp [hmem, hkey, List.removeAll, List.eraseDups_cons]
  get? k := by
    rw [h.indexed.get?_insert, List.reverse_append, List.reverse_singleton, List.singleton_append,
      Dict.lookup, h.get?]

/-- Every value that is held under a key is found under it. -/
theorem Indexed.get?_of_mem (hp : p.Indexed) {e : String × ConfigValue}
    (he : e ∈ p.entries.toList) : p.get? e.1 = some e.2 := by
  obtain ⟨i, hi⟩ := List.mem_iff_getElem?.1 he
  have hindex : p.index[e.1]? = some i := (hp.place_iff _ _).2 (by simp [ConfigProperties.keys, hi])
  rw [ConfigProperties.get?, hindex]
  simpa using congrArg (Option.map (·.2)) hi

end BuildSession.ConfigProperties
