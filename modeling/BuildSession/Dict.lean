/-!
# Sorted dictionaries

A `Dict α` maps strings to values and lists its entries in ascending order of the keys, which the
type guarantees. Looking up what was just inserted finds it, and no other key is touched
(`get?_insert`); after `erase` the key is gone (`get?_erase`). Two maps that give every key the same
value are the same map (`ext_get?`), so `map` changes values before or after an insertion alike
(`map_insert`).
-/

namespace BuildSession

/-- A map from strings to values with its entries in ascending key order. -/
structure Dict (α : Type) where
  /-- The entries, keys ascending. -/
  entries : List (String × α)
  ascending : entries.Pairwise (fun a b => a.1 < b.1)
  deriving DecidableEq

namespace Dict

variable {α β : Type}

/-- The entries after `key` is given the value `value`. -/
def put (key : String) (value : α) : List (String × α) → List (String × α)
  | [] => [(key, value)]
  | e :: es =>
    if key < e.1 then (key, value) :: e :: es
    else if key = e.1 then (key, value) :: es
    else e :: put key value es

/-- The value of `key` in a list of entries; of several, the first. -/
def lookup (key : String) : List (String × α) → Option α
  | [] => none
  | e :: es => if key = e.1 then some e.2 else lookup key es

theorem put_cons_of_lt {key k : String} (h : key < k) (value v : α) (es : List (String × α)) :
    put key value ((k, v) :: es) = (key, value) :: (k, v) :: es :=
  if_pos h

theorem put_cons_of_gt {key k : String} (h : k < key) (value v : α) (es : List (String × α)) :
    put key value ((k, v) :: es) = (k, v) :: put key value es := by
  have hne : key ≠ k := by
    rintro rfl
    exact String.lt_irrefl _ h
  rw [put, if_neg (String.lt_asymm h), if_neg hne]

theorem mem_put {key : String} {value : α} {e : String × α} :
    ∀ {es : List (String × α)}, e ∈ put key value es → e = (key, value) ∨ e ∈ es
  | [], h => by simpa [put] using h
  | f :: fs, h => by
    unfold put at h
    split at h
    · simpa using h
    · split at h
      · rcases List.mem_cons.1 h with h | h
        · exact .inl h
        · exact .inr (List.mem_cons_of_mem _ h)
      · rcases List.mem_cons.1 h with h | h
        · exact .inr (h ▸ List.mem_cons_self)
        · exact (mem_put h).imp_right (List.mem_cons_of_mem _)

theorem pairwise_put {key : String} {value : α} :
    ∀ {es : List (String × α)}, es.Pairwise (fun a b => a.1 < b.1) →
      (put key value es).Pairwise (fun a b => a.1 < b.1)
  | [], _ => by simp [put]
  | e :: es, h => by
    obtain ⟨he, hes⟩ := List.pairwise_cons.1 h
    unfold put
    split
    · next hlt =>
      refine List.pairwise_cons.2 ⟨fun x hx => ?_, h⟩
      rcases List.mem_cons.1 hx with rfl | hx
      · exact hlt
      · exact String.lt_trans hlt (he x hx)
    · next hlt =>
      split
      · next heq => exact List.pairwise_cons.2 ⟨fun x hx => heq ▸ he x hx, hes⟩
      · next hne =>
        refine List.pairwise_cons.2 ⟨fun x hx => ?_, pairwise_put hes⟩
        rcases mem_put hx with rfl | hx
        · rcases String.le_total key e.1 with hle | hle
          · exact absurd (String.le_antisymm hle (String.not_lt.1 hlt)) hne
          · exact Classical.byContradiction fun hge =>
              hne (String.le_antisymm (String.not_lt.1 hge) hle)
        · exact he x hx

theorem lookup_put (key k : String) (value : α) (es : List (String × α)) :
    lookup k (put key value es) = if k = key then some value else lookup k es := by
  induction es with
  | nil => simp [put, lookup]
  | cons e es ih =>
    unfold put
    split
    · simp [lookup]
    · split
      · next heq => by_cases hk : k = key <;> simp_all [lookup]
      · next hne => by_cases hk : k = e.1 <;> by_cases hk' : k = key <;> simp_all [lookup]

def empty : Dict α :=
  ⟨[], .nil⟩

instance : Inhabited (Dict α) := ⟨empty⟩

/-- The map after `key` is given the value `value`, replacing the one it had. -/
def insert (d : Dict α) (key : String) (value : α) : Dict α :=
  ⟨put key value d.entries, pairwise_put d.ascending⟩

def erase (d : Dict α) (key : String) : Dict α :=
  ⟨d.entries.filter (fun e => e.1 != key), d.ascending.filter _⟩

def get? (d : Dict α) (key : String) : Option α :=
  lookup key d.entries

def contains (d : Dict α) (key : String) : Bool :=
  (d.get? key).isSome

/-- The keys in ascending order. -/
def keys (d : Dict α) : List String :=
  d.entries.map (·.1)

def size (d : Dict α) : Nat :=
  d.entries.length

def isEmpty (d : Dict α) : Bool :=
  d.entries.isEmpty

/-- The map of a list of entries; of several values for a key, the last. -/
def ofList (es : List (String × α)) : Dict α :=
  es.foldl (fun d e => d.insert e.1 e.2) empty

theorem isEmpty_iff {d : Dict α} : d.isEmpty = true ↔ d = empty := by
  obtain ⟨es, hes⟩ := d
  refine List.isEmpty_iff.trans ⟨?_, fun h => congrArg entries h⟩
  rintro rfl
  rfl

@[simp]
theorem get?_empty (k : String) : (empty : Dict α).get? k = none := rfl

theorem get?_insert (d : Dict α) (key k : String) (value : α) :
    (d.insert key value).get? k = if k = key then some value else d.get? k :=
  lookup_put key k value d.entries

theorem get?_erase (d : Dict α) (key k : String) :
    (d.erase key).get? k = if k = key then none else d.get? k := by
  have h : ∀ es : List (String × α), lookup k (es.filter (fun e => e.1 != key))
      = if k = key then none else lookup k es := by
    intro es
    induction es with
    | nil => simp [lookup]
    | cons e es ih =>
      by_cases he : e.1 = key <;> by_cases hk : k = key <;> by_cases hke : k = e.1 <;>
        simp_all [lookup]
  exact h d.entries

theorem lookup_eq_some_iff {k : String} {value : α} :
    ∀ {es : List (String × α)}, es.Pairwise (fun a b => a.1 ≠ b.1) →
      (lookup k es = some value ↔ (k, value) ∈ es)
  | [], _ => by simp [lookup]
  | e :: es, h => by
    obtain ⟨he, hes⟩ := List.pairwise_cons.1 h
    unfold lookup
    split
    · next heq =>
      subst heq
      have hlater : (e.1, value) ∉ es := fun hk => he (e.1, value) hk rfl
      rw [List.mem_cons, or_iff_left hlater]
      simp [Prod.ext_iff, eq_comm]
    · next hne =>
      have hfirst : (k, value) ≠ e := fun hk => hne (hk ▸ rfl)
      rw [lookup_eq_some_iff hes, List.mem_cons, or_iff_right hfirst]

theorem lookup_append (k : String) (fs : List (String × α)) : ∀ es : List (String × α),
    lookup k (es ++ fs) = (lookup k es).or (lookup k fs)
  | [] => rfl
  | e :: es => by
    rw [List.cons_append, lookup, lookup, lookup_append k fs es]
    split <;> rfl

theorem lookup_eq_none_iff {k : String} :
    ∀ {es : List (String × α)}, lookup k es = none ↔ k ∉ es.map (·.1)
  | [] => by simp [lookup]
  | e :: es => by
    rw [lookup, List.map_cons, List.mem_cons, not_or, ← lookup_eq_none_iff]
    by_cases h : k = e.1 <;> simp [h]

/-- Of distinct keys the order does not matter. -/
theorem lookup_perm (k : String) {es fs : List (String × α)} (h : (es.map (·.1)).Nodup)
    (hperm : es.Perm fs) : lookup k es = lookup k fs := by
  have hes : es.Pairwise (fun a b => a.1 ≠ b.1) := List.pairwise_map.1 h
  have hfs : fs.Pairwise (fun a b => a.1 ≠ b.1) := hperm.pairwise hes Ne.symm
  refine Option.ext fun value => ?_
  rw [lookup_eq_some_iff hes, lookup_eq_some_iff hfs, hperm.mem_iff]

theorem lookup_reverse (k : String) {es : List (String × α)} (h : (es.map (·.1)).Nodup) :
    lookup k es.reverse = lookup k es :=
  (lookup_perm k h (List.reverse_perm es).symm).symm

theorem distinct_entries (d : Dict α) : d.entries.Pairwise (fun a b => a.1 ≠ b.1) := by
  refine d.ascending.imp ?_
  intro a b hlt heq
  rw [heq] at hlt
  exact String.lt_irrefl _ hlt

theorem ascending_keys (d : Dict α) : d.keys.Pairwise (· < ·) :=
  List.pairwise_map.2 d.ascending

theorem nodup_keys (d : Dict α) : d.keys.Nodup :=
  List.pairwise_map.2 d.distinct_entries

theorem mem_keys_iff {d : Dict α} {k : String} : k ∈ d.keys ↔ d.contains k = true := by
  rw [contains, Option.isSome_iff_ne_none, ne_eq, get?, lookup_eq_none_iff, Classical.not_not,
    keys]

theorem nodup_of_distinct {es : List (String × α)} (h : es.Pairwise (fun a b => a.1 ≠ b.1)) :
    es.Nodup := by
  refine h.imp ?_
  rintro a b hne rfl
  exact hne rfl

theorem nodup_entries (d : Dict α) : d.entries.Nodup :=
  nodup_of_distinct d.distinct_entries

theorem ext_entries {d e : Dict α} (h : d.entries = e.entries) : d = e := by
  cases d
  cases e
  cases h
  rfl

theorem ext_get? {d e : Dict α} (h : ∀ k, d.get? k = e.get? k) : d = e := by
  have hmem : ∀ x, x ∈ d.entries ↔ x ∈ e.entries := fun x => by
    rw [← lookup_eq_some_iff d.distinct_entries, ← lookup_eq_some_iff e.distinct_entries]
    exact iff_of_eq (congrArg (· = some x.2) (h x.1))
  have hperm := (List.perm_ext_iff_of_nodup d.nodup_entries e.nodup_entries).2 hmem
  exact ext_entries (hperm.eq_of_pairwise
    (fun _ _ _ _ hab hba => absurd hba (String.lt_asymm hab)) d.ascending e.ascending)

theorem get?_ofList (es : List (String × α)) (k : String) :
    (ofList es).get? k = lookup k es.reverse := by
  have h : ∀ (es : List (String × α)) (d : Dict α),
      (es.foldl (fun d e => d.insert e.1 e.2) d).get? k = (lookup k es.reverse).or (d.get? k) := by
    intro es
    induction es with
    | nil => intro d; rfl
    | cons e es ih =>
      intro d
      rw [List.foldl_cons, ih, get?_insert, List.reverse_cons, lookup_append, Option.or_assoc]
      by_cases hk : k = e.1 <;> simp [lookup, hk]
  rw [ofList, h, get?_empty, Option.or_none]

theorem ofList_perm {es fs : List (String × α)} (h : (es.map (·.1)).Nodup) (hperm : es.Perm fs) :
    ofList es = ofList fs := by
  refine ext_get? fun k => ?_
  rw [get?_ofList, get?_ofList, lookup_reverse k h,
    lookup_reverse k ((hperm.map (·.1)).nodup_iff.1 h), lookup_perm k h hperm]

theorem ofList_entries (d : Dict α) : ofList d.entries = d := by
  refine ext_get? fun k => ?_
  rw [get?_ofList, lookup_reverse k d.nodup_keys, get?]

theorem entries_ofList (es : List (String × α)) :
    (ofList es).entries = es.foldl (fun found e => put e.1 e.2 found) [] :=
  (List.foldl_hom entries fun _ _ => rfl).symm

theorem perm_entries_ofList {es : List (String × α)} (h : (es.map (·.1)).Nodup) :
    (ofList es).entries.Perm es := by
  have hes : es.Pairwise (fun a b => a.1 ≠ b.1) := List.pairwise_map.1 h
  refine (List.perm_ext_iff_of_nodup (ofList es).nodup_entries (nodup_of_distinct hes)).2 ?_
  rintro ⟨k, value⟩
  rw [← lookup_eq_some_iff (ofList es).distinct_entries, ← lookup_eq_some_iff hes,
    ← lookup_reverse k h, ← get?_ofList, get?]

def map (f : α → β) (d : Dict α) : Dict β :=
  ⟨d.entries.map fun e => (e.1, f e.2), List.pairwise_map.2 d.ascending⟩

theorem lookup_map (f : α → β) (k : String) : ∀ es : List (String × α),
    lookup k (es.map fun e => (e.1, f e.2)) = (lookup k es).map f
  | [] => rfl
  | e :: es => by
    rw [List.map_cons, lookup, lookup, lookup_map f k es]
    split <;> rfl

@[simp]
theorem get?_map (f : α → β) (d : Dict α) (k : String) : (d.map f).get? k = (d.get? k).map f :=
  lookup_map f k d.entries

@[simp]
theorem keys_map (f : α → β) (d : Dict α) : (d.map f).keys = d.keys := by
  simp only [keys, map, List.map_map, Function.comp_def]

theorem map_insert (f : α → β) (d : Dict α) (key : String) (value : α) :
    (d.insert key value).map f = (d.map f).insert key (f value) := by
  refine ext_get? fun k => ?_
  rw [get?_map, get?_insert, get?_insert, get?_map]
  split <;> rfl

theorem map_erase (f : α → β) (d : Dict α) (key : String) :
    (d.erase key).map f = (d.map f).erase key := by
  refine ext_get? fun k => ?_
  rw [get?_map, get?_erase, get?_erase, get?_map]
  split <;> rfl

end Dict

end BuildSession
