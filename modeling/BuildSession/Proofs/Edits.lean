import BuildSession.Proofs.RecordFields
import BuildSession.Recorded
import Mathlib.Data.List.Nodup
import Mathlib.Data.List.Perm.Basic
import Mathlib.Logic.Relation

/-!
# Edits that readers do not notice

An `Edit` of a written record leaves out a field that holds its default, adds a member that is
no field, or puts the members in another order, in the record itself or in a record anywhere
inside it. Such a step never changes what is read, be it a record or a reason to have none
(`Edit.readsAlike`), so neither do any number of them, and what is read of a written record after
all of them is the record (`reads_back_through_edits`).
-/

namespace BuildSession

/-- One edit of a value, by what the value is: the members of an object are edited at its head, to
which any member can be moved, since objects have no member twice. -/
inductive Edit : Content → Json → Json → Prop
  | drop {k : RecordKind} {f : RecordField} {d : Json} {ms : List (String × Json)}
    (hf : f ∈ k.fields) (hd : f.default? = some d) (hfresh : f.name ∉ ms.map (·.1)) :
    Edit (.record k) (.object ((f.name, d) :: ms)) (.object ms)
  | add {k : RecordKind} {name : String} {j : Json} {ms : List (String × Json)}
    (hforeign : name ∉ k.fields.map (·.name)) (hfresh : name ∉ ms.map (·.1)) :
    Edit (.record k) (.object ms) (.object ((name, j) :: ms))
  | within {k : RecordKind} {f : RecordField} {j j' : Json} {ms : List (String × Json)}
    (hf : f ∈ k.fields) (h : Edit f.content j j') :
    Edit (.record k) (.object ((f.name, j) :: ms)) (.object ((f.name, j') :: ms))
  | item {k : RecordKind} {j j' : Json} {before behind : List Json} (h : Edit (.record k) j j') :
    Edit (.records k) (.array (before ++ j :: behind)) (.array (before ++ j' :: behind))
  | reorder {k : RecordKind} {ms ms' : List (String × Json)} (hms : (ms.map (·.1)).Nodup)
    (hperm : ms.Perm ms') : Edit (.record k) (.object ms) (.object ms')
  | reorderStrings {ms ms' : List (String × Json)} (hms : (ms.map (·.1)).Nodup)
    (hperm : ms.Perm ms') : Edit .strings (.object ms) (.object ms')

namespace Json

theorem stringMembers_eq_ok_iff : ∀ {ms : List (String × Json)} {es : List (String × String)},
    stringMembers ms = .ok es ↔ ms = es.map fun e => (e.1, .string e.2)
  | [], es => by
    rw [eq_comm (a := []), List.map_eq_nil_iff]
    exact ⟨fun h => (Except.ok.inj h).symm, fun h => congrArg Except.ok h.symm⟩
  | (k, j) :: ms, es => by
    constructor
    · intro h
      cases j with
      | string s =>
        obtain ⟨es', hes', rfl⟩ := Except.map_eq_ok_iff.1 h
        rw [stringMembers_eq_ok_iff.1 hes', List.map_cons]
      | _ => cases h
    · intro h
      rw [h, stringMembers_map]

theorem eq_mismatch_of_stringMembers : ∀ {ms : List (String × Json)} {e : ReadError},
    stringMembers ms = .error e → e = .mismatch
  | (_, .string _) :: _, _, h => eq_mismatch_of_stringMembers (Except.map_eq_error_iff.1 h)
  | (_, .null) :: _, _, h | (_, .bool _) :: _, _, h | (_, .number _) :: _, _, h
  | (_, .array _) :: _, _, h | (_, .object _) :: _, _, h => (Except.error.inj h).symm

theorem stringMembers_perm {ms ms' : List (String × Json)} {es : List (String × String)}
    (hperm : ms.Perm ms') (h : stringMembers ms = .ok es) :
    ∃ es', es.Perm es' ∧ stringMembers ms' = .ok es' := by
  rw [stringMembers_eq_ok_iff] at h
  subst h
  -- what stands in another order was written of entries in that order
  obtain ⟨es', hms', hes'⟩ := (iff_of_eq (congrFun₂ (List.eq_map_comp_perm _) ms' es)).2 hperm.symm
  exact ⟨es', hes'.symm, stringMembers_eq_ok_iff.2 hms'⟩

/-- A dictionary does not depend on the order of the members that it is read from. -/
theorem asStrings_perm {ms ms' : List (String × Json)} (hms : (ms.map (·.1)).Nodup)
    (hperm : ms.Perm ms') : asStrings (.object ms) = asStrings (.object ms') := by
  have heq : (stringMembers ms).map Dict.ofList = (stringMembers ms').map Dict.ofList := by
    rcases h : stringMembers ms with e | es
    · rcases h' : stringMembers ms' with e' | es'
      · rw [eq_mismatch_of_stringMembers h, eq_mismatch_of_stringMembers h']
      · obtain ⟨es, -, hes⟩ := stringMembers_perm hperm.symm h'
        rw [hes] at h
        cases h
    · obtain ⟨es', hes, h'⟩ := stringMembers_perm hperm h
      have hnodup : (es.map (·.1)).Nodup := by
        rw [stringMembers_eq_ok_iff.1 h, List.map_map] at hms
        exact hms
      rw [h']
      exact congrArg Except.ok (Dict.ofList_perm hnodup hes)
  exact heq

end Json

namespace RecordField

theorem heldAlike_of_lookup_eq {f : RecordField} {found found' : List (String × Json)}
    (h : Dict.lookup f.name found = Dict.lookup f.name found') : f.HeldAlike found found' := by
  unfold HeldAlike held
  rw [h]
  rcases (Dict.lookup f.name found').or f.default? with _ | j
  · exact .none
  · exact .some (f.content.readsAlike_refl j)

theorem held_cons (f : RecordField) (j : Json) (ms : List (String × Json)) :
    f.held ((f.name, j) :: ms) = some j := by
  rw [held, Dict.lookup, if_pos rfl, Option.some_or]

theorem held_of_missing {f : RecordField} {ms : List (String × Json)} (h : f.name ∉ ms.map (·.1)) :
    f.held ms = f.default? := by
  rw [held, Dict.lookup_eq_none_iff.2 h, Option.none_or]

end RecordField

namespace RecordKind

theorem nodup_names (k : RecordKind) : (k.fields.map (·.name)).Nodup := by
  cases k <;> decide

/-- Where only one field holds something else that reads alike, all fields of the record are held
alike. -/
theorem heldAlike_cons {k : RecordKind} {f : RecordField} {ms ms' : List (String × Json)}
    (hf : f ∈ k.fields) (hheld : f.HeldAlike ms ms')
    (hrest : ∀ name, name ≠ f.name → Dict.lookup name ms = Dict.lookup name ms') :
    ∀ g ∈ k.fields, g.HeldAlike ms ms' := by
  intro g hg
  by_cases hname : g.name = f.name
  · obtain rfl : g = f := List.inj_on_of_nodup_map k.nodup_names hg hf hname
    exact hheld
  · exact RecordField.heldAlike_of_lookup_eq (hrest g.name hname)

end RecordKind

/-- What an object holds besides the fields of its record does not matter to its reader. -/
theorem readsAlike_of_heldAlike {k : RecordKind} {ms ms' : List (String × Json)}
    (h : ∀ f ∈ k.fields, f.HeldAlike ms ms') :
    (Content.record k).ReadsAlike (.object ms) (.object ms') := by
  have hnull : ∀ ms, Json.object ms ≠ .null := fun _ => Json.noConfusion
  exact ⟨iff_of_false (hnull ms) (hnull ms'), k.ofJson?_congr h⟩

theorem Edit.readsAlike {c : Content} {j j' : Json} (h : Edit c j j') : c.ReadsAlike j j' := by
  induction h with
  | @drop k f d ms hf hd hfresh =>
    -- the field holds its default before, and is given its default after
    have hheld : f.HeldAlike ((f.name, d) :: ms) ms := by
      unfold RecordField.HeldAlike
      rw [f.held_cons, RecordField.held_of_missing hfresh, hd]
      exact .some (f.content.readsAlike_refl d)
    exact readsAlike_of_heldAlike (k.heldAlike_cons hf hheld fun name hname => if_neg hname)
  | @add k name j ms hforeign hfresh =>
    refine readsAlike_of_heldAlike fun f hf => RecordField.heldAlike_of_lookup_eq ?_
    -- no field is looked up under a foreign name
    have hne : f.name ≠ name := fun h => hforeign (h ▸ List.mem_map_of_mem hf)
    exact (if_neg hne).symm
  | @within k f j j' ms hf h ih =>
    have hheld : f.HeldAlike ((f.name, j) :: ms) ((f.name, j') :: ms) := by
      unfold RecordField.HeldAlike
      rw [f.held_cons, f.held_cons]
      exact .some ih
    refine readsAlike_of_heldAlike (k.heldAlike_cons hf hheld fun name hname => ?_)
    rw [Dict.lookup, Dict.lookup, if_neg hname, if_neg hname]
  | @item k j j' before behind h ih =>
    have heq : (before ++ j :: behind).mapM k.ofJson?
        = (before ++ j' :: behind).mapM k.ofJson? := by
      rw [List.mapM_append, List.mapM_append, List.mapM_cons, List.mapM_cons, ih.2]
    exact heq
  | reorder hms hperm =>
    exact readsAlike_of_heldAlike fun f _ =>
      RecordField.heldAlike_of_lookup_eq (Dict.lookup_perm f.name hms hperm)
  | reorderStrings hms hperm => exact Json.asStrings_perm hms hperm

theorem RecordKind.ofJson?_toJson (k : RecordKind) (v : k.Record) :
    k.ofJson? (k.toJson v) = .ok v := by
  cases k with
  | settings => exact Settings.ofJson?_toJson v
  | mirror => exact Mirror.ofJson?_toJson v
  | proxy => exact ProxySettings.ofJson?_toJson v
  | server => exact Server.ofJson?_toJson v
  | node => exact ConfigNode.ofJson?_toJson v
  | policy => exact RepositoryPolicy.ofJson?_toJson v
  | handler => exact ArtifactHandler.ofJson?_toJson v
  | tool => exact BuildTool.ofJson?_toJson v

theorem ofJson?_of_edits {k : RecordKind} {j j' : Json}
    (h : Relation.ReflTransGen (Edit (.record k)) j j') : k.ofJson? j' = k.ofJson? j := by
  induction h with
  | refl => rfl
  | tail _ hstep ih => rw [← hstep.readsAlike.2, ih]

/-- A written record is read back, and so is all that edits make of it, at whatever depth. -/
theorem reads_back_through_edits (k : RecordKind) (v : k.Record) :
    k.ofJson? (k.toJson v) = .ok v
      ∧ ∀ j, Relation.ReflTransGen (Edit (.record k)) (k.toJson v) j → k.ofJson? j = .ok v := by
  refine ⟨k.ofJson?_toJson v, fun j hj => ?_⟩
  rw [ofJson?_of_edits hj, k.ofJson?_toJson]

/-- A server with a configuration tree of two levels, without mirrors and proxies. -/
def nestedSettings : Settings where
  servers := [{
    id := "nexus"
    configuration := some { name := "configuration", children := [{ name := "timeout" }] } }]

/-- The server written backwards and alone, with a member of no meaning in the inner node. -/
def nestedEdited : Json :=
  .object [("servers", .array [.object [
    ("configuration", .object [
      ("children", .array [.object [("unit", .string "s"), ("name", .string "timeout")]]),
      ("name", .string "configuration")]),
    ("directory_permissions", .null), ("file_permissions", .null), ("passphrase", .null),
    ("private_key", .null), ("password", .null), ("username", .null),
    ("id", .string "nexus")]])]

theorem edits_nestedEdited :
    Relation.ReflTransGen (Edit (.record .settings)) nestedSettings.toJson nestedEdited := by
  have inServer : ∀ {j j' : Json}, Edit (.record .server) j j' →
      Edit (.record .settings) (.object [("servers", .array [j])])
        (.object [("servers", .array [j'])]) := fun h =>
    .within (f := ⟨"servers", some (.array []), .records .server⟩) (by simp [RecordKind.fields])
      (@Edit.item .server _ _ [] [] h)
  have inTree : ∀ {j j' : Json} {ms : List (String × Json)}, Edit (.record .node) j j' →
      Edit (.record .server) (.object (("configuration", j) :: ms))
        (.object (("configuration", j') :: ms)) := fun h =>
    .within (f := ⟨"configuration", some .null, .record .node⟩) (by simp [RecordKind.fields]) h
  have inChild : ∀ {j j' : Json} {ms : List (String × Json)}, Edit (.record .node) j j' →
      Edit (.record .node) (.object (("children", .array [j]) :: ms))
        (.object (("children", .array [j']) :: ms)) := fun h =>
    .within (f := ⟨"children", some (.array []), .records .node⟩) (by simp [RecordKind.fields])
      (@Edit.item .node _ _ [] [] h)
  refine .head (.drop (f := ⟨"mirrors", some (.array []), .records .mirror⟩)
    (by simp [RecordKind.fields]) rfl (by decide)) ?_
  refine .head (.drop (f := ⟨"proxies", some (.array []), .records .proxy⟩)
    (by simp [RecordKind.fields]) rfl (by decide)) ?_
  refine .head (inServer (.reorder (by decide) (List.reverse_perm _).symm)) ?_
  refine .head (inServer (inTree (.reorder (by decide) (List.reverse_perm _).symm))) ?_
  exact .single (inServer (inTree (inChild (.add (by decide) (by decide)))))

theorem reads_back_nestedEdited :
    Relation.ReflTransGen (Edit (.record .settings)) nestedSettings.toJson nestedEdited
      ∧ Settings.ofJson? nestedEdited = .ok nestedSettings :=
  ⟨edits_nestedEdited,
    (reads_back_through_edits .settings nestedSettings).2 nestedEdited edits_nestedEdited⟩

end BuildSession
