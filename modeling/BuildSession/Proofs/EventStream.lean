import BuildSession.Event.Listener
import BuildSession.Proofs.JsonText
import Mathlib.Data.List.Forall2

/-!
# Reading a stream of events

What a stream's spy has written tells of the events it was told, whatever characters their texts
have. Only an event whose path is no text leaves nothing in the stream (`PathIsText`). No character
of a line is a control character (`le_of_mem_line`), so the line breaks are those between events and
the text falls into one line for each (`splitOn_lines`). A line is read as the object that was
written (`parse?_value`), and from its members, in any order, the event is made again
(`EventOf.ofMembers?_perm`). So the text as a whole has a reader (`ofText?_written`), and no other
events are written with it (`written_tells_events`).
-/

namespace BuildSession

/-- The words of a name in camel case, in lower case with underscores between them. -/
def snakeCase : List Char → List Char
  | [] => []
  | c :: cs => c.toLower :: cs.flatMap fun c => if c.isUpper then ['_', c.toLower] else [c.toLower]

namespace EventOf

/-! ### Events with texts for their paths -/

/-- Whether the path that an event tells of, if it tells of one, is a text. -/
def PathIsText (e : RepositoryEvent) : Prop :=
  ∀ p, e.path? = some p → ∃ s, p = PathName.ofText s

theorem path?_mapPath {π ρ : Type} (f : π → ρ) (e : EventOf π) :
    (e.mapPath f).path? = e.path?.map f := by
  cases e with
  | artifactResolved artifact repository file => cases file <;> rfl
  | _ => rfl

theorem pathIsText_mapPath (t : TextualEvent) : (t.mapPath PathName.ofText).PathIsText := by
  intro p hp
  rw [path?_mapPath, Option.map_eq_some_iff] at hp
  obtain ⟨s, -, rfl⟩ := hp
  exact ⟨s, rfl⟩

theorem PathIsText.exists_textual {e : RepositoryEvent} (h : e.PathIsText) :
    ∃ t, e.textual? = some t := by
  cases e with
  | artifactResolved artifact repository file =>
    rcases file with _ | file
    · exact ⟨_, rfl⟩
    · obtain ⟨s, rfl⟩ := h file rfl
      exact ⟨_, textual?_mapPath (.artifactResolved artifact repository (some s))⟩
  | artifactInstalled artifact file =>
    obtain ⟨s, rfl⟩ := h file rfl
    exact ⟨_, textual?_mapPath (.artifactInstalled artifact s)⟩
  | _ => exact ⟨_, rfl⟩

theorem isSome_textual?_iff {e : RepositoryEvent} : e.textual?.isSome = true ↔ e.PathIsText := by
  rw [Option.isSome_iff_exists]
  refine ⟨fun ⟨t, ht⟩ => ?_, PathIsText.exists_textual⟩
  rw [textual?_eq_some_iff.1 ht]
  exact pathIsText_mapPath t

instance (e : RepositoryEvent) : Decidable e.PathIsText :=
  decidable_of_iff _ isSome_textual?_iff

/-- The events with texts for their paths are those that can be written. -/
theorem filter_pathIsText : ∀ es : List RepositoryEvent,
    es.filter (·.PathIsText) = (es.filterMap textual?).map (mapPath PathName.ofText)
  | [] => rfl
  | e :: es => by
    rw [List.filter_cons, List.filterMap_cons, filter_pathIsText es]
    rcases h : e.textual? with _ | t
    · have hpath : ¬ e.PathIsText := by
        rw [← isSome_textual?_iff, h]
        exact Bool.false_ne_true
      simp only [hpath, decide_false, Bool.false_eq_true, if_false]
    · rw [textual?_eq_some_iff.1 h, decide_eq_true (pathIsText_mapPath t), if_pos rfl,
        List.map_cons]

/-! ### Names and details -/

/-- The name an event is written with is its name in diagnostics, respelled. -/
theorem name_eq_snakeCase {π : Type} (e : EventOf π) :
    e.name.toList = snakeCase e.shownName.toList := by
  cases e <;> (dsimp only [name, shownName]; decide)

theorem shownName_mapPath {π ρ : Type} (f : π → ρ) (e : EventOf π) :
    (e.mapPath f).shownName = e.shownName := by
  cases e <;> rfl

theorem isOptionalText_of_mem_jsonMembers {e : TextualEvent} :
    ∀ m ∈ e.jsonMembers, m.2.IsOptionalText := by
  intro m hm
  rcases List.mem_cons.1 hm with rfl | hm
  · trivial
  · obtain ⟨⟨k, s⟩, -, rfl⟩ := List.mem_map.1 hm
    rcases s with _ | s <;> trivial

theorem nodup_names (e : TextualEvent) : (e.jsonMembers.map (·.1)).Nodup := by
  cases e <;> simp [jsonMembers, details]

/-! ### The event of an object -/

def text? (name : String) (ms : List (String × Json)) : Option String :=
  match Dict.lookup name ms with
  | some (.string s) => some s
  | _ => none

def optionalText? (name : String) (ms : List (String × Json)) : Option (Option String) :=
  match Dict.lookup name ms with
  | some (.string s) => some (some s)
  | some .null => some none
  | _ => none

/-- The event that the members of an object tell of, whatever their order. -/
def ofMembers? (ms : List (String × Json)) : Option TextualEvent := do
  match ← text? "event" ms with
  | "artifact_descriptor_missing" => return .artifactDescriptorMissing (← text? "artifact" ms)
  | "artifact_descriptor_invalid" =>
    return .artifactDescriptorInvalid (← text? "artifact" ms) (← text? "message" ms)
  | "artifact_resolving" => return .artifactResolving (← text? "artifact" ms)
  | "artifact_resolved" =>
    return .artifactResolved (← text? "artifact" ms) (← optionalText? "repository" ms)
      (← optionalText? "file" ms)
  | "artifact_downloading" =>
    return .artifactDownloading (← text? "artifact" ms) (← text? "repository" ms)
  | "artifact_downloaded" =>
    return .artifactDownloaded (← text? "artifact" ms) (← text? "repository" ms)
  | "artifact_installed" => return .artifactInstalled (← text? "artifact" ms) (← text? "file" ms)
  | "artifact_deployed" =>
    return .artifactDeployed (← text? "artifact" ms) (← text? "repository" ms)
  | "metadata_resolved" =>
    return .metadataResolved (← text? "metadata" ms) (← optionalText? "repository" ms)
  | "metadata_invalid" => return .metadataInvalid (← text? "metadata" ms) (← text? "message" ms)
  | _ => none

theorem ofMembers?_jsonMembers (e : TextualEvent) : ofMembers? e.jsonMembers = some e := by
  cases e with
  | artifactResolved artifact repository file =>
    rcases repository with _ | repository <;> rcases file with _ | file <;> rfl
  | metadataResolved metadata repository => rcases repository with _ | repository <;> rfl
  | _ => rfl

/-- An event is made again from its members in any order. -/
theorem ofMembers?_perm {e : TextualEvent} {ms : List (String × Json)}
    (h : ms.Perm e.jsonMembers) : ofMembers? ms = some e := by
  have hlookup : ∀ name, Dict.lookup name ms = Dict.lookup name e.jsonMembers := fun name =>
    (Dict.lookup_perm name e.nodup_names h.symm).symm
  have htext : ∀ name, text? name ms = text? name e.jsonMembers := fun name => by
    rw [text?, hlookup, text?]
  have hoptional : ∀ name, optionalText? name ms = optionalText? name e.jsonMembers :=
    fun name => by rw [optionalText?, hlookup, optionalText?]
  have hmembers : ofMembers? ms = ofMembers? e.jsonMembers := by
    simp only [ofMembers?, htext, hoptional]
  rw [hmembers, ofMembers?_jsonMembers]

end EventOf

namespace EventStream

theorem value_eq (e : TextualEvent) : value e = .object (Dict.ofList e.jsonMembers).entries := by
  rw [value, Json.sortMembers_eq]

theorem isOptionalText_of_mem_value {e : TextualEvent} :
    ∀ m ∈ (Dict.ofList e.jsonMembers).entries, m.2.IsOptionalText := by
  intro m hm
  have hmem := (Dict.perm_entries_ofList e.nodup_names).subset hm
  exact EventOf.isOptionalText_of_mem_jsonMembers m hmem

theorem le_of_mem_line {e : TextualEvent} {x : Char} (hx : x ∈ (value e).write) :
    32 ≤ x.toNat := by
  rw [value_eq] at hx
  exact Json.le_of_mem_write_object isOptionalText_of_mem_value hx

theorem parse?_value (e : TextualEvent) : Json.parse? (value e).render = some (value e) := by
  rw [value_eq, Json.parse?_render_object isOptionalText_of_mem_value, Json.sortMembers_eq,
    Dict.ofList_entries]

/-- What a stream's spy writes when it is told some events, one after the other. -/
def written (es : List RepositoryEvent) : String :=
  String.join (es.map fun e => match (Delivery.mk (.spy .stream) e).effect with
    | .written line => line
    | _ => "")

/-- What a line tells: an object that has the name of an event in snake case and the details of the
event, a path as its text and an absent one as `null`, each once and nothing else. -/
def Tells (line : List Char) (e : RepositoryEvent) : Prop :=
  ∃ (t : TextualEvent) (ms : List (String × Json)), e = t.mapPath PathName.ofText
    ∧ Json.parse? (String.ofList line) = some (.object ms)
    ∧ (ms.map (·.1)).Pairwise (· < ·)
    ∧ ms.Perm (("event", .string (String.ofList (snakeCase e.shownName.toList)))
      :: (t.details id id).map fun d => (d.1, Json.ofOption .string d.2))

theorem tells_write (t : TextualEvent) : Tells (value t).write (t.mapPath PathName.ofText) := by
  have hname : String.ofList (snakeCase (t.mapPath PathName.ofText).shownName.toList) = t.name := by
    rw [EventOf.shownName_mapPath, ← t.name_eq_snakeCase, String.ofList_toList]
  have hascending := (Dict.ofList t.jsonMembers).ascending_keys
  refine ⟨t, (Dict.ofList t.jsonMembers).entries, rfl, ?_, hascending, ?_⟩
  · rw [← value_eq]
    exact parse?_value t
  · rw [hname]
    exact Dict.perm_entries_ofList t.nodup_names

theorem toList_written : ∀ es : List RepositoryEvent, (written es).toList
    = (es.filterMap (·.textual?)).flatMap fun t => (value t).write ++ ['\n']
  | [] => rfl
  | e :: es => by
    have hwritten : written (e :: es) = (match (Delivery.mk (.spy .stream) e).effect with
        | .written line => line
        | _ => "") ++ written es := by
      rw [written, List.map_cons, String.join_cons]
      rfl
    rw [hwritten, String.toList_append, toList_written es, List.filterMap_cons, Delivery.effect]
    dsimp only
    rcases e.textual? with _ | t
    · rfl
    · dsimp only
      rw [List.flatMap_cons, line, String.toList_append, Json.render, String.toList_ofList]
      rfl

/-- The only line breaks of a stream are those behind its lines. -/
theorem splitOn_lines : ∀ ts : List TextualEvent,
    (ts.flatMap fun t => (value t).write ++ ['\n']).splitOn '\n'
      = ts.map (fun t => (value t).write) ++ [[]]
  | [] => rfl
  | t :: ts => by
    -- the line has no break of its own, so the first break is the one behind it
    have hline : '\n' ∉ (value t).write := fun h => absurd (le_of_mem_line h) (by decide)
    rw [List.flatMap_cons, List.append_assoc, List.singleton_append,
      List.splitOn_append_cons_self_of_not_mem hline, splitOn_lines ts]
    rfl

/-- The event that a line tells of. -/
def ofLine? (line : List Char) : Option TextualEvent :=
  match Json.parse? (String.ofList line) with
  | some (.object ms) => EventOf.ofMembers? ms
  | _ => none

/-- The events that a text tells of, line by line. -/
def ofText? (text : String) : Option (List TextualEvent) :=
  (text.toList.splitOn '\n').dropLast.mapM ofLine?

theorem ofLine?_write (t : TextualEvent) : ofLine? (value t).write = some t := by
  have hparse : Json.parse? (String.ofList (value t).write) = some (value t) := parse?_value t
  rw [ofLine?, hparse, value_eq]
  exact EventOf.ofMembers?_perm (Dict.perm_entries_ofList t.nodup_names)

/-- What was written is read as the events that could be written, so it is written of no others. -/
theorem ofText?_written (es : List RepositoryEvent) :
    ofText? (written es) = some (es.filterMap (·.textual?)) := by
  have hline : (fun t => ofLine? (value t).write) = fun t => pure t := funext ofLine?_write
  rw [ofText?, toList_written, splitOn_lines, List.dropLast_concat, List.mapM_map]
  change List.mapM (fun t => ofLine? (value t).write) _ = _
  rw [hline, List.mapM_pure, List.map_id']
  rfl

theorem getLast?_lines : ∀ {ts : List TextualEvent}, ts ≠ [] →
    (ts.flatMap fun t => (value t).write ++ ['\n']).getLast? = some '\n' := by
  intro ts h
  rcases List.eq_nil_or_concat ts with rfl | ⟨init, t, rfl⟩
  · exact absurd rfl h
  · rw [List.concat_eq_append, List.flatMap_append, List.flatMap_singleton, ← List.append_assoc,
      List.getLast?_concat]

theorem effect_of_not_pathIsText {e : RepositoryEvent} (h : ¬ e.PathIsText) :
    (Delivery.mk (.spy .stream) e).effect = .logged unwritable := by
  have hnone : e.textual? = none := by
    rwa [← Option.not_isSome_iff_eq_none, EventOf.isSome_textual?_iff]
  rw [Delivery.effect, hnone]

/-- The byte FF is in no text, and a line break in a text is no line break of the stream. -/
example :
    written [.artifactInstalled "g:a:jar:1" ⟨[0xFF]⟩, .artifactResolving "a\nb"]
      = "\x7b\"artifact\":\"a\\nb\",\"event\":\"artifact_resolving\"\x7d\n" := by
  decide

end EventStream

end BuildSession
