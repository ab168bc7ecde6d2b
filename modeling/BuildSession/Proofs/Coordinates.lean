import BuildSession.Artifact.Basic

/-!
# What coordinates tell

Where no field has a colon, the colons of an artifact's coordinates are those between the fields,
and cutting at them gives the parts back (`splitOn_display`). Of the fields only the classifier may
be left out, and only if it is empty, so the number of the parts (`length_coordinates`) tells which
field each of them is (`ofParts_coordinates`). Artifacts that are shown alike thus have the same
fields (`fields_eq_of_display_eq`).
-/

namespace BuildSession.Artifact

/-- The fields that coordinates are made of, in their order. -/
def fields (a : Artifact) : List String :=
  [a.groupId, a.artifactId, a.extension, a.classifier, a.version]

/-- No field has a colon. -/
def Colonless (a : Artifact) : Prop :=
  ∀ field ∈ a.fields, ':' ∉ field.toList

instance (a : Artifact) : Decidable a.Colonless :=
  inferInstanceAs (Decidable (∀ field ∈ a.fields, ':' ∉ field.toList))

/-- The fields that the parts of coordinates stand for: four parts are without a classifier. -/
def ofParts : List String → List String
  | [group, artifact, extension, version] => [group, artifact, extension, "", version]
  | parts => parts

variable {a b : Artifact}

theorem coordinates_of_bare (h : a.classifier = "") :
    a.coordinates = [a.groupId, a.artifactId, a.extension, a.version] := by
  simp [coordinates, h]

theorem coordinates_of_classified (h : a.classifier ≠ "") : a.coordinates = a.fields := by
  simp [coordinates, fields, h]

theorem coordinates_subset (a : Artifact) : a.coordinates ⊆ a.fields := by
  by_cases h : a.classifier = ""
  · simp [coordinates_of_bare h, fields]
  · rw [coordinates_of_classified h]
    exact List.Subset.refl _

theorem coordinates_ne_nil (a : Artifact) : a.coordinates ≠ [] :=
  List.cons_ne_nil _ _

theorem length_coordinates (a : Artifact) :
    a.coordinates.length = if a.classifier = "" then 4 else 5 := by
  by_cases h : a.classifier = ""
  · rw [coordinates_of_bare h, if_pos h]
    rfl
  · rw [coordinates_of_classified h, if_neg h]
    rfl

theorem ofParts_coordinates (a : Artifact) : ofParts a.coordinates = a.fields := by
  by_cases h : a.classifier = ""
  · rw [coordinates_of_bare h, fields, h, ofParts]
  · rw [coordinates_of_classified h]
    rfl

theorem splitOn_display (h : a.Colonless) :
    (a.display.toList.splitOn ':').map String.ofList = a.coordinates := by
  have hparts : ∀ part ∈ a.coordinates.map String.toList, ':' ∉ part := by
    rw [List.forall_mem_map]
    exact fun part hpart => h part (a.coordinates_subset hpart)
  have hne : a.coordinates.map String.toList ≠ [] := by
    rw [ne_eq, List.map_eq_nil_iff]
    exact a.coordinates_ne_nil
  have hcut : a.display.toList.splitOn ':' = a.coordinates.map String.toList := by
    rw [display, String.toList_intercalate]
    exact List.splitOn_intercalate ':' hparts hne
  rw [hcut, List.map_map]
  simp [Function.comp_def]

theorem fields_eq_of_display_eq (ha : a.Colonless) (hb : b.Colonless)
    (h : a.display = b.display) : a.fields = b.fields := by
  have hparts : a.coordinates = b.coordinates := by
    rw [← splitOn_display ha, h, splitOn_display hb]
  rw [← ofParts_coordinates a, hparts, ofParts_coordinates]

theorem display_eq_of_fields_eq (h : a.fields = b.fields) : a.display = b.display := by
  simp only [fields, List.cons.injEq, and_true] at h
  obtain ⟨hgroup, hartifact, hextension, hclassifier, hversion⟩ := h
  rw [display, coordinates, hgroup, hartifact, hextension, hclassifier, hversion]
  rfl

/-- Coordinates of fields without colons are cut at the colons into the fields, of which only an
empty classifier is missing, and they are the same for two artifacts exactly if all fields are. -/
theorem display_tells_fields (a : Artifact) (ha : a.Colonless) :
    let parts := (a.display.toList.splitOn ':').map String.ofList
    (parts.length = 4 ↔ a.classifier = "") ∧ (parts.length = 5 ↔ a.classifier ≠ "")
      ∧ (a.classifier = "" → parts = [a.groupId, a.artifactId, a.extension, a.version])
      ∧ (a.classifier ≠ "" →
        parts = [a.groupId, a.artifactId, a.extension, a.classifier, a.version])
      ∧ ∀ b : Artifact, b.Colonless → (a.display = b.display ↔
        a.groupId = b.groupId ∧ a.artifactId = b.artifactId ∧ a.extension = b.extension
          ∧ a.classifier = b.classifier ∧ a.version = b.version) := by
  intro parts
  have hparts : parts = a.coordinates := splitOn_display ha
  rw [hparts, length_coordinates]
  refine ⟨?_, ?_, coordinates_of_bare, coordinates_of_classified, fun b hb => ?_⟩
  · by_cases h : a.classifier = "" <;> simp [h]
  · by_cases h : a.classifier = "" <;> simp [h]
  · have hfields : a.display = b.display ↔ a.fields = b.fields :=
      ⟨fields_eq_of_display_eq ha hb, display_eq_of_fields_eq⟩
    simpa [fields] using hfields

/-- Of two artifacts with empty fields, one has as its version what is the other's classifier. -/
theorem display_tells_fields_of_same_words :
    let classified : Artifact :=
      { groupId := "", artifactId := "core", version := "", classifier := "sources" }
    let bare : Artifact := { groupId := "", artifactId := "core", version := "sources" }
    classified.Colonless ∧ bare.Colonless
      ∧ (classified.display.toList.splitOn ':').map String.ofList
        = ["", "core", "jar", "sources", ""]
      ∧ (bare.display.toList.splitOn ':').map String.ofList = ["", "core", "jar", "sources"]
      ∧ classified.display ≠ bare.display := by
  intro classified bare
  have hclassified : classified.Colonless := by decide
  have hbare : bare.Colonless := by decide
  obtain ⟨-, -, -, hparts, hsame⟩ := display_tells_fields classified hclassified
  obtain ⟨-, -, hparts', -⟩ := display_tells_fields bare hbare
  refine ⟨hclassified, hbare, hparts (by decide), hparts' rfl, fun h => ?_⟩
  obtain ⟨-, -, -, hclassifier, -⟩ := (hsame bare hbare).1 h
  exact absurd hclassifier (by decide)

/-- With colons in the fields, what is between colons need not be a field. -/
example :
    let a : Artifact := { groupId := "org:core", artifactId := "api", version := "1" }
    let b : Artifact :=
      { groupId := "org", artifactId := "core", version := "1", classifier := "jar"
        extension := "api" }
    a.display = b.display := by decide

end BuildSession.Artifact
