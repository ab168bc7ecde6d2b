import BuildSession.Session.Assembly

/-!
# How a manager is found

A search for a manager goes one of three ways (`Search`), and each of them says what was asked and
what it came to (`search_resolveManager`). The default maker is asked exactly if it is needed
(`Search.askedDefault_iff`), and then its failure is the failure of the search
(`Search.eq_error_iff`). Otherwise the search comes to a manager, and to a fallback exactly if the
legacy maker was asked for in vain (`Search.resolves`).
-/

namespace BuildSession

variable {γ : Type}

namespace AssemblyStep

/-- The stage of an assembly that asks a collaborator; nobody is asked by logging. -/
def stage? : AssemblyStep → Option AssemblyStage
  | log _ => none
  | askedHandlers => some .artifactTypeRegistry
  | askedLegacy _ _ => some .localRepositoryManager
  | askedDefault _ _ => some .localRepositoryManager
  | askedDecrypter _ _ => some .decryption

/-- The questions to collaborators among the steps of an assembly. -/
def calls (steps : List AssemblyStep) : List AssemblyStep :=
  steps.filter (·.stage?.isSome)

end AssemblyStep

namespace SessionFactory

variable (f : SessionFactory) (r : BuildRequest γ)

/-- What keeps a request from getting the legacy manager. -/
inductive LegacyFails : NoLocalRepositoryManager → Prop where
  | absent (hmaker : f.legacyManager = none) :
    LegacyFails ⟨r.localRepository, "no legacy local repository manager factory is configured"⟩
  | failed {maker : ManagerMaker} {e : NoLocalRepositoryManager}
    (hmaker : f.legacyManager = some maker)
    (he : maker r.policies ⟨r.localRepository⟩ = .error e) : LegacyFails e

/-- Whether a request needs the default maker. -/
def NeedsDefault : Prop :=
  r.useLegacyLocalRepository = false ∨ ∃ e, f.LegacyFails r e

/-- The question to the legacy maker, if there is one. -/
def legacyCalls : List AssemblyStep :=
  if f.legacyManager.isSome then [.askedLegacy r.policies ⟨r.localRepository⟩] else []

/-- What a resolution says of how its manager was found. -/
structure Resolves (resolution : ManagerResolution) : Prop where
  /-- A fallback carries what was wrong with the legacy maker. -/
  fallback : ∀ e, (∃ m, resolution = .fallback m e) ↔
    r.useLegacyLocalRepository = true ∧ f.LegacyFails r e
  primary : (∃ m, resolution = .primary m) ↔
    ¬ (r.useLegacyLocalRepository = true ∧ ∃ e, f.LegacyFails r e)
  ofDefault : f.NeedsDefault r →
    f.defaultManager r.policies ⟨r.localRepository⟩ = .ok resolution.manager
  ofLegacy : ¬ f.NeedsDefault r → ∃ maker, f.legacyManager = some maker
    ∧ maker r.policies ⟨r.localRepository⟩ = .ok resolution.manager

/-- The ways of a search for a manager: what it comes to, and the questions it asks. -/
inductive Search :
    Except NoLocalRepositoryManager ManagerResolution → List AssemblyStep → Prop where
  | plain (hmode : r.useLegacyLocalRepository = false) :
    Search ((f.defaultManager r.policies ⟨r.localRepository⟩).map .primary)
      [.askedDefault r.policies ⟨r.localRepository⟩]
  | legacy {maker : ManagerMaker} {m : LocalRepositoryManager}
    (hmode : r.useLegacyLocalRepository = true) (hmaker : f.legacyManager = some maker)
    (hm : maker r.policies ⟨r.localRepository⟩ = .ok m) :
    Search (.ok (.primary m)) (f.legacyCalls r)
  | fallback {e : NoLocalRepositoryManager}
    (hmode : r.useLegacyLocalRepository = true) (he : f.LegacyFails r e) :
    Search ((f.defaultManager r.policies ⟨r.localRepository⟩).map (.fallback · e))
      (f.legacyCalls r ++ [.askedDefault r.policies ⟨r.localRepository⟩])

/-- The search asks the makers that it has to, in order, and their answers tell its outcome. -/
theorem search_resolveManager :
    f.Search r (f.resolveManager r).value (AssemblyStep.calls (f.resolveManager r).records) := by
  unfold resolveManager ManagerResolution.resolve
  rcases hmode : r.useLegacyLocalRepository with _ | _
  · exact .plain hmode
  rcases hmaker : f.legacyManager with _ | maker
  · have hcalls : f.legacyCalls r = [] := by rw [legacyCalls, hmaker]; rfl
    have hsearch := Search.fallback hmode (.absent hmaker)
    rwa [hcalls] at hsearch
  have hcalls : f.legacyCalls r = [.askedLegacy r.policies ⟨r.localRepository⟩] := by
    rw [legacyCalls, hmaker]; rfl
  unfold ManagerResolution.askLegacy
  rcases hmade : maker r.policies ⟨r.localRepository⟩ with e | m
  · have hsearch := Search.fallback hmode (.failed hmaker hmade)
    rw [hcalls] at hsearch
    simp only [hmade, ↓reduceIte]
    exact hsearch
  · have hsearch := Search.legacy hmode hmaker hmade
    rw [hcalls] at hsearch
    simp only [hmade, ↓reduceIte]
    exact hsearch

section Search

variable {f r} {v : Except NoLocalRepositoryManager ManagerResolution} {asked : List AssemblyStep}
  {resolution : ManagerResolution} {m : LocalRepositoryManager} {e e' : NoLocalRepositoryManager}
  {maker : ManagerMaker}

theorem legacyFails_iff : f.LegacyFails r e ↔
    (ManagerResolution.askLegacy f.legacyManager r.policies ⟨r.localRepository⟩).value
      = .error e := by
  constructor
  · intro h
    cases h with
    | absent hmaker => rw [hmaker]; rfl
    | failed hmaker he => rw [hmaker]; exact he
  · rcases hmaker : f.legacyManager with _ | maker
    · rintro ⟨⟩
      exact .absent hmaker
    · exact .failed hmaker

theorem LegacyFails.unique (h : f.LegacyFails r e) (h' : f.LegacyFails r e') : e = e' :=
  Except.error.inj ((legacyFails_iff.1 h).symm.trans (legacyFails_iff.1 h'))

theorem not_legacyFails_of_ok (hmaker : f.legacyManager = some maker)
    (hm : maker r.policies ⟨r.localRepository⟩ = .ok m) : ¬ f.LegacyFails r e := by
  rw [legacyFails_iff, hmaker, ManagerResolution.askLegacy, hm]
  exact nofun

theorem not_needsDefault_of_ok (hmode : r.useLegacyLocalRepository = true)
    (hmaker : f.legacyManager = some maker)
    (hm : maker r.policies ⟨r.localRepository⟩ = .ok m) : ¬ f.NeedsDefault r := by
  rintro (hplain | ⟨e, he⟩)
  · rw [hmode] at hplain
    cases hplain
  · exact not_legacyFails_of_ok hmaker hm he

theorem resolves_primary
    (hnot : ¬ (r.useLegacyLocalRepository = true ∧ ∃ e, f.LegacyFails r e))
    (hdefault : f.NeedsDefault r → f.defaultManager r.policies ⟨r.localRepository⟩ = .ok m)
    (hlegacy : ¬ f.NeedsDefault r → ∃ maker, f.legacyManager = some maker
      ∧ maker r.policies ⟨r.localRepository⟩ = .ok m) : f.Resolves r (.primary m) where
  fallback e := by
    refine iff_of_false ?_ fun h => hnot ⟨h.1, e, h.2⟩
    rintro ⟨m', hm'⟩
    cases hm'
  primary := iff_of_true ⟨m, rfl⟩ hnot
  ofDefault := hdefault
  ofLegacy := hlegacy

theorem resolves_fallback (hmode : r.useLegacyLocalRepository = true) (he : f.LegacyFails r e)
    (hm : f.defaultManager r.policies ⟨r.localRepository⟩ = .ok m) :
    f.Resolves r (.fallback m e) where
  fallback e' := by
    constructor
    · rintro ⟨m', hm'⟩
      cases hm'
      exact ⟨hmode, he⟩
    · rintro ⟨-, he'⟩
      exact ⟨m, by rw [he.unique he']⟩
  primary := by
    refine iff_of_false ?_ (not_not_intro ⟨hmode, e, he⟩)
    rintro ⟨m', hm'⟩
    cases hm'
  ofDefault _ := hm
  ofLegacy := absurd (.inr ⟨e, he⟩)

namespace Search

theorem eq_error_iff (h : f.Search r v asked) : v = .error e ↔
    f.NeedsDefault r ∧ f.defaultManager r.policies ⟨r.localRepository⟩ = .error e := by
  cases h with
  | plain hmode =>
    have hneeds : f.NeedsDefault r := .inl hmode
    rw [Except.map_eq_error_iff, and_iff_right hneeds]
  | legacy hmode hmaker hm =>
    have hneeds := not_needsDefault_of_ok hmode hmaker hm
    simp [hneeds]
  | fallback hmode he =>
    have hneeds : f.NeedsDefault r := .inr ⟨_, he⟩
    rw [Except.map_eq_error_iff, and_iff_right hneeds]

theorem askedDefault_iff (h : f.Search r v asked) :
    .askedDefault r.policies ⟨r.localRepository⟩ ∈ asked ↔ f.NeedsDefault r := by
  cases h with
  | plain hmode => simp [NeedsDefault, hmode]
  | legacy hmode hmaker hm =>
    have hneeds := not_needsDefault_of_ok hmode hmaker hm
    simp [legacyCalls, hmaker, hneeds]
  | fallback hmode he => simp [NeedsDefault, show ∃ e, f.LegacyFails r e from ⟨_, he⟩]

/-- The legacy maker is asked in legacy mode only, and always if there is one. -/
theorem askedLegacy_iff (h : f.Search r v asked) :
    .askedLegacy r.policies ⟨r.localRepository⟩ ∈ asked ↔
      r.useLegacyLocalRepository = true ∧ f.legacyManager.isSome := by
  cases h with
  | plain hmode => simp [hmode]
  | legacy hmode hmaker hm => simp [legacyCalls, hmode, hmaker]
  | fallback hmode he => simp [legacyCalls, hmode]

/-- No maker is asked twice, and the legacy one never after the other. -/
theorem sublist (h : f.Search r v asked) : asked.Sublist
    [.askedLegacy r.policies ⟨r.localRepository⟩,
      .askedDefault r.policies ⟨r.localRepository⟩] := by
  have hlegacy : (f.legacyCalls r).Sublist [.askedLegacy r.policies ⟨r.localRepository⟩] := by
    unfold legacyCalls
    split <;> simp
  cases h with
  | plain hmode => simp
  | legacy hmode hmaker hm => exact hlegacy.trans (by simp)
  | fallback hmode he => exact hlegacy.append (.refl _)

theorem resolves (h : f.Search r v asked) (hv : v = .ok resolution) :
    f.Resolves r resolution := by
  cases h with
  | plain hmode =>
    obtain ⟨m, hm, rfl⟩ := Except.map_eq_ok_iff.1 hv
    have hneeds : f.NeedsDefault r := .inl hmode
    exact resolves_primary (by simp [hmode]) (fun _ => hm) (absurd hneeds)
  | legacy hmode hmaker hm =>
    cases hv
    have hneeds := not_needsDefault_of_ok hmode hmaker hm
    exact resolves_primary (fun hfails => hneeds (.inr hfails.2)) (fun h => absurd h hneeds)
      fun _ => ⟨_, hmaker, hm⟩
  | fallback hmode he =>
    obtain ⟨m, hm, rfl⟩ := Except.map_eq_ok_iff.1 hv
    exact resolves_fallback hmode he hm

end Search

end Search

end SessionFactory

end BuildSession
