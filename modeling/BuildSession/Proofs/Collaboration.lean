import BuildSession.Proofs.ArtifactTypes
import BuildSession.Proofs.Assembly
import BuildSession.Proofs.Clearing
import BuildSession.Proofs.Managers

/-!
# Who is asked, and what ends an assembly

Each step of an assembly that asks collaborators can fail for reasons of its own (`StepFails`). A
step is reached if no earlier one fails (`Reached`), and the collaborators of a step are asked
exactly if it is reached (`AsksInOrder`). The first step that fails ends the assembly
(`assemble_error_iff_first`), and nothing else does.
-/

namespace BuildSession

variable {γ : Type}

/-- The place of a stage among those that an assembly goes through. -/
def AssemblyStage.position : AssemblyStage → Nat
  | artifactTypeRegistry => 0
  | localRepositoryManager => 1
  | decryption => 2

namespace SessionFactory

variable (f : SessionFactory) (r : BuildRequest γ)

/-- How the steps of an assembly fail, each seen for itself. -/
inductive StepFails : SessionError → Prop where
  | noHandlers {c : ArtifactTypeError} (hc : f.handlers = .error c) :
    StepFails (.artifactTypes c)
  | repeatedType {hs : List ArtifactHandler} {x : ArtifactHandler} (hhs : f.handlers = .ok hs)
    (hx : x.IsFirstRepeat hs) : StepFails (.artifactTypes (.duplicateType x.typeId))
  | noManager {c : NoLocalRepositoryManager} (hneeds : f.NeedsDefault r)
    (hc : f.defaultManager r.policies ⟨r.localRepository⟩ = .error c) :
    StepFails (.localManager r.localRepository c)
  | notDecrypted {c : DecryptionError} (hc : f.decrypter r.proxies r.servers = .error c) :
    StepFails (.decryption c)

/-- Whether an assembly comes to a stage: no step of an earlier one fails. -/
def Reached (stage : AssemblyStage) : Prop :=
  ∀ e, f.StepFails r e → stage.position ≤ e.stage.position

/-- Who is asked what for a request: everybody at most once and in a fixed order, the managers'
makers for the same directory under the same policies. -/
structure AsksInOrder (calls : List AssemblyStep) : Prop where
  order : calls.Sublist [
    .askedHandlers,
    .askedLegacy r.policies ⟨r.localRepository⟩,
    .askedDefault r.policies ⟨r.localRepository⟩,
    .askedDecrypter r.proxies r.servers]
  handlers : .askedHandlers ∈ calls
  legacy : .askedLegacy r.policies ⟨r.localRepository⟩ ∈ calls ↔
    f.Reached r .localRepositoryManager
      ∧ r.useLegacyLocalRepository = true ∧ f.legacyManager.isSome
  default : .askedDefault r.policies ⟨r.localRepository⟩ ∈ calls ↔
    f.Reached r .localRepositoryManager ∧ f.NeedsDefault r
  decrypter : .askedDecrypter r.proxies r.servers ∈ calls ↔ f.Reached r .decryption

variable {f r}

theorem stepFails_artifactTypes_iff {c : ArtifactTypeError} :
    f.StepFails r (.artifactTypes c) ↔ ArtifactTypeRegistry.ofSource f.handlers = .error c := by
  constructor
  · rintro (hc | ⟨hhs, hx⟩)
    · rw [hc]
      rfl
    · rw [hhs]
      exact ArtifactTypeRegistry.ofHandlers_eq_error_iff.2 ⟨_, hx, rfl⟩
  · intro herr
    rcases hhs : f.handlers with c' | hs <;> rw [hhs] at herr
    · cases herr
      exact .noHandlers hhs
    · obtain ⟨x, hx, rfl⟩ := ArtifactTypeRegistry.ofHandlers_eq_error_iff.1 herr
      exact .repeatedType hhs hx

theorem stepFails_localManager_iff {path : String} {c : NoLocalRepositoryManager} :
    f.StepFails r (.localManager path c) ↔
      path = r.localRepository ∧ (f.resolveManager r).value = .error c := by
  rw [(f.search_resolveManager r).eq_error_iff]
  constructor
  · intro h
    cases h with
    | noManager hneeds hc => exact ⟨rfl, hneeds, hc⟩
  · rintro ⟨rfl, hneeds, hc⟩
    exact .noManager hneeds hc

theorem stepFails_decryption_iff {c : DecryptionError} :
    f.StepFails r (.decryption c) ↔
      (f.decrypter.decrypt r.proxies r.servers).value = .error c := by
  rw [Decrypter.value_decrypt, Except.map_eq_error_iff]
  constructor
  · intro h
    cases h with
    | notDecrypted hc => exact hc
  · exact .notDecrypted

theorem reached_artifactTypeRegistry : f.Reached r .artifactTypeRegistry :=
  fun _ _ => Nat.zero_le _

theorem reached_localRepositoryManager_iff : f.Reached r .localRepositoryManager ↔
    ∃ types, ArtifactTypeRegistry.ofSource f.handlers = .ok types := by
  constructor
  · intro h
    rcases htypes : ArtifactTypeRegistry.ofSource f.handlers with c | types
    · exact absurd (h _ (stepFails_artifactTypes_iff.2 htypes)) (Nat.not_succ_le_zero 0)
    · exact ⟨types, rfl⟩
  · rintro ⟨types, htypes⟩ e he
    cases e with
    | artifactTypes c =>
      rw [stepFails_artifactTypes_iff, htypes] at he
      cases he
    | localManager path c => exact Nat.le_refl 1
    | decryption c => exact Nat.le_succ 1

theorem reached_decryption_iff : f.Reached r .decryption ↔ f.Reached r .localRepositoryManager
    ∧ ∃ resolution, (f.resolveManager r).value = .ok resolution := by
  constructor
  · intro h
    refine ⟨fun e he => Nat.le_of_succ_le (h e he), ?_⟩
    rcases hmanager : (f.resolveManager r).value with c | resolution
    · exact absurd (h _ (stepFails_localManager_iff.2 ⟨rfl, hmanager⟩)) (Nat.not_succ_le_self 1)
    · exact ⟨resolution, rfl⟩
  · rintro ⟨h, resolution, hmanager⟩ e he
    cases e with
    | artifactTypes c => exact absurd (h _ he) (Nat.not_succ_le_zero 0)
    | localManager path c =>
      rw [stepFails_localManager_iff, hmanager] at he
      cases he.2
    | decryption c => exact Nat.le_refl 2

theorem assemble_error_iff_first {e : SessionError} : (f.assemble r).value = .error e ↔
    f.StepFails r e ∧ f.Reached r e.stage := by
  rw [assemble_eq_error_iff]
  cases e with
  | artifactTypes c =>
    rw [stepFails_artifactTypes_iff, SessionError.stage, and_iff_left reached_artifactTypeRegistry]
    simp
  | localManager path c =>
    rw [stepFails_localManager_iff, SessionError.stage, reached_localRepositoryManager_iff]
    simp [and_comm]
  | decryption c =>
    rw [stepFails_decryption_iff, SessionError.stage, reached_decryption_iff,
      reached_localRepositoryManager_iff]
    simp [and_comm, and_left_comm]

variable (f r)

/-- Who is asked in an assembly: each collaborator only after all before it have given an answer. -/
theorem calls_assemble : AssemblyStep.calls (f.assemble r).records = .askedHandlers ::
    match ArtifactTypeRegistry.ofSource f.handlers with
    | .error _ => []
    | .ok _ => AssemblyStep.calls (f.resolveManager r).records ++
      match (f.resolveManager r).value with
      | .error _ => []
      | .ok _ => [.askedDecrypter r.proxies r.servers] := by
  rw [assemble_eq]
  rcases ArtifactTypeRegistry.ofSource f.handlers with c | types
  · rfl
  rcases (f.resolveManager r).value with c | resolution
  · simp [AssemblyStep.calls, AssemblyStep.stage?]
  rcases (f.decrypter.decrypt r.proxies r.servers).value with c | decrypted <;>
    simp [AssemblyStep.calls, AssemblyStep.stage?]

theorem asksInOrder_assemble : f.AsksInOrder r (AssemblyStep.calls (f.assemble r).records) := by
  have hsearch := f.search_resolveManager r
  -- A search never asks the decrypter, so what it asks does not hide that one was not reached.
  have hdecrypter : .askedDecrypter r.proxies r.servers ∉
      AssemblyStep.calls (f.resolveManager r).records := fun h => by
    simpa using hsearch.sublist.mem h
  rw [calls_assemble]
  rcases htypes : ArtifactTypeRegistry.ofSource f.handlers with c | types
  · have hunreached : ¬ f.Reached r .localRepositoryManager := by
      rw [reached_localRepositoryManager_iff, htypes]
      simp
    have hunreached' : ¬ f.Reached r .decryption := fun h =>
      hunreached (reached_decryption_iff.1 h).1
    constructor <;> simp [hunreached, hunreached']
  have hreached : f.Reached r .localRepositoryManager :=
    reached_localRepositoryManager_iff.2 ⟨types, htypes⟩
  have hdecryption : f.Reached r .decryption ↔ ∃ m, (f.resolveManager r).value = .ok m := by
    rw [reached_decryption_iff, and_iff_right hreached]
  rcases hmanager : (f.resolveManager r).value with c | resolution
  · simp only [List.append_nil]
    exact
      { order := .cons_cons _ (hsearch.sublist.trans (List.sublist_append_left _ [_]))
        handlers := List.mem_cons_self
        legacy := by simp [hreached, hsearch.askedLegacy_iff]
        default := by simp [hreached, hsearch.askedDefault_iff]
        decrypter := by simp [hdecryption, hmanager, hdecrypter] }
  · exact
      { order := .cons_cons _ (hsearch.sublist.append (.refl [_]))
        handlers := List.mem_cons_self
        legacy := by simp [hreached, hsearch.askedLegacy_iff]
        default := by simp [hreached, hsearch.askedDefault_iff]
        decrypter := by simp [hdecryption, hmanager] }

variable {f r}

/-- A collaborator is asked only when the assembly has come to its stage. -/
theorem AsksInOrder.reached {calls : List AssemblyStep} (h : f.AsksInOrder r calls)
    {step : AssemblyStep} (hstep : step ∈ calls) {stage : AssemblyStage}
    (hstage : step.stage? = some stage) : f.Reached r stage := by
  have hmem := h.order.mem hstep
  simp only [List.mem_cons, List.not_mem_nil, or_false] at hmem
  rcases hmem with rfl | rfl | rfl | rfl <;> cases hstage
  · exact reached_artifactTypeRegistry
  · exact (h.legacy.1 hstep).1
  · exact (h.default.1 hstep).1
  · exact h.decrypter.1 hstep

theorem assemble_succeeds_iff :
    (∃ s, (f.assemble r).value = .ok s) ↔ ∀ e, ¬ f.StepFails r e := by
  constructor
  · rintro ⟨s, hs⟩ e he
    obtain ⟨types, resolution, decrypted, htypes, hmanager, hdecrypted, -⟩ :=
      (f.assemble_eq_ok_iff r s).1 hs
    cases e with
    | artifactTypes c =>
      rw [stepFails_artifactTypes_iff, htypes] at he
      cases he
    | localManager path c =>
      rw [stepFails_localManager_iff, hmanager] at he
      cases he.2
    | decryption c =>
      rw [stepFails_decryption_iff, hdecrypted] at he
      cases he
  · intro hnone
    rcases hvalue : (f.assemble r).value with e | s
    · exact absurd (assemble_error_iff_first.1 hvalue).1 (hnone e)
    · exact ⟨s, rfl⟩

/-- Nothing can fail behind the decrypter, whatever problems it reports. -/
theorem assemble_succeeds_of_decrypted {result : DecryptedSettings}
    (hresult : f.decrypter r.proxies r.servers = .ok result) (hreached : f.Reached r .decryption) :
    ∃ s, (f.assemble r).value = .ok s := by
  refine assemble_succeeds_iff.2 fun e he => ?_
  have hlate : 2 ≤ e.stage.position := hreached e he
  cases he with
  | noHandlers hc => exact absurd hlate (Nat.not_succ_le_zero 1)
  | repeatedType hhs hx => exact absurd hlate (Nat.not_succ_le_zero 1)
  | noManager hneeds hc => exact absurd hlate (Nat.not_succ_le_self 1)
  | notDecrypted hc =>
    rw [hresult] at hc
    cases hc

/-- The first stage fails if there are no handlers to be had, or two of the same type. -/
theorem artifactTypes_fails_iff : (∃ c, f.StepFails r (.artifactTypes c)) ↔
    (∃ c, f.handlers = .error c)
      ∨ ∃ hs, f.handlers = .ok hs ∧ ¬ (hs.map (·.typeId)).Nodup := by
  constructor
  · rintro ⟨c, hc | ⟨hhs, hx⟩⟩
    · exact .inl ⟨c, hc⟩
    · exact .inr ⟨_, hhs, ArtifactTypeRegistry.not_nodup_of_isFirstRepeat hx⟩
  · rintro (⟨c, hc⟩ | ⟨hs, hhs, hdup⟩)
    · exact ⟨c, .noHandlers hc⟩
    · obtain ⟨x, hx⟩ := ArtifactTypeRegistry.exists_isFirstRepeat_iff.2 hdup
      exact ⟨_, .repeatedType hhs hx⟩

end SessionFactory

/-- An assembly ends with the first step that fails, whose stage and cause it reports, and if none
fails there is a session, whatever problems there are with single settings. The collaborators of a
step are asked exactly if it is reached, in order and at most once, and the session publishes what
the managers' makers were asked for and whether the manager is a fallback. -/
theorem assemble_stops_at_first_failure (f : SessionFactory) (r : BuildRequest γ) :
    (∀ e, (f.assemble r).value = .error e ↔ f.StepFails r e ∧ f.Reached r e.stage)
      ∧ ((∃ s, (f.assemble r).value = .ok s) ↔ ∀ e, ¬ f.StepFails r e)
      ∧ ((∃ c, f.StepFails r (.artifactTypes c)) ↔ (∃ c, f.handlers = .error c)
        ∨ ∃ hs, f.handlers = .ok hs ∧ ¬ (hs.map (·.typeId)).Nodup)
      ∧ (∀ result, f.decrypter r.proxies r.servers = .ok result → f.Reached r .decryption →
        ∃ s, (f.assemble r).value = .ok s)
      ∧ f.AsksInOrder r (AssemblyStep.calls (f.assemble r).records)
      ∧ (∀ e, (f.assemble r).value = .error e → ∀ step ∈ (f.assemble r).records,
        ∀ stage, step.stage? = some stage → stage.position ≤ e.stage.position)
      ∧ ∀ s, (f.assemble r).value = .ok s → s.policies = r.policies
        ∧ s.localRepository = ⟨r.localRepository⟩ ∧ f.Resolves r s.resolution := by
  refine ⟨fun e => SessionFactory.assemble_error_iff_first, SessionFactory.assemble_succeeds_iff,
    SessionFactory.artifactTypes_fails_iff,
    fun result => SessionFactory.assemble_succeeds_of_decrypted, f.asksInOrder_assemble r, ?_, ?_⟩
  · intro e he step hstep stage hstage
    have hcall : step ∈ AssemblyStep.calls (f.assemble r).records :=
      List.mem_filter.2 ⟨hstep, by rw [hstage]; rfl⟩
    exact (f.asksInOrder_assemble r).reached hcall hstage e
      (SessionFactory.assemble_error_iff_first.1 he).1
  · intro s hs
    obtain ⟨types, resolution, decrypted, -, hmanager, -, rfl⟩ := (f.assemble_eq_ok_iff r s).1 hs
    exact ⟨rfl, rfl, (f.search_resolveManager r).resolves hmanager⟩

/-- Of a maker and a decrypter that both fail, the maker is reported. -/
example :
    let f : SessionFactory :=
      { defaultManager := fun _ l => .error ⟨l.basedir, "unsupported"⟩
        tool := .current "any" "any"
        handlers := .ok []
        decrypter := .failing (.unavailable "locked") }
    let r : BuildRequest Unit := { localRepository := "/repo", startTime := .epoch }
    (f.assemble r).value = .error (.localManager "/repo" ⟨"/repo", "unsupported"⟩) :=
  rfl

end BuildSession
