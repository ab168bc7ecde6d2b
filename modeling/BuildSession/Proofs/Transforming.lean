import BuildSession.Proofs.Assembly

/-!
# What composed transformers do

Chains of transformers may hold chains, and a chain without members is left out of the one around
it (`TransformerTree.made`). However deep they are nested, running them comes to running the single
steps one after another (`TransformerTree.runAll_madeAll`), up to the first that refuses
(`TransformStep.runsInOrder_runAll`). All of this rests on one law: a chain of two lists does what
the first does and then what the second does (`Transformer.runAll_append`).
-/

namespace BuildSession

variable {σ ε α β γ ρ : Type}

/-- A run that goes on with `next`, unless it was stopped before. -/
def Recorded.andThen (first : Recorded σ (Except ε α)) (next : α → Recorded σ (Except ε β)) :
    Recorded σ (Except ε β) :=
  match first with
  | ⟨.error e, records⟩ => ⟨.error e, records⟩
  | ⟨.ok a, records⟩ => ⟨(next a).value, records ++ (next a).records⟩

theorem Recorded.andThen_ok (x : Recorded σ (Except ε α)) :
    x.andThen (fun a => ⟨.ok a, []⟩) = x := by
  rcases x with ⟨e | a, records⟩
  · rfl
  · simp [andThen]

theorem Recorded.andThen_assoc (x : Recorded σ (Except ε α)) (f : α → Recorded σ (Except ε α))
    (g : α → Recorded σ (Except ε β)) :
    (x.andThen f).andThen g = x.andThen fun a => (f a).andThen g := by
  rcases x with ⟨e | a, records⟩
  · rfl
  rcases hf : f a with ⟨e | b, later⟩
  · simp [andThen, hf]
  · simp [andThen, hf, List.append_assoc]

namespace Transformer

/-- What comes of a request; without a transformer it stays as it is. -/
def runIfAny : Option (Transformer ρ) → ρ → Recorded String (Except TransformError ρ)
  | none, request => ⟨.ok request, []⟩
  | some t, request => t.run request

theorem runAll_cons (t : Transformer ρ) (ts : List (Transformer ρ)) (request : ρ) :
    runAll (t :: ts) request = (t.run request).andThen (runAll ts) := by
  rw [runAll]
  rcases t.run request with ⟨e | next, records⟩ <;> rfl

theorem runAll_append : ∀ (xs ys : List (Transformer ρ)) (request : ρ),
    runAll (xs ++ ys) request = (runAll xs request).andThen (runAll ys)
  | [], ys, request => by simp [runAll, Recorded.andThen]
  | t :: xs, ys, request => by
    rw [List.cons_append, runAll_cons, runAll_cons, Recorded.andThen_assoc]
    exact congrArg _ (funext (runAll_append xs ys))

theorem runAll_toList (t : Option (Transformer ρ)) (request : ρ) :
    runAll t.toList request = runIfAny t request := by
  rcases t with _ | t
  · rfl
  · rw [Option.toList_some, runAll_cons]
    exact Recorded.andThen_ok _

/-- That an empty list composes to nothing does not show, since nothing changes no request. -/
theorem runIfAny_compose (kind : TransformerKind) (ts : List (Transformer ρ)) (request : ρ) :
    runIfAny (compose kind ts).value request = runAll ts request := by
  rcases ts with _ | ⟨t, ts⟩
  · rfl
  · rfl

end Transformer

/-- A single change of requests and the name that is put down when it is called. -/
structure TransformStep (ρ : Type) where
  name : String
  apply : ρ → Except TransformError ρ

namespace TransformStep

/-- What steps make of a request one after another, and the names of those that were called. -/
def runAll : List (TransformStep ρ) → ρ → Recorded String (Except TransformError ρ)
  | [], request => ⟨.ok request, []⟩
  | step :: steps, request =>
    Recorded.andThen ⟨step.apply request, [step.name]⟩ fun next => runAll steps next

/-- What may come of a request: either all steps are called, each with what the one before it made
of the request, or one of them refuses, and then its error is the outcome and it was the last to be
called. -/
inductive RunsInOrder (steps : List (TransformStep ρ)) (request : ρ) :
    Recorded String (Except TransformError ρ) → Prop where
  | completed {result : ρ}
    (hsteps : steps.foldlM (fun reached step => step.apply reached) request = .ok result) :
    RunsInOrder steps request ⟨.ok result, steps.map (·.name)⟩
  | stopped {before after : List (TransformStep ρ)} {step : TransformStep ρ} {reached : ρ}
    {e : TransformError} (hsteps : steps = before ++ step :: after)
    (hbefore : before.foldlM (fun reached step => step.apply reached) request = .ok reached)
    (hstep : step.apply reached = .error e) :
    RunsInOrder steps request ⟨.error e, (before ++ [step]).map (·.name)⟩

/-- A step that accepts a request passes it on, and is the first to be named. -/
theorem RunsInOrder.cons {step : TransformStep ρ} {steps : List (TransformStep ρ)}
    {request next : ρ} {outcome : Recorded String (Except TransformError ρ)}
    (hstep : step.apply request = .ok next) (h : RunsInOrder steps next outcome) :
    RunsInOrder (step :: steps) request ⟨outcome.value, step.name :: outcome.records⟩ := by
  cases h with
  | completed hsteps =>
    refine .completed ?_
    rw [List.foldlM_cons, hstep]
    exact hsteps
  | @stopped before after last reached e hsteps hbefore hlast =>
    have hsplit : step :: steps = (step :: before) ++ last :: after := by
      rw [hsteps, List.cons_append]
    refine .stopped hsplit ?_ hlast
    rw [List.foldlM_cons, hstep]
    exact hbefore

theorem runsInOrder_runAll : ∀ (steps : List (TransformStep ρ)) (request : ρ),
    RunsInOrder steps request (runAll steps request)
  | [], request => .completed rfl
  | step :: steps, request => by
    rw [runAll]
    rcases hstep : step.apply request with e | next
    · have hsplit : step :: steps = [] ++ step :: steps := rfl
      exact .stopped hsplit rfl hstep
    · exact (runsInOrder_runAll steps next).cons hstep

theorem runAll_append : ∀ (xs ys : List (TransformStep ρ)) (request : ρ),
    runAll (xs ++ ys) request = (runAll xs request).andThen (runAll ys)
  | [], ys, request => by simp [runAll, Recorded.andThen]
  | step :: xs, ys, request => by
    rw [List.cons_append, runAll, runAll, Recorded.andThen_assoc]
    exact congrArg _ (funext (runAll_append xs ys))

end TransformStep

/-- Single steps, and chains of what hangs below them. -/
inductive TransformerTree (ρ : Type) where
  | leaf (step : TransformStep ρ)
  | chain (kind : TransformerKind) (below : List (TransformerTree ρ))

namespace TransformerTree

mutual

/-- The transformer of a tree, if there is anything in it to compose. -/
def made : TransformerTree ρ → Option (Transformer ρ)
  | leaf step => some (.step step.name step.apply)
  | chain kind below => (Transformer.compose kind (madeAll below)).value

/-- The transformers of some trees; those that come to nothing are left out. -/
def madeAll : List (TransformerTree ρ) → List (Transformer ρ)
  | [] => []
  | t :: ts => (made t).toList ++ madeAll ts

end

mutual

/-- The single steps of a tree from left to right. -/
def leaves : TransformerTree ρ → List (TransformStep ρ)
  | leaf step => [step]
  | chain _ below => leavesAll below

/-- The single steps of some trees from left to right. -/
def leavesAll : List (TransformerTree ρ) → List (TransformStep ρ)
  | [] => []
  | t :: ts => leaves t ++ leavesAll ts

end

mutual

theorem runIfAny_made : ∀ (t : TransformerTree ρ) (request : ρ),
    Transformer.runIfAny t.made request = TransformStep.runAll t.leaves request
  | leaf step, request => by
    rw [made, leaves, TransformStep.runAll]
    exact (Recorded.andThen_ok _).symm
  | chain kind below, request => by
    rw [made, leaves, Transformer.runIfAny_compose, runAll_madeAll below]

/-- Trees of transformers run as their leaves, from left to right. -/
theorem runAll_madeAll : ∀ (ts : List (TransformerTree ρ)) (request : ρ),
    Transformer.runAll (madeAll ts) request = TransformStep.runAll (leavesAll ts) request
  | [], _ => rfl
  | t :: ts, request => by
    rw [madeAll, leavesAll, Transformer.runAll_append, TransformStep.runAll_append,
      Transformer.runAll_toList, runIfAny_made t]
    exact congrArg _ (funext (runAll_madeAll ts))

end

theorem runIfAny_compose_madeAll (kind : TransformerKind) (ts : List (TransformerTree ρ))
    (request : ρ) : Transformer.runIfAny (Transformer.compose kind (madeAll ts)).value request
      = TransformStep.runAll (leavesAll ts) request := by
  rw [Transformer.runIfAny_compose, runAll_madeAll]

end TransformerTree

theorem SessionFactory.transformers_of_assemble {f : SessionFactory} {r : BuildRequest γ}
    {s : RepositorySession γ} (h : (f.assemble r).value = .ok s) :
    s.installTransformer = (Transformer.compose .install f.installTransformers).value
      ∧ s.deployTransformer = (Transformer.compose .deploy f.deployTransformers).value := by
  obtain ⟨types, resolution, decrypted, -, -, -, rfl⟩ := (f.assemble_eq_ok_iff r s).1 h
  exact ⟨rfl, rfl⟩

/-- The transformers of a session, composed of trees of any depth, carry requests out as the single
steps of the trees do from left to right: each gets what the one before it made of the request, and
the first that refuses is the last that is called and names the error. A chain of two lists behaves
as the chain of the first and then that of the second, where one without members changes nothing. -/
theorem composed_runs_step_by_step (f : SessionFactory) (r : BuildRequest γ)
    (installs : List (TransformerTree InstallRequest))
    (deploys : List (TransformerTree DeployRequest)) (s : RepositorySession γ)
    (h : (({ f with
      installTransformers := TransformerTree.madeAll installs
      deployTransformers := TransformerTree.madeAll deploys } : SessionFactory).assemble r).value
        = .ok s) :
    (∀ request, Transformer.runIfAny s.installTransformer request
        = TransformStep.runAll (TransformerTree.leavesAll installs) request
      ∧ TransformStep.RunsInOrder (TransformerTree.leavesAll installs) request
        (Transformer.runIfAny s.installTransformer request))
      ∧ (∀ request, Transformer.runIfAny s.deployTransformer request
        = TransformStep.runAll (TransformerTree.leavesAll deploys) request
      ∧ TransformStep.RunsInOrder (TransformerTree.leavesAll deploys) request
        (Transformer.runIfAny s.deployTransformer request))
      ∧ ∀ (ρ : Type) (kind : TransformerKind) (xs ys : List (Transformer ρ)) (request : ρ),
        Transformer.runIfAny (Transformer.compose kind (xs ++ ys)).value request
          = (Transformer.runIfAny (Transformer.compose kind xs).value request).andThen
            (Transformer.runIfAny (Transformer.compose kind ys).value) := by
  obtain ⟨hinstall, hdeploy⟩ := SessionFactory.transformers_of_assemble h
  refine ⟨fun request => ?_, fun request => ?_, fun ρ kind xs ys request => ?_⟩
  · rw [hinstall, TransformerTree.runIfAny_compose_madeAll]
    exact ⟨rfl, TransformStep.runsInOrder_runAll _ request⟩
  · rw [hdeploy, TransformerTree.runIfAny_compose_madeAll]
    exact ⟨rfl, TransformStep.runsInOrder_runAll _ request⟩
  · have hys : Transformer.runIfAny (Transformer.compose kind ys).value = Transformer.runAll ys :=
      funext (Transformer.runIfAny_compose kind ys)
    rw [hys, Transformer.runIfAny_compose, Transformer.runIfAny_compose, Transformer.runAll_append]

/-- A refusal two chains below the session's own cuts all of them off. -/
theorem composed_runs_step_by_step_to_nested_refusal :
    let pass (name : String) : TransformerTree InstallRequest := .leaf ⟨name, .ok⟩
    let veto : TransformerTree InstallRequest :=
      .leaf ⟨"veto", fun _ => .error ⟨"veto", "releases are frozen"⟩⟩
    let installs : List (TransformerTree InstallRequest) :=
      [pass "first", .chain .install [.chain .install [], .chain .install [veto, pass "inner"],
        pass "outer"], pass "last"]
    let f : SessionFactory :=
      { defaultManager := fun _ l => .ok ⟨"enhanced", l⟩
        tool := .current "any" "any"
        handlers := .ok []
        installTransformers := TransformerTree.madeAll installs }
    let r : BuildRequest Unit := { localRepository := "/repo", startTime := .epoch }
    ∃ s, (f.assemble r).value = .ok s
      ∧ ∀ request, Transformer.runIfAny s.installTransformer request
        = ⟨.error ⟨"veto", "releases are frozen"⟩, ["first", "veto"]⟩ := by
  intro pass veto installs f r
  let s := (f.finish r {} (.primary ⟨"enhanced", ⟨"/repo"⟩⟩) {}).value
  have hs : (f.assemble r).value = .ok s := rfl
  obtain ⟨hinstall, -⟩ := composed_runs_step_by_step f r installs [] s hs
  exact ⟨s, hs, fun request => (hinstall request).1.trans rfl⟩

end BuildSession
