import PassPlan.Run.Executor
/-!
The executor stops at the first failure. A run attempts the passes of its plan in order, each on
the model the ones before it left, and stops after the first attempt that fails: nothing after
it is looked up or run. The report keeps the plan and numbers each step by its place there; it
ends completed, every step succeeded and nothing skipped, or failed at its last step, which is
its failure, with the rest of the plan skipped. The model is the one the attempted passes leave,
the changes of a failing pass included, and the events announce the steps in order.
-/
namespace PassPlan.Run

/-- The model a named pass leaves when run on `g`; a pass the lookup does not find leaves it as
it was. -/
def passModel (lookup : Lookup) (g : Graph) (name : String) : Graph :=
  match lookup name with
  | .error _ => g
  | .ok p => (p.run g).model

/-- The model after running the named passes in turn, each on the model the one before left. -/
def modelAfter (lookup : Lookup) (names : List String) (g : Graph) : Graph :=
  names.foldl (passModel lookup) g

@[simp] theorem modelAfter_nil (lookup : Lookup) (g : Graph) : modelAfter lookup [] g = g := rfl

@[simp] theorem modelAfter_cons (lookup : Lookup) (name : String) (names : List String) (g : Graph) :
    modelAfter lookup (name :: names) g = modelAfter lookup names (passModel lookup g name) := rfl

/-- What a step records of its pass run on `g`: a pass the lookup does not find is reported with
the lookup's error; a pass that runs gives its fault, and its outcome unless it panicked, which
counts as no change. -/
def Records (lookup : Lookup) (g : Graph) (s : Step) : Prop :=
  match lookup s.pass with
  | .error cause => s.outcome = .noop ∧ s.error = some (.notFound s.pass cause)
  | .ok p =>
    s.error = (p.run g).fault.map .fault ∧
    s.outcome = match (p.run g).fault with
      | some (.panicked _) => .noop
      | _ => (p.run g).outcome

/-- The events a step publishes, by kind and step: a pass that is found is announced as started,
with nothing recorded yet, before it is announced as finished or failed. -/
def Step.published (lookup : Lookup) (s : Step) : List (EventKind × Step) :=
  (if (lookup s.pass).isOk then [(.started, { s with outcome := .noop, error := none })] else []) ++
    [(if s.error.isSome then .failed else .finished, s)]

section Pass

variable {p : Pass} {g : Graph}

@[simp] theorem runPass_model : (runPass p g).model = (p.run g).model := by
  dsimp only [runPass]
  split <;> rfl

@[simp] theorem runPass_fault : (runPass p g).fault = (p.run g).fault := by
  dsimp only [runPass]
  split <;> rfl

theorem runPass_outcome : (runPass p g).outcome = match (p.run g).fault with
    | some (.panicked _) => .noop
    | _ => (p.run g).outcome := by
  dsimp only [runPass]
  split <;> simp_all

end Pass

section Step

variable (runId : String) (flow : Flow.Name) (lookup : Lookup) (i : Nat) (name : String)
  (g : Graph)

/-- One attempt: its step is numbered and named as asked and records its pass, its events
announce it, and it leaves the model its pass leaves. -/
theorem runStep_spec :
    let a := runStep runId flow lookup i name g
    a.1.runId = runId ∧ a.1.flow = flow ∧ a.1.index = i ∧ a.1.pass = name ∧
      Records lookup g a.1 ∧ a.2.1.map (fun e => (e.kind, e.step)) = a.1.published lookup ∧
      a.2.2 = passModel lookup g name := by
  unfold runStep
  cases hl : lookup name with
  | error cause =>
    refine ⟨rfl, rfl, rfl, rfl, ?_, ?_, ?_⟩
    · simp [Records, hl]
    · simp [Step.published, hl, Except.isOk, Except.toBool]
    · simp [passModel, hl]
  | ok p =>
    refine ⟨rfl, rfl, rfl, rfl, ?_, ?_, ?_⟩
    · simp only [Records, hl]
      exact ⟨by rw [runPass_fault], runPass_outcome⟩
    · simp [Step.published, hl, Except.isOk, Except.toBool]
    · simp [passModel, hl]

end Step

section Loop

variable (runId : String) (flow : Flow.Name) (lookup : Lookup)

/-- The steps and events before a run's own are only carried along. -/
theorem runSteps_append (names : List String) (i : Nat) (g : Graph) (steps : List Step)
    (events : List Event) :
    runSteps runId flow lookup names i g steps events =
      let r := runSteps runId flow lookup names i g [] []
      (steps ++ r.1, events ++ r.2.1, r.2.2) := by
  induction names generalizing i g steps events with
  | nil => simp [runSteps]
  | cons name rest ih =>
    simp only [runSteps, List.nil_append]
    split
    · rfl
    · rw [ih, ih _ _ [_]]
      simp

/-- A run from no steps: one attempt, then the rest of the run unless the attempt failed. -/
theorem runSteps_cons (name : String) (rest : List String) (i : Nat) (g : Graph) :
    runSteps runId flow lookup (name :: rest) i g [] [] =
      let a := runStep runId flow lookup i name g
      if a.1.error.isSome then ([a.1], a.2.1, a.2.2)
      else
        let r := runSteps runId flow lookup rest (i + 1) a.2.2 [] []
        (a.1 :: r.1, a.2.1 ++ r.2.1, r.2.2) := by
  simp only [runSteps, List.nil_append]
  split
  · rfl
  · rw [runSteps_append]
    rfl

/-- The `j`-th step of a run is the attempt of the `j`-th pass on the model the passes before it
left. -/
theorem runSteps_getElem? (names : List String) (i : Nat) (g : Graph) {j : Nat} {s : Step}
    (h : (runSteps runId flow lookup names i g [] []).1[j]? = some s) :
    ∃ name, names[j]? = some name ∧
      s = (runStep runId flow lookup (i + j) name (modelAfter lookup (names.take j) g)).1 := by
  induction names generalizing i g j with
  | nil => simp [runSteps] at h
  | cons name rest ih =>
    obtain ⟨-, -, -, -, -, -, hmodel⟩ := runStep_spec runId flow lookup i name g
    rw [runSteps_cons] at h
    dsimp only at h
    cases j with
    | zero =>
      -- whether or not it failed, the first attempt is the first step
      have ha : (runStep runId flow lookup i name g).1 = s := by
        split at h <;> simpa using h
      exact ⟨name, rfl, by rw [← ha]; rfl⟩
    | succ j =>
      split at h
      · simp at h
      · obtain ⟨name', hn, hs⟩ := ih (i + 1) _ (by simpa using h)
        refine ⟨name', by simpa using hn, ?_⟩
        rw [hs, List.take_succ_cons, modelAfter_cons, ← hmodel, Nat.add_right_comm, Nat.add_assoc]

/-- Every step of a run but the last succeeded. -/
theorem runSteps_succeeded (names : List String) (i : Nat) (g : Graph) {j : Nat} {s : Step}
    (h : (runSteps runId flow lookup names i g [] []).1[j]? = some s)
    (hj : j + 1 < (runSteps runId flow lookup names i g [] []).1.length) : s.error = none := by
  induction names generalizing i g j with
  | nil => simp [runSteps] at h
  | cons name rest ih =>
    rw [runSteps_cons] at h hj
    dsimp only at h hj
    split at h
    · next hf =>
      -- a failed attempt is the only step
      rw [if_pos hf] at hj
      simp at hj
    · next hf =>
      rw [if_neg hf] at hj
      cases j with
      | zero =>
        simp only [List.getElem?_cons_zero, Option.some.injEq] at h
        rw [← h]
        simpa using hf
      | succ j => exact ih (i + 1) _ (by simpa using h) (by simpa using hj)

/-- A run whose last step succeeded attempted every pass, and every step succeeded. -/
theorem runSteps_completed (names : List String) (i : Nat) (g : Graph)
    (h : ∀ s, (runSteps runId flow lookup names i g [] []).1.getLast? = some s → s.error = none) :
    (runSteps runId flow lookup names i g [] []).1.length = names.length ∧
      ∀ s ∈ (runSteps runId flow lookup names i g [] []).1, s.error = none := by
  induction names generalizing i g with
  | nil => exact ⟨rfl, by simp [runSteps]⟩
  | cons name rest ih =>
    rw [runSteps_cons] at h ⊢
    dsimp only at h ⊢
    by_cases hf : (runStep runId flow lookup i name g).1.error.isSome
    · -- the failed attempt would be the last step
      rw [if_pos hf] at h
      have hs := h (runStep runId flow lookup i name g).1 rfl
      rw [hs] at hf
      cases hf
    · rw [if_neg hf] at h ⊢
      obtain ⟨hlen, hall⟩ := ih (i + 1) _ fun s hs => h s (by rw [List.getLast?_cons, hs]; rfl)
      refine ⟨by simp [hlen], ?_⟩
      simp only [List.mem_cons, forall_eq_or_imp]
      exact ⟨by simpa using hf, hall⟩

/-- A run leaves the model the attempted passes leave. -/
theorem runSteps_model (names : List String) (i : Nat) (g : Graph) :
    (runSteps runId flow lookup names i g [] []).2.2 =
      modelAfter lookup (names.take (runSteps runId flow lookup names i g [] []).1.length) g := by
  induction names generalizing i g with
  | nil => rfl
  | cons name rest ih =>
    obtain ⟨-, -, -, -, -, -, hmodel⟩ := runStep_spec runId flow lookup i name g
    rw [runSteps_cons]
    dsimp only
    split
    · simp [hmodel]
    · simp [ih, hmodel]

/-- A run's events announce its steps in order. -/
theorem runSteps_events (names : List String) (i : Nat) (g : Graph) :
    (runSteps runId flow lookup names i g [] []).2.1.map (fun e => (e.kind, e.step)) =
      (runSteps runId flow lookup names i g [] []).1.flatMap (Step.published lookup) := by
  induction names generalizing i g with
  | nil => rfl
  | cons name rest ih =>
    obtain ⟨-, -, -, -, -, hevents, -⟩ := runStep_spec runId flow lookup i name g
    rw [runSteps_cons]
    dsimp only
    split
    · simp [hevents]
    · simp [hevents, ih]

/-- A run looks up only the passes it attempts: a lookup that agrees on those runs it alike. -/
theorem runSteps_congr (lookup' : Lookup) (names : List String) (i : Nat) (g : Graph)
    (h : ∀ name ∈ names.take (runSteps runId flow lookup names i g [] []).1.length,
      lookup' name = lookup name) :
    runSteps runId flow lookup' names i g [] [] = runSteps runId flow lookup names i g [] [] := by
  induction names generalizing i g with
  | nil => rfl
  | cons name rest ih =>
    rw [runSteps_cons] at h
    dsimp only at h
    have hname : lookup' name = lookup name := h name (by split <;> simp)
    have hstep : runStep runId flow lookup' i name g = runStep runId flow lookup i name g := by
      simp only [runStep, hname]
    rw [runSteps_cons, runSteps_cons, hstep]
    dsimp only
    split
    · rfl
    · next hf =>
      rw [if_neg hf] at h
      rw [ih]
      intro n hn
      exact h n (by simp [hn])

end Loop

/-- How an execution of `plan` on `g` under the run id `id` is reported when it stops at its
first failure. -/
structure Reported (id : String) (plan : Flow.Plan) (g : Graph) (lookup : Lookup)
    (out : Execution) : Prop where
  /-- The report keeps the whole plan. -/
  plan_eq : out.report.plan = plan.passes
  /-- The `j`-th step is numbered `j` in the run, attempts the `j`-th pass, and records that pass
  run on the model the passes before it left. -/
  step_spec : ∀ j s, out.report.steps[j]? = some s →
    s.runId = id ∧ s.flow = plan.flow ∧ s.index = j ∧ plan.passes[j]? = some s.pass ∧
      Records lookup (modelAfter lookup (plan.passes.take j) g) s
  /-- Every step but the last succeeded. -/
  succeeded : ∀ j s, out.report.steps[j]? = some s → j + 1 < out.report.steps.length →
    s.error = none
  /-- The run completed, with every pass attempted and succeeded and none skipped, or it failed
  at its last step, which is its failure, and the rest of the plan was skipped. -/
  ends :
    (out.report.steps.length = plan.passes.length ∧ (∀ s ∈ out.report.steps, s.error = none) ∧
        out.report.state = .completed ∧ out.report.failure = none ∧ out.report.skipped = []) ∨
      ∃ k s e, out.report.steps.length = k + 1 ∧ out.report.steps[k]? = some s ∧
        s.error = some e ∧ out.report.state = .failed ∧
        out.report.failure = some ⟨plan.flow, s.pass, k, e⟩ ∧
        out.report.skipped = plan.passes.drop (k + 1)
  /-- The model is the one the attempted passes leave, run in turn. -/
  model_eq : out.model = modelAfter lookup (plan.passes.take out.report.steps.length) g
  /-- The events announce the steps in order. -/
  events_eq : out.events.map (fun e => (e.kind, e.step)) =
    out.report.steps.flatMap (Step.published lookup)

/-- The executor stops at the first failure: for every plan, model and lookup, the execution is
reported so, and no pass after the last step is looked up or run, since any lookup that agrees
on the attempted passes gives the same execution. -/
theorem executeAs_failFast (ex : Executor) (id : String) (plan : Flow.Plan) (g : Graph)
    (lookup : Lookup) :
    Reported id plan g lookup (ex.executeAs id plan g lookup).2 ∧
      ∀ lookup' : Lookup,
        (∀ name ∈ plan.passes.take (ex.executeAs id plan g lookup).2.report.steps.length,
          lookup' name = lookup name) →
        ex.executeAs id plan g lookup' = ex.executeAs id plan g lookup := by
  have hend := runSteps_completed id plan.flow lookup plan.passes 0 g
  have hmodel := runSteps_model id plan.flow lookup plan.passes 0 g
  have hevents := runSteps_events id plan.flow lookup plan.passes 0 g
  have hcongr := fun lookup' => runSteps_congr id plan.flow lookup lookup' plan.passes 0 g
  rcases hR : runSteps id plan.flow lookup plan.passes 0 g [] [] with ⟨steps, events, g'⟩
  rw [hR] at hend hmodel hevents hcongr
  have hsucc : ∀ j s, steps[j]? = some s → j + 1 < steps.length → s.error = none :=
    fun j s hs hj => runSteps_succeeded id plan.flow lookup plan.passes 0 g (by rw [hR]; exact hs)
      (by rw [hR]; exact hj)
  have hstep : ∀ j s, steps[j]? = some s →
      s.runId = id ∧ s.flow = plan.flow ∧ s.index = j ∧ plan.passes[j]? = some s.pass ∧
        Records lookup (modelAfter lookup (plan.passes.take j) g) s := by
    intro j s hs
    obtain ⟨name, hn, rfl⟩ :=
      runSteps_getElem? id plan.flow lookup plan.passes 0 g (by rw [hR]; exact hs)
    obtain ⟨hid, hfl, hidx, hpass, hrec, -, -⟩ :=
      runStep_spec id plan.flow lookup (0 + j) name (modelAfter lookup (plan.passes.take j) g)
    exact ⟨hid, hfl, by rw [hidx, Nat.zero_add], by rw [hpass, hn], hrec⟩
  have hout : (ex.executeAs id plan g lookup).2.report.steps = steps := by
    unfold Executor.executeAs
    rw [hR]
  refine ⟨?_, fun lookup' h => ?_⟩
  · unfold Executor.executeAs
    rw [hR]
    dsimp only
    refine ⟨rfl, hstep, hsucc, ?_, hmodel, hevents⟩
    simp only [Report.skipped]
    -- the report reads the run's end off its last step
    rcases hl : steps.getLast? with _ | s
    · -- no step: the plan was empty
      have hlen := (hend fun s hs => by rw [hl] at hs; cases hs).1
      obtain rfl : steps = [] := List.getLast?_eq_none_iff.1 hl
      have hplan : plan.passes = [] := List.length_eq_zero_iff.1 hlen.symm
      left
      simp [hplan]
    · rcases he : s.error with _ | e
      · -- the last step succeeded, so every pass was attempted and every step succeeded
        obtain ⟨hlen, hall⟩ := hend fun t ht => by
          rw [hl, Option.some.injEq] at ht
          rw [← ht, he]
        left
        exact ⟨hlen, hall, by simp [he], by simp [he], by simp [hlen]⟩
      · -- the last step failed: it is the failure
        have hpos : 0 < steps.length := List.length_pos_iff.2 fun h => by rw [h] at hl; cases hl
        have hk : steps[steps.length - 1]? = some s := by rw [← List.getLast?_eq_getElem?, hl]
        obtain ⟨-, -, hidx, -, -⟩ := hstep _ s hk
        right
        refine ⟨steps.length - 1, s, e, by omega, hk, he, by simp [he], by simp [he, hidx], ?_⟩
        rw [Nat.sub_add_cancel hpos]
  · rw [hout] at h
    unfold Executor.executeAs
    rw [hcongr lookup' h, hR]

end PassPlan.Run
