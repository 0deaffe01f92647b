import PassPlan.Backend.Service
/-!
Compiling is resolving, then executing, then recording. A flow that does not resolve gives its
resolution error and nothing else: no pass runs, the executor numbers no run and the history is
not touched. A flow that resolves gives exactly what the executor gives for its plan, and the
history records that report once: it is saved, and pruned to the kept count when that count is
positive and the save went through. The run state machine that drives one compilation, started
fresh, resolves and then executes without ever refusing a transition, and passes both answers
through unchanged. What the history does never reaches the answer.
-/
namespace PassPlan

namespace Run.Machine

variable (n : Flow.Name) (resolver : Flow.Name → Except Flow.Error Flow.Plan)

/-- A fresh run whose flow does not resolve fails with the resolver's error. -/
theorem resolve_fresh_error {e : Flow.Error} (h : resolver n = .error e) :
    ({ flow := n } : Machine).resolve resolver =
      ({ flow := n, state := .failed, error := some (.resolve e) }, .error (.resolve e)) := by
  simp [resolve, h]

/-- A fresh run whose flow resolves keeps the plan and is resolved. -/
theorem resolve_fresh_ok {p : Flow.Plan} (h : resolver n = .ok p) :
    ({ flow := n } : Machine).resolve resolver = ({ flow := n, plan := p, state := .resolved }, .ok p) := by
  simp [resolve, h]

/-- A resolved run executes its plan: the execution is the executor's, and the run ends in the
state of its report. -/
theorem execute_resolved {m : Machine} (h : m.state = .resolved) (ex : Executor) (g : Graph)
    (lookup : Lookup) (id : String) :
    m.execute ex g lookup id =
      let out := ex.executeAs id m.plan g lookup
      ({ m with
          report := some out.snd.report
          state := out.snd.report.state
          error := out.snd.report.failure.map RunError.execute },
        out.fst, .ok out.snd) := by
  simp [execute, h]

end Run.Machine

namespace Backend.Service

variable (s : Service) (n : Flow.Name) (g : Graph)

/-- What the history holds never changes a plan. -/
theorem plan_snd_history (h : Option (Sql.Database × Int)) :
    ({ s with history := h }.plan n).2 = (s.plan n).2 := rfl

theorem compile_of_plan_error {e : Flow.Error} (h : (s.plan n).2 = .error e) :
    s.compile n g = ((s.plan n).1, .error e) := by
  unfold compile
  rcases hp : s.plan n with ⟨s', r⟩
  rw [hp] at h
  subst h
  rfl

theorem compile_of_plan_ok {p : Flow.Plan} (h : (s.plan n).2 = .ok p) :
    s.compile n g = (((s.plan n).1.runPlan p g).1, .ok ((s.plan n).1.runPlan p g).2) := by
  unfold compile
  rcases hp : s.plan n with ⟨s', r⟩
  rw [hp] at h
  subst h
  rfl

/-- What the history holds never changes what a compilation answers: recording happens after the
answer is made, and a failed save or prune is only logged. -/
theorem compile_snd_history (h : Option (Sql.Database × Int)) :
    ({ s with history := h }.compile n g).2 = (s.compile n g).2 := by
  cases hp : (s.plan n).2 with
  | error e =>
    rw [compile_of_plan_error s n g hp,
      compile_of_plan_error _ n g ((plan_snd_history s n h).trans hp)]
  | ok p =>
    rw [compile_of_plan_ok s n g hp, compile_of_plan_ok _ n g ((plan_snd_history s n h).trans hp)]
    rfl

/-- Compiling resolves the flow through the service's memo, then runs the plan. If the flow does
not resolve, the answer is the resolution error, the executor numbers no run and the history is
untouched. Otherwise the answer is exactly what the executor gives for the plan under the next
run id, the executor moves on, and the history records that report once: saved, then pruned to
the kept count when it is positive and the save went through, each failure leaving it as it was.
A fresh run driven by the same resolution and execution never refuses a transition and passes
both answers through. Whatever the history holds, the answer is the same. -/
theorem compile_resolves_then_executes :
    let planner : Flow.Name → Except Flow.Error Flow.Plan := fun m => (s.plan m).2
    let run := ({ flow := n } : Run.Machine).resolve planner
    let lookup := s.env.catalog.lookup
    let id := s.runIds s.executor.nextRun
    (∀ e, (s.plan n).2 = .error e →
      s.compile n g = ((s.plan n).1, .error e) ∧
        (s.compile n g).1.executor = s.executor ∧ (s.compile n g).1.history = s.history ∧
        run.2 = .error (.resolve e)) ∧
    (∀ p, (s.plan n).2 = .ok p →
      let out := s.executor.executeAs id p g lookup
      s.compile n g =
          ({ (s.plan n).1 with executor := out.1, history := s.history.map (runPlan.record out.2.report) },
            .ok ⟨out.2.report, out.2.model, out.2.events⟩) ∧
        run.2 = .ok p ∧ (run.1.execute s.executor g lookup id).2 = (out.1, .ok out.2)) ∧
    (∀ h, ({ s with history := h }.compile n g).2 = (s.compile n g).2) := by
  intro planner run lookup id
  refine ⟨fun e he => ?_, fun p hp => ?_, compile_snd_history s n g⟩
  · have hc := compile_of_plan_error s n g he
    have hrun : run = _ := Run.Machine.resolve_fresh_error n planner he
    exact ⟨hc, by rw [hc]; rfl, by rw [hc]; rfl, by rw [hrun]⟩
  · have hrun : run = _ := Run.Machine.resolve_fresh_ok n planner hp
    refine ⟨compile_of_plan_ok s n g hp, by rw [hrun], ?_⟩
    -- the run is resolved, so executing it is the executor's run of the plan
    have hstate : run.1.state = .resolved := by rw [hrun]
    rw [Run.Machine.execute_resolved hstate, hrun]

end Backend.Service
end PassPlan
