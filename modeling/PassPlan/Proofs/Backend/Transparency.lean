import PassPlan.Proofs.Flow.Generations
import PassPlan.Backend.Service
/-!
A service answers plans and explanations as a fresh resolver would. Bring-up only registers,
derives and freezes, so the flows it leaves are well formed and their names valid. A service
over them keeps its resolver's memo current, since the flows never change under it, and keeps
an explanation only when the resolver gave it, under the text of the name it was asked for; as
valid names are told apart by their texts, neither cache is seen in an answer, whatever plans,
explanations, compilations, checks and comparisons were asked before.
-/
namespace PassPlan

namespace Cache.Store

variable {α : Type}

theorem get?_set_ne (c : Store α) {k k' : String} (v : α) (h : k' ≠ k) :
    (c.set k v).get? k' = c.get? k' := by
  unfold get? set
  have hne : (k' == k) = false := by simpa using h
  rw [List.lookup_append, Flow.Memo.lookup_filter_ne _ h]
  simp [List.lookup_cons, hne]

end Cache.Store

namespace Flow

theorem Except.throw_eq_ok {ε α : Type} {e : ε} {a : α} : (throw e : Except ε α) = .ok a ↔ False :=
  ⟨nofun, False.elim⟩

/-- Explaining starts from the flow itself, so an explanation is only given for a defined flow. -/
theorem contribute_defined {S : Source} {k : Nat} {n : Name} {cs : List Contribution}
    (h : (contribute S (k + 1) n).run' ([], []) = .ok cs) : (S.get? n).isSome := by
  cases hd : S.get? n with
  | some d => rfl
  | none => simp [contribute, hd] at h

theorem Resolver.explain_defined {S : Source} {r : Resolver} {n : Name} {cs : List Contribution}
    (h : (r.explain S n).2 = .ok cs) : (S.get? n).isSome := by
  rw [explain_snd] at h
  split at h
  · cases h
  · exact contribute_defined h

end Flow

namespace Backend

open PassPlan.Flow

section BringUp

variable {env : Environment} {d : Definition} {flows : Flow.Registry}

/-- Registering a flow of a file is one call on the registry: a registration or a derivation. -/
theorem registerFlow_eq_ok {ns : String} {spec : Pipeline.FlowSpec}
    (h : registerFlow env ns spec = .ok (d, flows)) : ∃ c, env.flows.call c = .ok flows := by
  unfold registerFlow at h
  -- the passes are found first; a branch that finds them ends in the call they feed
  split at h
  · dsimp only at h
    split_ifs at h <;>
      simp only [pure_bind, Except.bind_eq_ok, Except.mapError_eq_ok, Except.throw_eq_ok, false_and,
        exists_false] at h <;>
      obtain ⟨_, -, h⟩ := h <;>
      exact ⟨.register _ _ _ _, Except.map_eq_ok.2 ⟨_, h, rfl⟩⟩
  · dsimp only at h
    split_ifs at h <;>
      simp only [pure_bind, Except.bind_eq_ok, Except.mapError_eq_ok, Except.throw_eq_ok, false_and,
        exists_false] at h <;>
      obtain ⟨_, -, _, -, _, -, h⟩ := h <;>
      exact ⟨.derive _ _ _ _, Except.map_eq_ok.2 ⟨_, h, rfl⟩⟩

theorem registerFlowsUpTo_go_invariant (f : Pipeline.PipelineFile) :
    ∀ (specs : List (Pipeline.FlowSpec × Nat)) {env : Environment}, env.flows.Invariant →
      (registerFlowsUpTo.go f specs env).1.flows.Invariant
  | [], _, h => h
  | (spec, i) :: rest, env, h => by
    unfold registerFlowsUpTo.go
    split
    · next flows hr =>
      obtain ⟨c, hc⟩ := registerFlow_eq_ok hr
      exact registerFlowsUpTo_go_invariant f rest (h.call hc)
    · exact h

theorem registerAll_invariant (kinds : Pass.Kinds) :
    ∀ (files : List Pipeline.PipelineFile) {env : Environment}, env.flows.Invariant →
      (registerAll kinds files env).1.flows.Invariant
  | [], _, h => h
  | f :: rest, env, h => by
    unfold registerAll
    split
    · exact h
    · next catalog _ =>
      have hgo : (registerFlowsUpTo.go f f.flows.zipIdx { env with catalog }).1.flows.Invariant :=
        registerFlowsUpTo_go_invariant f _ h
      unfold registerFlowsUpTo
      split
      · next env' e heq =>
        rw [heq] at hgo
        exact hgo
      · next env' heq =>
        rw [heq] at hgo
        exact registerAll_invariant kinds rest hgo

/-- Bring-up leaves well-formed flows: it only registers, derives and freezes. -/
theorem bringUp_invariant {kinds : Pass.Kinds} {files : List Pipeline.PipelineFile}
    (h : bringUp kinds files = .ok env) : env.flows.Invariant := by
  have hw : (bringUpWith kinds files).2 = .ok env := h
  unfold bringUpWith at hw
  split at hw
  · cases hw
  · next reg ordered fileOf _ =>
    dsimp only at hw
    have hall : (registerAll kinds (files.filter (·.isGlobal) ++ ordered.map fileOf)
        { backends := reg, files := files.filter (·.isGlobal) ++ ordered.map fileOf }).1.flows.Invariant :=
      registerAll_invariant kinds _ (Registry.Invariant.of_nil rfl)
    split at hw
    · cases hw
    · next env' heq =>
      rw [heq] at hall
      split at hw
      · cases hw
      · cases hw
        exact hall.call (c := .freeze) rfl

end BringUp

/-- A request that a service answers. -/
inductive Request where
  | plan (n : Name)
  | explain (n : Name)
  | compile (n : Name) (g : Graph)
  | check
  | requirementDiff (a b : Name)

namespace Service

/-- The service after answering a request. -/
def serve (s : Service) : Request → Service
  | .plan n => (s.plan n).1
  | .explain n => (s.explain n).1
  | .compile n g => (s.compile n g).1
  | .check => s.check.1
  | .requirementDiff a b => (s.requirementDiff a b).1

/-- The service after answering requests in turn. -/
def serveAll (s : Service) (qs : List Request) : Service := qs.foldl serve s

/-- A service that keeps right what it caches about the flows `S` it serves: its memo is current
for them, and each explanation it keeps is a fresh resolver's for a valid name with the key as
its text. -/
structure Faithful (S : Source) (s : Service) : Prop where
  source : s.env.flows.source = S
  current : s.resolver.Current S
  explained : ∀ k cs, s.explained.get? k = some cs →
    ∃ n, n.Valid ∧ n.text = k ∧ ((Resolver.new S).explain S n).2 = .ok cs

variable {S : Source} {s : Service}

theorem faithful_new (env : Environment) (executor : Run.Executor) (defaultBackend : String) :
    (Service.new env executor defaultBackend).Faithful env.flows.source where
  source := rfl
  current := (Resolver.tracks_new _).current
  explained _ _ h := nomatch h

theorem plan_fst (n : Name) :
    (s.plan n).1 = { s with resolver := (s.resolver.resolve s.env.flows.source n).1 } := rfl

theorem plan_snd (n : Name) : (s.plan n).2 = (s.resolver.resolve s.env.flows.source n).2 := rfl

section Requests

variable (hS : S.Valid)
include hS

theorem Faithful.plan (h : s.Faithful S) (n : Name) : (s.plan n).1.Faithful S := by
  rw [plan_fst]
  refine ⟨h.source, ?_, h.explained⟩
  rw [h.source]
  exact Resolver.resolve_current hS.keyed h.current

/-- Explaining keeps the service faithful: a kept explanation is a fresh one, since the resolver
only explains defined flows, whose names are valid. -/
theorem Faithful.explain (h : s.Faithful S) (n : Name) : (s.explain n).1.Faithful S := by
  have hr : (s.resolver.explain S n).1.Current S := by
    rw [Resolver.explain_fst]
    exact Resolver.resolve_current hS.keyed h.current
  unfold Service.explain
  rw [h.source]
  split
  · exact h
  · rcases hx : s.resolver.explain S n with ⟨resolver, res⟩
    rw [hx] at hr
    cases res with
    | error e => exact ⟨h.source, hr, h.explained⟩
    | ok cs =>
      refine ⟨h.source, hr, fun k cs' hk => ?_⟩
      by_cases hkn : k = n.text
      · subst hkn
        rw [Cache.Store.get?_set] at hk
        cases hk
        have hcs : (s.resolver.explain S n).2 = .ok cs := by rw [hx]
        obtain ⟨d, hd⟩ := Option.isSome_iff_exists.1 (Resolver.explain_defined hcs)
        obtain ⟨hmem, rfl⟩ := Source.get?_spec hd
        have hn := (hS d hmem).1
        exact ⟨d.name, hn, rfl, (Resolver.explain_eq_fresh hS.keyed hn h.current).symm.trans hcs⟩
      · rw [Cache.Store.get?_set_ne _ _ hkn] at hk
        exact h.explained k cs' hk

theorem Faithful.compile (h : s.Faithful S) (n : Name) (g : Graph) : (s.compile n g).1.Faithful S := by
  have hp := h.plan hS n
  unfold Service.compile
  split
  · next s' e heq =>
    rw [heq] at hp
    exact hp
  · next s' p heq =>
    rw [heq] at hp
    exact ⟨hp.source, hp.current, hp.explained⟩

theorem Faithful.missingFrom : ∀ (ds : List Definition) (acc : List MissingPass) {s : Service},
    s.Faithful S → (s.missingFrom ds acc).1.Faithful S
  | [], _, _, h => h
  | d :: rest, acc, s, h => by
    have hp := h.plan hS d.name
    unfold Service.missingFrom
    split
    · next s' e heq =>
      rw [heq] at hp
      exact hp
    · next s' p heq =>
      rw [heq] at hp
      exact Faithful.missingFrom rest _ hp

theorem Faithful.check (h : s.Faithful S) : s.check.1.Faithful S := by
  have hm := h.missingFrom hS s.env.flows.defs []
  unfold Service.check
  split
  · next s' ms heq =>
    rw [heq] at hm
    exact hm
  · next r _ =>
    exact hm

/-- Each side of a diff leaves the service as it was or as planning its flow leaves it. -/
theorem Faithful.diffSide (h : s.Faithful S) (n : Name) : (s.diffSide n).1.Faithful S := by
  unfold Service.diffSide
  split
  · exact h
  · have hp := h.plan hS n
    split
    · next s' e hplan =>
      rw [hplan] at hp
      exact hp
    · next s' p hplan =>
      rw [hplan] at hp
      exact hp

theorem Faithful.requirementDiff (h : s.Faithful S) (a b : Name) :
    (s.requirementDiff a b).1.Faithful S := by
  have ha := h.diffSide hS a
  unfold Service.requirementDiff
  split
  · next s' e heq =>
    rw [heq] at ha
    exact ha
  · next s' ar ap heq =>
    rw [heq] at ha
    have hb := ha.diffSide hS b
    split
    · next s'' e heq' =>
      rw [heq'] at hb
      exact hb
    · next s'' br bp heq' =>
      rw [heq'] at hb
      exact hb

theorem Faithful.serve (h : s.Faithful S) : ∀ q, (s.serve q).Faithful S
  | .plan n => h.plan hS n
  | .explain n => h.explain hS n
  | .compile n g => h.compile hS n g
  | .check => h.check hS
  | .requirementDiff a b => h.requirementDiff hS a b

theorem Faithful.serveAll : ∀ (qs : List Request) {s : Service}, s.Faithful S → (s.serveAll qs).Faithful S
  | [], _, h => h
  | q :: qs, _, h => Faithful.serveAll qs (h.serve hS q)

/-- A faithful service plans a valid name as a fresh resolver does. -/
theorem Faithful.plan_eq (h : s.Faithful S) {n : Name} (hn : n.Valid) :
    (s.plan n).2 = ((Resolver.new S).resolve S n).2 := by
  rw [plan_snd, h.source]
  exact Resolver.resolve_eq_fresh hS.keyed hn h.current

/-- A faithful service explains a valid name as a fresh resolver does, from its cache or not. -/
theorem Faithful.explain_eq (h : s.Faithful S) {n : Name} (hn : n.Valid) :
    (s.explain n).2 = ((Resolver.new S).explain S n).2 := by
  unfold Service.explain
  rw [h.source]
  split
  · next cs hcs =>
    obtain ⟨m, hm, hmn, hfresh⟩ := h.explained _ cs hcs
    rw [Name.text_inj hm hn hmn] at hfresh
    exact hfresh.symm
  · have hfresh := Resolver.explain_eq_fresh hS.keyed hn h.current
    rcases hx : s.resolver.explain S n with ⟨resolver, res⟩
    rw [hx] at hfresh
    cases res <;> exact hfresh

end Requests

end Service

/-- The memos of resolvers and services are never seen. A resolver over a source that, from one
change to the next, only gains definitions within a generation or moves to a later generation,
and that holds only valid names, resolves and explains every valid name after any events as a
fresh resolver over the source as it then stands; every call on a registry changes it so; and a
service over a brought-up environment plans and explains every valid name as a fresh resolver
does, whatever it was asked before. -/
theorem memo_unseen :
    (∀ (S₀ : Source) (evs : List Event) (n : Name),
      (S₀ :: Event.changes evs).IsChain Source.Follows → (∀ S ∈ S₀ :: Event.changes evs, S.Valid) →
      n.Valid →
      let p := Event.run (S₀, Resolver.new S₀) evs
      (p.2.resolve p.1 n).2 = ((Resolver.new p.1).resolve p.1 n).2 ∧
        (p.2.explain p.1 n).2 = ((Resolver.new p.1).explain p.1 n).2) ∧
    (∀ (cs : List Flow.Registry.Call) (c : Flow.Registry.Call),
      let R := ({} : Flow.Registry).run cs
      R.source.Follows (R.apply c).source ∧ (R.apply c).source.Valid) ∧
    (∀ (kinds : Pass.Kinds) (files : List Pipeline.PipelineFile) (env : Environment)
      (executor : Run.Executor) (defaultBackend : String) (qs : List Request) (n : Name),
      bringUp kinds files = .ok env → n.Valid →
      let s := (Service.new env executor defaultBackend).serveAll qs
      (s.plan n).2 = ((Resolver.new env.flows.source).resolve env.flows.source n).2 ∧
        (s.explain n).2 = ((Resolver.new env.flows.source).explain env.flows.source n).2) := by
  refine ⟨fun S₀ evs n hc hv hn => ?_, fun cs c => ?_, fun kinds files env executor db qs n hb hn => ?_⟩
  · obtain ⟨ht, hvalid⟩ := Event.tracks_run evs (Resolver.tracks_new S₀) hc hv
    exact ⟨Resolver.resolve_eq_fresh hvalid.keyed hn ht.current,
      Resolver.explain_eq_fresh hvalid.keyed hn ht.current⟩
  · have h := (Flow.Registry.Invariant.of_nil (r := {}) rfl).run cs
    exact ⟨Flow.Registry.follows_apply c, (h.apply c).valid_source⟩
  · have hS := (bringUp_invariant hb).valid_source
    have h := (Service.faithful_new env executor db).serveAll hS qs
    exact ⟨h.plan_eq hS hn, h.explain_eq hS hn⟩

/-- Lint, and a check that requires it, at generation 0. -/
def lintSource : Source where
  defs := [⟨⟨"", "lint"⟩, ["fmt", "vet"], []⟩, ⟨⟨"", "check"⟩, ["vet", "test"], [⟨"", "lint"⟩]⟩]

/-- A resolution, a flow added on top, an explanation, a reset that redefines both flows, and a
flush. -/
def lintEvents : List Event :=
  [.resolve ⟨"", "check"⟩,
    .change ⟨lintSource.defs ++ [⟨⟨"", "all"⟩, ["doc"], [⟨"", "check"⟩]⟩], 0⟩,
    .explain ⟨"", "all"⟩,
    .change ⟨[⟨⟨"", "lint"⟩, ["fmt"], []⟩, ⟨⟨"", "check"⟩, ["test"], [⟨"", "lint"⟩]⟩], 1⟩,
    .invalidate]

/-- A global pipeline file declaring lint and check. -/
def lintFile : Pipeline.PipelineFile where
  flows := [{ name := "lint", passes := ["fmt", "vet"] },
    { name := "check", passes := ["vet", "test"], requires := ["lint"] }]

/-- The environment brought up from the lint file. -/
def lintEnv : Environment where
  flows := ⟨lintSource.defs, true, 0⟩
  files := [lintFile]

theorem memo_unseen_lint :
    ((lintSource :: Event.changes lintEvents).IsChain Source.Follows ∧
      (∀ S ∈ lintSource :: Event.changes lintEvents, S.Valid) ∧ (⟨"", "check"⟩ : Name).Valid ∧
      let p := Event.run (lintSource, Resolver.new lintSource) lintEvents
      (p.2.resolve p.1 ⟨"", "check"⟩).2 = ((Resolver.new p.1).resolve p.1 ⟨"", "check"⟩).2 ∧
        (p.2.explain p.1 ⟨"", "check"⟩).2 = ((Resolver.new p.1).explain p.1 ⟨"", "check"⟩).2) ∧
    (bringUp {} [lintFile] = .ok lintEnv ∧ (⟨"", "check"⟩ : Name).Valid ∧
      let s := (Service.new lintEnv ⟨⟨0, 0, 0⟩, 1⟩ "").serveAll
        [.plan ⟨"", "lint"⟩, .explain ⟨"", "check"⟩, .check]
      (s.plan ⟨"", "check"⟩).2 =
          ((Resolver.new lintEnv.flows.source).resolve lintEnv.flows.source ⟨"", "check"⟩).2 ∧
        (s.explain ⟨"", "check"⟩).2 =
          ((Resolver.new lintEnv.flows.source).explain lintEnv.flows.source ⟨"", "check"⟩).2) :=
  ⟨⟨by decide, by decide, by decide,
      memo_unseen.1 lintSource lintEvents ⟨"", "check"⟩ (by decide) (by decide) (by decide)⟩,
    ⟨by with_unfolding_all rfl, by decide,
      memo_unseen.2.2 {} [lintFile] lintEnv ⟨⟨0, 0, 0⟩, 1⟩ "" _ _ (by with_unfolding_all rfl) (by decide)⟩⟩

end Backend
end PassPlan
