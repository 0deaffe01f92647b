import PassPlan.Proofs.Flow.Memo
import Mathlib.Data.List.Chain
/-!
A failed resolution is a sound diagnostic. A cycle error names a real requirement cycle, cut
from the path of flows the walk stands on: each flow requires the next, no flow repeats but the
first, which closes it, and the walk reached it from the flow asked for. A missing flow is
undefined and required by the flow reported with it, which the walk reached, or it is the flow
asked for itself. None of this needs the memo to be right: the memo only ever answers with
plans. The path of a walk holds distinct defined flows, so its depth is bounded by the number of
definitions and the fuel never decides an answer: any larger fuel gives the same walk.
-/
namespace PassPlan.Flow

namespace Source

/-- What a failure to resolve `n` may report: a requirement cycle, as a flow, the flows after
it along requirements, each once, and the first flow again, entered at a flow reached from
`n`; an undefined flow required by a flow reached from `n`; or `n` itself undefined. -/
def Diagnoses (S : Source) (n : Name) : Error → Prop
  | .cycle path => ∃ p rest, path = p :: rest ++ [p] ∧ (p :: rest).Nodup ∧
      path.IsChain S.Requires ∧ Relation.ReflTransGen S.Requires n p
  | .notFound m r => S.get? m = none ∧
      if r = Name.zero then m = n else S.Requires r m ∧ Relation.ReflTransGen S.Requires n r
  | _ => False

variable {S : Source} {root n p : Name} {fuel : Nat} {st : List Name}

/-- A walk position always has fuel left: its path holds distinct defined flows. -/
theorem Path.pos (h : S.Path fuel st n) : 0 < fuel := by
  have hle := length_le_of_defined h.nodup h.defined
  have := h.fuel_eq
  omega

/-- Where a walk from `root` stands when it reaches `n` from `referrer`: on a path of distinct
defined flows that starts at `root`, each requiring the next, the last requiring `n` and being
the referrer (the zero name on the empty path). -/
structure Trail (S : Source) (root : Name) (fuel : Nat) (stack : List Name) (n referrer : Name) :
    Prop where
  path : S.Path fuel stack n
  chain : (stack ++ [n]).IsChain S.Requires
  head : (stack ++ [n]).head? = some root
  referrer : stack.getLast?.getD Name.zero = referrer

theorem Trail.start : S.Trail n (S.defs.length + 1) [] n Name.zero :=
  ⟨Path.nil, List.isChain_singleton n, rfl, rfl⟩

theorem Trail.push (h : S.Trail root (fuel + 1) st n p) (hn : n ∉ st) {d : Definition}
    (hd : S.get? n = some d) {r : Name} (hr : r ∈ d.requires) :
    S.Trail root fuel (st ++ [n]) r n where
  path := h.path.push hn hd hr
  chain := h.chain.append (List.isChain_singleton r) (by simpa using ⟨d, hd, hr⟩)
  head := by rw [List.head?_append, h.head]; rfl
  referrer := by simp

/-- Every flow of the path, and the flow reached, is reached from the root. -/
theorem Trail.reach (h : S.Trail root fuel st n p) :
    ∀ s ∈ st ++ [n], Relation.ReflTransGen S.Requires root s := by
  refine h.chain.induction _ _ (fun _ _ hr hx => hx.tail hr) fun hne => ?_
  have := h.head
  rw [List.head?_eq_some_head hne] at this
  rw [Option.some.inj this]

theorem dropWhile_ne_of_mem {α : Type} [DecidableEq α] {a : α} :
    ∀ {l : List α}, a ∈ l → ∃ rest, l.dropWhile (· ≠ a) = a :: rest
  | b :: l, h => by
    by_cases hb : b = a
    · subst hb
      exact ⟨l, by simp⟩
    · rw [List.dropWhile_cons_of_pos (by simpa using hb)]
      exact dropWhile_ne_of_mem ((List.mem_cons.1 h).resolve_left (Ne.symm hb))

/-- Reaching a flow already on the path closes a cycle, cut from the path where that flow
stands. -/
theorem Trail.cycle (h : S.Trail root fuel st n p) (hn : n ∈ st) :
    S.Diagnoses root (.cycle (cycleTo st n)) := by
  obtain ⟨rest, hrest⟩ := dropWhile_ne_of_mem hn
  have hsuffix : cycleTo st n <:+ st ++ [n] := by
    obtain ⟨t, ht⟩ := List.dropWhile_suffix (l := st) (· ≠ n)
    exact ⟨t, by rw [cycleTo, ← List.append_assoc, ht]⟩
  refine ⟨n, rest, by rw [cycleTo, hrest], ?_, h.chain.suffix hsuffix, ?_⟩
  · rw [← hrest]
    exact h.path.nodup.sublist (List.dropWhile_sublist _)
  · exact h.reach n (List.mem_append_left _ hn)

/-- An undefined flow is required by the referrer, which the walk reached, or it is the root
itself when the zero name is not a flow. -/
theorem Trail.notFound (h : S.Trail root fuel st n p) (hz : S.get? Name.zero = none)
    (hd : S.get? n = none) : S.Diagnoses root (.notFound n p) := by
  refine ⟨hd, ?_⟩
  rcases List.eq_nil_or_concat st with rfl | ⟨L, b, rfl⟩
  · have hp : Name.zero = p := h.referrer
    have hroot : some n = some root := h.head
    rw [if_pos hp.symm, Option.some.inj hroot]
  · have hp : b = p := by simpa using h.referrer
    subst hp
    have hb : (S.get? b).isSome := h.path.defined b (by simp)
    have hne : b ≠ Name.zero := by
      rintro rfl
      simp [hz] at hb
    have hchain : (L ++ b :: n :: []).IsChain S.Requires := by simpa using h.chain
    rw [if_neg hne]
    exact ⟨(List.isChain_append_cons_cons.1 hchain).2.1, h.reach b (by simp)⟩

/-! ### Every failure of a walk is diagnosed -/

theorem foldlM_visitStep_error {reqs : List Name} :
    ∀ {acc : List String} {w w' : Walk} {e : Error},
      (reqs.foldlM (visitStep S fuel st p) acc).run.run w = (.error e, w') →
      ∃ r ∈ reqs, ∃ w₀ w₁, (visit S fuel st r p).run.run w₀ = (.error e, w₁) := by
  induction reqs with
  | nil => intro acc w w' e h; cases h
  | cons r rest ih =>
    intro acc w w' e h
    rw [List.foldlM_cons, run_bind, visitStep_run] at h
    cases hv : (visit S fuel st r p).run.run w with
    | mk res w₁ =>
      rw [hv] at h
      cases res with
      | error e' =>
        cases h
        exact ⟨r, List.mem_cons_self, w, _, hv⟩
      | ok sub =>
        obtain ⟨r', hr', w₀, w₂, h'⟩ := ih h
        exact ⟨r', List.mem_cons_of_mem _ hr', w₀, w₂, h'⟩

/-- A walk from a trail position fails only with a diagnosis of the root, whatever its table
and memo hold. -/
theorem visit_error_diagnoses (hz : S.get? Name.zero = none) :
    ∀ {fuel st n p} {w w' : Walk} {e : Error}, S.Trail root fuel st n p →
      (visit S fuel st n p).run.run w = (.error e, w') → S.Diagnoses root e
  | 0, _, _, _, _, _, _, ht, _ => absurd ht.path.pos (Nat.lt_irrefl 0)
  | fuel + 1, st, n, p, w, w', e, ht, hrun => by
    cases hr : w.resolved.lookup n with
    | some ps => rw [visit_resolved hr] at hrun; cases hrun
    | none =>
      cases hq : w.memo.get? n.text with
      | some q => rw [visit_memo hr hq] at hrun; cases hrun
      | none =>
        by_cases hs : n ∈ st
        · rw [visit_cycle hr hq hs] at hrun
          cases hrun
          exact ht.cycle hs
        cases hd : S.get? n with
        | none =>
          rw [visit_notFound hr hq hs hd] at hrun
          cases hrun
          exact ht.notFound hz hd
        | some d =>
          rw [visit_defined hr hq hs hd] at hrun
          -- only a failed requirement fails the fold, and it failed one level down
          cases hf : (d.requires.foldlM (visitStep S fuel (st ++ [n]) n) []).run.run w with
          | mk res w₁ =>
            rw [hf] at hrun
            cases res with
            | error e' =>
              cases hrun
              obtain ⟨r, hr', w₀, w₂, hchild⟩ := foldlM_visitStep_error hf
              exact visit_error_diagnoses hz (ht.push hs hd hr') hchild
            | ok below => cases hrun

/-! ### The fuel never decides -/

section Fuel

variable {k j : Nat}

theorem foldlM_visitStep_fuel {reqs : List Name}
    (h : ∀ r ∈ reqs, visit S k st r p = visit S j st r p) :
    ∀ acc, reqs.foldlM (visitStep S k st p) acc = reqs.foldlM (visitStep S j st p) acc := by
  induction reqs with
  | nil => intro acc; rfl
  | cons r rest ih =>
    intro acc
    have hstep : visitStep S k st p acc r = visitStep S j st p acc r := by
      unfold visitStep
      rw [h r List.mem_cons_self]
    rw [List.foldlM_cons, List.foldlM_cons, hstep]
    congr 1
    funext acc'
    exact ih (fun r' hr' => h r' (List.mem_cons_of_mem _ hr')) acc'

/-- Two fuels that both leave room for a path of every defined flow walk alike. -/
theorem visit_fuel_congr : ∀ {k j : Nat} {st : List Name} {n p : Name}, st.Nodup →
    (∀ s ∈ st, (S.get? s).isSome) → S.defs.length + 1 ≤ k + st.length →
    S.defs.length + 1 ≤ j + st.length → visit S k st n p = visit S j st n p
  | 0, _, st, _, _, hnd, hdef, hk, _ => by
    have := length_le_of_defined hnd hdef
    omega
  | _ + 1, 0, st, _, _, hnd, hdef, _, hj => by
    have := length_le_of_defined hnd hdef
    omega
  | k + 1, j + 1, st, n, p, hnd, hdef, hk, hj => by
    refine ExceptT.ext (StateT.ext fun w => ?_)
    cases hr : w.resolved.lookup n with
    | some ps => rw [visit_resolved hr, visit_resolved hr]
    | none =>
      cases hq : w.memo.get? n.text with
      | some q => rw [visit_memo hr hq, visit_memo hr hq]
      | none =>
        by_cases hs : n ∈ st
        · rw [visit_cycle hr hq hs, visit_cycle hr hq hs]
        cases hd : S.get? n with
        | none => rw [visit_notFound hr hq hs hd, visit_notFound hr hq hs hd]
        | some d =>
          have hnd' : (st ++ [n]).Nodup :=
            hnd.append (List.nodup_singleton n) (List.disjoint_singleton.2 hs)
          have hdef' : ∀ s ∈ st ++ [n], (S.get? s).isSome := by
            intro s hs'
            rcases List.mem_append.1 hs' with hs' | hs'
            · exact hdef s hs'
            · rw [List.mem_singleton.1 hs', hd]; rfl
          have hchildren : ∀ r ∈ d.requires, visit S k (st ++ [n]) r n = visit S j (st ++ [n]) r n :=
            fun _ _ => visit_fuel_congr hnd' hdef' (by simp; omega) (by simp; omega)
          rw [visit_defined hr hq hs hd, visit_defined hr hq hs hd,
            foldlM_visitStep_fuel hchildren]

end Fuel

end Source

/-- Resolving fails only with a sound diagnostic, whatever the resolver's memo holds: a cycle
error names a requirement cycle entered at a flow reached from the name asked for, each flow
of it requiring the next and none repeated but the first, which closes it; a missing flow is
undefined and required by the flow named with it, which is defined and reached from the name
asked for, or, named with the zero name, it is the name asked for. The walk behind it stops
within the number of definitions, cycles and self-requirements included: given more fuel it
walks alike. -/
theorem resolve_failure_sound (S : Source) (hz : S.get? Name.zero = none) (r : Resolver)
    (n : Name) :
    (∀ e, (r.resolve S n).2 = .error e → S.Diagnoses n e) ∧
    ∀ fuel, S.defs.length + 1 ≤ fuel →
      visit S fuel [] n Name.zero = visit S (S.defs.length + 1) [] n Name.zero := by
  refine ⟨fun e he => ?_, fun fuel hfuel =>
    Source.visit_fuel_congr List.nodup_nil (by simp) (by simpa using hfuel) (by simp)⟩
  unfold Resolver.resolve at he
  cases hq : (r.sync S).memo.get? n.text with
  | some q => rw [Resolver.resolveTold_hit hq] at he; cases he
  | none =>
    rw [Resolver.resolveTold_miss hq] at he
    rcases hv : (visit S (S.defs.length + 1) [] n Name.zero).run.run { memo := (r.sync S).memo }
      with ⟨_ | ps, w'⟩
    · simp only [hv] at he
      cases he
      exact Source.visit_error_diagnoses hz Source.Trail.start hv
    · simp only [hv] at he
      cases he

/-- A flow that requires itself, one that requires the first and an undefined flow, and one
that requires the second. -/
def tangle : Source where
  defs := [⟨⟨"", "loop"⟩, ["a"], [⟨"", "loop"⟩]⟩,
    ⟨⟨"", "mid"⟩, ["b"], [⟨"", "loop"⟩, ⟨"", "gone"⟩]⟩,
    ⟨⟨"", "top"⟩, ["c"], [⟨"", "mid"⟩]⟩]

theorem resolve_failure_sound_tangle :
    tangle.get? Name.zero = none ∧
    (∀ e, ((Resolver.new tangle).resolve tangle ⟨"", "top"⟩).2 = .error e →
      tangle.Diagnoses ⟨"", "top"⟩ e) ∧
    ∀ fuel, tangle.defs.length + 1 ≤ fuel →
      visit tangle fuel [] ⟨"", "top"⟩ Name.zero =
        visit tangle (tangle.defs.length + 1) [] ⟨"", "top"⟩ Name.zero :=
  ⟨by decide, resolve_failure_sound tangle (by decide) (Resolver.new tangle) ⟨"", "top"⟩⟩

end PassPlan.Flow
