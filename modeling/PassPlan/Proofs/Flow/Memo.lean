import PassPlan.Proofs.Flow.Expansion
/-!
The resolver's memo and its per-walk table change no answer. A walk whose table and memo hold
only right plans gives, error or plan, exactly what `search` gives from the same position, and
leaves only right plans behind; the memo is keyed by the text of a name, so this needs the texts
of the names a walk can meet to tell them apart.
-/
namespace PassPlan.Flow

namespace Memo

theorem lookup_filter_ne {β : Type} (l : List (String × β)) {k k' : String} (h : k' ≠ k) :
    (l.filter (·.1 ≠ k)).lookup k' = l.lookup k' := by
  induction l with
  | nil => rfl
  | cons e rest ih =>
    obtain ⟨k₀, q⟩ := e
    simp only [ne_eq, decide_not] at ih ⊢
    by_cases hk : k₀ = k
    · subst hk
      have hne : (k' == k₀) = false := by simpa using h
      simp [List.lookup_cons, hne, ih]
    · by_cases hk' : k' = k₀ <;> simp [List.lookup_cons, hk, hk', ih]

theorem get?_set (m : Memo) (k k' : String) (q : Plan) :
    (m.set k q).get? k' = if k' = k then some q else m.get? k' := by
  unfold get? set
  by_cases h : k' = k
  · simp [h]
  · have hne : (k' == k) = false := by simpa using h
    have := lookup_filter_ne m.entries h
    simp only [ne_eq, decide_not] at this
    simp [h, List.lookup_cons, hne, this]

/-- Every plan the memo keeps is kept under the text of its own flow and is that flow's
flattening with repeats dropped. -/
def Sound (S : Source) (m : Memo) : Prop :=
  ∀ k q, m.get? k = some q → q.flow.text = k ∧ ∃ xs, S.Expands [q.flow] xs ∧ q.passes = xs.eraseDups

variable {S : Source} {m : Memo}

theorem sound_empty : Sound S {} := by
  intro k q h
  cases h

theorem Sound.set (h : m.Sound S) {n : Name} {xs : List String} (hx : S.Expands [n] xs) :
    (m.set n.text ⟨n, xs.eraseDups⟩).Sound S := by
  intro k q hq
  rw [get?_set] at hq
  split at hq
  · next hk =>
    cases hq
    exact ⟨hk.symm, xs, hx, rfl⟩
  · exact h k q hq

end Memo

/-- The names a source defines or requires. -/
def Source.names (S : Source) : List Name := S.defs.flatMap fun d => d.name :: d.requires

/-- A set of names no two of which share a text, holding every name the source defines or
requires. -/
structure Source.Keyed (S : Source) (K : Name → Prop) : Prop where
  inj : ∀ a b, K a → K b → a.text = b.text → a = b
  defined : ∀ d ∈ S.defs, K d.name
  required : ∀ d ∈ S.defs, ∀ r ∈ d.requires, K r

/-- What a walk has found so far is right: each plan of its table is the flattening of its flow,
and its memo is sound. -/
structure Walk.Sound (S : Source) (w : Walk) : Prop where
  resolved : ∀ m ps, w.resolved.lookup m = some ps → ∃ xs, S.Expands [m] xs ∧ ps = xs.eraseDups
  memo : w.memo.Sound S

/-! ### One step of a walk -/

/-- One requirement of the walk below `parent`: its passes appended to those gathered so far. -/
def visitStep (src : Source) (fuel : Nat) (stack : List Name) (parent : Name)
    (acc : List String) (req : Name) : WalkM (List String) := do
  let sub ← visit src fuel stack req parent
  pure (addFresh acc sub)

section Steps

variable {S : Source} {fuel : Nat} {st : List Name} {n p : Name} {w : Walk}

theorem run_get_bind {α : Type} (f : Walk → WalkM α) (w : Walk) :
    ((get : WalkM Walk) >>= f).run.run w = (f w).run.run w := rfl

theorem run_bind {α β : Type} (x : WalkM α) (f : α → WalkM β) (w : Walk) :
    (x >>= f).run.run w =
      match x.run.run w with
      | (.ok a, w') => (f a).run.run w'
      | (.error e, w') => (.error e, w') := by
  simp only [ExceptT.run_bind, StateT.run_bind]
  rcases x.run.run w with ⟨_ | a, w'⟩ <;> rfl

theorem visit_zero : (visit S 0 st n p).run.run w = (.error (.cycle (cycleTo st n)), w) := rfl

theorem visit_resolved {ps : List String} (h : w.resolved.lookup n = some ps) :
    (visit S (fuel + 1) st n p).run.run w = (.ok ps, w) := by
  rw [visit, run_get_bind]
  simp only [h]
  rfl

theorem visit_memo {q : Plan} (h : w.resolved.lookup n = none) (hq : w.memo.get? n.text = some q) :
    (visit S (fuel + 1) st n p).run.run w =
      (.ok q.passes, { w with resolved := (n, q.passes) :: w.resolved, hits := w.hits ++ [n.text] }) := by
  rw [visit, run_get_bind]
  simp only [h, hq]
  rfl

theorem visit_cycle (h : w.resolved.lookup n = none) (hq : w.memo.get? n.text = none) (hs : n ∈ st) :
    (visit S (fuel + 1) st n p).run.run w = (.error (.cycle (cycleTo st n)), w) := by
  rw [visit, run_get_bind]
  simp only [h, hq, hs, if_true]
  rfl

theorem visit_notFound (h : w.resolved.lookup n = none) (hq : w.memo.get? n.text = none)
    (hs : n ∉ st) (hd : S.get? n = none) :
    (visit S (fuel + 1) st n p).run.run w = (.error (.notFound n p), w) := by
  rw [visit, run_get_bind]
  simp only [h, hq, hs, hd, if_false]
  rfl

theorem visit_defined {d : Definition} (h : w.resolved.lookup n = none)
    (hq : w.memo.get? n.text = none) (hs : n ∉ st) (hd : S.get? n = some d) :
    (visit S (fuel + 1) st n p).run.run w =
      match (d.requires.foldlM (visitStep S fuel (st ++ [n]) n) []).run.run w with
      | (.ok below, w') => (.ok (addFresh below d.passes),
          { w' with resolved := (n, addFresh below d.passes) :: w'.resolved,
                    memo := w'.memo.set n.text ⟨n, addFresh below d.passes⟩ })
      | (.error e, w') => (.error e, w') := by
  rw [visit, run_get_bind]
  simp only [h, hq, hs, hd, if_false]
  rw [show (fun acc req => do
      let sub ← visit S fuel (st ++ [n]) req n
      pure (addFresh acc sub)) = visitStep S fuel (st ++ [n]) n from rfl, run_bind]
  rcases (d.requires.foldlM (visitStep S fuel (st ++ [n]) n) []).run.run w with ⟨_ | below, w'⟩ <;> rfl

theorem visitStep_run {acc : List String} {r : Name} :
    (visitStep S fuel st p acc r).run.run w =
      match (visit S fuel st r p).run.run w with
      | (.ok sub, w') => (.ok (addFresh acc sub), w')
      | (.error e, w') => (.error e, w') := by
  rw [visitStep, run_bind]
  rcases (visit S fuel st r p).run.run w with ⟨_ | sub, w'⟩ <;> rfl

end Steps

/-! ### The walk against `search` -/

section Simulation

variable {S : Source} {K : Name → Prop} {fuel : Nat} {st : List Name} {n p : Name} {w : Walk}

/-- A plan kept for a flow whose text is that of a name in the key set is that name's plan. -/
theorem Source.Keyed.flow_eq (hK : S.Keyed K) {q : Plan} {xs : List String}
    (hx : S.Expands [q.flow] xs) (hn : K n) (ht : q.flow.text = n.text) : q.flow = n := by
  obtain ⟨d, hd⟩ := Option.isSome_iff_exists.1 (hx.sound _ List.mem_cons_self).isSome
  obtain ⟨hmem, hname⟩ := Source.get?_spec hd
  exact hK.inj _ _ (hname ▸ hK.defined d hmem) hn ht

theorem Walk.Sound.cons_resolved (hw : w.Sound S) {xs : List String} (hx : S.Expands [n] xs) :
    ∀ m ps, ((n, xs.eraseDups) :: w.resolved).lookup m = some ps →
      ∃ ys, S.Expands [m] ys ∧ ps = ys.eraseDups := by
  intro m ps h
  rw [List.lookup_cons] at h
  split at h
  · next hm =>
    cases h
    obtain rfl := beq_iff_eq.1 hm
    exact ⟨xs, hx, rfl⟩
  · exact hw.resolved m ps h

/-- A memo hit keeps the walk sound. -/
theorem Walk.Sound.hit (hw : w.Sound S) {xs : List String} (hx : S.Expands [n] xs) (hits : List String) :
    ({ w with resolved := (n, xs.eraseDups) :: w.resolved, hits } : Walk).Sound S :=
  ⟨hw.cons_resolved hx, hw.memo⟩

/-- A finished flow, recorded in the table and the memo, keeps the walk sound. -/
theorem Walk.Sound.finish (hw : w.Sound S) {xs : List String} (hx : S.Expands [n] xs) :
    ({ w with resolved := (n, xs.eraseDups) :: w.resolved,
              memo := w.memo.set n.text ⟨n, xs.eraseDups⟩ } : Walk).Sound S :=
  ⟨hw.cons_resolved hx, hw.memo.set hx⟩

theorem foldlM_visitStep_run {reqs : List Name}
    (ih : ∀ r ∈ reqs, ∀ w : Walk, w.Sound S →
      ∃ w', (visit S fuel st r p).run.run w = (search S fuel st r p, w') ∧ w'.Sound S) :
    ∀ (acc : List String) (w : Walk), w.Sound S →
      ∃ w', (reqs.foldlM (visitStep S fuel st p) acc).run.run w =
        (reqs.foldlM (searchStep S fuel st p) acc, w') ∧ w'.Sound S := by
  induction reqs with
  | nil => exact fun acc w hw => ⟨w, rfl, hw⟩
  | cons r rest ihrest =>
    intro acc w hw
    obtain ⟨w₁, h₁, hw₁⟩ := ih r List.mem_cons_self w hw
    rw [List.foldlM_cons, List.foldlM_cons, run_bind, visitStep_run, h₁]
    cases hr : search S fuel st r p with
    | error e => exact ⟨w₁, by simp [searchStep, hr]; rfl, hw₁⟩
    | ok sub =>
      rw [searchStep_ok hr]
      exact ihrest (fun r' hr' => ih r' (List.mem_cons_of_mem _ hr')) _ w₁ hw₁

/-- The walk with a sound table and memo answers as `search` does, error or plan, and leaves a
sound table and memo. -/
theorem visit_run (hK : S.Keyed K) : ∀ {fuel st n p w}, w.Sound S → K n → S.Path fuel st n →
    ∃ w', (visit S fuel st n p).run.run w = (search S fuel st n p, w') ∧ w'.Sound S
  | 0, _, _, _, w, hw, _, _ => ⟨w, visit_zero, hw⟩
  | fuel + 1, st, n, p, w, hw, hn, hp => by
    cases hr : w.resolved.lookup n with
    | some ps =>
      obtain ⟨xs, hxs, rfl⟩ := hw.resolved n ps hr
      exact ⟨w, by rw [visit_resolved hr, search_eq_of_expands hxs hp], hw⟩
    | none =>
      cases hq : w.memo.get? n.text with
      | some q =>
        obtain ⟨ht, xs, hxs, hps⟩ := hw.memo _ q hq
        rw [hK.flow_eq hxs hn ht] at hxs
        refine ⟨_, by rw [visit_memo hr hq, search_eq_of_expands hxs hp, hps], ?_⟩
        exact hw.hit hxs _
      | none =>
        by_cases hs : n ∈ st
        · exact ⟨w, by rw [visit_cycle hr hq hs, search_succ, if_pos hs], hw⟩
        cases hd : S.get? n with
        | none => exact ⟨w, by rw [visit_notFound hr hq hs hd, search_succ, if_neg hs, hd], hw⟩
        | some d =>
          obtain ⟨w', hrun, hw'⟩ := foldlM_visitStep_run
            (fun r hr' w hw => visit_run hK hw (hK.required d (Source.get?_spec hd).1 r hr')
              (hp.push hs hd hr')) [] w hw
          rw [visit_defined hr hq hs hd, hrun]
          cases hf : (d.requires.foldlM (searchStep S fuel (st ++ [n]) n) []) with
          | error e => exact ⟨w', by simp only [search_succ, if_neg hs, hd, hf]; rfl, hw'⟩
          | ok below =>
            have hsearch : search S (fuel + 1) st n p = .ok (addFresh below d.passes) := by
              simp only [search_succ, if_neg hs, hd, hf]; rfl
            obtain ⟨xs, hxs, hps⟩ := search_sound hsearch
            refine ⟨_, by rw [hsearch], ?_⟩
            rw [hps]
            exact hw'.finish hxs

end Simulation

/-! ### Resolving through the memo -/

namespace Resolver

variable {S : Source} {K : Name → Prop} {r : Resolver} {n : Name}

/-- The memo holds right plans for the source whenever the resolver stands at the source's
generation; at another generation it is flushed before it is read. -/
def Current (S : Source) (r : Resolver) : Prop := r.generation = S.generation → r.memo.Sound S

theorem current_of_sound (h : r.memo.Sound S) : r.Current S := fun _ => h

theorem sync_generation : (r.sync S).generation = S.generation := by
  unfold sync
  split <;> simp_all

theorem Current.sync (h : r.Current S) : (r.sync S).memo.Sound S := by
  unfold Resolver.sync
  split
  · next hg => exact h hg.symm
  · exact Memo.sound_empty

theorem resolveTold_hit {q : Plan} (hq : (r.sync S).memo.get? n.text = some q) :
    r.resolveTold S n = (r.sync S, .ok q, [n.text]) := by
  simp [resolveTold, hq]

theorem resolveTold_miss (hq : (r.sync S).memo.get? n.text = none) :
    r.resolveTold S n =
      let out := (visit S (S.defs.length + 1) [] n Name.zero).run.run { memo := (r.sync S).memo }
      ({ r.sync S with memo := out.2.memo }, out.1.map (⟨n, ·⟩), out.2.hits) := by
  simp only [resolveTold, hq]
  rfl

theorem walk_start_sound {m : Memo} (h : m.Sound S) : ({ memo := m } : Walk).Sound S :=
  ⟨fun _ _ hl => (by cases hl), h⟩

@[simp] theorem resolve_generation : (r.resolve S n).1.generation = S.generation := by
  unfold resolve
  cases hq : (r.sync S).memo.get? n.text with
  | some q => rw [resolveTold_hit hq]; exact sync_generation
  | none => rw [resolveTold_miss hq]; exact sync_generation

/-- Resolving through a current memo answers as the walk without any memo does, for every name
of the key set. -/
theorem resolve_eq_search (hK : S.Keyed K) (hn : K n) (h : r.Current S) :
    (r.resolve S n).2 = (search S (S.defs.length + 1) [] n Name.zero).map (⟨n, ·⟩) := by
  unfold resolve
  cases hq : (r.sync S).memo.get? n.text with
  | some q =>
    rw [resolveTold_hit hq]
    obtain ⟨ht, xs, hxs, hps⟩ := h.sync n.text q hq
    have hflow := hK.flow_eq hxs hn ht
    rw [hflow] at hxs
    obtain ⟨flow, passes⟩ := q
    simp only at hflow hps
    rw [search_eq_of_expands hxs Source.Path.nil, hflow, hps]
    rfl
  | none =>
    rw [resolveTold_miss hq]
    obtain ⟨w', hrun, -⟩ := visit_run (p := Name.zero) hK (walk_start_sound h.sync) hn Source.Path.nil
    simp only [hrun]

/-- Resolving any name through a current memo leaves a sound memo. -/
theorem resolve_memo_sound (hK : S.Keyed K) (h : r.Current S) : (r.resolve S n).1.memo.Sound S := by
  unfold resolve
  cases hq : (r.sync S).memo.get? n.text with
  | some q => rw [resolveTold_hit hq]; exact h.sync
  | none =>
    rw [resolveTold_miss hq]
    cases hd : S.get? n with
    | some d =>
      obtain ⟨hmem, hname⟩ := Source.get?_spec hd
      obtain ⟨w', hrun, hw'⟩ := visit_run (p := Name.zero) hK (walk_start_sound h.sync)
        (hname ▸ hK.defined d hmem) Source.Path.nil
      simp only [hrun]
      exact hw'.memo
    | none =>
      have hrun : (visit S (S.defs.length + 1) [] n Name.zero).run.run { memo := (r.sync S).memo } =
          (.error (.notFound n Name.zero), { memo := (r.sync S).memo }) :=
        visit_notFound rfl hq List.not_mem_nil hd
      simp only [hrun]
      exact h.sync

theorem resolve_current (hK : S.Keyed K) (h : r.Current S) : (r.resolve S n).1.Current S :=
  current_of_sound (resolve_memo_sound hK h)

theorem explain_fst : (r.explain S n).1 = (r.resolve S n).1 := by
  unfold explain explainTold resolve
  rcases r.resolveTold S n with ⟨r', _ | q, hits⟩ <;> rfl

theorem explain_snd : (r.explain S n).2 =
    match (r.resolve S n).2 with
    | .error e => .error e
    | .ok _ => (contribute S (S.defs.length + 1) n).run' ([], []) := by
  unfold explain explainTold resolve
  rcases r.resolveTold S n with ⟨r', _ | q, hits⟩ <;> rfl

end Resolver

end PassPlan.Flow
