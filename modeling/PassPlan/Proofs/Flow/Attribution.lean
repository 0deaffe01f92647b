import PassPlan.Proofs.Flow.Resolution
import PassPlan.Proofs.Flow.Generations
/-!
Explaining agrees with resolving. Explaining walks the requirements depth first in declared
order, visits each flow once, marking it on entry, and credits a flow with the passes of its
own that no flow placed before it. Resolving instead walks a shared requirement again wherever
it is required and drops repeats at every level. They agree because a flow visited a second
time is finished (in an acyclic part a flow on the walk's own path cannot be reached again),
and a finished flow has already placed every pass it reaches. So the contributions concatenate
to the plan, each names a distinct reachable flow with passes, and each pass is credited to the
first flow owning it in the post-order of the walk.
-/
namespace PassPlan.Flow

/-! ### Placing passes -/

theorem mem_addFresh {acc ps : List String} {x : String} :
    x ∈ addFresh acc ps ↔ x ∈ acc ∨ x ∈ ps := by
  rw [addFresh_eq, List.mem_append, List.mem_eraseDups]
  by_cases hx : x ∈ acc <;> simp [List.removeAll, hx]

theorem addFresh_append (acc xs ys : List String) :
    addFresh acc (xs ++ ys) = addFresh (addFresh acc xs) ys := by
  simp only [addFresh, List.foldl_append]

theorem addFresh_of_subset {acc ps : List String} (h : ∀ x ∈ ps, x ∈ acc) : addFresh acc ps = acc := by
  induction ps with
  | nil => rfl
  | cons p ps ih =>
    change addFresh (if p ∈ acc then acc else acc ++ [p]) ps = acc
    rw [if_pos (h p List.mem_cons_self)]
    exact ih fun x hx => h x (List.mem_cons_of_mem _ hx)

theorem addFresh_nil (ps : List String) : addFresh [] ps = ps.eraseDups := by
  simpa using addFresh_eraseDups [] ps

/-- The passes a flow adds after `P` are its passes missing from `P`, each once. -/
theorem append_addFresh_filter (P ps : List String) :
    P ++ addFresh [] (ps.filter (· ∉ P)) = addFresh P ps := by
  have hfilter : ps.filter (· ∉ P) = ps.removeAll P := by
    unfold List.removeAll
    apply List.filter_congr
    intro x _
    simp
  rw [hfilter, addFresh_nil, addFresh_eq]

namespace Source

/-- `m` has the pass `x` among its own passes. -/
def Owns (S : Source) (m : Name) (x : String) : Prop := ∃ d, S.get? m = some d ∧ x ∈ d.passes

/-- The flows of a list and of everything they require, each after its requirements, in the
order a depth-first walk over requirements in declared order finishes them; a flow required
twice is finished twice. -/
inductive Postorder (S : Source) : List Name → List Name → Prop
  | nil : Postorder S [] []
  | cons {n : Name} {d : Definition} {rest fs gs : List Name} :
      S.get? n = some d → Postorder S d.requires fs → Postorder S rest gs →
      Postorder S (n :: rest) (fs ++ [n] ++ gs)

/-- `f` is the first flow of `fs` that owns `x`. -/
def FirstOwner (S : Source) (fs : List Name) (x : String) (f : Name) : Prop :=
  ∃ pre post, fs = pre ++ f :: post ∧ S.Owns f x ∧ ∀ g ∈ pre, ¬ S.Owns g x

/-- Every pass of every flow `v` reaches is placed. -/
def Covered (S : Source) (P : List String) (v : Name) : Prop :=
  ∀ m, Relation.ReflTransGen S.Requires v m → ∀ x, S.Owns m x → x ∈ P

/-- Before explaining the flows `ns` from visited flows `V` and placed passes `P`: every visited
flow that one of `ns` reaches is finished, with all it reaches placed. -/
def Settled (S : Source) (ns V : List Name) (P : List String) : Prop :=
  ∀ v ∈ V, (∃ m ∈ ns, Relation.ReflTransGen S.Requires m v) → S.Covered P v

/-- What explaining the flows `ns` in turn does, from visited flows `V` and placed passes `P`,
when it gives the contributions `cs` and leaves `V'` and `P'`: it places the flattening of `ns`
after `P`, exactly the passes of `cs`; every flow it visits is reached from `ns` and finished;
each contribution has passes and a flow first visited here, no two the same flow; and each
pass is credited to the first flow of the post-order of `ns` that owns it. -/
structure Attributes (S : Source) (ns V : List Name) (P : List String) (cs : List Contribution)
    (V' : List Name) (P' : List String) : Prop where
  placed : ∃ xs, S.Expands ns xs ∧ P' = addFresh P xs
  concat : P' = P ++ cs.flatMap (·.passes)
  visited : V ⊆ V'
  finished : ∀ v ∈ V', v ∉ V → (∃ m ∈ ns, Relation.ReflTransGen S.Requires m v) ∧ S.Covered P' v
  nonempty : ∀ c ∈ cs, c.passes ≠ []
  fresh : ∀ c ∈ cs, c.flow ∈ V' ∧ c.flow ∉ V
  nodup : (cs.map (·.flow)).Nodup
  first : ∃ fs, S.Postorder ns fs ∧ ∀ c ∈ cs, ∀ x ∈ c.passes, S.FirstOwner fs x c.flow

variable {S : Source} {ns ns₁ ns₂ fs fs₁ fs₂ : List Name} {xs xs₁ xs₂ : List String}
  {n g : Name} {x : String}

theorem Expands.append (h₁ : S.Expands ns₁ xs₁) (h₂ : S.Expands ns₂ xs₂) :
    S.Expands (ns₁ ++ ns₂) (xs₁ ++ xs₂) := by
  induction h₁ with
  | nil => simpa using h₂
  | cons hd hreq _ _ ihrest => simpa using Expands.cons hd hreq ihrest

theorem Postorder.append (h₁ : S.Postorder ns₁ fs₁) (h₂ : S.Postorder ns₂ fs₂) :
    S.Postorder (ns₁ ++ ns₂) (fs₁ ++ fs₂) := by
  induction h₁ with
  | nil => simpa using h₂
  | cons hd hreq _ _ ihrest => simpa using Postorder.cons hd hreq ihrest

theorem Expands.postorder (h : S.Expands ns xs) : ∃ fs, S.Postorder ns fs := by
  induction h with
  | nil => exact ⟨[], .nil⟩
  | cons hd _ _ ihreq ihrest =>
    obtain ⟨fs, hfs⟩ := ihreq
    obtain ⟨gs, hgs⟩ := ihrest
    exact ⟨_, .cons hd hfs hgs⟩

theorem Postorder.reach (h : S.Postorder ns fs) :
    ∀ g ∈ fs, ∃ m ∈ ns, Relation.ReflTransGen S.Requires m g := by
  induction h with
  | nil => simp
  | @cons n d rest fs gs hd _ _ ihreq ihrest =>
    intro g hg
    simp only [List.mem_append, List.mem_singleton] at hg
    rcases hg with (hg | rfl) | hg
    · obtain ⟨m, hm, hmg⟩ := ihreq g hg
      exact ⟨n, List.mem_cons_self, Relation.ReflTransGen.head ⟨d, hd, hm⟩ hmg⟩
    · exact ⟨g, List.mem_cons_self, .refl⟩
    · obtain ⟨m, hm, hmg⟩ := ihrest g hg
      exact ⟨m, List.mem_cons_of_mem _ hm, hmg⟩

theorem Postorder.mem_of_owns (hfs : S.Postorder ns fs) (hxs : S.Expands ns xs) (hg : g ∈ fs)
    (hown : S.Owns g x) : x ∈ xs := by
  obtain ⟨m, hm, hmg⟩ := hfs.reach g hg
  obtain ⟨d, hd, hxd⟩ := hown
  exact (hxs.mem_iff x).2 ⟨m, hm, g, d, hmg, hd, hxd⟩

theorem FirstOwner.append_right {f : Name} (h : S.FirstOwner fs x f) (gs : List Name) :
    S.FirstOwner (fs ++ gs) x f := by
  obtain ⟨pre, post, rfl, hown, hpre⟩ := h
  exact ⟨pre, post ++ gs, by simp, hown, hpre⟩

theorem FirstOwner.append_left {gs : List Name} {f : Name} (hfs : ∀ g ∈ fs, ¬ S.Owns g x)
    (h : S.FirstOwner gs x f) : S.FirstOwner (fs ++ gs) x f := by
  obtain ⟨pre, post, rfl, hown, hpre⟩ := h
  refine ⟨fs ++ pre, post, by simp, hown, fun g hg => ?_⟩
  rcases List.mem_append.1 hg with hg | hg
  · exact hfs g hg
  · exact hpre g hg

theorem Covered.mono {P Q : List String} (h : S.Covered P n) (hPQ : ∀ x ∈ P, x ∈ Q) :
    S.Covered Q n :=
  fun m hm x hx => hPQ x (h m hm x hx)

theorem covered_of_expands {P : List String} (hxs : S.Expands ns xs) (hn : n ∈ ns) :
    S.Covered (addFresh P xs) n := by
  intro m hm x ⟨d, hd, hxd⟩
  exact mem_addFresh.2 (.inr ((hxs.mem_iff x).2 ⟨n, hn, m, d, hm, hd, hxd⟩))

section Settled

variable {V : List Name} {P : List String}

theorem Settled.sub (h : S.Settled ns V P) (hsub : ns₁ ⊆ ns) : S.Settled ns₁ V P :=
  fun v hv ⟨m, hm, hmv⟩ => h v hv ⟨m, hsub hm, hmv⟩

/-- The requirements of a flow just entered meet no visited flow unfinished: the flow itself
would close a cycle. -/
theorem Settled.enter (h : S.Settled [n] V P) (hs : S.Sound n) {d : Definition}
    (hd : S.get? n = some d) : S.Settled d.requires (n :: V) P := by
  rintro v hv ⟨r, hr, hrv⟩
  rcases List.mem_cons.1 hv with rfl | hv
  · exact absurd (Relation.TransGen.head' ⟨d, hd, hr⟩ hrv) hs.acyclic
  · exact h v hv ⟨n, List.mem_singleton_self _, Relation.ReflTransGen.head ⟨d, hd, hr⟩ hrv⟩

end Settled

/-! ### Explaining in parts -/

section Parts

variable {V V₁ V₂ : List Name} {P P₁ P₂ : List String} {cs cs₁ cs₂ : List Contribution}

theorem Attributes.nil : S.Attributes [] V P [] V P :=
  ⟨⟨[], .nil, rfl⟩, by simp, fun _ h => h, fun _ h h' => absurd h h', by simp, by simp,
    List.nodup_nil, ⟨[], .nil, by simp⟩⟩

/-- A flow visited before is finished: explaining it again adds nothing. -/
theorem Attributes.skip (hxs : S.Expands [n] xs) (hcov : S.Covered P n) :
    S.Attributes [n] V P [] V P := by
  obtain ⟨fs, hfs⟩ := hxs.postorder
  refine ⟨⟨xs, hxs, (addFresh_of_subset fun x hx => ?_).symm⟩, by simp, fun _ h => h,
    fun _ h h' => absurd h h', by simp, by simp, List.nodup_nil, ⟨fs, hfs, by simp⟩⟩
  obtain ⟨m, hm, k, d, hk, hd, hxd⟩ := (hxs.mem_iff x).1 hx
  rw [List.mem_singleton.1 hm] at hk
  exact hcov k hk x ⟨d, hd, hxd⟩

theorem Attributes.append (h₁ : S.Attributes ns₁ V P cs₁ V₁ P₁)
    (h₂ : S.Attributes ns₂ V₁ P₁ cs₂ V₂ P₂) :
    S.Attributes (ns₁ ++ ns₂) V P (cs₁ ++ cs₂) V₂ P₂ := by
  obtain ⟨xs₁, hxs₁, hP₁⟩ := h₁.placed
  obtain ⟨xs₂, hxs₂, hP₂⟩ := h₂.placed
  obtain ⟨fs₁, hfs₁, hfirst₁⟩ := h₁.first
  obtain ⟨fs₂, hfs₂, hfirst₂⟩ := h₂.first
  -- the second part credits only passes the first did not place
  have hnew : ∀ c ∈ cs₂, ∀ x ∈ c.passes, x ∉ P₁ := by
    intro c hc x hx
    have hcat := h₂.concat
    rw [hP₂, addFresh_eq] at hcat
    have hmem : x ∈ (xs₂.removeAll P₁).eraseDups := by
      rw [List.append_cancel_left hcat]
      exact List.mem_flatMap.2 ⟨c, hc, hx⟩
    simp only [List.mem_eraseDups, List.removeAll, List.mem_filter, List.elem_eq_mem,
      Bool.not_eq_true', decide_eq_false_iff_not] at hmem
    exact hmem.2
  have hP₁₂ : ∀ x ∈ P₁, x ∈ P₂ := fun x hx => by
    rw [h₂.concat]
    exact List.mem_append_left _ hx
  refine ⟨⟨xs₁ ++ xs₂, hxs₁.append hxs₂, by rw [hP₂, hP₁, addFresh_append]⟩,
    by rw [h₂.concat, h₁.concat]; simp, fun v hv => h₂.visited (h₁.visited hv), ?_, ?_, ?_, ?_, ?_⟩
  · intro v hv hvV
    by_cases hv₁ : v ∈ V₁
    · obtain ⟨⟨m, hm, hmv⟩, hcov⟩ := h₁.finished v hv₁ hvV
      exact ⟨⟨m, List.mem_append_left _ hm, hmv⟩, hcov.mono hP₁₂⟩
    · obtain ⟨⟨m, hm, hmv⟩, hcov⟩ := h₂.finished v hv hv₁
      exact ⟨⟨m, List.mem_append_right _ hm, hmv⟩, hcov⟩
  · intro c hc
    rcases List.mem_append.1 hc with hc | hc
    · exact h₁.nonempty c hc
    · exact h₂.nonempty c hc
  · intro c hc
    rcases List.mem_append.1 hc with hc | hc
    · exact ⟨h₂.visited (h₁.fresh c hc).1, (h₁.fresh c hc).2⟩
    · exact ⟨(h₂.fresh c hc).1, fun hV => (h₂.fresh c hc).2 (h₁.visited hV)⟩
  · -- the first part's flows were visited by its end, the second part's were not
    rw [List.map_append]
    refine h₁.nodup.append h₂.nodup fun a ha hb => ?_
    obtain ⟨c₁, hc₁, rfl⟩ := List.mem_map.1 ha
    obtain ⟨c₂, hc₂, hc⟩ := List.mem_map.1 hb
    exact (h₂.fresh c₂ hc₂).2 (hc ▸ (h₁.fresh c₁ hc₁).1)
  · refine ⟨fs₁ ++ fs₂, hfs₁.append hfs₂, fun c hc x hx => ?_⟩
    rcases List.mem_append.1 hc with hc | hc
    · exact (hfirst₁ c hc x hx).append_right fs₂
    · refine FirstOwner.append_left (fun g hg hown => hnew c hc x hx ?_) (hfirst₂ c hc x hx)
      rw [hP₁]
      exact mem_addFresh.2 (.inr (hfs₁.mem_of_owns hxs₁ hg hown))

/-- Entering a flow: its requirements explained after marking it, then the passes of its own
that are still missing credited to it. -/
theorem Attributes.enter (hn : n ∉ V) {d : Definition} (hd : S.get? n = some d)
    {below : List Contribution} (h : S.Attributes d.requires (n :: V) P below V₁ P₁) :
    S.Attributes [n] V P
      (if (addFresh [] (d.passes.filter (· ∉ P₁))).isEmpty then below
        else below ++ [⟨n, addFresh [] (d.passes.filter (· ∉ P₁))⟩])
      V₁ (P₁ ++ addFresh [] (d.passes.filter (· ∉ P₁))) := by
  generalize hfresh : addFresh [] (d.passes.filter (· ∉ P₁)) = fresh
  obtain ⟨ys, hys, hP₁⟩ := h.placed
  obtain ⟨fs, hfs, hfirst⟩ := h.first
  have hxs : S.Expands [n] (ys ++ d.passes) :=
    Source.expands_singleton_iff.2 ⟨d, ys, hd, hys, rfl⟩
  have hplaced : P₁ ++ fresh = addFresh P (ys ++ d.passes) := by
    rw [← hfresh, append_addFresh_filter, hP₁, addFresh_append]
  -- a pass credited to the flow is one of its own, missing below it
  have hown_pass : ∀ x ∈ fresh, x ∈ d.passes ∧ x ∉ P₁ := by
    intro x hx
    rw [← hfresh, mem_addFresh] at hx
    simpa using hx
  have hpost : S.Postorder [n] (fs ++ [n]) := by simpa using Postorder.cons hd hfs .nil
  have hnV₁ : n ∈ V₁ := h.visited List.mem_cons_self
  -- the contributions are those below and, when it added passes, the flow's own
  obtain ⟨own, hres, hown⟩ : ∃ own : List Contribution,
      (if fresh.isEmpty then below else below ++ [⟨n, fresh⟩]) = below ++ own ∧
      (own = [] ∧ fresh = [] ∨ own = [⟨n, fresh⟩] ∧ fresh ≠ []) := by
    by_cases he : fresh.isEmpty
    · exact ⟨[], by simp [he], .inl ⟨rfl, List.isEmpty_iff.1 he⟩⟩
    · exact ⟨[⟨n, fresh⟩], by simp [he], .inr ⟨rfl, by simpa using he⟩⟩
  have hown_cat : own.flatMap (·.passes) = fresh := by
    rcases hown with ⟨rfl, rfl⟩ | ⟨rfl, -⟩ <;> simp
  have hown_mem : ∀ c ∈ own, c = ⟨n, fresh⟩ ∧ fresh ≠ [] := by
    rcases hown with ⟨rfl, -⟩ | ⟨rfl, hne⟩
    · simp
    · simpa using hne
  have hown_nodup : (own.map (·.flow)).Nodup := by
    rcases hown with ⟨rfl, -⟩ | ⟨rfl, -⟩ <;> simp
  rw [hres]
  refine ⟨⟨ys ++ d.passes, hxs, hplaced⟩, ?_, fun v hv => h.visited (List.mem_cons_of_mem _ hv),
    ?_, ?_, ?_, ?_, ?_⟩
  · rw [h.concat, List.flatMap_append, hown_cat, List.append_assoc]
  · intro v hv hvV
    by_cases hvn : v = n
    · subst hvn
      exact ⟨⟨v, List.mem_singleton_self _, .refl⟩,
        hplaced ▸ covered_of_expands hxs (List.mem_singleton_self _)⟩
    · obtain ⟨⟨r, hr, hrv⟩, hcov⟩ := h.finished v hv (by simp [hvn, hvV])
      exact ⟨⟨n, List.mem_singleton_self _, Relation.ReflTransGen.head ⟨d, hd, hr⟩ hrv⟩,
        hcov.mono fun x hx => List.mem_append_left _ hx⟩
  · intro c hc
    rcases List.mem_append.1 hc with hc | hc
    · exact h.nonempty c hc
    · obtain ⟨rfl, hne⟩ := hown_mem c hc
      exact hne
  · intro c hc
    rcases List.mem_append.1 hc with hc | hc
    · exact ⟨(h.fresh c hc).1, fun hV => (h.fresh c hc).2 (List.mem_cons_of_mem _ hV)⟩
    · obtain ⟨rfl, -⟩ := hown_mem c hc
      exact ⟨hnV₁, hn⟩
  · rw [List.map_append]
    refine h.nodup.append hown_nodup fun a ha hb => ?_
    obtain ⟨c₁, hc₁, rfl⟩ := List.mem_map.1 ha
    obtain ⟨c₂, hc₂, hc⟩ := List.mem_map.1 hb
    obtain ⟨rfl, -⟩ := hown_mem c₂ hc₂
    exact (h.fresh c₁ hc₁).2 (hc ▸ List.mem_cons_self)
  · refine ⟨fs ++ [n], hpost, fun c hc x hx => ?_⟩
    rcases List.mem_append.1 hc with hc | hc
    · exact (hfirst c hc x hx).append_right [n]
    · obtain ⟨rfl, -⟩ := hown_mem c hc
      obtain ⟨hxd, hxP⟩ := hown_pass x hx
      refine FirstOwner.append_left (fun g hg hg' => hxP ?_) ⟨[], [], rfl, ⟨d, hd, hxd⟩, by simp⟩
      rw [hP₁]
      exact mem_addFresh.2 (.inr (hfs.mem_of_owns hys hg hg'))

end Parts

end Source

/-! ### The explaining walk -/

/-- One requirement of the explaining walk: its contributions after those gathered so far. -/
def contributeStep (S : Source) (fuel : Nat) (acc : List Contribution) (req : Name) :
    StateT (List Name × List String) (Except Error) (List Contribution) := do
  let cs ← contribute S fuel req
  pure (acc ++ cs)

section Walk

variable {S : Source} {fuel : Nat} {st : List Name} {n : Name} {V : List Name} {P : List String}

theorem contribute_run_visited (h : n ∈ V) :
    (contribute S (fuel + 1) n).run (V, P) = .ok ([], V, P) := by
  simp [contribute, h]
  rfl

theorem contribute_run_enter {d : Definition} (hn : n ∉ V) (hd : S.get? n = some d)
    {below : List Contribution} {V' : List Name} {P' : List String}
    (hf : (d.requires.foldlM (contributeStep S fuel) []).run (n :: V, P) = .ok (below, V', P')) :
    (contribute S (fuel + 1) n).run (V, P) =
      .ok (if (addFresh [] (d.passes.filter (· ∉ P'))).isEmpty then below
          else below ++ [⟨n, addFresh [] (d.passes.filter (· ∉ P'))⟩],
        V', P' ++ addFresh [] (d.passes.filter (· ∉ P'))) := by
  rw [contribute]
  have hstep : (fun acc req => do
      let cs ← contribute S fuel req
      pure (acc ++ cs)) = contributeStep S fuel := rfl
  simp only [hstep, StateT.run_bind, StateT.run_get, pure_bind, hn, if_false, StateT.run_set, hd]
  rw [hf]
  rfl

theorem contributeStep_run {acc cs : List Contribution} {r : Name}
    {s s' : List Name × List String} (h : (contribute S fuel r).run s = .ok (cs, s')) :
    (contributeStep S fuel acc r).run s = .ok (acc ++ cs, s') := by
  simp [contributeStep, h]

theorem foldlM_contributeStep_attributes {reqs : List Name}
    (ih : ∀ r ∈ reqs, ∀ (V : List Name) (P : List String), S.Settled [r] V P →
      ∃ cs V' P', (contribute S fuel r).run (V, P) = .ok (cs, V', P') ∧
        S.Attributes [r] V P cs V' P') :
    ∀ (acc : List Contribution) (V : List Name) (P : List String), S.Settled reqs V P →
      ∃ cs V' P', (reqs.foldlM (contributeStep S fuel) acc).run (V, P) = .ok (acc ++ cs, V', P') ∧
        S.Attributes reqs V P cs V' P' := by
  induction reqs with
  | nil => exact fun acc V P _ => ⟨[], V, P, by simp; rfl, Source.Attributes.nil⟩
  | cons r rest ihrest =>
    intro acc V P hset
    obtain ⟨cs₁, V₁, P₁, hrun₁, hat₁⟩ :=
      ih r List.mem_cons_self V P (hset.sub fun a ha => List.mem_singleton.1 ha ▸ List.mem_cons_self)
    -- what the first requirement visited is finished, so the rest start settled
    have hset' : S.Settled rest V₁ P₁ := by
      rintro v hv ⟨m, hm, hmv⟩
      by_cases hvV : v ∈ V
      · exact (hset v hvV ⟨m, List.mem_cons_of_mem _ hm, hmv⟩).mono fun x hx => by
          rw [hat₁.concat]
          exact List.mem_append_left _ hx
      · exact (hat₁.finished v hv hvV).2
    obtain ⟨cs₂, V₂, P₂, hrun₂, hat₂⟩ :=
      ihrest (fun r' hr' => ih r' (List.mem_cons_of_mem _ hr')) (acc ++ cs₁) V₁ P₁ hset'
    refine ⟨cs₁ ++ cs₂, V₂, P₂, ?_, hat₁.append hat₂⟩
    rw [List.foldlM_cons, StateT.run_bind, contributeStep_run hrun₁, ← List.append_assoc]
    exact hrun₂

/-- From a sound flow, at any position a walk can reach it in, after settled visits, the
explaining walk succeeds and explains the flow. -/
theorem contribute_attributes : ∀ {fuel st n} {V : List Name} {P : List String}, S.Sound n →
    S.Path fuel st n → S.Settled [n] V P →
    ∃ cs V' P', (contribute S fuel n).run (V, P) = .ok (cs, V', P') ∧ S.Attributes [n] V P cs V' P'
  | fuel, st, n, V, P, hs, hp, hset => by
    have hnst := hp.not_mem hs
    obtain ⟨k, rfl⟩ : ∃ k, fuel = k + 1 := ⟨fuel - 1, by have := hp.fuel_pos hnst hs.isSome; omega⟩
    obtain ⟨d, hd⟩ := Option.isSome_iff_exists.1 hs.isSome
    obtain ⟨xs, hxs⟩ := Source.sound_iff_expands.1 hs
    by_cases hn : n ∈ V
    · exact ⟨[], V, P, contribute_run_visited hn,
        Source.Attributes.skip hxs (hset n hn ⟨n, List.mem_singleton_self _, .refl⟩)⟩
    · obtain ⟨below, V', P', hrun, hat⟩ := foldlM_contributeStep_attributes
        (fun r hr V P hset' => contribute_attributes (hs.requires hd hr) (hp.push hnst hd hr) hset')
        [] (n :: V) P (hset.enter hs hd)
      exact ⟨_, _, _, contribute_run_enter hn hd (by simpa using hrun), hat.enter hn hd⟩
termination_by fuel => fuel
decreasing_by omega

end Walk

/-- Explaining agrees with resolving: on a source whose names are told apart by their texts,
through a memo that is right for it, when resolving a flow gives a plan, explaining it succeeds
with contributions whose passes, concatenated, are the plan's passes; each has passes and names
a flow reached from the one asked for, no flow twice; and each pass is credited to the first
flow owning it in the post-order of the depth-first walk over requirements in declared order. -/
theorem explain_attributes (S : Source) (K : Name → Prop) (hK : S.Keyed K) (r : Resolver)
    (n : Name) (hn : K n) (hr : r.Current S) (p : Plan) (hres : (r.resolve S n).2 = .ok p) :
    ∃ cs, (r.explain S n).2 = .ok cs ∧
      cs.flatMap (·.passes) = p.passes ∧
      (∀ c ∈ cs, c.passes ≠ [] ∧ Relation.ReflTransGen S.Requires n c.flow) ∧
      (cs.map (·.flow)).Nodup ∧
      ∃ fs, S.Postorder [n] fs ∧ ∀ c ∈ cs, ∀ x ∈ c.passes, S.FirstOwner fs x c.flow := by
  have hsearch := Resolver.resolve_eq_search hK hn hr
  rw [hres] at hsearch
  cases hs : search S (S.defs.length + 1) [] n Name.zero with
  | error e => rw [hs] at hsearch; cases hsearch
  | ok ps =>
    rw [hs] at hsearch
    cases hsearch
    obtain ⟨xs, hxs, rfl⟩ := search_sound hs
    have hsettled : S.Settled [n] [] [] := fun _ hv => absurd hv List.not_mem_nil
    obtain ⟨cs, V', P', hrun, hat⟩ :=
      contribute_attributes (hxs.sound n List.mem_cons_self) Source.Path.nil hsettled
    obtain ⟨xs', hxs', hP'⟩ := hat.placed
    obtain rfl := hxs'.unique hxs
    have hcat : cs.flatMap (·.passes) = xs'.eraseDups := by
      have h := hat.concat
      rw [hP', addFresh_nil] at h
      simpa using h.symm
    refine ⟨cs, ?_, hcat, fun c hc => ⟨hat.nonempty c hc, ?_⟩, hat.nodup, hat.first⟩
    · rw [Resolver.explain_snd, hres]
      show (fun a => a.1) <$> (contribute S (S.defs.length + 1) n).run ([], []) = .ok cs
      rw [hrun]
      rfl
    · obtain ⟨⟨m, hm, hmc⟩, -⟩ := hat.finished c.flow (hat.fresh c hc).1 List.not_mem_nil
      rw [List.mem_singleton.1 hm] at hmc
      exact hmc

theorem explain_attributes_diamond :
    diamond.Keyed Name.Valid ∧ (⟨"b", "top"⟩ : Name).Valid ∧
    (Resolver.new diamond).Current diamond ∧
    ((Resolver.new diamond).resolve diamond ⟨"b", "top"⟩).2 =
      .ok ⟨⟨"b", "top"⟩, ["c1", "c2", "l1", "r1", "t1"]⟩ ∧
    ∃ cs, ((Resolver.new diamond).explain diamond ⟨"b", "top"⟩).2 = .ok cs ∧
      cs.flatMap (·.passes) = ["c1", "c2", "l1", "r1", "t1"] ∧
      (∀ c ∈ cs, c.passes ≠ [] ∧ Relation.ReflTransGen diamond.Requires ⟨"b", "top"⟩ c.flow) ∧
      (cs.map (·.flow)).Nodup ∧
      ∃ fs, diamond.Postorder [⟨"b", "top"⟩] fs ∧
        ∀ c ∈ cs, ∀ x ∈ c.passes, diamond.FirstOwner fs x c.flow :=
  have hK : diamond.Keyed Name.Valid := Source.Valid.keyed (by decide)
  have hn : (⟨"b", "top"⟩ : Name).Valid := by decide
  have hr : (Resolver.new diamond).Current diamond := (Resolver.tracks_new diamond).current
  have hres : ((Resolver.new diamond).resolve diamond ⟨"b", "top"⟩).2 =
      .ok ⟨⟨"b", "top"⟩, ["c1", "c2", "l1", "r1", "t1"]⟩ := by decide
  ⟨hK, hn, hr, hres, explain_attributes diamond Name.Valid hK _ _ hn hr _ hres⟩

end PassPlan.Flow
