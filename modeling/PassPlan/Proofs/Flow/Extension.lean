import PassPlan.Proofs.Flow.Derivation
import PassPlan.Proofs.Flow.Resolution
import PassPlan.Proofs.Flow.Generations
import Mathlib.Data.List.TakeDrop
/-!
A derived flow extends its base's plan. The target keeps the base's passes and requires the
base's requirements with prerequisites spliced in, so its flattening is the base's with the
flattenings of the prerequisites inserted between whole requirements. Its plan therefore holds
exactly the passes of the base's plan and of the prerequisites' plans; and when no prerequisite
brings a pass of the base's plan, keeping only those passes gives the base's plan back, in its
order. Without that condition a prerequisite may place a pass of the base earlier than the base
does. The target is registered under its normal form: under its own name when written so, and
otherwise not found as written.
-/
namespace PassPlan.Flow

section Splice

variable {rs out : List Name} {ins : List Insertion} {E : Name → List String}

/-- The passes of a flattening after a splice: those before it and those of the prerequisites. -/
theorem Spliced.mem_flatMap (hsp : Spliced rs ins out) (x : String) :
    x ∈ out.flatMap E ↔ x ∈ rs.flatMap E ∨ ∃ i ∈ ins, x ∈ E i.prerequisite := by
  simp only [List.mem_flatMap, hsp.mem_iff]
  constructor
  · rintro ⟨m, hm | ⟨i, hi, rfl⟩, hx⟩
    · exact .inl ⟨m, hm, hx⟩
    · exact .inr ⟨i, hi, hx⟩
  · rintro (⟨m, hm, hx⟩ | ⟨i, hi, hx⟩)
    · exact ⟨m, .inl hm, hx⟩
    · exact ⟨_, .inr ⟨i, hi, rfl⟩, hx⟩

/-- Prerequisites that bring none of the passes a filter keeps leave the filtered flattening as
it was. -/
theorem Spliced.filter_flatMap (hsp : Spliced rs ins out) {q : String → Bool}
    (hq : ∀ i ∈ ins, ∀ x ∈ E i.prerequisite, q x = false) :
    (out.flatMap E).filter q = (rs.flatMap E).filter q := by
  rw [List.filter_flatMap, List.filter_flatMap]
  exact hsp.flatMap_eq fun i hi => List.filter_eq_nil_iff.2 fun x hx => by simp [hq i hi x hx]

/-- The plan of a spliced flow, cut down to the passes of the plan before the splice, is that
plan, provided the prerequisites bring none of its passes. -/
theorem Spliced.plan_filter (hsp : Spliced rs ins out) (ps : List String)
    (hdis : ∀ i ∈ ins, ∀ x ∈ E i.prerequisite, x ∉ rs.flatMap E ++ ps) :
    (out.flatMap E ++ ps).eraseDups.filter (· ∈ (rs.flatMap E ++ ps).eraseDups) =
      (rs.flatMap E ++ ps).eraseDups := by
  -- keeping the passes of the plan is keeping those of the flattening before the splice
  have hkeep : (out.flatMap E ++ ps).filter (· ∈ rs.flatMap E ++ ps) = rs.flatMap E ++ ps := by
    rw [List.filter_append, hsp.filter_flatMap fun i hi x hx => by simp [hdis i hi x hx],
      ← List.filter_append, List.filter_eq_self.2 fun x hx => by simpa using hx]
  simp only [List.mem_eraseDups]
  rw [← eraseDups_filter, hkeep]

end Splice

namespace Source

variable {S : Source} {ns : List Name} {xs : List String} {E : Name → List String}

/-- A flattening is the flattenings of its flows joined in turn. -/
theorem Expands.eq_flatMap (h : S.Expands ns xs) (hE : ∀ n ∈ ns, S.Expands [n] (E n)) :
    xs = ns.flatMap E := by
  induction h with
  | nil => rfl
  | @cons n d rest ys zs hd hreq _ _ ihrest =>
    have hn : ys ++ d.passes = E n := by
      simpa using (Expands.cons hd hreq .nil).unique (hE n List.mem_cons_self)
    rw [List.flatMap_cons, ← hn, ihrest fun m hm => hE m (List.mem_cons_of_mem _ hm),
      List.append_assoc]

/-- Every sound flow has a flattening, so one may be chosen for each. -/
theorem exists_flattening (S : Source) :
    ∃ E : Name → List String, ∀ n, S.Sound n → S.Expands [n] (E n) := by
  have h : ∀ n, ∃ xs, S.Sound n → S.Expands [n] xs := fun n => by
    by_cases hn : S.Sound n
    · obtain ⟨xs, hxs⟩ := sound_iff_expands.1 hn
      exact ⟨xs, fun _ => hxs⟩
    · exact ⟨[], fun h => absurd h hn⟩
  choose E hE using h
  exact ⟨E, hE⟩

end Source

namespace Registry

variable {r r' : Registry} {e d : Definition} {E : Name → List String}

/-- In a well-formed registry every flow resolves, through a fresh resolver, to its flattening
with repeats dropped. -/
theorem Invariant.resolve_registered (h : r.Invariant) (he : e ∈ r.defs) :
    ∃ xs, r.source.Expands [e.name] xs ∧
      ((Resolver.new r.source).resolve r.source e.name).2 = .ok ⟨e.name, xs.eraseDups⟩ := by
  obtain ⟨xs, hxs⟩ := Source.sound_iff_expands.1 (h.sound he)
  refine ⟨xs, hxs, ?_⟩
  rw [Resolver.resolve_eq_search h.valid_source.keyed (h.valid e he)
    (Resolver.tracks_new _).current, search_eq_of_expands hxs Source.Path.nil]
  rfl

/-- The flattening of a registered flow: the flattenings of its requirements, then its passes. -/
theorem Invariant.expands_eq (h : r.Invariant) (he : e ∈ r.defs)
    (hE : ∀ n, r.source.Sound n → r.source.Expands [n] (E n)) {xs : List String}
    (hxs : r.source.Expands [e.name] xs) : xs = e.requires.flatMap E ++ e.passes := by
  obtain ⟨e', ys, he', hys, rfl⟩ := Source.expands_singleton_iff.1 hxs
  obtain rfl : e' = e := Option.some.inj (he'.symm.trans (h.find?_name he))
  rw [hys.eq_flatMap fun n hn => hE n ((h.sound he).requires he' hn)]

/-- A registered flow's plan is its chosen flattening with repeats dropped. -/
theorem Invariant.resolve_eq (h : r.Invariant) (he : e ∈ r.defs)
    (hE : ∀ n, r.source.Sound n → r.source.Expands [n] (E n)) :
    ((Resolver.new r.source).resolve r.source e.name).2 = .ok ⟨e.name, (E e.name).eraseDups⟩ := by
  obtain ⟨xs, hxs, hres⟩ := h.resolve_registered he
  rw [hres, hxs.unique (hE _ (h.sound he))]

/-- A valid name qualifies, when it does, to its normal form: the backend trimmed and
lower-cased, the flow trimmed. -/
theorem qualify_of_valid {n m : Name} (hv : n.validate = .ok ())
    (hq : qualify n.flow n.backend = .ok m) : m = ⟨normalizeBackend n.backend, Text.trim n.flow⟩ := by
  obtain ⟨backend, flow⟩ := n
  have hflow := Name.valid_iff.1 hv
  unfold qualify at hq
  split_ifs at hq with htrim
  all_goals
    obtain ⟨m', hm', hm⟩ := Except.bind_eq_ok.1 hq
    -- the name built is returned once it validates
    obtain rfl : m' = m := by
      dsimp only at hm
      split at hm
      · exact Except.ok.inj hm
      · cases hm
  · -- a global name: the trimmed flow has no colon to split at
    have hspan : (Text.trim flow).toList.span (· ≠ ':') = ((Text.trim flow).toList, []) := by
      rw [List.span_eq_takeWhile_dropWhile, List.takeWhile_eq_self_iff.2, List.dropWhile_eq_nil_iff.2]
      all_goals exact fun c hc => decide_eq_true fun hcolon =>
        hflow.2.1 ((Text.trim_infix_self flow).subset (hcolon ▸ hc))
    have hp := Except.mapError_eq_ok.1 hm'
    unfold Name.parse at hp
    dsimp only at hp
    split_ifs at hp
    rw [hspan] at hp
    have hb : normalizeBackend backend = "" := by
      rw [normalizeBackend, htrim]
      rfl
    rw [← Except.ok.inj hp, hb]
  · exact (Except.ok.inj hm').symm

/-- A valid name that no flow of a well-formed registry carries resolves, through a fresh
resolver, to not found with no referrer. -/
theorem Invariant.resolve_unregistered (h : r.Invariant) {n : Name} (hn : n.validate = .ok ())
    (hget : r.source.get? n = none) :
    ((Resolver.new r.source).resolve r.source n).2 = .error (.notFound n Name.zero) := by
  rw [Resolver.resolve_eq_search h.valid_source.keyed hn (Resolver.tracks_new _).current,
    search_succ, if_neg List.not_mem_nil, hget]
  rfl

end Registry

/-- Deriving from a base, with no pass options, after any registry calls: the target is
registered under the name its parts qualify to, its normal form, so under its own name when
written in normal form, while a target written otherwise does not resolve as written; the
registered target's plan through a fresh resolver holds exactly the passes of the base's plan and
of every prerequisite's plan, all of which resolve; and when no prerequisite's plan shares a pass
with the base's plan, the target's plan with every pass outside the base's plan removed is the
base's plan. -/
theorem derive_extends_plan (cs : List Registry.Call) (base target : Name) (ins : List Insertion)
    (d : Definition) (r' : Registry)
    (h : (({} : Registry).run cs).deriveWith base target ins [] = .ok (d, r')) :
    let plan := fun n => ((Resolver.new r'.source).resolve r'.source n).2
    Registry.qualify target.flow target.backend = .ok d.name ∧
    d.name = ⟨normalizeBackend target.backend, Text.trim target.flow⟩ ∧
    (normalizeBackend target.backend = target.backend → Text.trim target.flow = target.flow →
      d.name = target) ∧
    (¬(normalizeBackend target.backend = target.backend ∧ Text.trim target.flow = target.flow) →
      plan target = .error (.notFound target Name.zero)) ∧
    ∃ pt pb, plan d.name = .ok pt ∧ plan base = .ok pb ∧
      (∀ i ∈ ins, ∃ pi, plan i.prerequisite = .ok pi) ∧
      (∀ x, x ∈ pt.passes ↔
        x ∈ pb.passes ∨ ∃ i ∈ ins, ∃ pi, plan i.prerequisite = .ok pi ∧ x ∈ pi.passes) ∧
      ((∀ i ∈ ins, ∀ pi, plan i.prerequisite = .ok pi → ∀ x ∈ pi.passes, x ∉ pb.passes) →
        pt.passes.filter (· ∈ pb.passes) = pb.passes) := by
  intro plan
  have hinv : (({} : Registry).run cs).Invariant := (Registry.Invariant.of_nil rfl).run cs
  obtain ⟨h', hdmem, hv, hq, ⟨b, hbmem, rfl, hpass, hsp⟩, hpre⟩ := hinv.derived h
  obtain ⟨E, hE⟩ := Source.exists_flattening r'.source
  have hplan : ∀ e ∈ r'.defs, plan e.name = .ok ⟨e.name, (E e.name).eraseDups⟩ :=
    fun e he => h'.resolve_eq he hE
  have hpi : ∀ i ∈ ins, ∀ pi,
      plan i.prerequisite = .ok pi ↔ pi = ⟨i.prerequisite, (E i.prerequisite).eraseDups⟩ :=
    fun i hi pi => by
      obtain ⟨e, he, hname⟩ := hpre i hi
      rw [← hname, hplan e he, Except.ok.injEq, eq_comm]
  -- the target's and the base's flattenings: their requirements' flattenings, then the same passes
  have hEt : E d.name = d.requires.flatMap E ++ b.passes := by
    rw [h'.expands_eq hdmem hE (hE _ (h'.sound hdmem)), hpass]
    rfl
  have hEb : E b.name = b.requires.flatMap E ++ b.passes :=
    h'.expands_eq hbmem hE (hE _ (h'.sound hbmem))
  have hname := Registry.qualify_of_valid hv hq
  have hself : normalizeBackend target.backend = target.backend →
      Text.trim target.flow = target.flow → d.name = target := fun hnb hnf => by
    rw [hname, hnb, hnf]
  refine ⟨hq, hname, hself, fun hout => ?_, ⟨d.name, (E d.name).eraseDups⟩,
    ⟨b.name, (E b.name).eraseDups⟩, hplan d hdmem, hplan b hbmem,
    fun i hi => ⟨_, (hpi i hi _).2 rfl⟩, fun x => ?_, fun hdis => ?_⟩
  · -- every registered name is in normal form, so none is the target as written
    refine h'.resolve_unregistered hv (List.find?_eq_none.2 fun e he hfound => hout ?_)
    rw [← of_decide_eq_true hfound]
    exact h'.normal e he
  · have hprereq : (∃ i ∈ ins, ∃ pi, plan i.prerequisite = .ok pi ∧ x ∈ pi.passes) ↔
        ∃ i ∈ ins, x ∈ E i.prerequisite := by
      refine exists_congr fun i => and_congr_right fun hi => ?_
      simp [hpi i hi, List.mem_eraseDups]
    show x ∈ (E d.name).eraseDups ↔ x ∈ (E b.name).eraseDups ∨ _
    rw [hprereq, List.mem_eraseDups, List.mem_eraseDups, hEt, hEb, List.mem_append,
      List.mem_append, hsp.mem_flatMap]
    exact or_right_comm
  · have hdis' : ∀ i ∈ ins, ∀ x ∈ E i.prerequisite, x ∉ b.requires.flatMap E ++ b.passes :=
      fun i hi x hx hmem => hdis i hi _ ((hpi i hi _).2 rfl) x (List.mem_eraseDups.2 hx)
        (by rw [hEb]; exact List.mem_eraseDups.2 hmem)
    dsimp only
    rw [hEt, hEb]
    exact hsp.plan_filter b.passes hdis'

/-- Flows where a prerequisite brings a pass of the base's plan: `r` has `x` then `y`, `base`
has `z` and requires `r`, and `pre` has `y`. -/
def reorderCalls : List Registry.Call :=
  [.register "r" ["x", "y"] [] "", .register "base" ["z"] [⟨"", "r"⟩] "",
    .register "pre" ["y"] [] ""]

/-- The registry once `child` is derived from `base` with `pre` before `r`. -/
def reorderDerived : Registry where
  defs := [⟨⟨"", "r"⟩, ["x", "y"], []⟩, ⟨⟨"", "base"⟩, ["z"], [⟨"", "r"⟩]⟩,
    ⟨⟨"", "pre"⟩, ["y"], []⟩, ⟨⟨"", "child"⟩, ["z"], [⟨"", "pre"⟩, ⟨"", "r"⟩]⟩]

/-- Splicing `pre` before `r` moves `y` before `x`: the base's passes keep their set in the
child's plan but not their order. -/
theorem derive_extends_plan_reorder :
    (({} : Registry).run reorderCalls).deriveWith ⟨"", "base"⟩ ⟨"", "child"⟩
        [⟨⟨"", "r"⟩, ⟨"", "pre"⟩, .before⟩] [] =
      .ok (⟨⟨"", "child"⟩, ["z"], [⟨"", "pre"⟩, ⟨"", "r"⟩]⟩, reorderDerived) ∧
    (let plan := fun n => ((Resolver.new reorderDerived.source).resolve reorderDerived.source n).2
    Registry.qualify "child" "" = .ok ⟨"", "child"⟩ ∧
    (⟨"", "child"⟩ : Name) = ⟨normalizeBackend "", Text.trim "child"⟩ ∧
    (normalizeBackend "" = "" → Text.trim "child" = "child" →
      (⟨"", "child"⟩ : Name) = ⟨"", "child"⟩) ∧
    (¬(normalizeBackend "" = "" ∧ Text.trim "child" = "child") →
      plan ⟨"", "child"⟩ = .error (.notFound ⟨"", "child"⟩ Name.zero)) ∧
    ∃ pt pb, plan ⟨"", "child"⟩ = .ok pt ∧ plan ⟨"", "base"⟩ = .ok pb ∧
      (∀ i ∈ [(⟨⟨"", "r"⟩, ⟨"", "pre"⟩, .before⟩ : Insertion)], ∃ pi, plan i.prerequisite = .ok pi) ∧
      (∀ x, x ∈ pt.passes ↔ x ∈ pb.passes ∨
        ∃ i ∈ [(⟨⟨"", "r"⟩, ⟨"", "pre"⟩, .before⟩ : Insertion)], ∃ pi,
          plan i.prerequisite = .ok pi ∧ x ∈ pi.passes) ∧
      ((∀ i ∈ [(⟨⟨"", "r"⟩, ⟨"", "pre"⟩, .before⟩ : Insertion)], ∀ pi,
          plan i.prerequisite = .ok pi → ∀ x ∈ pi.passes, x ∉ pb.passes) →
        pt.passes.filter (· ∈ pb.passes) = pb.passes)) ∧
    ((Resolver.new reorderDerived.source).resolve reorderDerived.source ⟨"", "child"⟩).2 =
      .ok ⟨⟨"", "child"⟩, ["y", "x", "z"]⟩ ∧
    ((Resolver.new reorderDerived.source).resolve reorderDerived.source ⟨"", "base"⟩).2 =
      .ok ⟨⟨"", "base"⟩, ["x", "y", "z"]⟩ :=
  have h : (({} : Registry).run reorderCalls).deriveWith ⟨"", "base"⟩ ⟨"", "child"⟩
      [⟨⟨"", "r"⟩, ⟨"", "pre"⟩, .before⟩] [] =
      .ok (⟨⟨"", "child"⟩, ["z"], [⟨"", "pre"⟩, ⟨"", "r"⟩]⟩, reorderDerived) := by
    with_unfolding_all rfl
  ⟨h, derive_extends_plan reorderCalls ⟨"", "base"⟩ ⟨"", "child"⟩
      [⟨⟨"", "r"⟩, ⟨"", "pre"⟩, .before⟩] ⟨⟨"", "child"⟩, ["z"], [⟨"", "pre"⟩, ⟨"", "r"⟩]⟩
      reorderDerived h,
    by with_unfolding_all rfl, by with_unfolding_all rfl⟩

/-- A target written with a blank before its flow is registered trimmed, and resolving it as
written finds nothing. -/
theorem derive_padded_target_unresolved :
    ∃ d r', (({} : Registry).run [.register "b" ["p"] [] ""]).deriveWith ⟨"", "b"⟩ ⟨"", " x"⟩
        [] [] = .ok (d, r') ∧ d.name = ⟨"", "x"⟩ ∧
      ((Resolver.new r'.source).resolve r'.source ⟨"", " x"⟩).2 =
        .error (.notFound ⟨"", " x"⟩ Name.zero) :=
  ⟨⟨⟨"", "x"⟩, ["p"], []⟩, { defs := [⟨⟨"", "b"⟩, ["p"], []⟩, ⟨⟨"", "x"⟩, ["p"], []⟩] },
    by with_unfolding_all rfl, rfl, by with_unfolding_all rfl⟩

end PassPlan.Flow
