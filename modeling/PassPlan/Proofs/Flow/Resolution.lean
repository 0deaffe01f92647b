import PassPlan.Proofs.Flow.Memo
/-!
Resolution computes the naive flattening. For a source whose names have distinct texts, and a
resolver whose memo was filled only by earlier calls on that source, resolving a flow succeeds
exactly when the part of the source reachable from it is defined and acyclic, and its plan is
then the flattening with every pass kept at its first place: no pass twice, every pass of every
reachable flow, and the passes the requirements bring before the flow's own.
-/
namespace PassPlan.Flow

/-- A call on a resolver over a source that does not change. -/
inductive Query where
  | resolve (n : Name)
  | explain (n : Name)
deriving Repr

namespace Resolver

/-- The resolver after answering a call. -/
def answer (r : Resolver) (S : Source) : Query → Resolver
  | .resolve n => (r.resolve S n).1
  | .explain n => (r.explain S n).1

/-- The resolver after answering calls in turn. -/
def answerAll (r : Resolver) (S : Source) (qs : List Query) : Resolver :=
  qs.foldl (fun r q => r.answer S q) r

variable {S : Source} {K : Name → Prop} {r : Resolver}

theorem answer_current (hK : S.Keyed K) (h : r.Current S) (q : Query) : (r.answer S q).Current S := by
  cases q with
  | resolve n => exact resolve_current hK h
  | explain n => rw [answer, explain_fst]; exact resolve_current hK h

/-- Calls on one source keep the memo current for it. -/
theorem answerAll_current (hK : S.Keyed K) :
    ∀ (qs : List Query) {r : Resolver}, r.Current S → (r.answerAll S qs).Current S
  | [], _, h => h
  | q :: qs, _, h => answerAll_current hK qs (answer_current hK h q)

end Resolver

section Plan

variable {S : Source} {n m : Name} {d : Definition}

theorem reach_iff_of_get? (hd : S.get? n = some d) :
    Relation.ReflTransGen S.Requires n m ↔ m = n ∨ ∃ r ∈ d.requires, Relation.ReflTransGen S.Requires r m := by
  rw [Relation.ReflTransGen.cases_head_iff]
  constructor
  · rintro (rfl | ⟨r, ⟨d', hd', hr⟩, hrm⟩)
    · exact .inl rfl
    · obtain rfl := Option.some.inj (hd'.symm.trans hd)
      exact .inr ⟨r, hr, hrm⟩
  · rintro (rfl | ⟨r, hr, hrm⟩)
    · exact .inl rfl
    · exact .inr ⟨r, ⟨d, hd, hr⟩, hrm⟩

/-- A pass occurs in the flattening of a list exactly when it is a pass of a flow reachable from
one of the list. -/
theorem Source.Expands.mem_iff {ns : List Name} {xs : List String} (h : S.Expands ns xs) (x : String) :
    x ∈ xs ↔ ∃ n ∈ ns, ∃ m d, Relation.ReflTransGen S.Requires n m ∧ S.get? m = some d ∧ x ∈ d.passes := by
  induction h with
  | nil => simp
  | @cons n d rest xs ys hd _ _ ihreq ihrest =>
    have hown : (∃ m d', Relation.ReflTransGen S.Requires n m ∧ S.get? m = some d' ∧ x ∈ d'.passes) ↔
        x ∈ d.passes ∨ ∃ r ∈ d.requires, ∃ m d', Relation.ReflTransGen S.Requires r m ∧
          S.get? m = some d' ∧ x ∈ d'.passes := by
      constructor
      · rintro ⟨m, d', hnm, hm, hx⟩
        rcases (reach_iff_of_get? hd).1 hnm with rfl | ⟨r, hr, hrm⟩
        · obtain rfl := Option.some.inj (hm.symm.trans hd)
          exact .inl hx
        · exact .inr ⟨r, hr, m, d', hrm, hm, hx⟩
      · rintro (hx | ⟨r, hr, m, d', hrm, hm, hx⟩)
        · exact ⟨n, d, .refl, hd, hx⟩
        · exact ⟨m, d', (reach_iff_of_get? hd).2 (.inr ⟨r, hr, hrm⟩), hm, hx⟩
    simp only [List.mem_append, ihreq, ihrest, List.mem_cons, exists_eq_or_imp, hown]
    exact or_congr_left or_comm

/-- What a plan built from a flattening holds: no pass twice, the passes of every reachable flow,
and the passes the requirements bring, in their own order, before the flow's new ones. -/
theorem plan_of_expands {xs : List String} (hx : S.Expands [n] xs) :
    xs.eraseDups.Nodup ∧
    (∀ x, x ∈ xs.eraseDups ↔
      ∃ m d, Relation.ReflTransGen S.Requires n m ∧ S.get? m = some d ∧ x ∈ d.passes) ∧
    ∀ d, S.get? n = some d → ∃ ys, S.Expands d.requires ys ∧
      xs.eraseDups = ys.eraseDups ++ (d.passes.removeAll ys).eraseDups := by
  refine ⟨nodup_eraseDups xs, fun x => ?_, fun d hd => ?_⟩
  · rw [List.mem_eraseDups, hx.mem_iff]
    simp
  · obtain ⟨d', ys, hd', hys, rfl⟩ := Source.expands_singleton_iff.1 hx
    obtain rfl := Option.some.inj (hd'.symm.trans hd)
    exact ⟨ys, hys, List.eraseDups_append⟩

end Plan

/-- Resolution is the naive flattening with repeats dropped: on a source whose names (and the
name asked for) have distinct texts, after any earlier calls on that source from an empty memo,
resolving `n` succeeds exactly when everything reachable from `n` is defined and acyclic, and
its plan is `n` with the flattening of `n`, every pass at its first place; such a plan repeats
no pass, holds exactly the passes of the flows reachable from `n`, and puts the passes the
requirements bring before the passes `n` adds. -/
theorem resolve_eq_flattening (S : Source) (n : Name) (g : Nat) (earlier : List Query)
    (hdistinct : ∀ a ∈ n :: S.names, ∀ b ∈ n :: S.names, a.text = b.text → a = b) :
    let r := Resolver.answerAll { generation := g } S earlier
    ((∃ p, (r.resolve S n).2 = .ok p) ↔ S.Sound n) ∧
    (∀ p, (r.resolve S n).2 = .ok p ↔ ∃ xs, S.Expands [n] xs ∧ p = ⟨n, xs.eraseDups⟩) ∧
    ∀ p, (r.resolve S n).2 = .ok p →
      p.passes.Nodup ∧
      (∀ x, x ∈ p.passes ↔
        ∃ m d, Relation.ReflTransGen S.Requires n m ∧ S.get? m = some d ∧ x ∈ d.passes) ∧
      ∀ d, S.get? n = some d → ∃ ys, S.Expands d.requires ys ∧
        p.passes = ys.eraseDups ++ (d.passes.removeAll ys).eraseDups := by
  intro r
  have hK : S.Keyed (· ∈ n :: S.names) :=
    ⟨fun a b ha hb => hdistinct a ha b hb,
      fun d hd => List.mem_cons_of_mem _ (List.mem_flatMap.2 ⟨d, hd, List.mem_cons_self⟩),
      fun d hd _ hr => List.mem_cons_of_mem _ (List.mem_flatMap.2 ⟨d, hd, List.mem_cons_of_mem _ hr⟩)⟩
  have hcur : r.Current S :=
    Resolver.answerAll_current hK earlier (Resolver.current_of_sound Memo.sound_empty)
  have hres := Resolver.resolve_eq_search hK List.mem_cons_self hcur
  have hok : ∀ p, (r.resolve S n).2 = .ok p ↔ ∃ xs, S.Expands [n] xs ∧ p = ⟨n, xs.eraseDups⟩ := by
    intro p
    rw [hres]
    constructor
    · intro h
      cases hs : search S (S.defs.length + 1) [] n Name.zero with
      | error e => rw [hs] at h; cases h
      | ok ps =>
        rw [hs] at h
        cases h
        obtain ⟨xs, hxs, rfl⟩ := search_sound hs
        exact ⟨xs, hxs, rfl⟩
    · rintro ⟨xs, hxs, rfl⟩
      rw [search_eq_of_expands hxs Source.Path.nil]
      rfl
  refine ⟨?_, hok, ?_⟩
  · rw [Source.sound_iff_expands]
    constructor
    · rintro ⟨p, hp⟩
      obtain ⟨xs, hxs, -⟩ := (hok p).1 hp
      exact ⟨xs, hxs⟩
    · rintro ⟨xs, hxs⟩
      exact ⟨_, (hok _).2 ⟨xs, hxs, rfl⟩⟩
  · intro p hp
    obtain ⟨xs, hxs, rfl⟩ := (hok p).1 hp
    exact plan_of_expands hxs

/-- Two branches over a shared flow, with passes repeated across flows. -/
def diamond : Source where
  defs := [⟨⟨"b", "common"⟩, ["c1", "c2"], []⟩,
    ⟨⟨"b", "left"⟩, ["l1", "c2"], [⟨"b", "common"⟩]⟩,
    ⟨⟨"b", "right"⟩, ["r1", "l1"], [⟨"b", "common"⟩]⟩,
    ⟨⟨"b", "top"⟩, ["t1", "c1"], [⟨"b", "left"⟩, ⟨"b", "right"⟩]⟩]

theorem resolve_eq_flattening_diamond :
    (∀ a ∈ (⟨"b", "top"⟩ : Name) :: diamond.names, ∀ b ∈ (⟨"b", "top"⟩ : Name) :: diamond.names,
      a.text = b.text → a = b) ∧
    let r := Resolver.answerAll { generation := 0 } diamond
      [.resolve ⟨"b", "left"⟩, .explain ⟨"b", "right"⟩]
    ((∃ p, (r.resolve diamond ⟨"b", "top"⟩).2 = .ok p) ↔ diamond.Sound ⟨"b", "top"⟩) ∧
    (∀ p, (r.resolve diamond ⟨"b", "top"⟩).2 = .ok p ↔
      ∃ xs, diamond.Expands [⟨"b", "top"⟩] xs ∧ p = ⟨⟨"b", "top"⟩, xs.eraseDups⟩) ∧
    ∀ p, (r.resolve diamond ⟨"b", "top"⟩).2 = .ok p →
      p.passes.Nodup ∧
      (∀ x, x ∈ p.passes ↔ ∃ m d, Relation.ReflTransGen diamond.Requires ⟨"b", "top"⟩ m ∧
        diamond.get? m = some d ∧ x ∈ d.passes) ∧
      ∀ d, diamond.get? ⟨"b", "top"⟩ = some d → ∃ ys, diamond.Expands d.requires ys ∧
        p.passes = ys.eraseDups ++ (d.passes.removeAll ys).eraseDups :=
  ⟨by decide, resolve_eq_flattening diamond ⟨"b", "top"⟩ 0 _ (by decide)⟩

end PassPlan.Flow
