import PassPlan.Flow.Resolver
import Mathlib.Logic.Relation
import Mathlib.Data.List.Nodup
import Mathlib.Data.List.Perm.Subperm
/-!
The naive flattening of a flow, and the walk that computes it with no memo at all. A flow expands
to the expansions of its requirements, in order, followed by its own passes; a plan keeps each
pass at its first place only. The walk succeeds exactly on the flows whose reachable part is
defined and free of requirement cycles, and then yields the flattening with repeats dropped.
-/
namespace PassPlan.Flow

section Dedup

variable {α : Type} [BEq α] [LawfulBEq α]

theorem nodup_eraseDups : ∀ l : List α, l.eraseDups.Nodup
  | [] => List.nodup_nil
  | a :: as => by
    have : (as.filter fun b => !b == a).length < as.length + 1 :=
      Nat.lt_add_one_of_le (List.length_filter_le _ as)
    rw [List.eraseDups_cons]
    refine List.nodup_cons.2 ⟨?_, nodup_eraseDups _⟩
    simp
termination_by l => l.length

theorem eraseDups_of_nodup {l : List α} (h : l.Nodup) : l.eraseDups = l := by
  induction l with
  | nil => rfl
  | cons a as ih =>
    obtain ⟨ha, has⟩ := List.nodup_cons.1 h
    have hf : (as.filter fun b => !b == a) = as := by
      refine List.filter_eq_self.2 fun b hb => ?_
      simp only [Bool.not_eq_true', beq_eq_false_iff_ne, ne_eq]
      rintro rfl
      exact ha hb
    rw [List.eraseDups_cons, hf, ih has]

/-- Dropping repeats and keeping the elements a test accepts can be done in either order. -/
theorem eraseDups_filter (q : α → Bool) : ∀ l : List α, (l.filter q).eraseDups = l.eraseDups.filter q
  | [] => rfl
  | a :: as => by
    have : (as.filter fun b => !b == a).length < as.length + 1 :=
      Nat.lt_add_one_of_le (List.length_filter_le _ as)
    have ih := eraseDups_filter q (as.filter fun b => !b == a)
    rw [List.eraseDups_cons, List.filter_cons, List.filter_cons]
    by_cases hq : q a
    · simp only [hq, if_true, List.eraseDups_cons, ← ih, List.filter_filter, Bool.and_comm]
    · have hsame : ((as.filter fun b => !b == a).filter q) = as.filter q := by
        rw [List.filter_filter]
        apply List.filter_congr
        intro b _
        by_cases hb : b = a <;> simp [hb, hq]
      simp only [hq, Bool.false_eq_true, if_false, ← ih, hsame]
termination_by l => l.length

theorem removeAll_congr {xs ys zs : List α} (h : ∀ x, x ∈ ys ↔ x ∈ zs) :
    xs.removeAll ys = xs.removeAll zs := by
  simp only [List.removeAll, List.elem_eq_mem, h]

theorem removeAll_append_singleton (xs ys : List α) (p : α) :
    xs.removeAll (ys ++ [p]) = (xs.removeAll ys).filter fun x => !x == p := by
  simp only [List.removeAll, List.filter_filter]
  apply List.filter_congr
  intro x _
  by_cases h : x = p <;> simp [h]

/-- Repeats dropped in a part are dropped again in the whole: dedup-first is insensitive to
deduplicating a prefix. -/
theorem eraseDups_eraseDups_append (a b : List α) :
    (a.eraseDups ++ b).eraseDups = (a ++ b).eraseDups := by
  rw [List.eraseDups_append, List.eraseDups_append, eraseDups_of_nodup (nodup_eraseDups a),
    removeAll_congr fun x => List.mem_eraseDups]

/-- The same insensitivity for a suffix. -/
theorem eraseDups_append_eraseDups (a b : List α) :
    (a ++ b.eraseDups).eraseDups = (a ++ b).eraseDups := by
  rw [List.eraseDups_append, List.eraseDups_append, List.removeAll, eraseDups_filter,
    eraseDups_of_nodup (nodup_eraseDups _), ← eraseDups_filter]
  rfl

end Dedup

/-- Appending the passes not yet present is the part of the list that dedup-first keeps. -/
theorem addFresh_eq (acc ps : List String) :
    addFresh acc ps = acc ++ (ps.removeAll acc).eraseDups := by
  induction ps generalizing acc with
  | nil => simp [addFresh]
  | cons p ps ih =>
    change addFresh (if p ∈ acc then acc else acc ++ [p]) ps = _
    rw [ih]
    split
    · next hp => simp [List.cons_removeAll, hp]
    · next hp => simp [List.cons_removeAll, hp, List.eraseDups_cons, removeAll_append_singleton]

/-- On a list that is itself a dedup-first result, appending the fresh passes is dedup-first of the
concatenation. -/
@[simp] theorem addFresh_eraseDups (a b : List String) :
    addFresh a.eraseDups b = (a ++ b).eraseDups := by
  rw [addFresh_eq, List.eraseDups_append, removeAll_congr fun x => List.mem_eraseDups]

namespace Source

/-- `b` is one of the requirements of the definition of `a`. -/
def Requires (S : Source) (a b : Name) : Prop := ∃ d, S.get? a = some d ∧ b ∈ d.requires

/-- Every flow reachable from `n` along requirements, `n` itself included, is defined and lies on
no requirement cycle. -/
def Sound (S : Source) (n : Name) : Prop :=
  ∀ m, Relation.ReflTransGen S.Requires n m →
    (S.get? m).isSome ∧ ¬ Relation.TransGen S.Requires m m

/-- The naive flattening of a list of flows: for each flow in turn, the flattening of its
requirements followed by its own passes, repeats kept. -/
inductive Expands (S : Source) : List Name → List String → Prop
  | nil : Expands S [] []
  | cons {n : Name} {d : Definition} {rest : List Name} {xs ys : List String} :
      S.get? n = some d → Expands S d.requires xs → Expands S rest ys →
      Expands S (n :: rest) (xs ++ d.passes ++ ys)

variable {S : Source} {n m : Name} {d : Definition}

theorem get?_spec (h : S.get? n = some d) : d ∈ S.defs ∧ d.name = n :=
  ⟨List.mem_of_find?_eq_some h, by simpa using List.find?_some h⟩

/-- Distinct defined flows are at most as many as the definitions. -/
theorem length_le_of_defined {l : List Name} (hnd : l.Nodup) (hdef : ∀ s ∈ l, (S.get? s).isSome) :
    l.length ≤ S.defs.length := by
  have hsub : l ⊆ S.defs.map (·.name) := by
    intro s hs
    obtain ⟨d, hd⟩ := Option.isSome_iff_exists.1 (hdef s hs)
    obtain ⟨hmem, rfl⟩ := get?_spec hd
    exact List.mem_map_of_mem hmem
  simpa using (List.Nodup.subperm hnd hsub).length_le

theorem Sound.isSome (h : S.Sound n) : (S.get? n).isSome :=
  (h n .refl).1

theorem Sound.acyclic (h : S.Sound n) : ¬ Relation.TransGen S.Requires n n :=
  (h n .refl).2

theorem Sound.reach (h : S.Sound n) (hm : Relation.ReflTransGen S.Requires n m) : S.Sound m :=
  fun k hk => h k (hm.trans hk)

theorem Sound.requires (h : S.Sound n) (hd : S.get? n = some d) {r : Name}
    (hr : r ∈ d.requires) : S.Sound r :=
  h.reach (.single ⟨d, hd, hr⟩)

/-- A defined flow whose requirements are all sound is sound: a cycle through it would run
through one of them. -/
theorem sound_of_requires (hd : S.get? n = some d) (h : ∀ r ∈ d.requires, S.Sound r) :
    S.Sound n := by
  intro k hk
  rcases Relation.ReflTransGen.cases_head hk with rfl | ⟨r, ⟨d', hd', hr⟩, hrk⟩
  · refine ⟨by simp [hd], fun hcyc => ?_⟩
    obtain ⟨r, ⟨d', hd', hr⟩, hrk⟩ := Relation.TransGen.head'_iff.1 hcyc
    obtain rfl : d' = d := Option.some.inj (hd'.symm.trans hd)
    exact (h r hr r .refl).2 (Relation.TransGen.tail' hrk ⟨d', hd', hr⟩)
  · obtain rfl : d' = d := Option.some.inj (hd'.symm.trans hd)
    exact h r hr k hrk

theorem Expands.unique {ns : List Name} {xs ys : List String} (hx : S.Expands ns xs)
    (hy : S.Expands ns ys) : xs = ys := by
  induction hx generalizing ys with
  | nil => cases hy; rfl
  | cons hd _ _ ihr ihrest =>
    cases hy with
    | cons hd' hr hrest =>
      obtain rfl := Option.some.inj (hd'.symm.trans hd)
      rw [ihr hr, ihrest hrest]

theorem Expands.sound {ns : List Name} {xs : List String} (h : S.Expands ns xs) :
    ∀ n ∈ ns, S.Sound n := by
  induction h with
  | nil => simp
  | cons hd _ _ ihr ihrest =>
    intro k hk
    rcases List.mem_cons.1 hk with rfl | hk
    · exact sound_of_requires hd ihr
    · exact ihrest k hk

theorem expands_singleton_iff {xs : List String} :
    S.Expands [n] xs ↔ ∃ d ys, S.get? n = some d ∧ S.Expands d.requires ys ∧ xs = ys ++ d.passes := by
  constructor
  · rintro (_ | ⟨hd, hys, hnil⟩)
    cases hnil
    exact ⟨_, _, hd, hys, by simp⟩
  · rintro ⟨d, ys, hd, hys, rfl⟩
    simpa using Expands.cons hd hys .nil

theorem Expands.cons' {rest : List Name} {xs ys : List String} (hn : S.Expands [n] xs)
    (hrest : S.Expands rest ys) : S.Expands (n :: rest) (xs ++ ys) := by
  obtain ⟨d, zs, hd, hzs, rfl⟩ := expands_singleton_iff.1 hn
  exact Expands.cons hd hzs hrest

/-- Where a walk stands when it reaches `n`: the flows of the stack are defined and distinct,
each requires the next and the last requires `n`, and the fuel left is what the stack has not
used of one more than the number of definitions. -/
structure Path (S : Source) (fuel : Nat) (stack : List Name) (n : Name) : Prop where
  nodup : stack.Nodup
  defined : ∀ s ∈ stack, (S.get? s).isSome
  fuel_eq : fuel + stack.length = S.defs.length + 1
  reaches : ∀ s ∈ stack, Relation.TransGen S.Requires s n

theorem Path.nil : S.Path (S.defs.length + 1) [] n :=
  ⟨List.nodup_nil, by simp, rfl, by simp⟩

/-- Stepping from a defined flow, not yet on the stack, to one of its requirements. -/
theorem Path.push {fuel : Nat} {st : List Name} (h : S.Path (fuel + 1) st n) (hn : n ∉ st)
    (hd : S.get? n = some d) {r : Name} (hr : r ∈ d.requires) : S.Path fuel (st ++ [n]) r where
  nodup := h.nodup.append (List.nodup_singleton n) (List.disjoint_singleton.2 hn)
  defined s hs := by
    rcases List.mem_append.1 hs with hs | hs
    · exact h.defined s hs
    · simp_all
  fuel_eq := by have := h.fuel_eq; simp; omega
  reaches s hs := by
    rcases List.mem_append.1 hs with hs | hs
    · exact (h.reaches s hs).tail ⟨d, hd, hr⟩
    · obtain rfl := List.mem_singleton.1 hs
      exact .single ⟨d, hd, hr⟩

theorem Path.not_mem {fuel : Nat} {st : List Name} (h : S.Path fuel st n) (hs : S.Sound n) :
    n ∉ st :=
  fun hn => hs.acyclic (h.reaches n hn)

/-- A walk never runs dry before a flow it could still push. -/
theorem Path.fuel_pos {fuel : Nat} {st : List Name} (h : S.Path fuel st n) (hn : n ∉ st)
    (hdef : (S.get? n).isSome) : 0 < fuel := by
  have hle := length_le_of_defined (S := S) (l := n :: st) (List.nodup_cons.2 ⟨hn, h.nodup⟩)
    (by simpa [hdef] using h.defined)
  have := h.fuel_eq
  simp at hle
  omega

end Source

/-- Resolution with neither memo nor per-walk table: the walk of `visit` in which every flow is
walked again wherever it is required. -/
def search (src : Source) : Nat → List Name → Name → Name → Except Error (List String)
  | 0, stack, n, _ => .error (.cycle (cycleTo stack n))
  | fuel + 1, stack, n, referrer =>
    if n ∈ stack then .error (.cycle (cycleTo stack n))
    else match src.get? n with
      | none => .error (.notFound n referrer)
      | some d => do
        let below ← d.requires.foldlM
          (fun acc req => addFresh acc <$> search src fuel (stack ++ [n]) req n) []
        pure (addFresh below d.passes)

/-- One requirement of the walk below `parent`: its passes appended to those gathered so far. -/
def searchStep (src : Source) (fuel : Nat) (stack : List Name) (parent : Name)
    (acc : List String) (req : Name) : Except Error (List String) :=
  addFresh acc <$> search src fuel stack req parent

variable {S : Source} {fuel : Nat} {st : List Name} {n p : Name}

theorem search_succ : search S (fuel + 1) st n p =
    if n ∈ st then .error (.cycle (cycleTo st n))
    else match S.get? n with
      | none => .error (.notFound n p)
      | some d => (d.requires.foldlM (searchStep S fuel (st ++ [n]) n) []).map
          (addFresh · d.passes) := rfl

theorem searchStep_ok {acc ps : List String} {r : Name} (h : search S fuel st r p = .ok ps) :
    searchStep S fuel st p acc r = .ok (addFresh acc ps) := by
  simp [searchStep, h]

theorem foldlM_searchStep_sound
    (ih : ∀ {r ps}, search S fuel st r p = .ok ps → ∃ xs, S.Expands [r] xs ∧ ps = xs.eraseDups) :
    ∀ {reqs : List Name} {a out : List String},
      reqs.foldlM (searchStep S fuel st p) a.eraseDups = .ok out →
      ∃ ys, S.Expands reqs ys ∧ out = (a ++ ys).eraseDups
  | [], a, out, h => ⟨[], .nil, by cases h; simp⟩
  | r :: rest, a, out, h => by
    rw [List.foldlM_cons] at h
    cases hr : search S fuel st r p with
    | error e => simp [searchStep, hr] at h; cases h
    | ok ps =>
      obtain ⟨xs, hxs, rfl⟩ := ih hr
      rw [searchStep_ok hr, addFresh_eraseDups, eraseDups_append_eraseDups] at h
      obtain ⟨ys, hys, rfl⟩ := foldlM_searchStep_sound ih h
      exact ⟨xs ++ ys, hxs.cons' hys, by simp⟩

/-- Whatever the walk answers is the naive flattening with repeats dropped. -/
theorem search_sound : ∀ {fuel st n p ps}, search S fuel st n p = .ok ps →
    ∃ xs, S.Expands [n] xs ∧ ps = xs.eraseDups
  | 0, st, n, p, ps, h => by cases h
  | fuel + 1, st, n, p, ps, h => by
    rw [search_succ] at h
    split at h
    · cases h
    · split at h
      · cases h
      · next d hd =>
        cases hb : (d.requires.foldlM (searchStep S fuel (st ++ [n]) n) [])
        · rw [hb] at h; cases h
        · next below =>
          rw [hb] at h
          cases h
          obtain ⟨ys, hys, rfl⟩ := foldlM_searchStep_sound (a := []) search_sound hb
          exact ⟨ys ++ d.passes, Source.expands_singleton_iff.2 ⟨d, ys, hd, hys, rfl⟩, by simp⟩

theorem foldlM_searchStep_ok :
    ∀ {reqs : List Name}, (∀ r ∈ reqs, ∃ ps, search S fuel st r p = .ok ps) →
      ∀ acc, ∃ out, reqs.foldlM (searchStep S fuel st p) acc = .ok out
  | [], _, acc => ⟨acc, rfl⟩
  | r :: rest, h, acc => by
    obtain ⟨ps, hps⟩ := h r List.mem_cons_self
    rw [List.foldlM_cons, searchStep_ok hps]
    exact foldlM_searchStep_ok (fun r hr => h r (List.mem_cons_of_mem _ hr)) _

/-- From a sound flow, with fuel as a walk from the top leaves it, the walk succeeds. -/
theorem search_complete : ∀ {fuel st n p}, S.Sound n → S.Path fuel st n →
    ∃ ps, search S fuel st n p = .ok ps
  | fuel, st, n, p, hs, hp => by
    have hn := hp.not_mem hs
    have hpos := hp.fuel_pos hn hs.isSome
    obtain ⟨d, hd⟩ := Option.isSome_iff_exists.1 hs.isSome
    obtain ⟨k, rfl⟩ : ∃ k, fuel = k + 1 := ⟨fuel - 1, by omega⟩
    obtain ⟨below, hb⟩ : ∃ below, d.requires.foldlM (searchStep S k (st ++ [n]) n) [] = .ok below :=
      foldlM_searchStep_ok (fun r hr => search_complete (hs.requires hd hr) (hp.push hn hd hr)) []
    exact ⟨addFresh below d.passes, by rw [search_succ, if_neg hn, hd]; simp [hb]; rfl⟩
termination_by fuel => fuel
decreasing_by omega

/-- A flow with a flattening is walked to that flattening from any position a walk can reach it
in. -/
theorem search_eq_of_expands {xs : List String} (hx : S.Expands [n] xs) (hp : S.Path fuel st n) :
    search S fuel st n p = .ok xs.eraseDups := by
  obtain ⟨ps, hps⟩ := search_complete (p := p) (hx.sound n List.mem_cons_self) hp
  obtain ⟨ys, hys, rfl⟩ := search_sound hps
  rw [hps, hys.unique hx]

/-- A flow has a flattening exactly when its reachable part is defined and acyclic. -/
theorem Source.sound_iff_expands : S.Sound n ↔ ∃ xs, S.Expands [n] xs := by
  constructor
  · intro hs
    obtain ⟨ps, hps⟩ := search_complete (p := n) hs (Source.Path.nil (S := S))
    obtain ⟨xs, hxs, -⟩ := search_sound hps
    exact ⟨xs, hxs⟩
  · rintro ⟨xs, hxs⟩
    exact hxs.sound n List.mem_cons_self

end PassPlan.Flow
