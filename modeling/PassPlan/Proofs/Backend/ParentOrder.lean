import PassPlan.Backend.Registry
import PassPlan.Proofs.Flow.Registry
/-!
Ordering backends parents first. The walk visits every registered name in name order; a visit
climbs to the parent first, standing on a path of the names it came through, and appends the
backend once its parent is out. The path holds distinct registered names, so it never grows
past the number of backends and the fuel never runs out; a walk that succeeds therefore lists
every backend once, each after its parent.
-/
namespace PassPlan.Backend

/-- Every element whose parent is set comes after one keyed by that parent. -/
def ParentsFirst {α : Type} (key parent : α → String) (l : List α) : Prop :=
  ∀ pre a post, l = pre ++ a :: post → parent a = "" ∨ ∃ p ∈ pre, key p = parent a

section ParentsFirst

variable {α β : Type} {key parent : α → String} {l : List α} {a : α}

theorem parentsFirst_nil : ParentsFirst key parent [] := by
  intro pre a post h
  simp at h

theorem ParentsFirst.snoc (h : ParentsFirst key parent l)
    (ha : parent a = "" ∨ ∃ p ∈ l, key p = parent a) : ParentsFirst key parent (l ++ [a]) := by
  intro pre x post hx
  rcases List.eq_nil_or_concat post with rfl | ⟨post, z, rfl⟩
  · -- the last element is the one appended
    obtain ⟨rfl, hxa⟩ := List.append_inj' hx rfl
    obtain rfl : a = x := by simpa using hxa
    exact ha
  · have hx' : l ++ [a] = (pre ++ x :: post) ++ [z] := by simpa using hx
    exact h pre x post (List.append_inj' hx' rfl).1

theorem ParentsFirst.map {key' parent' : β → String} {g : α → β} (h : ParentsFirst key parent l)
    (hkey : ∀ a ∈ l, key' (g a) = key a) (hparent : ∀ a ∈ l, parent' (g a) = parent a) :
    ParentsFirst key' parent' (l.map g) := by
  intro pre y post hy
  obtain ⟨pre₀, rest, rfl, rfl, hrest⟩ := List.map_eq_append_iff.1 hy
  obtain ⟨a, post₀, rfl, rfl, rfl⟩ := List.map_eq_cons_iff.1 hrest
  have ha : a ∈ pre₀ ++ a :: post₀ := by simp
  rw [hparent a ha]
  rcases h pre₀ a post₀ rfl with hnone | ⟨p, hp, hkp⟩
  · exact .inl hnone
  · refine .inr ⟨g p, List.mem_map_of_mem hp, ?_⟩
    rw [hkey p (by simp [hp]), hkp]

end ParentsFirst

/-- A state of the walk over the backends `bs`: the finished names are those of the output,
each once, and the output holds backends of `bs`, each after its parent. -/
structure Ordering.Sound (bs : List Backend) (o : Ordering) : Prop where
  done : o.done = o.out.map (·.name)
  nodup : (o.out.map (·.name)).Nodup
  sub : ∀ b ∈ o.out, b ∈ bs
  parents : ParentsFirst (·.name) (·.parent) o.out

namespace Ordering

variable {bs : List Backend} {o : Ordering}

theorem sound_empty : ({} : Ordering).Sound bs :=
  ⟨rfl, List.nodup_nil, fun _ h => (List.not_mem_nil h).elim, parentsFirst_nil⟩

/-- Appending a backend of `bs` not yet finished, whose parent is unset or finished. -/
theorem Sound.finish (h : o.Sound bs) {b : Backend} (hb : b ∈ bs) (hfresh : b.name ∉ o.done)
    (hparent : b.parent = "" ∨ b.parent ∈ o.done) (stack : List String) :
    ({ stack, done := o.done ++ [b.name], out := o.out ++ [b] } : Ordering).Sound bs where
  done := by simp [h.done]
  nodup := by
    rw [List.map_append, List.map_singleton]
    exact h.nodup.append (List.nodup_singleton _) (List.disjoint_singleton.2 (h.done ▸ hfresh))
  sub x hx := by
    rcases List.mem_append.1 hx with hx | hx
    · exact h.sub x hx
    · rw [List.mem_singleton.1 hx]
      exact hb
  parents := by
    refine h.parents.snoc ?_
    rcases hparent with hnone | hdone
    · exact .inl hnone
    · rw [h.done, List.mem_map] at hdone
      exact .inr hdone

end Ordering

section Walk

variable {bs : List Backend} {names : List String}

theorem find?_name (hnames : ∀ s ∈ names, ∃ b ∈ bs, b.name = s) {s : String} (hs : s ∈ names) :
    ∃ b ∈ bs, bs.find? (·.name = s) = some b ∧ b.name = s := by
  obtain ⟨b₀, hb₀, rfl⟩ := hnames s hs
  cases hf : bs.find? (·.name = b₀.name) with
  | none =>
    have := List.find?_eq_none.1 hf b₀ hb₀
    simp at this
  | some b => exact ⟨b, List.mem_of_find?_eq_some hf, rfl, by simpa using List.find?_some hf⟩

/-- A visit from a sound state, whose path holds distinct registered names and whose fuel with
the path's length passes the number of names, ends in a sound state on the same path with the
name finished, having appended only backends off the path. -/
theorem visitParents_sound (hnames : ∀ s ∈ names, ∃ b ∈ bs, b.name = s) :
    ∀ {fuel : Nat} {name : String} {o o' : Ordering}, o.Sound bs → o.stack.Nodup →
      (∀ s ∈ o.stack, s ∈ names) → names.length + 1 ≤ fuel + o.stack.length → name ∈ names →
      visitParents bs names fuel name o = .ok o' →
      o'.Sound bs ∧ o'.stack = o.stack ∧ name ∈ o'.done ∧
        ∃ new, o'.out = o.out ++ new ∧ ∀ b ∈ new, b.name ∉ o.stack
  | 0, _, o, _, _, hnd, hsub, hfuel, _, _ => by
    have := hnd.length_le_of_subset hsub
    omega
  | fuel + 1, name, o, o', hs, hnd, hsub, hfuel, hname, h => by
    unfold visitParents at h
    by_cases hdone : o.done.contains name
    · rw [if_pos hdone] at h
      cases h
      exact ⟨hs, rfl, by simpa using hdone, [], by simp, by simp⟩
    rw [if_neg hdone] at h
    by_cases hst : o.stack.contains name
    · rw [if_pos hst] at h
      cases h
    rw [if_neg hst] at h
    simp only [List.contains_iff_mem] at hdone hst
    obtain ⟨b, hb, hfind, rfl⟩ := find?_name hnames hname
    rw [hfind, Option.getD_some] at h
    obtain ⟨o₁, hafter, rfl⟩ := Flow.Except.map_eq_ok.1 h
    -- after the parent the walk stands where it did, one name deeper, with the parent out
    have hparent : o₁.Sound bs ∧ o₁.stack = o.stack ++ [b.name] ∧
        (b.parent = "" ∨ b.parent ∈ o₁.done) ∧
        ∃ new, o₁.out = o.out ++ new ∧ ∀ x ∈ new, x.name ∉ o.stack ++ [b.name] := by
      split at hafter
      · next hnone =>
        cases hafter
        exact ⟨⟨hs.done, hs.nodup, hs.sub, hs.parents⟩, rfl, .inl hnone, [], by simp, by simp⟩
      · split at hafter
        · cases hafter
        · next hin =>
          have hmem : b.parent ∈ names := by simpa using hin
          have hsub' : ∀ s ∈ o.stack ++ [b.name], s ∈ names := by
            intro s hs'
            rcases List.mem_append.1 hs' with hs' | hs'
            · exact hsub s hs'
            · rw [List.mem_singleton.1 hs']
              exact hname
          have hs₀ : ({ o with stack := o.stack ++ [b.name] } : Ordering).Sound bs :=
            ⟨hs.done, hs.nodup, hs.sub, hs.parents⟩
          obtain ⟨hs₁, hst₁, hdone₁, new, hout, hnew⟩ := visitParents_sound hnames hs₀
            (hnd.append (List.nodup_singleton _) (List.disjoint_singleton.2 hst)) hsub'
            (by simp only [List.length_append, List.length_singleton]; omega) hmem hafter
          exact ⟨hs₁, hst₁, .inr hdone₁, new, hout, hnew⟩
    obtain ⟨hs₁, hst₁, hpar, new, hout, hnew⟩ := hparent
    have hfresh : b.name ∉ o₁.done := by
      rw [hs₁.done, hout, List.map_append, List.mem_append, ← hs.done]
      rintro (h' | h')
      · exact hdone h'
      · obtain ⟨x, hx, hxname⟩ := List.mem_map.1 h'
        exact hnew x hx (by simp [hxname])
    refine ⟨hs₁.finish hb hfresh hpar _, by simp [hst₁], by simp, new ++ [b], by simp [hout], ?_⟩
    intro x hx
    rcases List.mem_append.1 hx with hx | hx
    · exact fun h' => hnew x hx (List.mem_append_left _ h')
    · rw [List.mem_singleton.1 hx]
      exact hst

/-- Visiting names in turn from a sound state off any path finishes each of them. -/
theorem foldlM_visitParents_sound (hnames : ∀ s ∈ names, ∃ b ∈ bs, b.name = s) {fuel : Nat}
    (hfuel : names.length + 1 ≤ fuel) :
    ∀ (ns : List String) {o o' : Ordering}, o.Sound bs → o.stack = [] → (∀ n ∈ ns, n ∈ names) →
      ns.foldlM (fun o n => visitParents bs names fuel n o) o = .ok o' →
      o'.Sound bs ∧ o'.stack = [] ∧ o.done ⊆ o'.done ∧ ∀ n ∈ ns, n ∈ o'.done
  | [], o, o', hs, hst, _, h => by
    cases h
    exact ⟨hs, hst, List.Subset.refl _, by simp⟩
  | n :: ns, o, o', hs, hst, hns, h => by
    rw [List.foldlM_cons] at h
    obtain ⟨o₁, h₁, h⟩ := Flow.Except.bind_eq_ok.1 h
    obtain ⟨hs₁, hst₁, hn, new, hout, -⟩ := visitParents_sound hnames hs (by simp [hst])
      (by simp [hst]) (by simp [hst]; omega) (hns n List.mem_cons_self) h₁
    obtain ⟨hs', hst', hsub', hall⟩ := foldlM_visitParents_sound hnames hfuel ns hs₁
      (hst₁.trans hst) (fun m hm => hns m (List.mem_cons_of_mem _ hm)) h
    have hsub₁ : o.done ⊆ o₁.done := by
      rw [hs.done, hs₁.done, hout, List.map_append]
      exact List.subset_append_left _ _
    refine ⟨hs', hst', List.Subset.trans hsub₁ hsub', fun m hm => ?_⟩
    rcases List.mem_cons.1 hm with rfl | hm
    · exact hsub' hn
    · exact hall m hm

end Walk

/-- Ordering backends of distinct names parents first lists, when it succeeds, each of them once
and every backend after its parent. -/
theorem parentOrder_sound {bs out : List Backend} (hnd : (bs.map (·.name)).Nodup)
    (h : parentOrder bs = .ok out) : out.Perm bs ∧ ParentsFirst (·.name) (·.parent) out := by
  unfold parentOrder at h
  obtain ⟨o, hfold, rfl⟩ := Flow.Except.map_eq_ok.1 h
  have hmem : ∀ s, s ∈ (bs.map (·.name)).mergeSort (fun a b => decide (a ≤ b)) ↔
      s ∈ bs.map (·.name) := fun s => List.mem_mergeSort
  have hlen : ((bs.map (·.name)).mergeSort fun a b => decide (a ≤ b)).length = bs.length := by
    simp [List.length_mergeSort]
  obtain ⟨hs, -, -, hall⟩ := foldlM_visitParents_sound (fun s hs => List.mem_map.1 ((hmem s).1 hs))
    (by omega) _ Ordering.sound_empty rfl (fun _ h => h) hfold
  refine ⟨(List.perm_ext_iff_of_nodup (hs.nodup.of_map _) (hnd.of_map _)).2 fun b =>
    ⟨hs.sub b, fun hb => ?_⟩, hs.parents⟩
  -- every backend's name is finished, by a backend of the output that bears it
  have hdone := hall b.name ((hmem _).2 (List.mem_map_of_mem hb))
  rw [hs.done] at hdone
  obtain ⟨b', hb', hname⟩ := List.mem_map.1 hdone
  rw [← List.inj_on_of_nodup_map hnd (hs.sub b' hb') hb hname]
  exact hb'

end PassPlan.Backend
