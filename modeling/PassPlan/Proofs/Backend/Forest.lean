import PassPlan.Proofs.Backend.FileOrder
import PassPlan.Proofs.Flow.Diagnostics
import PassPlan.Proofs.Flow.Derivation
/-!
Ordering backends parents first is a topological sort of the parent forest. The walk visits
the names in increasing order and climbs from each to its parent before listing it, standing on
a path where each name's parent is the next. A name met again on that path closes a parent
cycle, and a parent missing from the names stops the walk; these are the only failures, so the
walk succeeds exactly when the parents form a forest: every parent set names a backend and no
backend is its own ancestor. Then every backend has its ancestry, itself followed by its
ancestors up to a root, and the walk lists the ancestries of the names in increasing order, each
reversed, keeping the first place of every name: the depth-first post-order. It reads the
backends only through their names, so it gives the same answer for any order of the same
backends.
-/
namespace PassPlan.Backend

/-- The backend named `a` has the parent `p`. -/
def ParentLink (bs : List Backend) (a p : String) : Prop :=
  ∃ b ∈ bs, b.name = a ∧ b.parent = p ∧ p ≠ ""

/-- The parents form a forest: every parent set names a backend, and no backend is reached from
itself by one or more parent links. -/
def Forest (bs : List Backend) : Prop :=
  (∀ b ∈ bs, b.parent ≠ "" → b.parent ∈ bs.map (·.name)) ∧
    ∀ n, ¬ Relation.TransGen (ParentLink bs) n n

/-- `l` lists `n` followed by its ancestors, nearest first, up to a backend with no parent. -/
inductive Ancestry (bs : List Backend) : String → List String → Prop
  | root {b : Backend} : b ∈ bs → b.parent = "" → Ancestry bs b.name [b.name]
  | parent {b : Backend} {l : List String} : b ∈ bs → b.parent ≠ "" → Ancestry bs b.parent l →
      Ancestry bs b.name (b.name :: l)

/-- A reported parent cycle: a name, the names after it along parent links, each once, and the
first name again. -/
def ParentCycle (bs : List Backend) (path : List String) : Prop :=
  ∃ p rest, path = p :: rest ++ [p] ∧ (p :: rest).Nodup ∧ path.IsChain (ParentLink bs)

/-- The names of the backends in increasing order, as the ordering walk visits them. -/
def sortedNames (bs : List Backend) : List String :=
  (bs.map (·.name)).mergeSort fun a b => decide (a ≤ b)

/-- What a failure to order backends reports: a parent cycle, or a parent set to a name no
backend has, with the sorted names. -/
def ParentDiagnosis (bs : List Backend) : BackendError → Prop
  | .cycle path => ParentCycle bs path
  | .notFound m av => m ≠ "" ∧ m ∉ bs.map (·.name) ∧ (∃ b ∈ bs, b.parent = m) ∧ av = sortedNames bs
  | _ => False

/-- A reported cycle leads from its first name back to it. -/
theorem ParentCycle.transGen {bs : List Backend} {path : List String} (h : ParentCycle bs path) :
    ∃ p, Relation.TransGen (ParentLink bs) p p := by
  obtain ⟨p, rest, rfl, -, hchain⟩ := h
  obtain ⟨q, t, hqt⟩ : ∃ q t, rest ++ [p] = q :: t := List.exists_cons_of_ne_nil (by simp)
  rw [List.cons_append, hqt, List.isChain_cons_cons] at hchain
  have hlast : (q :: t).getLast (List.cons_ne_nil _ _) = p := by simp [← hqt]
  exact ⟨p, .head' hchain.1 (List.relationReflTransGen_of_exists_isChain_cons t hchain.2 hlast)⟩

theorem mem_sortedNames {bs : List Backend} {s : String} : s ∈ sortedNames bs ↔ s ∈ bs.map (·.name) :=
  List.mem_mergeSort

theorem parentOrder_eq (bs : List Backend) :
    parentOrder bs = ((sortedNames bs).foldlM
      (fun o n => visitParents bs (sortedNames bs) (bs.length + 1) n o) {}).map (·.out) := rfl

section Ancestry

variable {bs : List Backend} (hnd : (bs.map (·.name)).Nodup)
include hnd

/-- Under distinct names, the backend found under a name is the one bearing it. -/
theorem find?_name_eq_some {s : String} {b : Backend} :
    bs.find? (·.name = s) = some b ↔ b ∈ bs ∧ b.name = s := by
  constructor
  · intro h
    exact ⟨List.mem_of_find?_eq_some h, by simpa using List.find?_some h⟩
  · rintro ⟨hb, rfl⟩
    cases hf : bs.find? (·.name = b.name) with
    | none => exact absurd (List.find?_eq_none.1 hf b hb) (by simp)
    | some b' =>
      have hb' := List.mem_of_find?_eq_some hf
      have hname : b'.name = b.name := by simpa using List.find?_some hf
      rw [List.inj_on_of_nodup_map hnd hb' hb hname]

theorem ParentLink.parent_eq {a p : String} {b : Backend} (h : ParentLink bs a p) (hb : b ∈ bs)
    (hname : b.name = a) : b.parent = p ∧ p ≠ "" := by
  obtain ⟨b', hb', hname', hparent, hp⟩ := h
  obtain rfl := List.inj_on_of_nodup_map hnd hb hb' (hname.trans hname'.symm)
  exact ⟨hparent, hp⟩

/-- Following the parent of a name with an ancestry gives the rest of that ancestry. -/
theorem Ancestry.link {a p : String} {l : List String} (hl : Ancestry bs a l)
    (h : ParentLink bs a p) : ∃ t, Ancestry bs p t ∧ l = a :: t := by
  cases hl with
  | root hb hroot => exact absurd ((h.parent_eq hnd hb rfl).1 ▸ hroot) (h.parent_eq hnd hb rfl).2
  | parent hb hp ht =>
    obtain ⟨rfl, -⟩ := h.parent_eq hnd hb rfl
    exact ⟨_, ht, rfl⟩

theorem Ancestry.unique {a : String} {l l' : List String} (hl : Ancestry bs a l)
    (hl' : Ancestry bs a l') : l = l' := by
  induction hl generalizing l' with
  | @root b hb hroot =>
    generalize hn : b.name = n at hl'
    cases hl' with
    | root => rfl
    | @parent b' _ hb' hp' _ =>
      obtain rfl := List.inj_on_of_nodup_map hnd hb hb' hn
      exact absurd hroot hp'
  | @parent b l hb hp _ ih =>
    obtain ⟨t, ht, rfl⟩ := hl'.link hnd ⟨b, hb, rfl, rfl, hp⟩
    rw [ih ht]

/-- Each step along parent links shortens the ancestry. -/
theorem Ancestry.transGen {a m : String} {l : List String} (hl : Ancestry bs a l)
    (h : Relation.TransGen (ParentLink bs) a m) : ∃ t, Ancestry bs m t ∧ t.length < l.length := by
  induction h with
  | single hlink =>
    obtain ⟨t, ht, rfl⟩ := hl.link hnd hlink
    exact ⟨t, ht, by simp⟩
  | tail _ hlink ih =>
    obtain ⟨t, ht, hlt⟩ := ih
    obtain ⟨t', ht', rfl⟩ := ht.link hnd hlink
    exact ⟨t', ht', by simp at hlt; omega⟩

theorem Ancestry.not_cycle {a : String} {l : List String} (hl : Ancestry bs a l) :
    ¬ Relation.TransGen (ParentLink bs) a a := fun h => by
  obtain ⟨t, ht, hlt⟩ := hl.transGen hnd h
  rw [ht.unique hnd hl] at hlt
  exact Nat.lt_irrefl _ hlt

omit hnd in
theorem Ancestry.head {a : String} {l : List String} (hl : Ancestry bs a l) :
    a ∈ bs.map (·.name) ∧ ∃ t, l = a :: t := by
  cases hl with
  | root hb _ => exact ⟨List.mem_map_of_mem hb, [], rfl⟩
  | parent hb _ _ => exact ⟨List.mem_map_of_mem hb, _, rfl⟩

omit hnd in
/-- Every name of an ancestry starts an ancestry that ends it. -/
theorem Ancestry.of_mem {a x : String} {l : List String} (hl : Ancestry bs a l) (hx : x ∈ l) :
    ∃ t, Ancestry bs x t ∧ t <:+ l := by
  induction hl with
  | root hb hroot =>
    obtain rfl := List.mem_singleton.1 hx
    exact ⟨_, .root hb hroot, List.suffix_refl _⟩
  | @parent b l hb hp ht ih =>
    rcases List.mem_cons.1 hx with rfl | hx
    · exact ⟨_, .parent hb hp ht, List.suffix_refl _⟩
    · obtain ⟨t, hxt, hsuf⟩ := ih hx
      exact ⟨t, hxt, hsuf.trans (List.suffix_cons _ _)⟩

theorem Ancestry.nodup {a : String} {l : List String} (hl : Ancestry bs a l) : l.Nodup := by
  induction hl with
  | root => exact List.nodup_singleton _
  | @parent b l hb hp ht ih =>
    refine List.nodup_cons.2 ⟨fun hmem => ?_, ih⟩
    -- the name again further up would have an ancestry shorter than its own
    obtain ⟨t, hbt, hsuf⟩ := ht.of_mem hmem
    have := hbt.unique hnd (.parent hb hp ht)
    have hlen := hsuf.length_le
    rw [this] at hlen
    simp at hlen

omit hnd in
theorem Ancestry.subset {a : String} {l : List String} (hl : Ancestry bs a l) :
    ∀ x ∈ l, x ∈ bs.map (·.name) := fun _ hx =>
  let ⟨_, hxt, _⟩ := hl.of_mem hx
  hxt.head.1

theorem Ancestry.length_le {a : String} {l : List String} (hl : Ancestry bs a l) :
    l.length ≤ bs.length := by
  have := (hl.nodup hnd).length_le_of_subset hl.subset
  simpa using this

theorem forest_of_ancestry (h : ∀ n ∈ bs.map (·.name), ∃ l, Ancestry bs n l) : Forest bs := by
  refine ⟨fun b hb hp => ?_, fun n hn => ?_⟩
  · obtain ⟨l, hl⟩ := h b.name (List.mem_map_of_mem hb)
    obtain ⟨t, ht, -⟩ := hl.link hnd ⟨b, hb, rfl, rfl, hp⟩
    exact ht.head.1
  · -- a cycle starts with a link, out of a name some backend bears
    obtain ⟨m, hlink, -⟩ := Relation.TransGen.head'_iff.1 hn
    obtain ⟨b, hb, rfl, -⟩ := hlink
    obtain ⟨l, hl⟩ := h b.name (List.mem_map_of_mem hb)
    exact hl.not_cycle hnd hn

omit hnd in
/-- A list of backends in which every parent comes before its children gives every backend an
ancestry, built front to back. -/
theorem ancestry_of_parentsFirst : ∀ {out : List Backend},
    ParentsFirst (·.name) (·.parent) out → (∀ b ∈ out, b ∈ bs) →
      ∀ b ∈ out, ∃ l, Ancestry bs b.name l := by
  intro out
  induction out using List.reverseRecOn with
  | nil => intro _ _ b hb; cases hb
  | append_singleton pre a ih =>
    intro hpf hsub b hb
    have hpre : ParentsFirst (·.name) (·.parent) pre := fun p x q hx =>
      hpf p x (q ++ [a]) (by rw [hx]; simp)
    have ihpre := ih hpre fun x hx => hsub x (List.mem_append_left _ hx)
    rcases List.mem_append.1 hb with hb | hb
    · exact ihpre b hb
    · obtain rfl := List.mem_singleton.1 hb
      have ha := hsub b (by simp)
      rcases hpf pre b [] rfl with hroot | ⟨p, hp, hname⟩
      · exact ⟨_, .root ha hroot⟩
      · obtain ⟨l, hl⟩ := ihpre p hp
        by_cases hnone : b.parent = ""
        · exact ⟨_, .root ha hnone⟩
        · have hname : p.name = b.parent := hname
          rw [hname] at hl
          exact ⟨_, .parent ha hnone hl⟩

end Ancestry

/-! ### What the walk reports when it fails -/

section Walk

variable {bs : List Backend} {names : List String}

/-- A visit that succeeds stands where it started. -/
theorem visitParents_stack : ∀ {fuel : Nat} {name : String} {o o' : Ordering},
    visitParents bs names fuel name o = .ok o' → o'.stack = o.stack
  | 0, _, _, _, h => by cases h; rfl
  | fuel + 1, name, o, o', h => by
    unfold visitParents at h
    by_cases hdone : o.done.contains name
    · rw [if_pos hdone] at h
      cases h
      rfl
    rw [if_neg hdone] at h
    by_cases hst : o.stack.contains name
    · rw [if_pos hst] at h
      cases h
    rw [if_neg hst] at h
    obtain ⟨o₁, hafter, rfl⟩ := Flow.Except.map_eq_ok.1 h
    -- after the parent the walk stands one name deeper
    have h₁ : o₁.stack = o.stack ++ [name] := by
      split at hafter
      · cases hafter
        rfl
      · split at hafter
        · cases hafter
        · exact visitParents_stack hafter
    simp [h₁]

/-- A visit from a path along parent links, each name once, fails only with a diagnosis. -/
theorem visitParents_error : ∀ {fuel : Nat} {name : String} {o : Ordering} {e : BackendError},
    o.stack.Nodup → (o.stack ++ [name]).IsChain (ParentLink bs) →
      visitParents bs (sortedNames bs) fuel name o = .error e → ParentDiagnosis bs e
  | 0, _, _, _, _, _, h => by cases h
  | fuel + 1, name, o, e, hnd, hchain, h => by
    unfold visitParents at h
    by_cases hdone : o.done.contains name
    · rw [if_pos hdone] at h
      cases h
    rw [if_neg hdone] at h
    by_cases hst : o.stack.contains name
    · -- the name is on the path: cut the cycle from where it stands
      rw [if_pos hst] at h
      cases h
      have hmem : name ∈ o.stack := by simpa using hst
      obtain ⟨rest, hrest⟩ := Flow.Source.dropWhile_ne_of_mem hmem
      have hsuffix : o.stack.dropWhile (· ≠ name) ++ [name] <:+ o.stack ++ [name] := by
        obtain ⟨t, ht⟩ := List.dropWhile_suffix (l := o.stack) (· ≠ name)
        exact ⟨t, by rw [← List.append_assoc, ht]⟩
      refine ⟨name, rest, by rw [hrest], ?_, hchain.suffix hsuffix⟩
      rw [← hrest]
      exact hnd.sublist (List.dropWhile_sublist _)
    rw [if_neg hst] at h
    have hfresh : name ∉ o.stack := by simpa using hst
    cases hf : bs.find? (·.name = name) with
    | none =>
      -- no backend bears the name: it has no parent to climb to
      rw [hf] at h
      cases h
    | some b =>
      rw [hf, Option.getD_some] at h
      have hb := List.mem_of_find?_eq_some hf
      have hbn : b.name = name := by simpa using List.find?_some hf
      obtain h := Flow.Except.map_eq_error.1 h
      split at h
      · cases h
      · split at h
        · next hp hmissing =>
          cases h
          have hm : b.parent ∉ bs.map (·.name) := fun hm => by
            simp [mem_sortedNames.2 hm] at hmissing
          exact ⟨hp, hm, ⟨b, hb, rfl⟩, rfl⟩
        · next hp _ =>
          refine visitParents_error (hnd.append (List.nodup_singleton _)
            (List.disjoint_singleton.2 hfresh)) ?_ h
          exact hchain.append (List.isChain_singleton _) (by simpa using ⟨b, hb, hbn, rfl, hp⟩)

/-- Visiting names in turn from the ground fails only with a diagnosis. -/
theorem foldlM_visitParents_error {fuel : Nat} : ∀ (ns : List String) {o : Ordering} {e : BackendError},
    o.stack = [] →
      ns.foldlM (fun o n => visitParents bs (sortedNames bs) fuel n o) o = .error e →
        ParentDiagnosis bs e
  | [], _, _, _, h => by cases h
  | n :: ns, o, e, hst, h => by
    rw [List.foldlM_cons] at h
    rcases Flow.Except.bind_eq_error.1 h with h | ⟨o₁, h₁, h⟩
    · exact visitParents_error (by simp [hst]) (by simp [hst]) h
    · exact foldlM_visitParents_error ns ((visitParents_stack h₁).trans hst) h

/-- Ordering backends fails only with a parent cycle or a missing parent. -/
theorem parentOrder_error {e : BackendError} (h : parentOrder bs = .error e) : ParentDiagnosis bs e := by
  rw [parentOrder_eq] at h
  exact foldlM_visitParents_error _ rfl (Flow.Except.map_eq_error.1 h)

end Walk

/-- A successful walk over backends of distinct names gives every backend its ancestry. -/
theorem parentOrder_ancestry {bs out : List Backend} (hnd : (bs.map (·.name)).Nodup)
    (h : parentOrder bs = .ok out) : ∀ n ∈ bs.map (·.name), ∃ l, Ancestry bs n l := by
  obtain ⟨hperm, hpf⟩ := parentOrder_sound hnd h
  intro n hn
  obtain ⟨b, hb, rfl⟩ := List.mem_map.1 hn
  exact ancestry_of_parentsFirst hpf (fun x hx => hperm.subset hx) b (hperm.symm.subset hb)

/-- Ordering backends of distinct names succeeds exactly when their parents form a forest. -/
theorem parentOrder_ok_iff {bs : List Backend} (hnd : (bs.map (·.name)).Nodup) :
    (∃ out, parentOrder bs = .ok out) ↔ Forest bs := by
  constructor
  · rintro ⟨out, h⟩
    exact forest_of_ancestry hnd (parentOrder_ancestry hnd h)
  · intro hF
    cases h : parentOrder bs with
    | ok out => exact ⟨out, rfl⟩
    | error e =>
      -- a diagnosis contradicts the forest
      have hd := parentOrder_error h
      exfalso
      cases e with
      | cycle path =>
        obtain ⟨p, hp⟩ := ParentCycle.transGen hd
        exact hF.2 p hp
      | notFound m av =>
        obtain ⟨hne, hm, ⟨b, hb, rfl⟩, -⟩ := hd
        exact hm (hF.1 b hb hne)
      | invalid => exact hd
      | duplicate => exact hd

theorem Forest.ancestry {bs : List Backend} (hnd : (bs.map (·.name)).Nodup) (hF : Forest bs) :
    ∀ n ∈ bs.map (·.name), ∃ l, Ancestry bs n l :=
  let ⟨_, h⟩ := (parentOrder_ok_iff hnd).2 hF
  parentOrder_ancestry hnd h

/-! ### The order of a successful walk -/

/-- No name of the list has a parent outside it. -/
def ParentClosed (bs : List Backend) (s : List String) : Prop :=
  ∀ x ∈ s, ∀ p, ParentLink bs x p → p ∈ s

section PostOrder

variable {bs : List Backend} (hnd : (bs.map (·.name)).Nodup)
include hnd

theorem Ancestry.link_mem {a x p : String} {l : List String} (hl : Ancestry bs a l) (hx : x ∈ l)
    (h : ParentLink bs x p) : p ∈ l := by
  obtain ⟨t, hxt, hsuf⟩ := hl.of_mem hx
  obtain ⟨t', ht', rfl⟩ := hxt.link hnd h
  obtain ⟨-, t'', rfl⟩ := ht'.head
  exact hsuf.subset (by simp)

omit hnd in
/-- A name in a closed list has its whole ancestry there. -/
theorem Ancestry.subset_of_closed {a : String} {l s : List String} (hl : Ancestry bs a l)
    (hs : ParentClosed bs s) (ha : a ∈ s) : ∀ x ∈ l, x ∈ s := by
  induction hl with
  | root => simpa using ha
  | @parent b l hb hp _ ih =>
    have := ih (hs _ ha _ ⟨b, hb, rfl, rfl, hp⟩)
    simpa [ha] using this

/-- Adding the names of an ancestry not yet in a closed list keeps it closed. -/
theorem ParentClosed.append_ancestry {a : String} {l s : List String} (hs : ParentClosed bs s)
    (hl : Ancestry bs a l) : ParentClosed bs (s ++ l.reverse.removeAll s) := by
  intro x hx p hlink
  simp only [List.removeAll, List.mem_append, List.mem_filter, List.mem_reverse, List.elem_eq_mem,
    Bool.not_eq_eq_eq_not, Bool.not_true, decide_eq_false_iff_not] at hx ⊢
  rcases hx with hx | ⟨hx, -⟩
  · exact .inl (hs x hx p hlink)
  · by_cases hps : p ∈ s
    · exact .inl hps
    · exact .inr ⟨hl.link_mem hnd hx hlink, hps⟩

/-- A successful visit of a name finishes the names of its ancestry not finished before, from
the root down, provided the finished names are closed under parents. -/
theorem visitParents_done {names : List String} : ∀ {fuel : Nat} {n : String} {l : List String}
    {o o' : Ordering}, Ancestry bs n l → l.length ≤ fuel → ParentClosed bs o.done →
      visitParents bs names fuel n o = .ok o' → o'.done = o.done ++ l.reverse.removeAll o.done
  | 0, _, _, _, _, hl, hfuel, _, _ => by
    obtain ⟨-, t, rfl⟩ := hl.head
    simp at hfuel
  | fuel + 1, n, l, o, o', hl, hfuel, hclosed, h => by
    unfold visitParents at h
    by_cases hdone : o.done.contains n
    · -- the whole ancestry is finished already
      rw [if_pos hdone] at h
      cases h
      have hsub := hl.subset_of_closed hclosed (by simpa using hdone)
      simpa [List.removeAll] using hsub
    rw [if_neg hdone] at h
    by_cases hst : o.stack.contains n
    · rw [if_pos hst] at h
      cases h
    rw [if_neg hst] at h
    have hfresh : n ∉ o.done := by simpa using hdone
    cases hl with
    | @root b hb hroot =>
      rw [(find?_name_eq_some hnd).2 ⟨hb, rfl⟩, Option.getD_some] at h
      obtain ⟨o₁, hafter, rfl⟩ := Flow.Except.map_eq_ok.1 h
      rw [if_pos hroot] at hafter
      cases hafter
      simp [List.removeAll, hfresh]
    | @parent b t hb hp ht =>
      rw [(find?_name_eq_some hnd).2 ⟨hb, rfl⟩, Option.getD_some] at h
      obtain ⟨o₁, hafter, rfl⟩ := Flow.Except.map_eq_ok.1 h
      rw [if_neg hp] at hafter
      split at hafter
      · cases hafter
      · -- the parent's ancestry is finished first, then the name itself
        have ih := visitParents_done (o := { o with stack := o.stack ++ [b.name] }) ht
          (by simp at hfuel; omega) hclosed hafter
        simp only at ih
        simp [ih, List.removeAll, hfresh]

/-- Visiting names in turn, from finished names that are closed under parents and distinct,
finishes the ancestries of the names, each reversed, keeping every name at its first place. -/
theorem foldlM_visitParents_done {names : List String} {fuel : Nat} (hfuel : bs.length ≤ fuel)
    {chain : String → List String} : ∀ (ns : List String) {o o' : Ordering},
      (∀ n ∈ ns, Ancestry bs n (chain n)) → ParentClosed bs o.done → o.done.Nodup →
      ns.foldlM (fun o n => visitParents bs names fuel n o) o = .ok o' →
      o'.done = (o.done ++ ns.flatMap fun n => (chain n).reverse).eraseDups
  | [], o, o', _, _, hnodup, h => by
    cases h
    simp [Flow.eraseDups_of_nodup hnodup]
  | n :: ns, o, o', hchain, hclosed, hnodup, h => by
    rw [List.foldlM_cons] at h
    obtain ⟨o₁, h₁, h⟩ := Flow.Except.bind_eq_ok.1 h
    have hn := hchain n List.mem_cons_self
    have hdone₁ := visitParents_done hnd hn (le_trans (hn.length_le hnd) hfuel) hclosed h₁
    have hfresh : ((chain n).reverse.removeAll o.done).Nodup :=
      (List.nodup_reverse.2 (hn.nodup hnd)).filter _
    have hdedup : o₁.done = (o.done ++ (chain n).reverse).eraseDups := by
      rw [hdone₁, List.eraseDups_append, Flow.eraseDups_of_nodup hnodup,
        Flow.eraseDups_of_nodup hfresh]
    have hclosed₁ : ParentClosed bs o₁.done := by
      rw [hdone₁]
      exact hclosed.append_ancestry hnd hn
    have hnodup₁ : o₁.done.Nodup := by
      rw [hdedup]
      exact Flow.nodup_eraseDups _
    rw [foldlM_visitParents_done hfuel ns (fun m hm => hchain m (List.mem_cons_of_mem _ hm))
      hclosed₁ hnodup₁ h, hdedup, Flow.eraseDups_eraseDups_append, List.flatMap_cons,
      List.append_assoc]

/-- Ordering backends parents first, when it succeeds, gives the depth-first post-order from the
names in increasing order: the ancestries of the names, each reversed to start at its root, one
after another, with every name kept at its first place. -/
theorem parentOrder_postorder {out : List Backend} (h : parentOrder bs = .ok out)
    {chain : String → List String} (hchain : ∀ n ∈ bs.map (·.name), Ancestry bs n (chain n)) :
    out.map (·.name) = ((sortedNames bs).flatMap fun n => (chain n).reverse).eraseDups := by
  rw [parentOrder_eq] at h
  obtain ⟨o, hfold, rfl⟩ := Flow.Except.map_eq_ok.1 h
  have hnames : ∀ s ∈ sortedNames bs, ∃ b ∈ bs, b.name = s :=
    fun s hs => List.mem_map.1 (mem_sortedNames.1 hs)
  have hlen : (sortedNames bs).length = bs.length := by simp [sortedNames, List.length_mergeSort]
  obtain ⟨hs, -⟩ := foldlM_visitParents_sound hnames (by omega) _ Ordering.sound_empty rfl
    (fun _ h => h) hfold
  rw [← hs.done, foldlM_visitParents_done hnd (Nat.le_succ _) _
    (fun n hn => hchain n (mem_sortedNames.1 hn)) (fun _ hx => by cases hx) List.nodup_nil hfold]
  rfl

end PostOrder

/-! ### Independence from the order of the backends -/

theorem find?_name_perm {bs bs' : List Backend} (hnd : (bs.map (·.name)).Nodup) (h : bs'.Perm bs)
    (s : String) : bs'.find? (·.name = s) = bs.find? (·.name = s) := by
  have hnd' : (bs'.map (·.name)).Nodup := (h.map _).nodup_iff.2 hnd
  apply Option.ext
  intro b
  rw [find?_name_eq_some hnd', find?_name_eq_some hnd, h.mem_iff]

/-- The walk reads the backends only through the backend found under a name. -/
theorem visitParents_congr {bs bs' : List Backend} {names : List String}
    (h : ∀ s, bs'.find? (·.name = s) = bs.find? (·.name = s)) :
    ∀ fuel name o, visitParents bs' names fuel name o = visitParents bs names fuel name o
  | 0, _, _ => rfl
  | fuel + 1, name, o => by
    simp only [visitParents.eq_2, h name, visitParents_congr h fuel]

theorem sortedNames_perm {bs bs' : List Backend} (h : bs'.Perm bs) :
    sortedNames bs' = sortedNames bs := by
  have hsorted : ∀ l : List String,
      (l.mergeSort fun a b => decide (a ≤ b)).Pairwise fun a b => decide (a ≤ b) = true :=
    fun l => @List.pairwise_mergeSort String (fun a b => decide (a ≤ b))
      (fun a b c hab hbc => decide_eq_true (le_trans (of_decide_eq_true hab) (of_decide_eq_true hbc)))
      (fun a b => by simpa using le_total a b) l
  exact List.Perm.eq_of_pairwise
    (fun a b _ _ hab hba => le_antisymm (of_decide_eq_true hab) (of_decide_eq_true hba))
    (hsorted _) (hsorted _)
    ((List.mergeSort_perm _ _).trans ((h.map _).trans (List.mergeSort_perm _ _).symm))

/-- Ordering backends of distinct names depends only on which backends there are, not on the
order they come in. -/
theorem parentOrder_perm {bs bs' : List Backend} (hnd : (bs.map (·.name)).Nodup) (h : bs'.Perm bs) :
    parentOrder bs' = parentOrder bs := by
  rw [parentOrder_eq, parentOrder_eq, sortedNames_perm h, h.length_eq]
  simp only [visitParents_congr (find?_name_perm hnd h)]

end PassPlan.Backend
