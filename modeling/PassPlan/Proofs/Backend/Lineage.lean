import PassPlan.Proofs.Backend.Forest
/-!
The lineage of a backend walks the same parent links as the ordering walk, one name at a time:
from the normalized name up through each backend's parent, remembering the names walked. Every
registry a program builds keeps names distinct and normalized, so the walked names are distinct
registered names and the walk ends before its fuel does: at a root, with the name's ancestry;
at a name walked before, with the lasso of names that led into the cycle; or at a name no
backend bears, reached from the start. So the lineage succeeds exactly on the names with an
ancestry, and whenever the registered backends can be ordered parents first, every one of them
has its lineage.
-/
namespace PassPlan.Backend

namespace Registry

/-- The registries a program holds: the empty one, and every one that registering a backend
into one of them gives. -/
inductive Built : Registry → Prop
  | empty : Built {}
  | register {r r' : Registry} {b : Backend} : Built r → r.register b = .ok r' → Built r'

/-- What a registry keeps of its backends: distinct, normalized, non-empty names and normalized
parents. -/
structure Normal (r : Registry) : Prop where
  nodup : (r.backends.map (·.name)).Nodup
  name : ∀ b ∈ r.backends, Flow.normalizeBackend b.name = b.name ∧ b.name ≠ ""
  parent : ∀ b ∈ r.backends, Flow.normalizeBackend b.parent = b.parent

theorem normal_empty : ({} : Registry).Normal :=
  ⟨List.nodup_nil, fun _ h => (by cases h), fun _ h => (by cases h)⟩

/-- Registering keeps a registry normal: the entry is normalized and its name was free. -/
theorem Normal.register {r r' : Registry} {b : Backend} (hr : r.Normal)
    (h : r.register b = .ok r') : r'.Normal := by
  obtain ⟨⟨hne, -⟩, hfresh, rfl⟩ := register_eq_ok.1 h
  refine ⟨?_, fun x hx => ?_, fun x hx => ?_⟩
  · simpa [List.nodup_append, entry, hr.nodup] using hfresh
  · rcases List.mem_append.1 hx with hx | hx
    · exact hr.name x hx
    · obtain rfl := List.mem_singleton.1 hx
      exact ⟨Flow.normalizeBackend_normalizeBackend _, hne⟩
  · rcases List.mem_append.1 hx with hx | hx
    · exact hr.parent x hx
    · obtain rfl := List.mem_singleton.1 hx
      exact Flow.normalizeBackend_normalizeBackend _

theorem Built.normal {r : Registry} (h : r.Built) : r.Normal := by
  induction h with
  | empty => exact normal_empty
  | register _ hreg ih => exact ih.register hreg

/-- What a failed lineage reports, seen from the name `n` it started at: a path from `n` along
parent links whose last name repeats an earlier one, the others distinct; or a name no backend
bears, reached from `n`, with the registered names. -/
def LineageDiagnosis (r : Registry) (n : String) : BackendError → Prop
  | .cycle path => path.head? = some n ∧ path.IsChain (ParentLink r.backends) ∧
      ∃ pre c mid, path = pre ++ c :: mid ++ [c] ∧ (pre ++ c :: mid).Nodup
  | .notFound m av => m ≠ "" ∧ m ∉ r.backends.map (·.name) ∧
      Relation.ReflTransGen (ParentLink r.backends) n m ∧ av = r.available
  | _ => False

/-- Where a lineage walk from `n` stands at `cur`: the names walked so far are distinct
registered names, and with `cur` they lead from `n` along parent links. -/
structure Climb (r : Registry) (n : String) (chain : List String) (cur : String) : Prop where
  nodup : chain.Nodup
  sub : ∀ x ∈ chain, x ∈ r.backends.map (·.name)
  links : (chain ++ [cur]).IsChain (ParentLink r.backends)
  head : (chain ++ [cur]).head? = some n
  normal : Flow.normalizeBackend cur = cur

theorem Climb.start (r : Registry) (name : String) :
    r.Climb (Flow.normalizeBackend name) [] (Flow.normalizeBackend name) :=
  ⟨List.nodup_nil, fun _ h => (by cases h), List.isChain_singleton _, rfl,
    Flow.normalizeBackend_normalizeBackend _⟩

section Climb

variable {r : Registry} {n cur : String} {chain : List String}

theorem Climb.reach (h : r.Climb n chain cur) : Relation.ReflTransGen (ParentLink r.backends) n cur := by
  have hne : chain ++ [cur] ≠ [] := by simp
  have hreach := List.relationReflTransGen_of_exists_isChain _ h.links hne
  have hhead := h.head
  rw [List.head?_eq_some_head hne] at hhead
  rwa [Option.some.inj hhead, List.getLast_append_singleton] at hreach

theorem Climb.length_le (h : r.Climb n chain cur) : chain.length ≤ r.backends.length := by
  simpa using h.nodup.length_le_of_subset h.sub

/-- Stepping from a backend not walked yet to its parent. -/
theorem Climb.push {b : Backend} (h : r.Climb n chain b.name) (hr : r.Normal) (hb : b ∈ r.backends)
    (hfresh : b.name ∉ chain) (hp : b.parent ≠ "") : r.Climb n (chain ++ [b.name]) b.parent where
  nodup := h.nodup.append (List.nodup_singleton _) (List.disjoint_singleton.2 hfresh)
  sub x hx := by
    rcases List.mem_append.1 hx with hx | hx
    · exact h.sub x hx
    · rw [List.mem_singleton.1 hx]
      exact List.mem_map_of_mem hb
  links := h.links.append (List.isChain_singleton _) (by simpa using ⟨b, hb, rfl, rfl, hp⟩)
  head := by rw [List.head?_append, h.head]; rfl
  normal := hr.parent b hb

end Climb

theorem lineageFrom_empty {r : Registry} :
    ∀ (fuel : Nat) (chain : List String), r.lineageFrom fuel "" chain = .ok chain
  | 0, _ => rfl
  | _ + 1, _ => by rw [lineageFrom.eq_2, if_pos rfl]

section Walk

variable {r : Registry} (hr : r.Normal)
include hr

/-- Looking up a normalized name finds the backend bearing it. -/
theorem get_eq_ok {cur : String} (hcur : Flow.normalizeBackend cur = cur) {b : Backend} :
    r.get cur = .ok b ↔ b ∈ r.backends ∧ b.name = cur := by
  have hfind : r.find? cur = some b ↔ b ∈ r.backends ∧ b.name = cur := find?_name_eq_some hr.nodup
  unfold get
  rw [hcur, ← hfind]
  cases r.find? cur <;> simp

/-- Looking up a normalized name fails only when no backend bears it. -/
theorem get_eq_error {cur : String} (hcur : Flow.normalizeBackend cur = cur) {e : BackendError}
    (h : r.get cur = .error e) : e = .notFound cur r.available ∧ cur ∉ r.backends.map (·.name) := by
  unfold get at h
  rw [hcur] at h
  cases hf : r.find? cur with
  | none =>
    rw [hf] at h
    refine ⟨(Except.error.inj h).symm, fun hmem => ?_⟩
    obtain ⟨b, hb, hname⟩ := List.mem_map.1 hmem
    have hb' := (find?_name_eq_some hr.nodup).2 ⟨hb, hname⟩
    simp only [find?, hb', reduceCtorEq] at hf
  | some b =>
    rw [hf] at h
    cases h

/-- A walk with fuel to spare that succeeds stood at the empty name, or returns the names walked
followed by the ancestry of where it stands. -/
theorem lineageFrom_eq_ok : ∀ {fuel : Nat} {n cur : String} {chain l : List String},
    r.Climb n chain cur → r.backends.length + 1 ≤ fuel + chain.length →
      r.lineageFrom fuel cur chain = .ok l →
        (cur = "" ∧ l = chain) ∨ ∃ t, Ancestry r.backends cur t ∧ l = chain ++ t
  | 0, _, _, _, _, hc, hfuel, _ => by
    have := hc.length_le
    omega
  | fuel + 1, n, cur, chain, l, hc, hfuel, h => by
    rw [lineageFrom.eq_2] at h
    by_cases hempty : cur = ""
    · rw [if_pos hempty] at h
      exact .inl ⟨hempty, (Except.ok.inj h).symm⟩
    rw [if_neg hempty] at h
    by_cases hseen : chain.contains cur
    · rw [if_pos hseen] at h
      cases h
    rw [if_neg hseen] at h
    obtain ⟨b, hget, hrest⟩ := Flow.Except.bind_eq_ok.1 h
    obtain ⟨hb, rfl⟩ := (get_eq_ok hr hc.normal).1 hget
    by_cases hp : b.parent = ""
    · -- a root: the walk stops with the name added
      rw [hp, lineageFrom_empty] at hrest
      cases hrest
      exact .inr ⟨_, .root hb hp, rfl⟩
    rcases lineageFrom_eq_ok (hc.push hr hb (by simpa using hseen) hp) (by simp; omega) hrest with
      ⟨hp', -⟩ | ⟨t, ht, rfl⟩
    · exact absurd hp' hp
    · exact .inr ⟨_, .parent hb hp ht, by simp⟩

/-- A walk from a name with an ancestry, none of whose names were walked, returns the names
walked followed by that ancestry. -/
theorem lineageFrom_of_ancestry {cur : String} {t : List String} (ht : Ancestry r.backends cur t) :
    ∀ {fuel : Nat} {chain : List String}, t.length ≤ fuel → (∀ x ∈ t, x ∉ chain) →
      r.lineageFrom fuel cur chain = .ok (chain ++ t) := by
  induction ht with
  | @root b hb hroot =>
    intro fuel chain hfuel hfresh
    cases fuel with
    | zero => simp at hfuel
    | succ fuel =>
      have hget := (get_eq_ok hr (hr.name b hb).1).2 ⟨hb, rfl⟩
      rw [lineageFrom.eq_2, if_neg (hr.name b hb).2, if_neg (by simpa using hfresh b.name (by simp)),
        hget]
      show r.lineageFrom fuel b.parent (chain ++ [b.name]) = _
      rw [hroot, lineageFrom_empty]
  | @parent b l hb hp hl ih =>
    intro fuel chain hfuel hfresh
    cases fuel with
    | zero => simp at hfuel
    | succ fuel =>
      have hget := (get_eq_ok hr (hr.name b hb).1).2 ⟨hb, rfl⟩
      rw [lineageFrom.eq_2, if_neg (hr.name b hb).2, if_neg (by simpa using hfresh b.name (by simp)),
        hget]
      show r.lineageFrom fuel b.parent (chain ++ [b.name]) = _
      -- the rest of the ancestry is off the names walked, the name itself included
      have hnd := (Ancestry.parent hb hp hl).nodup hr.nodup
      have hoff : ∀ x ∈ l, x ∉ chain ++ [b.name] := by
        intro x hx
        simp only [List.mem_append, List.mem_singleton, not_or]
        exact ⟨hfresh x (by simp [hx]), fun hxb => (List.nodup_cons.1 hnd).1 (hxb ▸ hx)⟩
      rw [ih (by simp at hfuel; omega) hoff]
      simp

/-- A walk that fails reports a lasso of the names it walked, or a name no backend bears. -/
theorem lineageFrom_error : ∀ {fuel : Nat} {n cur : String} {chain : List String}
    {e : BackendError}, r.Climb n chain cur → r.lineageFrom fuel cur chain = .error e →
      r.LineageDiagnosis n e
  | 0, _, _, _, _, _, h => by cases h
  | fuel + 1, n, cur, chain, e, hc, h => by
    rw [lineageFrom.eq_2] at h
    by_cases hempty : cur = ""
    · rw [if_pos hempty] at h
      cases h
    rw [if_neg hempty] at h
    by_cases hseen : chain.contains cur
    · -- the name was walked: the names walked, and it again
      rw [if_pos hseen] at h
      cases h
      obtain ⟨pre, mid, rfl⟩ := List.append_of_mem (by simpa using hseen : cur ∈ chain)
      exact ⟨hc.head, hc.links, pre, cur, mid, rfl, hc.nodup⟩
    rw [if_neg hseen] at h
    rcases Flow.Except.bind_eq_error.1 h with hget | ⟨b, hget, hrest⟩
    · obtain ⟨rfl, hm⟩ := get_eq_error hr hc.normal hget
      exact ⟨hempty, hm, hc.reach, rfl⟩
    · obtain ⟨hb, rfl⟩ := (get_eq_ok hr hc.normal).1 hget
      by_cases hp : b.parent = ""
      · rw [hp, lineageFrom_empty] at hrest
        cases hrest
      exact lineageFrom_error (hc.push hr hb (by simpa using hseen) hp) hrest

/-- The lineage of a name succeeds exactly on the empty name, with nothing, and on a name with an
ancestry, with that ancestry. -/
theorem lineage_eq_ok {name : String} {l : List String} :
    r.lineage name = .ok l ↔ (Flow.normalizeBackend name = "" ∧ l = []) ∨
      Ancestry r.backends (Flow.normalizeBackend name) l := by
  constructor
  · intro h
    rcases lineageFrom_eq_ok hr (Climb.start r name) (by simp) h with h | ⟨t, ht, rfl⟩
    · exact .inl h
    · exact .inr (by simpa using ht)
  · rintro (⟨hn, rfl⟩ | hl)
    · rw [lineage, hn]
      exact lineageFrom_empty _ _
    · have h : r.lineageFrom (r.backends.length + 1) (Flow.normalizeBackend name) [] = .ok ([] ++ l) :=
        lineageFrom_of_ancestry hr hl (Nat.le_succ_of_le (hl.length_le hr.nodup)) fun _ _ h => by
          cases h
      rw [lineage, h, List.nil_append]

/-- A lineage fails only on a lasso into a parent cycle or on a name no backend bears, reached
from the name. -/
theorem lineage_error {name : String} {e : BackendError} (h : r.lineage name = .error e) :
    r.LineageDiagnosis (Flow.normalizeBackend name) e :=
  lineageFrom_error hr (Climb.start r name) h

/-- When the registered backends can be ordered parents first, every registered backend's lineage
succeeds with its ancestry. -/
theorem lineage_of_parentOrder (h : ∃ out, parentOrder r.all = .ok out) :
    ∀ b ∈ r.backends, ∃ l, r.lineage b.name = .ok l ∧ Ancestry r.backends b.name l := by
  have hperm : r.all.Perm r.backends := List.mergeSort_perm _ _
  rw [parentOrder_perm hr.nodup hperm] at h
  intro b hb
  obtain ⟨l, hl⟩ := Forest.ancestry hr.nodup ((parentOrder_ok_iff hr.nodup).1 h) b.name
    (List.mem_map_of_mem hb)
  refine ⟨l, (lineage_eq_ok hr).2 (.inr ?_), hl⟩
  rwa [(hr.name b hb).1]

end Walk

end Registry

/-- Ordering backends parents first is the depth-first post-order of their parent forest, and the
lineage walk agrees with it. Over backends of distinct names the ordering succeeds exactly on a
forest; it then lists every backend once, after its parent, in the post-order from the names in
increasing order, whatever order the backends come in; otherwise it reports a parent cycle or a
missing parent. Over every registry a program builds, a lineage succeeds exactly with the
ancestry of the name, fails only on a cycle or a missing name reached from it, and succeeds for
every registered backend whenever the registered backends can be ordered. -/
theorem parentOrder_postorder_lineage :
    (∀ bs : List Backend, (bs.map (·.name)).Nodup →
      ((∃ out, parentOrder bs = .ok out) ↔ Forest bs) ∧
      (∀ out, parentOrder bs = .ok out →
        out.Perm bs ∧ ParentsFirst (·.name) (·.parent) out ∧
        (∀ n ∈ bs.map (·.name), ∃ l, Ancestry bs n l) ∧
        ∀ chain : String → List String, (∀ n ∈ bs.map (·.name), Ancestry bs n (chain n)) →
          out.map (·.name) = ((sortedNames bs).flatMap fun n => (chain n).reverse).eraseDups) ∧
      (∀ bs', bs'.Perm bs → parentOrder bs' = parentOrder bs) ∧
      ∀ e, parentOrder bs = .error e → ParentDiagnosis bs e) ∧
    ∀ r : Registry, r.Built →
      (∀ name l, r.lineage name = .ok l ↔ (Flow.normalizeBackend name = "" ∧ l = []) ∨
        Ancestry r.backends (Flow.normalizeBackend name) l) ∧
      (∀ name e, r.lineage name = .error e → r.LineageDiagnosis (Flow.normalizeBackend name) e) ∧
      ((∃ out, parentOrder r.all = .ok out) →
        ∀ b ∈ r.backends, ∃ l, r.lineage b.name = .ok l ∧ Ancestry r.backends b.name l) := by
  refine ⟨fun bs hnd => ⟨parentOrder_ok_iff hnd, fun out h => ?_, fun bs' h => parentOrder_perm hnd h,
    fun e h => parentOrder_error h⟩, fun r hr => ?_⟩
  · obtain ⟨hperm, hpf⟩ := parentOrder_sound hnd h
    exact ⟨hperm, hpf, parentOrder_ancestry hnd h, fun chain hchain => parentOrder_postorder hnd h hchain⟩
  · have hn := hr.normal
    exact ⟨fun name l => Registry.lineage_eq_ok hn, fun name e h => Registry.lineage_error hn h,
      Registry.lineage_of_parentOrder hn⟩

end PassPlan.Backend
