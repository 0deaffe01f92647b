import PassPlan.Pass.Kinds
import PassPlan.Proofs.Graph.WellFormed
import Mathlib
/-!
The attribute passes tell the truth about what they change, and a second run changes nothing.
`annotate` sets an attribute on the nodes where it does not already hold the value, `stamp` sets
a graph attribute unless it holds the value, both judged by deep equality. Deep equality is
reflexive on values with no NaN in them, so with such a value a pass changes an attribute
exactly where the attribute did not hold the value, reports a change exactly when the graph
changed, and leaves every attribute it works on holding the value: the second run finds nothing
to do.
-/
namespace PassPlan

/-- A float that is no NaN equals itself. -/
theorem Float.beq_self_of_not_isNaN (f : Float) (h : f.isNaN = false) : (f == f) = true := by
  have hnan : f ≠ Float.nan := by simpa using h
  exact Float.beq_iff_ne_nan_and_eq.2 ⟨hnan, hnan, .inl rfl⟩

namespace Value

mutual
/-- Whether a value holds no NaN, at any depth. -/
def nanFree : Value → Bool
  | float f => !f.isNaN
  | list xs => nanFreeList xs
  | dict kvs => nanFreeDict kvs
  | table kvs => nanFreeTable kvs
  | _ => true
def nanFreeList : List Value → Bool
  | [] => true
  | x :: xs => nanFree x && nanFreeList xs
def nanFreeDict : List (String × Value) → Bool
  | [] => true
  | (_, x) :: xs => nanFree x && nanFreeDict xs
def nanFreeTable : List (Value × Value) → Bool
  | [] => true
  | (k, x) :: xs => nanFree k && nanFree x && nanFreeTable xs
end

mutual
/-- Deep equality is reflexive on values with no NaN. -/
theorem deepEq_self : ∀ v : Value, v.nanFree = true → v.deepEq v = true
  | null, _ => by simp [deepEq]
  | bool b, _ => by simp [deepEq]
  | int i, _ => by simp [deepEq]
  | uint n, _ => by simp [deepEq]
  | float f, h => by
    rw [deepEq]
    exact Float.beq_self_of_not_isNaN f (by simpa [nanFree] using h)
  | str s, _ => by simp [deepEq]
  | time t, _ => by simp [deepEq]
  | list xs, h => by
    rw [deepEq]
    exact listEq_self xs (by simpa [nanFree] using h)
  | dict kvs, h => by
    rw [deepEq]
    exact dictEq_self kvs (by simpa [nanFree] using h)
  | table kvs, h => by
    rw [deepEq]
    exact tableEq_self kvs (by simpa [nanFree] using h)
theorem listEq_self : ∀ xs : List Value, nanFreeList xs = true → listEq xs xs = true
  | [], _ => by simp [listEq]
  | x :: xs, h => by
    simp only [nanFreeList, Bool.and_eq_true] at h
    simp only [listEq, deepEq_self x h.1, listEq_self xs h.2, Bool.and_self]
theorem dictEq_self : ∀ kvs : List (String × Value), nanFreeDict kvs = true → dictEq kvs kvs = true
  | [], _ => by simp [dictEq]
  | (k, x) :: kvs, h => by
    simp only [nanFreeDict, Bool.and_eq_true] at h
    simp only [dictEq, beq_self_eq_true, deepEq_self x h.1, dictEq_self kvs h.2, Bool.and_self]
theorem tableEq_self : ∀ kvs : List (Value × Value), nanFreeTable kvs = true → tableEq kvs kvs = true
  | [], _ => by simp [tableEq]
  | (k, x) :: kvs, h => by
    simp only [nanFreeTable, Bool.and_eq_true] at h
    simp only [tableEq, deepEq_self k h.1.1, deepEq_self x h.1.2, tableEq_self kvs h.2,
      Bool.and_self]
end

end Value

namespace Attrs

@[simp] theorem get?_set_self (a : Attrs) (k : String) (v : Value) : (a.set k v).get? k = some v := by
  induction a with
  | nil => simp [set, get?]
  | cons e rest ih =>
    obtain ⟨k', v'⟩ := e
    unfold set
    split_ifs with heq hlt
    · simp [get?]
    · simp [get?]
    · have hne : (k == k') = false := beq_eq_false_iff_ne.2 heq
      simpa [get?, List.lookup_cons, hne] using ih

end Attrs

namespace Graph

variable {g g' : Graph} {id key : String} {v : Value}

/-- Two graphs with the same nodes, in the same order with the same operations, and the same
edges: they can differ in attributes only. -/
def SameShape (g h : Graph) : Prop :=
  h.nodes.map (fun x => (x.id, x.op)) = g.nodes.map (fun x => (x.id, x.op)) ∧ h.edges = g.edges

theorem SameShape.refl (g : Graph) : g.SameShape g := ⟨rfl, rfl⟩

theorem SameShape.trans {h k : Graph} (h₁ : g.SameShape h) (h₂ : h.SameShape k) : g.SameShape k :=
  ⟨h₂.1.trans h₁.1, h₂.2.trans h₁.2⟩

theorem SameShape.ids {h : Graph} (hs : g.SameShape h) : h.ids = g.ids := by
  have := congrArg (List.map Prod.fst) hs.1
  simpa [Graph.ids, List.map_map, Function.comp_def] using this

theorem SameShape.nodesByOp {h : Graph} (hs : g.SameShape h) (op : String) :
    h.nodesByOp op = g.nodesByOp op := by
  have := congrArg (fun l => (l.filter (·.2 = op)).map Prod.fst) hs.1
  simpa [Graph.nodesByOp, List.filter_map, List.map_map, Function.comp_def] using this

theorem setAttr_eq_ok (hg : g.setAttr id key v = .ok g') :
    id ∈ g.ids ∧ g' = { g with nodes := g.nodes.map fun n =>
      if n.id = id then { n with attrs := n.attrs.set key v } else n } := by
  unfold setAttr updateNode at hg
  split at hg
  · next hn =>
    cases hg
    exact ⟨hasNode_iff.1 hn, rfl⟩
  · cases hg

theorem setAttr_of_mem (key : String) (v : Value) (h : id ∈ g.ids) :
    ∃ g', g.setAttr id key v = .ok g' := by
  unfold setAttr updateNode
  rw [if_pos (hasNode_iff.2 h)]
  exact ⟨_, rfl⟩

theorem SameShape.setAttr (hg : g.setAttr id key v = .ok g') : g.SameShape g' := by
  obtain ⟨-, rfl⟩ := setAttr_eq_ok hg
  refine ⟨?_, rfl⟩
  simp only [List.map_map]
  apply List.map_congr_left
  intro n _
  by_cases hn : n.id = id <;> simp [hn]

/-- After setting an attribute, the node under any id is the old one, set when it bears the
id. -/
theorem node?_setAttr (hg : g.setAttr id key v = .ok g') (x : String) :
    g'.node? x = (g.node? x).map fun n =>
      if n.id = id then { n with attrs := n.attrs.set key v } else n := by
  obtain ⟨-, rfl⟩ := setAttr_eq_ok hg
  simp only [node?, List.find?_map]
  congr 2
  funext n
  by_cases hn : n.id = id <;> simp [hn]

theorem attr?_setAttr_self (hg : g.setAttr id key v = .ok g') : g'.attr? id key = some v := by
  obtain ⟨hid, -⟩ := setAttr_eq_ok hg
  rw [attr?, node?_setAttr hg]
  cases hn : g.node? id with
  | none =>
    obtain ⟨x, hx, hxid⟩ := List.mem_map.1 hid
    exact absurd hxid (by simpa using List.find?_eq_none.1 hn x hx)
  | some n =>
    have hid' : n.id = id := by simpa using List.find?_some hn
    simp [hid']

theorem attr?_setAttr_ne {x k : String} (hg : g.setAttr id key v = .ok g') (hx : x ≠ id) :
    g'.attr? x k = g.attr? x k := by
  rw [attr?, attr?, node?_setAttr hg]
  cases hn : g.node? x with
  | none => rfl
  | some n =>
    have hid : n.id ≠ id := by
      have : n.id = x := by simpa using List.find?_some hn
      rw [this]
      exact hx
    simp [hid]

end Graph

namespace Pass

open PassPlan.Graph

section Annotate

variable {k : String} {v : Value} {g h h' : Graph} {n n' : Nat} {id : String}

/-- The attribute of a node holds the value, as deep equality judges. -/
def Settled (key : String) (v : Value) (g : Graph) (id : String) : Prop :=
  ∃ c, g.attr? id key = some c ∧ c.deepEq v = true

theorem settled_iff_any : Settled k v h id ↔ (h.attr? id k).any (·.deepEq v) = true := by
  unfold Settled
  cases h.attr? id k <;> simp

/-- A node of the graph is passed over when settled, and set and counted otherwise; the graph
holds it, so the setting is never refused. -/
theorem annotateNodes_cons (hid : id ∈ h.ids) (ids : List String) :
    (Settled k v h id ∧ annotateNodes (id :: ids) k v h n = annotateNodes ids k v h n) ∨
    (¬ Settled k v h id ∧ ∃ h', h.setAttr id k v = .ok h' ∧
      annotateNodes (id :: ids) k v h n = annotateNodes ids k v h' (n + 1)) := by
  obtain ⟨h', hset⟩ := setAttr_of_mem k v hid
  by_cases hs : Settled k v h id
  · refine .inl ⟨hs, ?_⟩
    simp only [annotateNodes, settled_iff_any.1 hs, if_true]
  · refine .inr ⟨hs, h', hset, ?_⟩
    simp only [annotateNodes, settled_iff_any.not.1 hs, Bool.false_eq_true, if_false, hset]

/-- Setting the attribute to the value keeps every other node's reading, and settles the node. -/
theorem Settled.setAttr (hv : v.nanFree = true) {x : String} (hs : Settled k v h x)
    (hset : h.setAttr id k v = .ok h') : Settled k v h' x := by
  by_cases hx : x = id
  · subst hx
    exact ⟨v, attr?_setAttr_self hset, Value.deepEq_self v hv⟩
  · obtain ⟨c, hc, hd⟩ := hs
    exact ⟨c, (attr?_setAttr_ne hset hx).trans hc, hd⟩

theorem attr?_setAttr_of_eq {x : String} (hx : h.attr? x k = some v)
    (hset : h.setAttr id k v = .ok h') : h'.attr? x k = some v := by
  by_cases hxi : x = id
  · subst hxi
    exact attr?_setAttr_self hset
  · exact (attr?_setAttr_ne hset hxi).trans hx

/-- An annotation over nodes of the graph is never refused, and keeps the graph's shape and
every attribute already holding the value. -/
theorem annotateNodes_keeps : ∀ (ids : List String) {h : Graph} {n : Nat}, (∀ x ∈ ids, x ∈ h.ids) →
    let r := annotateNodes ids k v h n
    r.2.2 = none ∧ h.SameShape r.1 ∧ n ≤ r.2.1 ∧ ∀ x, h.attr? x k = some v → r.1.attr? x k = some v
  | [], h, n, _ => ⟨rfl, SameShape.refl h, le_rfl, fun _ hx => hx⟩
  | id :: ids, h, n, hids => by
    rcases annotateNodes_cons (k := k) (v := v) (n := n) (hids id List.mem_cons_self) ids with
      ⟨-, hstep⟩ | ⟨-, h₁, hset, hstep⟩
    · rw [hstep]
      exact annotateNodes_keeps ids (fun x hx => hids x (List.mem_cons_of_mem _ hx))
    · rw [hstep]
      have hshape := SameShape.setAttr hset
      obtain ⟨hnone, hs, hn, hx⟩ := annotateNodes_keeps ids (h := h₁) (n := n + 1)
        (fun x hx => hshape.ids ▸ hids x (List.mem_cons_of_mem _ hx))
      exact ⟨hnone, hshape.trans hs, by omega, fun x hx' => hx x (attr?_setAttr_of_eq hx' hset)⟩

section Run

variable (hv : v.nanFree = true)
include hv

/-- An annotation over nodes of the graph counts a change exactly when it changed an
attribute: with no count the graph is as it was, and with one some attribute now holds the value
that did not. -/
theorem annotateNodes_change : ∀ (ids : List String) {h : Graph} {n : Nat}, (∀ x ∈ ids, x ∈ h.ids) →
    let r := annotateNodes ids k v h n
    (r.2.1 = n ∧ r.1 = h) ∨ (n < r.2.1 ∧ ∃ x, h.attr? x k ≠ some v ∧ r.1.attr? x k = some v)
  | [], h, n, _ => .inl ⟨rfl, rfl⟩
  | id :: ids, h, n, hids => by
    have hrest : ∀ x ∈ ids, x ∈ h.ids := fun x hx => hids x (List.mem_cons_of_mem _ hx)
    rcases annotateNodes_cons (k := k) (v := v) (n := n) (hids id List.mem_cons_self) ids with
      ⟨-, hstep⟩ | ⟨hns, h₁, hset, hstep⟩
    · rw [hstep]
      exact annotateNodes_change ids hrest
    · rw [hstep]
      have hshape := SameShape.setAttr hset
      have hrest₁ : ∀ x ∈ ids, x ∈ h₁.ids := fun x hx => hshape.ids ▸ hrest x hx
      -- the node just set now holds the value and did not before; the rest keeps it so
      have hold : h.attr? id k ≠ some v := fun he => hns ⟨v, he, Value.deepEq_self v hv⟩
      obtain ⟨-, -, hn, hkeep⟩ := annotateNodes_keeps ids hrest₁ (n := n + 1)
      exact .inr ⟨by omega, id, hold, hkeep id (attr?_setAttr_self hset)⟩

/-- After an annotation every node it went over is settled. -/
theorem annotateNodes_settles : ∀ (ids : List String) {h : Graph} {n : Nat}, (∀ x ∈ ids, x ∈ h.ids) →
    ∀ x, (x ∈ ids ∨ Settled k v h x) → Settled k v (annotateNodes ids k v h n).1 x
  | [], h, n, _, x, hx => hx.resolve_left (List.not_mem_nil)
  | id :: ids, h, n, hids, x, hx => by
    have hrest : ∀ x ∈ ids, x ∈ h.ids := fun x hx => hids x (List.mem_cons_of_mem _ hx)
    rcases annotateNodes_cons (k := k) (v := v) (n := n) (hids id List.mem_cons_self) ids with
      ⟨hs, hstep⟩ | ⟨-, h₁, hset, hstep⟩
    · rw [hstep]
      refine annotateNodes_settles ids hrest x ?_
      rcases hx with hx | hx
      · rcases List.mem_cons.1 hx with rfl | hx
        · exact .inr hs
        · exact .inl hx
      · exact .inr hx
    · rw [hstep]
      have hshape := SameShape.setAttr hset
      refine annotateNodes_settles ids (fun y hy => hshape.ids ▸ hrest y hy) x ?_
      rcases hx with hx | hx
      · rcases List.mem_cons.1 hx with rfl | hx
        · exact .inr ⟨v, attr?_setAttr_self hset, Value.deepEq_self v hv⟩
        · exact .inl hx
      · exact .inr (hx.setAttr hv hset)

end Run

/-- An annotation over settled nodes passes over all of them. -/
theorem annotateNodes_settled : ∀ (ids : List String) {h : Graph} {n : Nat}, (∀ x ∈ ids, x ∈ h.ids) →
    (∀ x ∈ ids, Settled k v h x) → annotateNodes ids k v h n = (h, n, none)
  | [], _, _, _, _ => rfl
  | id :: ids, h, n, hids, hs => by
    rcases annotateNodes_cons (k := k) (v := v) (n := n) (hids id List.mem_cons_self) ids with
      ⟨-, hstep⟩ | ⟨hns, -⟩
    · rw [hstep]
      exact annotateNodes_settled ids (fun x hx => hids x (List.mem_cons_of_mem _ hx))
        (fun x hx => hs x (List.mem_cons_of_mem _ hx))
    · exact absurd (hs id List.mem_cons_self) hns

theorem mem_matchNodes {op x : String} (hx : x ∈ matchNodes g op) : x ∈ g.ids := by
  unfold matchNodes at hx
  split at hx
  · exact hx
  · obtain ⟨n, hn, rfl⟩ := List.mem_map.1 hx
    exact List.mem_map_of_mem (List.mem_filter.1 hn).1

theorem matchNodes_of_sameShape (hs : g.SameShape h) (op : String) :
    matchNodes h op = matchNodes g op := by
  unfold matchNodes
  rw [hs.ids, hs.nodesByOp]

/-- Annotating the nodes of an operation (all nodes for none) with a NaN-free value is never
refused, changes attributes only, counts a change exactly when the graph changed, and leaves
nothing for a second annotation to do. -/
theorem annotateNodes_reports (hv : v.nanFree = true) {op : String} {g' : Graph}
    {f : Option GraphError} (hr : annotateNodes (matchNodes g op) k v g 0 = (g', n, f)) :
    f = none ∧ g.SameShape g' ∧ ((0 < n ∧ g' ≠ g) ∨ (n = 0 ∧ g' = g)) ∧
      annotateNodes (matchNodes g' op) k v g' 0 = (g', 0, none) := by
  have hids : ∀ x ∈ matchNodes g op, x ∈ g.ids := fun _ hx => mem_matchNodes hx
  have hkeeps := annotateNodes_keeps (k := k) (v := v) (n := 0) _ hids
  have hchange := annotateNodes_change (k := k) hv (n := 0) _ hids
  have hsettles := annotateNodes_settles (k := k) hv (n := 0) _ hids
  rw [hr] at hkeeps hchange hsettles
  obtain ⟨hf, hshape, -, -⟩ := hkeeps
  refine ⟨hf, hshape, ?_, ?_⟩
  · rcases hchange with ⟨hn, hg⟩ | ⟨hn, x, hold, hnew⟩
    · exact .inr ⟨hn, hg⟩
    · -- some attribute now holds the value that did not
      refine .inl ⟨hn, fun he => hold ?_⟩
      rw [← hnew, he]
  · rw [matchNodes_of_sameShape hshape]
    apply annotateNodes_settled
    · exact fun x hx => hshape.ids ▸ hids x hx
    · exact fun x hx => hsettles x (.inl hx)

end Annotate

/-- The `annotate` kind builds a pass that annotates the nodes of its operation with its value;
an annotation that is not refused ends in the count of its changes and no fault. -/
theorem annotateKind_eq_ok {name : String} {p : Params} {P : Pass} (h : annotateKind name p = .ok P) :
    ∃ key v op, p.value "value" = .ok v ∧ ∀ g g' n,
      annotateNodes (matchNodes g op) key v g 0 = (g', n, none) →
      (P.run g).outcome = changedOutcome (decide (n > 0)) ∧ (P.run g).model = g' ∧
        (P.run g).fault = none := by
  obtain ⟨key, -, h⟩ := Flow.Except.bind_eq_ok.1 h
  obtain ⟨v, hv, h⟩ := Flow.Except.bind_eq_ok.1 h
  obtain ⟨op, -, h⟩ := Flow.Except.bind_eq_ok.1 h
  cases h
  exact ⟨key, v, op, hv, fun g g' n hr => by simp [hr]⟩

/-- The `stamp` kind builds a pass that passes over a graph attribute already holding its value
and sets it otherwise, never faulting. -/
theorem stampKind_eq_ok {name : String} {p : Params} {P : Pass} (h : stampKind name p = .ok P) :
    ∃ key v, p.value "value" = .ok v ∧ ∀ g,
      (∃ c, g.graphAttr? key = some c ∧ c.deepEq v = true ∧ P.run g = ⟨.noop, g, none, []⟩) ∨
      ((∀ c, g.graphAttr? key = some c → c.deepEq v = false) ∧
        P.run g = ⟨.transformed, g.setGraphAttr key v, none, []⟩) := by
  obtain ⟨key, -, h⟩ := Flow.Except.bind_eq_ok.1 h
  obtain ⟨v, hv, h⟩ := Flow.Except.bind_eq_ok.1 h
  cases h
  refine ⟨key, v, hv, fun g => ?_⟩
  cases ha : g.graphAttr? key with
  | none => exact .inr ⟨fun c hc => (by cases hc), by simp [ha]⟩
  | some c =>
    by_cases hc : c.deepEq v = true
    · exact .inl ⟨c, rfl, hc, by simp [ha, hc]⟩
    · refine .inr ⟨fun c' hc' => ?_, by simp [ha, hc]⟩
      cases hc'
      simpa using hc

/-- Stamping a graph attribute with a NaN-free value changes the graph attributes only, changes
them exactly when it reports a change, and leaves the attribute holding the value. -/
theorem stamp_reports {key : String} {v : Value} (hv : v.nanFree = true) {g : Graph}
    (hnot : ∀ c, g.graphAttr? key = some c → c.deepEq v = false) :
    g.SameShape (g.setGraphAttr key v) ∧ g.setGraphAttr key v ≠ g ∧
      (g.setGraphAttr key v).graphAttr? key = some v := by
  have hset : (g.setGraphAttr key v).graphAttr? key = some v := Attrs.get?_set_self _ _ _
  refine ⟨⟨rfl, rfl⟩, fun he => ?_, hset⟩
  -- the attribute did not hold the value before
  have hg := he ▸ hset
  have hc := hnot v hg
  rw [Value.deepEq_self v hv] at hc
  cases hc

theorem build_annotate {name : String} {p : Params} {P : Pass}
    (h : Kinds.builtin.build name "annotate" p = .ok P) : annotateKind name p = .ok P := by
  have hk : Kinds.builtin.factories.lookup "annotate" = some annotateKind := rfl
  unfold Kinds.build at h
  rw [hk] at h
  exact Flow.Except.mapError_eq_ok.1 h

theorem build_stamp {name : String} {p : Params} {P : Pass}
    (h : Kinds.builtin.build name "stamp" p = .ok P) : stampKind name p = .ok P := by
  have hk : Kinds.builtin.factories.lookup "stamp" = some stampKind := rfl
  unfold Kinds.build at h
  rw [hk] at h
  exact Flow.Except.mapError_eq_ok.1 h

/-- A pass of the `annotate` or `stamp` kind, with a NaN-free value, on any graph: it changes
attributes only and never faults, it reports a change exactly when the graph changed and no
change otherwise, and running it again on what it left reports no change and changes nothing. -/
theorem attributePass_truthful_idempotent (name kind : String) (p : Params) (P : Pass) (v : Value)
    (hP : Kinds.builtin.build name kind p = .ok P) (hkind : kind = "annotate" ∨ kind = "stamp")
    (hv : p.value "value" = .ok v) (hfree : v.nanFree = true) (g : Graph) :
    let r := P.run g
    g.SameShape r.model ∧ r.fault = none ∧
      ((r.outcome = .transformed ∧ r.model ≠ g) ∨ (r.outcome = .noop ∧ r.model = g)) ∧
      (P.run r.model).fault = none ∧ (P.run r.model).outcome = .noop ∧
        (P.run r.model).model = r.model := by
  intro r
  rcases hkind with rfl | rfl
  · obtain ⟨key, v', op, hv', hrun⟩ := annotateKind_eq_ok (build_annotate hP)
    obtain rfl : v = v' := Except.ok.inj (hv.symm.trans hv')
    obtain ⟨g', n, f, hr⟩ : ∃ g' n f, annotateNodes (matchNodes g op) key v g 0 = (g', n, f) :=
      ⟨_, _, _, rfl⟩
    obtain ⟨rfl, hshape, hchange, hagain⟩ := annotateNodes_reports hfree hr
    obtain ⟨hout, hmodel, hfault⟩ := hrun g g' n hr
    obtain ⟨hout₂, hmodel₂, hfault₂⟩ := hrun g' g' 0 hagain
    have hrm : r.model = g' := hmodel
    rw [hrm]
    refine ⟨hshape, hfault, ?_, hfault₂, by simpa [changedOutcome] using hout₂, hmodel₂⟩
    rw [hout]
    rcases hchange with ⟨hn, hne⟩ | ⟨hn, heq⟩
    · exact .inl ⟨by simp [changedOutcome, hn], hne⟩
    · exact .inr ⟨by simp [changedOutcome, hn], heq⟩
  · obtain ⟨key, v', hv', hrun⟩ := stampKind_eq_ok (build_stamp hP)
    obtain rfl : v = v' := Except.ok.inj (hv.symm.trans hv')
    -- a graph whose attribute holds the value is passed over
    have hsettled : ∀ h : Graph, h.graphAttr? key = some v → P.run h = ⟨.noop, h, none, []⟩ := by
      intro h hh
      rcases hrun h with ⟨_, _, _, hr⟩ | ⟨hnot, -⟩
      · exact hr
      · have hc := hnot v hh
        rw [Value.deepEq_self v hfree] at hc
        cases hc
    rcases hrun g with ⟨-, -, -, hr⟩ | ⟨hnot, hr⟩
    · have hrg : r = ⟨.noop, g, none, []⟩ := hr
      have hr₂ : P.run r.model = ⟨.noop, g, none, []⟩ := by
        rw [hrg]
        exact hr
      rw [hr₂, hrg]
      exact ⟨SameShape.refl g, rfl, .inr ⟨rfl, rfl⟩, rfl, rfl, rfl⟩
    · obtain ⟨hshape, hne, hset⟩ := stamp_reports hfree hnot
      have hrg : r = ⟨.transformed, g.setGraphAttr key v, none, []⟩ := hr
      have hr₂ : P.run r.model = ⟨.noop, g.setGraphAttr key v, none, []⟩ := by
        rw [hrg]
        exact hsettled _ hset
      rw [hr₂, hrg]
      exact ⟨hshape, rfl, .inl ⟨rfl, hne⟩, rfl, rfl, rfl⟩

/-- Annotate `level = 3` on every node. -/
def levelParams : Params := [("key", .str "level"), ("value", .int 3)]

/-- The pass the `annotate` kind builds from `levelParams`. -/
def levelPass : Pass :=
  match Kinds.builtin.build "tag" "annotate" levelParams with
  | .ok P => P
  | .error _ => noop "tag"

/-- Two nodes, one already at level 3. -/
def levelGraph : Graph :=
  { nodes := [⟨"a", "Conv", [("level", .int 3)]⟩, ⟨"b", "Relu", []⟩], edges := [("a", "b")] }

theorem attributePass_truthful_idempotent_level :
    Kinds.builtin.build "tag" "annotate" levelParams = .ok levelPass ∧
    ("annotate" = "annotate" ∨ "annotate" = "stamp") ∧ levelParams.value "value" = .ok (.int 3) ∧
    (Value.int 3).nanFree = true ∧
    let r := levelPass.run levelGraph
    levelGraph.SameShape r.model ∧ r.fault = none ∧
      ((r.outcome = .transformed ∧ r.model ≠ levelGraph) ∨ (r.outcome = .noop ∧ r.model = levelGraph)) ∧
      (levelPass.run r.model).fault = none ∧ (levelPass.run r.model).outcome = .noop ∧
        (levelPass.run r.model).model = r.model :=
  have hP : Kinds.builtin.build "tag" "annotate" levelParams = .ok levelPass := by
    with_unfolding_all rfl
  ⟨hP, .inl rfl, rfl, rfl, attributePass_truthful_idempotent "tag" "annotate" levelParams levelPass
    (.int 3) hP (.inl rfl) rfl rfl levelGraph⟩

end Pass
end PassPlan
