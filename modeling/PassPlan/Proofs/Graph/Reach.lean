import PassPlan.Pass.Kinds
import PassPlan.Proofs.Graph.WellFormed
/-!
Bypassing keeps the data path. A path of the graph runs along edges between its nodes. Bypassing
a node removes it and joins each of its predecessors to each of its successors, so a path
through the node takes the joining edge instead, and a joining edge stands for the two edges
through the node: between the nodes that remain, reachability is what it was. This holds for any
node; one with no edge to itself leaves no edge naming it. Pruning an operation bypasses its
nodes one after another, so it removes exactly those nodes, keeps reachability between the
others, and a second pruning finds nothing to remove.
-/
namespace PassPlan

namespace Graph

/-- An edge of the graph between two of its nodes. -/
def Link (g : Graph) (u v : String) : Prop := (u, v) ∈ g.edges ∧ u ∈ g.ids ∧ v ∈ g.ids

/-- `v` is reachable from `u` along one or more edges through nodes of the graph. -/
def Reach (g : Graph) : String → String → Prop := Relation.TransGen g.Link

variable {g g' : Graph} {c : String}

theorem mem_ids_bypass (hg : g.bypass c = .ok g') {x : String} : x ∈ g'.ids ↔ x ∈ g.ids ∧ x ≠ c := by
  obtain ⟨-, rfl⟩ := bypass_eq_ok hg
  exact mem_ids_filter

/-- The edges after a bypass: the old ones clear of the node, and one for each pair of edges
through it. -/
theorem mem_edges_bypass (hg : g.bypass c = .ok g') {p s : String} :
    (p, s) ∈ g'.edges ↔
      ((p, s) ∈ g.edges ∧ p ≠ c ∧ s ≠ c) ∨ ((p, c) ∈ g.edges ∧ (c, s) ∈ g.edges) := by
  obtain ⟨-, rfl⟩ := bypass_eq_ok hg
  rw [mem_foldl_joinEdge, mem_joins]
  simp [List.mem_filter]

theorem bypass_of_mem (hc : c ∈ g.ids) : ∃ g', g.bypass c = .ok g' := by
  unfold bypass
  cases hr : g.removeNode c with
  | error e =>
    unfold removeNode at hr
    rw [if_pos (hasNode_iff.2 hc)] at hr
    cases hr
  | ok g₀ => exact ⟨_, rfl⟩

/-- A link after a bypass is a path before it: the edge itself, or the two edges through the
bypassed node. -/
theorem Link.of_bypass (hg : g.bypass c = .ok g') {u v : String} (h : g'.Link u v) : g.Reach u v := by
  obtain ⟨he, hu, hv⟩ := h
  have hc := (bypass_eq_ok hg).1
  rw [mem_ids_bypass hg] at hu hv
  rcases (mem_edges_bypass hg).1 he with ⟨he, -, -⟩ | ⟨hpc, hcs⟩
  · exact .single ⟨he, hu.1, hv.1⟩
  · exact .tail (.single ⟨hpc, hu.1, hc⟩) ⟨hcs, hc, hv.1⟩

/-- A path before a bypass that starts off the node can be followed after it: up to a point off
the node it becomes a path, and when it stands on the node it last came from a node off it,
reached after the bypass, with an edge into the node. -/
theorem Reach.bypass_prefix (hg : g.bypass c = .ok g') {u x : String} (hu : u ∈ g'.ids)
    (h : g.Reach u x) :
    (x ≠ c → g'.Reach u x) ∧
      (x = c → ∃ p, Relation.ReflTransGen g'.Link u p ∧ p ∈ g'.ids ∧ (p, c) ∈ g.edges) := by
  have hids := fun {y : String} => mem_ids_bypass hg (x := y)
  induction h with
  | single hux =>
    obtain ⟨he, -, hx⟩ := hux
    refine ⟨fun hxc => .single ⟨?_, hu, hids.2 ⟨hx, hxc⟩⟩, fun hxc => ⟨u, .refl, hu, hxc ▸ he⟩⟩
    exact (mem_edges_bypass hg).2 (.inl ⟨he, (hids.1 hu).2, hxc⟩)
  | @tail y x _ hyx ih =>
    obtain ⟨he, hy, hx⟩ := hyx
    obtain ⟨ihoff, ihon⟩ := ih
    by_cases hyc : y = c
    · -- the path stood on the node: the joining edge from its last node off it replaces the step
      obtain ⟨p, hup, hp, hpc⟩ := ihon hyc
      subst hyc
      refine ⟨fun hxc => ?_, fun hxc => ⟨p, hup, hp, hpc⟩⟩
      have hpx : g'.Link p x := ⟨(mem_edges_bypass hg).2 (.inr ⟨hpc, he⟩), hp, hids.2 ⟨hx, hxc⟩⟩
      exact Relation.TransGen.tail' hup hpx
    · have huy := ihoff hyc
      refine ⟨fun hxc => .tail huy ⟨?_, hids.2 ⟨hy, hyc⟩, hids.2 ⟨hx, hxc⟩⟩,
        fun hxc => ⟨y, huy.to_reflTransGen, hids.2 ⟨hy, hyc⟩, hxc ▸ he⟩⟩
      exact (mem_edges_bypass hg).2 (.inl ⟨he, hyc, hxc⟩)

theorem Reach.of_bypass (hg : g.bypass c = .ok g') {u v : String} (h : g'.Reach u v) : g.Reach u v := by
  induction h with
  | single huv => exact huv.of_bypass hg
  | tail _ hyv ih => exact ih.trans (hyv.of_bypass hg)

/-- Between the nodes that remain, a bypass keeps reachability exactly. -/
theorem reach_bypass (hg : g.bypass c = .ok g') {u v : String} (hu : u ∈ g'.ids) (hv : v ∈ g'.ids) :
    g'.Reach u v ↔ g.Reach u v :=
  ⟨Reach.of_bypass hg, fun h => (h.bypass_prefix hg hu).1 ((mem_ids_bypass hg).1 hv).2⟩

/-- With no edge from the node to itself, no edge after the bypass names the node. -/
theorem bypass_clear (hg : g.bypass c = .ok g') (hloop : (c, c) ∉ g.edges) :
    ∀ e ∈ g'.edges, e.1 ≠ c ∧ e.2 ≠ c := by
  rintro ⟨p, s⟩ he
  rcases (mem_edges_bypass hg).1 he with ⟨-, hp, hs⟩ | ⟨hpc, hcs⟩
  · exact ⟨hp, hs⟩
  · refine ⟨?_, ?_⟩
    · rintro rfl
      exact hloop hpc
    · rintro rfl
      exact hloop hcs

end Graph

namespace Pass

open PassPlan.Graph

variable {g g' : Graph}

/-- Bypassing distinct nodes in turn never fails, removes exactly those nodes, and keeps
reachability between the nodes that remain. -/
theorem bypassAll_reach : ∀ (ids : List String) {g : Graph}, ids.Nodup → (∀ x ∈ ids, x ∈ g.ids) →
    ∃ g', bypassAll ids g = (g', none) ∧ g'.nodes = g.nodes.filter (·.id ∉ ids) ∧
      ∀ u ∈ g'.ids, ∀ v ∈ g'.ids, g'.Reach u v ↔ g.Reach u v
  | [], g, _, _ => ⟨g, rfl, by simp, fun _ _ _ _ => Iff.rfl⟩
  | c :: ids, g, hnd, hids => by
    obtain ⟨g₁, hg₁⟩ := bypass_of_mem (hids c List.mem_cons_self)
    have hrest : ∀ x ∈ ids, x ∈ g₁.ids := fun x hx =>
      (mem_ids_bypass hg₁).2 ⟨hids x (List.mem_cons_of_mem _ hx),
        fun hxc => (List.nodup_cons.1 hnd).1 (hxc ▸ hx)⟩
    obtain ⟨g', hrun, hnodes, hreach⟩ := bypassAll_reach ids (List.nodup_cons.1 hnd).2 hrest
    have hsub : ∀ x ∈ g'.ids, x ∈ g₁.ids := fun x hx => by
      rw [Graph.ids, hnodes] at hx
      obtain ⟨n, hn, rfl⟩ := List.mem_map.1 hx
      exact List.mem_map_of_mem (List.mem_filter.1 hn).1
    refine ⟨g', ?_, ?_, fun u hu v hv => (hreach u hu v hv).trans
      (reach_bypass hg₁ (hsub u hu) (hsub v hv))⟩
    · simp only [bypassAll, hg₁, hrun]
    · rw [hnodes, (bypass_eq_ok hg₁).2, List.filter_filter]
      apply List.filter_congr
      intro n _
      simp only [List.mem_cons, not_or, Bool.decide_and, decide_not]
      exact Bool.and_comm _ _

/-- In a graph of distinct ids, the nodes off the ids of an operation are those of another
operation. -/
theorem filter_not_mem_nodesByOp (hnd : g.ids.Nodup) (op : String) :
    g.nodes.filter (·.id ∉ g.nodesByOp op) = g.nodes.filter (·.op ≠ op) := by
  apply List.filter_congr
  intro n hn
  rw [decide_eq_decide, nodesByOp]
  constructor
  · intro h hop
    exact h (List.mem_map.2 ⟨n, List.mem_filter.2 ⟨hn, decide_eq_true hop⟩, rfl⟩)
  · intro hop hmem
    -- the node of the operation bearing the id is this node, ids being distinct
    obtain ⟨m, hm, hid⟩ := List.mem_map.1 hmem
    obtain ⟨hm, hmop⟩ := List.mem_filter.1 hm
    exact hop (List.inj_on_of_nodup_map hnd hm hn hid ▸ of_decide_eq_true hmop)

theorem nodup_nodesByOp (hnd : g.ids.Nodup) (op : String) : (g.nodesByOp op).Nodup :=
  hnd.sublist ((List.filter_sublist).map _)

theorem mem_nodesByOp {op x : String} (hx : x ∈ g.nodesByOp op) : x ∈ g.ids := by
  obtain ⟨n, hn, rfl⟩ := List.mem_map.1 hx
  exact List.mem_map_of_mem (List.mem_filter.1 hn).1

theorem nodesByOp_eq_nil {op : String} : g.nodesByOp op = [] ↔ ∀ n ∈ g.nodes, n.op ≠ op := by
  simp [nodesByOp]

/-- A prune reports a change exactly when the operation had nodes, that is when removing them
shrinks the graph. -/
theorem changedOutcome_nodesByOp (g : Graph) (op : String) :
    (changedOutcome (!(g.nodesByOp op).isEmpty) = .transformed ∧
      (g.nodes.filter (·.op ≠ op)).length < g.size) ∨
    (changedOutcome (!(g.nodesByOp op).isEmpty) = .noop ∧
      (g.nodes.filter (·.op ≠ op)).length = g.size) := by
  cases h : g.nodesByOp op with
  | nil =>
    refine .inr ⟨rfl, ?_⟩
    rw [List.filter_eq_self.2 fun n hn => decide_eq_true (nodesByOp_eq_nil.1 h n hn)]
    rfl
  | cons x xs =>
    refine .inl ⟨rfl, List.length_filter_lt_length_iff_exists.2 ?_⟩
    have hx : x ∈ g.nodesByOp op := h ▸ List.mem_cons_self
    obtain ⟨n, hn, -⟩ := List.mem_map.1 hx
    obtain ⟨hn, hnop⟩ := List.mem_filter.1 hn
    exact ⟨n, hn, by simpa using hnop⟩

/-- The `prune` kind builds a pass that bypasses the nodes of its operation in node order,
reporting a change when there was one to bypass. -/
theorem pruneKind_eq_ok {name : String} {p : Params} {P : Pass} (h : pruneKind name p = .ok P) :
    ∃ op, p.string "op" = .ok op ∧ ∀ g g',
      bypassAll (g.nodesByOp op) g = (g', none) → (P.run g).model = g' ∧
      (P.run g).fault = none ∧ (P.run g).outcome = changedOutcome !(g.nodesByOp op).isEmpty := by
  obtain ⟨op, hop, h⟩ := Flow.Except.bind_eq_ok.1 h
  cases h
  exact ⟨op, hop, fun g g' hr => by simp [hr]⟩

theorem build_prune {name : String} {p : Params} {P : Pass}
    (h : Kinds.builtin.build name "prune" p = .ok P) : pruneKind name p = .ok P := by
  have hk : Kinds.builtin.factories.lookup "prune" = some pruneKind := rfl
  unfold Kinds.build at h
  rw [hk] at h
  exact Flow.Except.mapError_eq_ok.1 h

section Prune

variable {name op : String} {p : Params} {P : Pass}

/-- Pruning a graph of distinct ids never fails, leaves the nodes of other operations, keeps
reachability between them, and reports whether it removed any. -/
theorem prune_run (hP : pruneKind name p = .ok P) (hop : p.string "op" = .ok op) (hnd : g.ids.Nodup) :
    let r := P.run g
    r.fault = none ∧ r.model.nodes = g.nodes.filter (·.op ≠ op) ∧
      (∀ u ∈ r.model.ids, ∀ v ∈ r.model.ids, r.model.Reach u v ↔ g.Reach u v) ∧
      r.outcome = changedOutcome !(g.nodesByOp op).isEmpty := by
  obtain ⟨op', hop', hrun⟩ := pruneKind_eq_ok hP
  obtain rfl : op = op' := Except.ok.inj (hop.symm.trans hop')
  obtain ⟨g', hb, hnodes, hreach⟩ := bypassAll_reach (g.nodesByOp op) (nodup_nodesByOp hnd op)
    (fun x hx => mem_nodesByOp hx)
  obtain ⟨hmodel, hfault, hout⟩ := hrun g g' hb
  intro r
  have hr : r.model = g' := hmodel
  rw [hr, hnodes, filter_not_mem_nodesByOp hnd]
  exact ⟨hfault, rfl, hreach, hout⟩

/-- Pruning a graph with no node of the operation leaves it as it is and reports no change. -/
theorem prune_run_none (hP : pruneKind name p = .ok P) (hop : p.string "op" = .ok op)
    (hnone : ∀ n ∈ g.nodes, n.op ≠ op) :
    (P.run g).fault = none ∧ (P.run g).outcome = .noop ∧ (P.run g).model = g := by
  obtain ⟨op', hop', hrun⟩ := pruneKind_eq_ok hP
  obtain rfl : op = op' := Except.ok.inj (hop.symm.trans hop')
  have he : g.nodesByOp op = [] := nodesByOp_eq_nil.2 hnone
  obtain ⟨hmodel, hfault, hout⟩ := hrun g g (by rw [he]; rfl)
  rw [he] at hout
  exact ⟨hfault, hout, hmodel⟩

end Prune

end Pass

/-- Bypassing keeps the data path, and pruning is its closure. Bypassing a node of a well-formed
graph with no edge to itself succeeds, removes the node keeping the others in order, leaves the
graph well formed with no edge naming the node, and keeps reachability between the nodes that
remain. The prune pass of an operation, on any well-formed graph, never fails, removes exactly
the nodes of the operation, keeps reachability between the nodes that remain, reports a change
exactly when it removed a node and no change otherwise, and run again reports no change and
changes nothing. -/
theorem bypass_prune_keep_paths :
    (∀ (g : Graph) (c : String), g.WellFormed → c ∈ g.ids → (c, c) ∉ g.edges →
      ∃ g', g.bypass c = .ok g' ∧ g'.nodes = g.nodes.filter (·.id ≠ c) ∧
        (∀ e ∈ g'.edges, e.1 ≠ c ∧ e.2 ≠ c) ∧ g'.WellFormed ∧
        ∀ u ∈ g'.ids, ∀ v ∈ g'.ids, g'.Reach u v ↔ g.Reach u v) ∧
    ∀ (name : String) (p : Pass.Params) (P : Pass) (op : String),
      Pass.Kinds.builtin.build name "prune" p = .ok P → p.string "op" = .ok op →
      ∀ g : Graph, g.WellFormed →
        let r := P.run g
        r.fault = none ∧ r.model.nodes = g.nodes.filter (·.op ≠ op) ∧
        (∀ u ∈ r.model.ids, ∀ v ∈ r.model.ids, r.model.Reach u v ↔ g.Reach u v) ∧
        ((r.outcome = .transformed ∧ r.model.size < g.size) ∨
          (r.outcome = .noop ∧ r.model.size = g.size)) ∧
        (P.run r.model).fault = none ∧ (P.run r.model).outcome = .noop ∧
          (P.run r.model).model = r.model := by
  refine ⟨fun g c hwf hc hloop => ?_, fun name p P op hP hop g hwf => ?_⟩
  · obtain ⟨g', hg'⟩ := Graph.bypass_of_mem hc
    refine ⟨g', hg', by rw [(Graph.bypass_eq_ok hg').2], Graph.bypass_clear hg' hloop,
      hwf.bypass hloop hg', fun u hu v hv => Graph.reach_bypass hg' hu hv⟩
  · intro r
    have hprune := Pass.build_prune hP
    obtain ⟨hfault, hnodes, hreach, hout⟩ := Pass.prune_run hprune hop hwf.ids_nodup
    -- what is left has no node of the operation, so the second run does nothing
    have hnone : ∀ n ∈ r.model.nodes, n.op ≠ op := fun n hn => by
      rw [hnodes] at hn
      simpa using (List.mem_filter.1 hn).2
    obtain ⟨hfault₂, hout₂, hmodel₂⟩ := Pass.prune_run_none hprune hop hnone
    have hsize : r.model.size = (g.nodes.filter (·.op ≠ op)).length := by rw [Graph.size, hnodes]
    refine ⟨hfault, hnodes, hreach, ?_, hfault₂, hout₂, hmodel₂⟩
    rw [hout, hsize]
    exact Pass.changedOutcome_nodesByOp g op

end PassPlan
