import PassPlan.Model.File
import PassPlan.Proofs.Flow.Registry
/-!
The graph's representation invariant: node ids are distinct, every edge joins two nodes of the
graph, and no edge is kept twice. Adding a node under a fresh id, adding an edge between nodes,
removing an edge, removing a node with the edges that touch it, and changing attributes keep
it, a failed edit changes nothing, and loading a model only adds nodes, attributes, edges and
graph attributes. Bypassing a node keeps it too, unless the node has an edge to itself: the node
is then its own predecessor and successor, and the edges joining its predecessors to its
successors are added after it is gone, naming it. A run from an empty or a loaded graph keeps
the graph well formed at every step exactly when it never bypasses such a node.
-/
namespace PassPlan

namespace Graph

/-- A well-formed graph: node ids distinct, every edge between nodes of the graph, no edge
twice. -/
structure WellFormed (g : Graph) : Prop where
  ids_nodup : g.ids.Nodup
  closed : ∀ e ∈ g.edges, e.1 ∈ g.ids ∧ e.2 ∈ g.ids
  edges_nodup : g.edges.Nodup

variable {g g' : Graph} {id : String}

theorem hasNode_iff : g.hasNode id = true ↔ id ∈ g.ids := by
  simp [hasNode, ids]

theorem mem_predecessors {p : String} : p ∈ g.predecessors id ↔ (p, id) ∈ g.edges := by
  simp [predecessors]

theorem mem_successors {s : String} : s ∈ g.successors id ↔ (id, s) ∈ g.edges := by
  simp [successors]

/-! ### Joining edges -/

section Join

variable {es js : List (String × String)} {e j : String × String}

theorem mem_joinEdge : e ∈ joinEdge es j ↔ e ∈ es ∨ e = j := by
  unfold joinEdge
  split
  · next hj =>
    refine ⟨.inl, ?_⟩
    rintro (he | rfl)
    · exact he
    · exact hj
  · simp

theorem nodup_joinEdge (h : es.Nodup) : (joinEdge es j).Nodup := by
  unfold joinEdge
  split
  · exact h
  · next hj => exact h.append (List.nodup_singleton j) (List.disjoint_singleton.2 hj)

theorem mem_foldl_joinEdge : ∀ {js es : List (String × String)},
    e ∈ js.foldl joinEdge es ↔ e ∈ es ∨ e ∈ js
  | [], _ => by simp
  | j :: js, es => by
    rw [List.foldl_cons, mem_foldl_joinEdge, mem_joinEdge, List.mem_cons]
    tauto

theorem nodup_foldl_joinEdge : ∀ (js : List (String × String)) {es : List (String × String)},
    es.Nodup → (js.foldl joinEdge es).Nodup
  | [], _, h => h
  | _ :: js, _, h => nodup_foldl_joinEdge js (nodup_joinEdge h)

end Join

/-! ### What each edit keeps -/

theorem WellFormed.join (h : g.WellFormed) (js : List (String × String))
    (hjs : ∀ e ∈ js, e.1 ∈ g.ids ∧ e.2 ∈ g.ids) :
    ({ g with edges := js.foldl joinEdge g.edges } : Graph).WellFormed where
  ids_nodup := h.ids_nodup
  closed e he := by
    rcases mem_foldl_joinEdge.1 he with he | he
    · exact h.closed e he
    · exact hjs e he
  edges_nodup := nodup_foldl_joinEdge js h.edges_nodup

theorem WellFormed.sub (h : g.WellFormed) (hids : g'.ids = g.ids) (hedges : List.Sublist g'.edges g.edges) :
    g'.WellFormed where
  ids_nodup := hids ▸ h.ids_nodup
  closed e he := hids ▸ h.closed e (hedges.subset he)
  edges_nodup := h.edges_nodup.sublist hedges

theorem mem_ids_filter {x : String} :
    x ∈ (g.nodes.filter (·.id ≠ id)).map (·.id) ↔ x ∈ g.ids ∧ x ≠ id := by
  simp only [ids, List.mem_map, List.mem_filter, decide_eq_true_eq]
  constructor
  · rintro ⟨n, ⟨hn, hne⟩, rfl⟩
    exact ⟨⟨n, hn, rfl⟩, hne⟩
  · rintro ⟨⟨n, hn, rfl⟩, hne⟩
    exact ⟨n, ⟨hn, hne⟩, rfl⟩

theorem WellFormed.removed (h : g.WellFormed) (id : String) :
    ({ g with nodes := g.nodes.filter (·.id ≠ id)
              edges := g.edges.filter fun e => e.1 ≠ id && e.2 ≠ id } : Graph).WellFormed where
  ids_nodup := h.ids_nodup.sublist ((List.filter_sublist).map _)
  closed e he := by
    simp only [List.mem_filter, Bool.and_eq_true, decide_eq_true_eq] at he
    obtain ⟨he, h1, h2⟩ := he
    exact ⟨mem_ids_filter.2 ⟨(h.closed e he).1, h1⟩, mem_ids_filter.2 ⟨(h.closed e he).2, h2⟩⟩
  edges_nodup := h.edges_nodup.sublist List.filter_sublist

theorem WellFormed.addNode (h : g.WellFormed) {op : String} (hg : g.addNode id op = .ok g') :
    g'.WellFormed := by
  unfold Graph.addNode at hg
  split_ifs at hg with hblank hdup
  cases hg
  have hid : id ∉ g.ids := fun hid => hdup (hasNode_iff.2 hid)
  have hids : ({ g with nodes := g.nodes ++ [⟨id, op, []⟩] } : Graph).ids = g.ids ++ [id] := by
    simp [ids]
  refine ⟨?_, fun e he => ?_, h.edges_nodup⟩
  · rw [hids]
    exact h.ids_nodup.append (List.nodup_singleton id) (List.disjoint_singleton.2 hid)
  · rw [hids]
    exact ⟨List.mem_append_left _ (h.closed e he).1, List.mem_append_left _ (h.closed e he).2⟩

theorem removeNode_eq_ok (hg : g.removeNode id = .ok g') :
    id ∈ g.ids ∧
      g' = { g with nodes := g.nodes.filter (·.id ≠ id)
                    edges := g.edges.filter fun e => e.1 ≠ id && e.2 ≠ id } := by
  unfold Graph.removeNode at hg
  split at hg
  · next hn =>
    cases hg
    exact ⟨hasNode_iff.1 hn, rfl⟩
  · cases hg

/-- Bypassing a node removes it with its edges, then joins each predecessor to each successor. -/
theorem bypass_eq_ok (hg : g.bypass id = .ok g') :
    id ∈ g.ids ∧
      g' = { g with nodes := g.nodes.filter (·.id ≠ id)
                    edges := ((g.predecessors id).flatMap fun p => (g.successors id).map fun s => (p, s)).foldl
                      joinEdge (g.edges.filter fun e => e.1 ≠ id && e.2 ≠ id) } := by
  unfold Graph.bypass at hg
  cases hr : g.removeNode id with
  | error e => rw [hr] at hg; cases hg
  | ok g₀ =>
    rw [hr] at hg
    cases hg
    obtain ⟨hid, rfl⟩ := removeNode_eq_ok hr
    exact ⟨hid, rfl⟩

theorem mem_joins {p s : String} :
    (p, s) ∈ (g.predecessors id).flatMap (fun p => (g.successors id).map fun s => (p, s)) ↔
      (p, id) ∈ g.edges ∧ (id, s) ∈ g.edges := by
  simp [mem_predecessors, mem_successors]

/-- A node with no edge to itself is bypassed keeping the graph well formed: none of its
predecessors and successors is the node itself. -/
theorem WellFormed.bypass (h : g.WellFormed) (hloop : (id, id) ∉ g.edges)
    (hg : g.bypass id = .ok g') : g'.WellFormed := by
  obtain ⟨-, rfl⟩ := bypass_eq_ok hg
  refine (h.removed id).join _ fun e he => ?_
  obtain ⟨p, s⟩ := e
  obtain ⟨hp, hs⟩ := mem_joins.1 he
  have hp' : p ≠ id := by rintro rfl; exact hloop hp
  have hs' : s ≠ id := by rintro rfl; exact hloop hs
  exact ⟨mem_ids_filter.2 ⟨(h.closed _ hp).1, hp'⟩, mem_ids_filter.2 ⟨(h.closed _ hs).2, hs'⟩⟩

/-- Bypassing a node with an edge to itself leaves that edge, naming a node that is gone. -/
theorem WellFormed.bypass_loop (h : g.WellFormed) (hloop : (id, id) ∈ g.edges) :
    ∃ g', g.bypass id = .ok g' ∧ (id, id) ∈ g'.edges ∧ id ∉ g'.ids := by
  have hn : g.hasNode id = true := hasNode_iff.2 (h.closed _ hloop).1
  cases hb : g.bypass id with
  | error e =>
    simp [Graph.bypass, Graph.removeNode, hn] at hb
  | ok g' =>
    refine ⟨g', rfl, ?_, ?_⟩
    · obtain ⟨-, rfl⟩ := bypass_eq_ok hb
      exact mem_foldl_joinEdge.2 (.inr (mem_joins.2 ⟨hloop, hloop⟩))
    · obtain ⟨-, rfl⟩ := bypass_eq_ok hb
      exact fun hid => (mem_ids_filter.1 hid).2 rfl

theorem WellFormed.addEdge (h : g.WellFormed) {src dst : String} (hg : g.addEdge src dst = .ok g') :
    g'.WellFormed := by
  unfold Graph.addEdge at hg
  split_ifs at hg with hs hd
  cases hg
  simp only [Bool.not_eq_true', Bool.not_eq_false] at hs hd
  exact h.join [(src, dst)] fun e he => by
    rw [List.mem_singleton.1 he]
    exact ⟨hasNode_iff.1 (by simpa using hs), hasNode_iff.1 (by simpa using hd)⟩

theorem WellFormed.removeEdge (h : g.WellFormed) {src dst : String}
    (hg : g.removeEdge src dst = .ok g') : g'.WellFormed := by
  unfold Graph.removeEdge at hg
  split at hg
  · cases hg
    exact h.sub rfl (List.eraseIdx_sublist _ _)
  · cases hg

theorem WellFormed.updateNode (h : g.WellFormed) {f : Node → Node} (hf : ∀ n, (f n).id = n.id)
    (hg : g.updateNode id f = .ok g') : g'.WellFormed := by
  unfold Graph.updateNode at hg
  split at hg
  · cases hg
    refine h.sub ?_ (List.Sublist.refl _)
    simp only [ids, List.map_map]
    apply List.map_congr_left
    intro n _
    by_cases hn : n.id = id <;> simp [hn, hf]
  · cases hg

theorem WellFormed.setAttr (h : g.WellFormed) {key : String} {v : Value}
    (hg : g.setAttr id key v = .ok g') : g'.WellFormed := by
  refine h.updateNode (fun _ => ?_) hg
  rfl

theorem WellFormed.deleteAttr (h : g.WellFormed) {key : String} (hg : g.deleteAttr id key = .ok g') :
    g'.WellFormed := by
  refine h.updateNode (fun _ => ?_) hg
  rfl

end Graph

/-! ### Runs of edits -/

/-- A change asked of a graph. -/
inductive Edit where
  | addNode (id op : String)
  | removeNode (id : String)
  | bypass (id : String)
  | addEdge (src dst : String)
  | removeEdge (src dst : String)
  | setAttr (id key : String) (v : Value)
  | deleteAttr (id key : String)
  | setGraphAttr (key : String) (v : Value)

namespace Edit

/-- Makes the change. -/
def apply (g : Graph) : Edit → Except GraphError Graph
  | addNode id op => g.addNode id op
  | removeNode id => g.removeNode id
  | bypass id => g.bypass id
  | addEdge src dst => g.addEdge src dst
  | removeEdge src dst => g.removeEdge src dst
  | setAttr id key v => g.setAttr id key v
  | deleteAttr id key => g.deleteAttr id key
  | setGraphAttr key v => .ok (g.setGraphAttr key v)

/-- Whether the change bypasses a node that has an edge to itself. -/
def LoopsBack (g : Graph) : Edit → Prop
  | bypass id => (id, id) ∈ g.edges
  | _ => False

end Edit

namespace Graph

/-- The graph after a change; a change that fails leaves it as it was. -/
def step (g : Graph) (e : Edit) : Graph :=
  match e.apply g with
  | .ok g' => g'
  | .error _ => g

/-- The graph after changes in turn. -/
def edit (g : Graph) (es : List Edit) : Graph := es.foldl step g

/-- No change of a run bypasses a node with an edge to itself, each judged on the graph it
meets. -/
def SafeRun : Graph → List Edit → Prop
  | _, [] => True
  | g, e :: es => ¬ e.LoopsBack g ∧ SafeRun (g.step e) es

variable {g g' : Graph}

theorem WellFormed.apply (h : g.WellFormed) {e : Edit} (he : ¬ e.LoopsBack g)
    (hg : e.apply g = .ok g') : g'.WellFormed := by
  cases e with
  | addNode id op => exact h.addNode hg
  | removeNode id =>
    obtain ⟨-, rfl⟩ := removeNode_eq_ok hg
    exact h.removed id
  | bypass id => exact h.bypass he hg
  | addEdge src dst => exact h.addEdge hg
  | removeEdge src dst => exact h.removeEdge hg
  | setAttr id key v => exact h.setAttr hg
  | deleteAttr id key => exact h.deleteAttr hg
  | setGraphAttr key v =>
    cases hg
    exact h.sub rfl (List.Sublist.refl _)

theorem WellFormed.step (h : g.WellFormed) {e : Edit} (he : ¬ e.LoopsBack g) :
    (g.step e).WellFormed := by
  unfold Graph.step
  split
  · next g' hg => exact h.apply he hg
  · exact h

/-- A change that bypasses a node with an edge to itself breaks a well-formed graph. -/
theorem WellFormed.step_loopsBack (h : g.WellFormed) {e : Edit} (he : e.LoopsBack g) :
    ¬ (g.step e).WellFormed := by
  cases e with
  | bypass id =>
    have hloop : (id, id) ∈ g.edges := he
    obtain ⟨g', hb, hin, hout⟩ := h.bypass_loop hloop
    have hstep : g.step (.bypass id) = g' := by simp [Graph.step, Edit.apply, hb]
    rw [hstep]
    exact fun h' => hout (h'.closed _ hin).1
  | _ => exact he.elim

theorem edit_cons (e : Edit) (es : List Edit) : g.edit (e :: es) = (g.step e).edit es := rfl

/-- From a well-formed graph, a run keeps the graph well formed after every change exactly when
it never bypasses a node with an edge to itself. -/
theorem edit_wellFormed_iff : ∀ {g : Graph} (es : List Edit), g.WellFormed →
    ((∀ i ≤ es.length, (g.edit (es.take i)).WellFormed) ↔ g.SafeRun es)
  | g, [], hg => by simpa [SafeRun, edit] using hg
  | g, e :: es, hg => by
    simp only [SafeRun]
    constructor
    · intro hall
      have h1 : (g.step e).WellFormed := hall 1 (by simp)
      have he : ¬ e.LoopsBack g := fun hl => hg.step_loopsBack hl h1
      refine ⟨he, (edit_wellFormed_iff es h1).1 fun i hi => ?_⟩
      simpa [edit_cons] using hall (i + 1) (by simp; omega)
    · rintro ⟨he, hsafe⟩ i hi
      have hrest := (edit_wellFormed_iff es (hg.step he)).2 hsafe
      cases i with
      | zero => simpa [edit] using hg
      | succ i => simpa [edit_cons] using hrest i (by simp at hi; omega)

/-! ### Starting graphs -/

theorem wellFormed_empty : ({} : Graph).WellFormed :=
  ⟨List.nodup_nil, by simp, List.nodup_nil⟩

theorem foldlM_wellFormed {α ε : Type} {f : Graph → α → Except ε Graph}
    (hf : ∀ g a g', g.WellFormed → f g a = .ok g' → g'.WellFormed) :
    ∀ (l : List α) {g g' : Graph}, g.WellFormed → l.foldlM f g = .ok g' → g'.WellFormed
  | [], _, _, hg, h => by cases h; exact hg
  | a :: l, g, g', hg, h => by
    rw [List.foldlM_cons] at h
    obtain ⟨g₁, h₁, h⟩ := Flow.Except.bind_eq_ok.1 h
    exact foldlM_wellFormed hf l (hf g a g₁ hg h₁) h

theorem wellFormed_setGraphAttrs : ∀ (kvs : Attrs) {g : Graph}, g.WellFormed →
    (kvs.foldl (fun g (k, v) => g.setGraphAttr k v) g).WellFormed
  | [], _, h => h
  | _ :: kvs, _, h => wellFormed_setGraphAttrs kvs (h.sub rfl (List.Sublist.refl _))

end Graph

namespace Model

open PassPlan.Graph

/-- A model that loads is a well-formed graph: loading only adds nodes under fresh ids with
their attributes, edges between nodes, and graph attributes. -/
theorem load_wellFormed {text : String} {g : Graph} (h : load text = .ok g) : g.WellFormed := by
  unfold load at h
  split at h
  · cases h
  · cases h
    exact wellFormed_empty
  · split at h
    · cases h
    · cases h
    · next v _ =>
      unfold build at h
      obtain ⟨g₁, h₁, h⟩ := Flow.Except.bind_eq_ok.1 h
      obtain ⟨g₂, h₂, h⟩ := Flow.Except.bind_eq_ok.1 h
      cases h
      -- each node entry adds the node, then sets its attributes
      have hnodes : g₁.WellFormed := by
        refine foldlM_wellFormed (fun g₀ ⟨n, i⟩ g' hg₀ hstep => ?_) _ wellFormed_empty h₁
        obtain ⟨g₃, h₃, hattrs⟩ := Flow.Except.bind_eq_ok.1 hstep
        refine foldlM_wellFormed (fun g₀ ⟨k, v⟩ g' hg₀ hset => ?_) _
          (hg₀.addNode (Flow.Except.mapError_eq_ok.1 h₃)) hattrs
        exact hg₀.setAttr (Flow.Except.mapError_eq_ok.1 hset)
      have hedges : g₂.WellFormed :=
        foldlM_wellFormed (fun g₀ ⟨e, i⟩ g' hg₀ hadd => hg₀.addEdge (Flow.Except.mapError_eq_ok.1 hadd))
          _ hnodes h₂
      exact wellFormed_setGraphAttrs _ hedges

end Model

namespace Graph

/-- Runs from an empty graph or from a loaded model keep the graph well formed after every
change (distinct node ids, every edge between nodes, no edge twice; a failed change leaves the
graph as it was) exactly when no change bypasses a node that has an edge to itself. -/
theorem edits_wellFormed_iff_safe (g : Graph) (hg : g = {} ∨ ∃ text, Model.load text = .ok g)
    (es : List Edit) : (∀ i ≤ es.length, (g.edit (es.take i)).WellFormed) ↔ g.SafeRun es := by
  refine edit_wellFormed_iff es ?_
  rcases hg with rfl | ⟨text, ht⟩
  · exact wellFormed_empty
  · exact Model.load_wellFormed ht

/-- Three nodes, a self-loop on the middle one, an edge into it and one out of it. -/
def loopRun : List Edit :=
  [.addNode "a" "Op", .addNode "x" "Op", .addNode "y" "Op", .addEdge "a" "a", .addEdge "x" "a",
    .addEdge "a" "y", .bypass "a"]

theorem edits_wellFormed_iff_safe_loopRun :
    (({} : Graph) = {} ∨ ∃ text, Model.load text = .ok {}) ∧
    ((∀ i ≤ loopRun.length, (({} : Graph).edit (loopRun.take i)).WellFormed) ↔
      ({} : Graph).SafeRun loopRun) :=
  ⟨.inl rfl, edits_wellFormed_iff_safe {} (.inl rfl) loopRun⟩

/-- Bypassing the self-looped node leaves edges that name it, though it is no longer a node. -/
theorem bypass_selfLoop_dangles :
    (({} : Graph).edit loopRun).edges = [("a", "a"), ("a", "y"), ("x", "a"), ("x", "y")] ∧
    (({} : Graph).edit loopRun).ids = ["x", "y"] ∧
    ¬ (({} : Graph).edit loopRun).WellFormed := by
  have hedges : (({} : Graph).edit loopRun).edges = [("a", "a"), ("a", "y"), ("x", "a"), ("x", "y")] := by
    decide
  have hids : (({} : Graph).edit loopRun).ids = ["x", "y"] := by decide
  refine ⟨hedges, hids, fun h => ?_⟩
  have := (h.closed ("a", "a") (by rw [hedges]; simp)).1
  rw [hids] at this
  simp at this

end Graph
end PassPlan
