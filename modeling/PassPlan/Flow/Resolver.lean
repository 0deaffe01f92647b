import PassPlan.Flow.Registry
/-!
Resolving a flow into its plan: the passes of its requirements, in requirement order, then its
own, each pass kept at its first place. A memo keyed by the text of a name keeps every plan
found, and is flushed when the source moves to another generation. A requirement cycle, or a
flow that is not defined, stops the resolution.
-/
namespace PassPlan.Flow

/-- A resolved plan: the flow asked for and its passes in run order. -/
structure Plan where
  flow : Name
  passes : List String
deriving DecidableEq, Repr, Inhabited

/-- Passes a flow adds to a plan that no earlier flow placed. -/
structure Contribution where
  flow : Name
  passes : List String
deriving DecidableEq, Repr

/-- Remembered plans by the text of the flow name. -/
structure Memo where
  entries : List (String × Plan) := []
deriving Repr, Inhabited

namespace Memo

/-- The plan kept under a key. -/
def get? (m : Memo) (k : String) : Option Plan := m.entries.lookup k

/-- Keeps a plan under a key, replacing an older one. -/
def set (m : Memo) (k : String) (p : Plan) : Memo := ⟨(k, p) :: m.entries.filter (·.1 ≠ k)⟩

end Memo

/-- Appends the passes not yet present, in order. -/
def addFresh (acc : List String) (ps : List String) : List String :=
  ps.foldl (fun a p => if p ∈ a then a else a ++ [p]) acc

/-- The state of one resolution: plans found in it by name, the memo, and the memo keys found
so far, in order. -/
structure Walk where
  resolved : List (Name × List String) := []
  memo : Memo := {}
  hits : List String := []

/-- Resolution steps: they may fail, and keep what they found either way. -/
abbrev WalkM := ExceptT Error (StateM Walk)

/-- The cycle closed by reaching a name already on the path. -/
def cycleTo (stack : List Name) (n : Name) : List Name := stack.dropWhile (· ≠ n) ++ [n]

/-- Resolves one flow below the given path of flows, `referrer` the flow that required it.
Every level adds a defined name not yet on the path, so fuel above the number of
definitions never runs out. -/
def visit (src : Source) : Nat → List Name → Name → Name → WalkM (List String)
  | 0, stack, n, _ => throw (.cycle (cycleTo stack n))
  | fuel + 1, stack, n, referrer => do
    let w ← get
    match w.resolved.lookup n with
    | some ps => pure ps
    | none =>
      match w.memo.get? n.text with
      | some p =>
        set { w with resolved := (n, p.passes) :: w.resolved, hits := w.hits ++ [n.text] }
        pure p.passes
      | none =>
        if n ∈ stack then throw (.cycle (cycleTo stack n))
        match src.get? n with
        | none => throw (.notFound n referrer)
        | some d =>
          let below ← d.requires.foldlM (fun acc req => do
            let sub ← visit src fuel (stack ++ [n]) req n
            pure (addFresh acc sub)) []
          let ps := addFresh below d.passes
          modify fun w => { w with resolved := (n, ps) :: w.resolved, memo := w.memo.set n.text ⟨n, ps⟩ }
          pure ps

/-- The passes each flow adds, requirements first, each flow visited once. -/
def contribute (src : Source) : Nat → Name →
    StateT (List Name × List String) (Except Error) (List Contribution)
  | 0, _ => pure []
  | fuel + 1, n => do
    let (visited, placed) ← get
    if n ∈ visited then return []
    set (n :: visited, placed)
    match src.get? n with
    | none => throw (.notFound n Name.zero)
    | some d =>
      let below ← d.requires.foldlM (fun acc req => do
        let cs ← contribute src fuel req
        pure (acc ++ cs)) []
      let (visited, placed) ← get
      let fresh := addFresh [] (d.passes.filter (· ∉ placed))
      set (visited, placed ++ fresh)
      pure (if fresh.isEmpty then below else below ++ [⟨n, fresh⟩])

/-- A resolver: the memo and the source generation it belongs to. -/
structure Resolver where
  memo : Memo := {}
  generation : Nat := 0
deriving Repr, Inhabited

namespace Resolver

/-- A resolver with an empty memo at the source's generation. -/
def new (src : Source) : Resolver := ⟨{}, src.generation⟩

/-- Flushes the memo if the source moved to another generation. -/
def sync (r : Resolver) (src : Source) : Resolver :=
  if src.generation = r.generation then r else ⟨{}, src.generation⟩

/-- Empties the memo. -/
def invalidate (r : Resolver) : Resolver := { r with memo := {} }

/-- Resolves a flow into its plan, telling the memo keys found on the way, in order. A memo hit
answers with the plan kept, whose flow is the one it was found for. -/
def resolveTold (r : Resolver) (src : Source) (n : Name) : Resolver × Except Error Plan × List String :=
  let r := r.sync src
  match r.memo.get? n.text with
  | some p => (r, .ok p, [n.text])
  | none =>
    let (res, w) := ((visit src (src.defs.length + 1) [] n Name.zero).run).run { memo := r.memo }
    ({ r with memo := w.memo }, res.map (fun ps => ⟨n, ps⟩), w.hits)

/-- Resolves a flow into its plan. -/
def resolve (r : Resolver) (src : Source) (n : Name) : Resolver × Except Error Plan :=
  let (r, res, _) := r.resolveTold src n
  (r, res)

/-- Explains a plan flow by flow, telling the memo keys found: resolves first, then lists the
passes each flow adds. -/
def explainTold (r : Resolver) (src : Source) (n : Name) :
    Resolver × Except Error (List Contribution) × List String :=
  match r.resolveTold src n with
  | (r, .error e, hits) => (r, .error e, hits)
  | (r, .ok _, hits) => (r, ((contribute src (src.defs.length + 1) n).run' ([], [])), hits)

/-- Explains a plan flow by flow: resolves first, then lists the passes each flow adds. -/
def explain (r : Resolver) (src : Source) (n : Name) :
    Resolver × Except Error (List Contribution) :=
  let (r, res, _) := r.explainTold src n
  (r, res)

end Resolver
end PassPlan.Flow
