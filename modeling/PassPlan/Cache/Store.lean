/-!
A cache of values by text key, with no expiry: an entry stays until it is deleted or the cache
is flushed. A read-through read answers from the cache and otherwise loads, keeping only what
loaded without error; a bypassing read always loads and keeps nothing.
-/
namespace PassPlan.Cache

/-- Cached values by key, each key at most once. -/
structure Store (α : Type) where
  entries : List (String × α) := []
deriving Repr, Inhabited

namespace Store

variable {α ε : Type}

/-- The value kept under a key. -/
def get? (c : Store α) (key : String) : Option α := c.entries.lookup key

/-- Keeps a value under a key, replacing the one kept before. -/
def set (c : Store α) (key : String) (v : α) : Store α :=
  ⟨c.entries.filter (·.1 ≠ key) ++ [(key, v)]⟩

/-- Removes the values of some keys; keys not kept are ignored. -/
def delete (c : Store α) (keys : List String) : Store α :=
  ⟨c.entries.filter fun e => !keys.contains e.1⟩

/-- The cache with nothing kept. -/
def flush (_ : Store α) : Store α := {}

/-- The number of keys kept. -/
def size (c : Store α) : Nat := c.entries.length

/-- Reads through the cache: a kept value answers, otherwise the load runs and its value is
kept unless it failed. -/
def read (c : Store α) (key : String) (load : Unit → Except ε α) : Store α × Except ε α :=
  match c.get? key with
  | some v => (c, .ok v)
  | none =>
    match load () with
    | .ok v => (c.set key v, .ok v)
    | .error e => (c, .error e)

theorem lookup_filter_append (l : List (String × α)) (key : String) (v : α) :
    (l.filter (·.1 ≠ key) ++ [(key, v)]).lookup key = some v := by
  induction l with
  | nil => simp
  | cons e rest ih =>
    by_cases h : e.1 = key
    · simp_all
    · have hne : (key == e.1) = false := by simp [Ne.symm h]
      have hp : decide (e.1 ≠ key) = true := by simp [h]
      simp only [List.filter, hp, List.cons_append]
      obtain ⟨k, w⟩ := e
      simp only [List.lookup_cons, hne]
      exact ih

@[simp] theorem get?_set (c : Store α) (key : String) (v : α) : (c.set key v).get? key = some v :=
  lookup_filter_append c.entries key v

end Store
end PassPlan.Cache
