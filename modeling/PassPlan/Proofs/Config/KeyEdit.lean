import PassPlan.Config.Save
/-!
Setting a dotted key edits one path of the settings tree. The key's parts are looked up pair by
pair, the first matching key winning, as a reader of the settings finds them. Setting succeeds
exactly when no part is empty and every proper prefix of the key finds nothing or a mapping.
Then the key finds the new string value, which keeps the comments of the value it replaces;
every node off the path, neither above nor below its end, is where it was; and each section the
key did not find is added, key then value, at the end of its parent. This rests on what every
parsed mapping satisfies: its keys and values come in pairs.

The file is written only once the edit succeeded, so a failed edit writes nothing, and an edit
that succeeds can still be refused by the file system: saving succeeds exactly when the key can
be set and the file can be replaced.
-/
namespace PassPlan.Config

open PassPlan.Yaml

/-- The node at a place path: each place indexes the content of the node before it. -/
def nodeAt : List Nat → Yaml.Node → Option Yaml.Node
  | [], n => some n
  | i :: π, n => n.content[i]?.bind (nodeAt π)

/-- The first-match lookup of a key path, as a reader of the settings finds it. -/
def lookup : List String → Yaml.Node → Option Yaml.Node
  | [], n => some n
  | k :: ks, n => (valueAt k 0 n.content).bind fun p => lookup ks p.2

/-- The places the first-match lookup of a key path goes through. -/
def placeOf : List String → Yaml.Node → Option (List Nat)
  | [], _ => some []
  | k :: ks, n => (valueAt k 0 n.content).bind fun p => (placeOf ks p.2).map (p.1 :: ·)

/-- Every mapping of a tree holds its keys and values in pairs, as every parsed mapping does. -/
def Paired (n : Yaml.Node) : Prop :=
  ∀ π x, nodeAt π n = some x → x.kind = .mapping → x.content.length % 2 = 0

/-- A key path can be set in a mapping: no part is empty, and each proper prefix finds nothing
or a mapping. -/
def Settable (m : Yaml.Node) (keys : List String) : Prop :=
  (∀ k ∈ keys, k ≠ "") ∧
    ∀ i, 0 < i → i < keys.length → ∀ x, lookup (keys.take i) m = some x → x.kind = .mapping

/-- A value as it is put where a node was found, or where none was: it keeps the head and line
comments of the node it replaces. -/
def placed (v : Yaml.Node) : Option Yaml.Node → Yaml.Node
  | some old => { v with headComment := old.headComment, lineComment := old.lineComment }
  | none => v

section Places

@[simp] theorem nodeAt_nil (n : Yaml.Node) : nodeAt [] n = some n := rfl

theorem nodeAt_cons (i : Nat) (π : List Nat) (n : Yaml.Node) :
    nodeAt (i :: π) n = n.content[i]?.bind (nodeAt π) := rfl

@[simp] theorem lookup_nil (n : Yaml.Node) : lookup [] n = some n := rfl

theorem lookup_cons_of_valueAt {k : String} {ks : List String} {m x : Yaml.Node} {i : Nat}
    (h : valueAt k 0 m.content = some (i, x)) : lookup (k :: ks) m = lookup ks x := by
  simp [lookup, h]

theorem lookup_cons_of_none {k : String} {ks : List String} {m : Yaml.Node}
    (h : valueAt k 0 m.content = none) : lookup (k :: ks) m = none := by
  simp [lookup, h]

theorem placeOf_cons_of_valueAt {k : String} {ks : List String} {m x : Yaml.Node} {i : Nat}
    (h : valueAt k 0 m.content = some (i, x)) :
    placeOf (k :: ks) m = (placeOf ks x).map (i :: ·) := by
  simp [placeOf, h]

/-- An empty mapping finds nothing below itself. -/
theorem lookup_empty {ks : List String} (h : ks ≠ []) :
    lookup ks ({ kind := .mapping } : Yaml.Node) = none := by
  cases ks with
  | nil => exact absurd rfl h
  | cons k ks => exact lookup_cons_of_none rfl

/-- Whatever an empty mapping finds holds nothing. -/
theorem lookup_empty_content (ks : List String) :
    (lookup ks ({ kind := .mapping } : Yaml.Node)).elim [] (·.content) = [] := by
  cases ks with
  | nil => rfl
  | cons k ks => rw [lookup_empty (List.cons_ne_nil k ks)]; rfl

end Places

section Pairs

variable {key : String}

/-- The first match of a key reads the value at its place, and a value put at that place is what
the key then finds. -/
theorem valueAt_some {i j : Nat} {l : List Yaml.Node} {x : Yaml.Node}
    (h : valueAt key i l = some (j, x)) :
    ∃ d, j = i + d ∧ l[d]? = some x ∧ ∀ y, valueAt key i (l.set d y) = some (j, y) := by
  fun_induction valueAt key i l with
  | case1 i k v rest hk =>
    simp only [Option.some.injEq, Prod.mk.injEq] at h
    obtain ⟨rfl, rfl⟩ := h
    exact ⟨1, rfl, rfl, fun y => by simp [valueAt, hk]⟩
  | case2 i k v rest hk ih =>
    obtain ⟨d, rfl, hget, hset⟩ := ih h
    refine ⟨d + 2, by omega, by simpa using hget, fun y => ?_⟩
    simp [valueAt, hk, hset y]
  | case3 => simp at h

/-- A key that is not there is found in a pair added at the end of paired content. -/
theorem valueAt_append_pair {K : Yaml.Node} (hK : K.value = key) (y : Yaml.Node) :
    ∀ (i : Nat) (l : List Yaml.Node), valueAt key i l = none → l.length % 2 = 0 →
      valueAt key i (l ++ [K, y]) = some (i + l.length + 1, y)
  | i, [], _, _ => by simp [valueAt, hK]
  | _, [_], _, heven => by simp at heven
  | i, a :: b :: rest, h, heven => by
    have ha : ¬ a.value = key := by
      intro ha
      simp [valueAt, ha] at h
    have hrest : valueAt key (i + 2) rest = none := by simpa [valueAt, ha] using h
    have ih := valueAt_append_pair hK y (i + 2) rest hrest (by simp at heven; omega)
    simp only [List.cons_append, valueAt, ha, if_false, ih, List.length_cons]
    congr 2
    omega

theorem valueAt_zero_get {l : List Yaml.Node} {i : Nat} {x : Yaml.Node}
    (h : valueAt key 0 l = some (i, x)) : l[i]? = some x := by
  obtain ⟨d, hd, hget, -⟩ := valueAt_some h
  rwa [hd, Nat.zero_add]

/-- A value put at the place of a key's first match in a mapping is what the key then finds. -/
theorem valueAt_set_content {m x : Yaml.Node} {i : Nat} (h : valueAt key 0 m.content = some (i, x))
    (y : Yaml.Node) :
    valueAt key 0 ({ m with content := m.content.set i y } : Yaml.Node).content = some (i, y) := by
  obtain ⟨d, hd, -, hset⟩ := valueAt_some h
  rw [Nat.zero_add] at hd
  subst hd
  exact hset y

/-- A key missing from a paired mapping is found in the pair added at its end. -/
theorem valueAt_append_content {m : Yaml.Node} (h : valueAt key 0 m.content = none)
    (heven : m.content.length % 2 = 0) (y : Yaml.Node) :
    valueAt key 0 ({ m with content := m.content ++ [{ kind := .scalar, value := key }, y] } :
      Yaml.Node).content = some (m.content.length + 1, y) := by
  have hK : ({ kind := .scalar, value := key } : Yaml.Node).value = key := rfl
  simpa using valueAt_append_pair hK y 0 m.content h heven

end Pairs

section Frame

/-- Putting a node at one place of a content leaves every other place. -/
theorem nodeAt_set_ne (m y : Yaml.Node) {i j : Nat} (h : j ≠ i) (π : List Nat) :
    nodeAt (j :: π) { m with content := m.content.set i y } = nodeAt (j :: π) m := by
  simp [nodeAt_cons, List.getElem?_set_ne (Ne.symm h)]

/-- Adding nodes at the end of a content leaves every place it had. -/
theorem nodeAt_append_left (m : Yaml.Node) (more : List Yaml.Node) {j : Nat}
    (h : j < m.content.length) (π : List Nat) :
    nodeAt (j :: π) { m with content := m.content ++ more } = nodeAt (j :: π) m := by
  simp [nodeAt_cons, List.getElem?_append_left h]

theorem nodeAt_of_length_le {m : Yaml.Node} {j : Nat} (h : m.content.length ≤ j) (π : List Nat) :
    nodeAt (j :: π) m = none := by
  simp [nodeAt_cons, List.getElem?_eq_none h]

/-- The lookup of a key path finds the node at the places it goes through. -/
theorem nodeAt_placeOf : ∀ {ks : List String} {n : Yaml.Node} {π : List Nat},
    placeOf ks n = some π → nodeAt π n = lookup ks n
  | [], n, π, h => by
    simp only [placeOf, Option.some.injEq] at h
    subst h
    rfl
  | k :: ks, n, π, h => by
    cases hv : valueAt k 0 n.content with
    | none => simp [placeOf, hv] at h
    | some p =>
      obtain ⟨i, x⟩ := p
      rw [placeOf_cons_of_valueAt hv] at h
      obtain ⟨π', hπ', rfl⟩ := Option.map_eq_some_iff.1 h
      obtain ⟨d, rfl, hget, -⟩ := valueAt_some hv
      rw [nodeAt_cons, lookup_cons_of_valueAt hv, Nat.zero_add, hget, Option.bind_some]
      exact nodeAt_placeOf hπ'

end Frame

section Paired

theorem Paired.even {m : Yaml.Node} (h : Paired m) (hm : m.kind = .mapping) :
    m.content.length % 2 = 0 :=
  h [] m rfl hm

theorem Paired.child {m x : Yaml.Node} (h : Paired m) {i : Nat} (hx : m.content[i]? = some x) :
    Paired x := fun π y hy =>
  h (i :: π) y (by rw [nodeAt_cons, hx, Option.bind_some, hy])

theorem paired_empty : Paired ({ kind := .mapping } : Yaml.Node) := by
  intro π x hx _
  cases π with
  | nil => simp only [nodeAt_nil, Option.some.injEq] at hx; subst hx; rfl
  | cons i π => simp [nodeAt_cons] at hx

/-- A node is paired when it pairs its own content, if it is a mapping, and every node of its
content is paired. -/
theorem paired_iff {n : Yaml.Node} :
    Paired n ↔ (n.kind = .mapping → n.content.length % 2 = 0) ∧ ∀ c ∈ n.content, Paired c := by
  constructor
  · intro h
    refine ⟨h.even, fun c hc => ?_⟩
    obtain ⟨i, hi⟩ := List.mem_iff_getElem?.1 hc
    exact h.child hi
  · rintro ⟨hself, hchildren⟩ π x hx hk
    cases π with
    | nil =>
      simp only [nodeAt_nil, Option.some.injEq] at hx
      subst hx
      exact hself hk
    | cons i π =>
      rw [nodeAt_cons] at hx
      cases hc : n.content[i]? with
      | none => rw [hc] at hx; cases hx
      | some c =>
        rw [hc, Option.bind_some] at hx
        exact hchildren c (List.mem_of_getElem? hc) π x hx hk

mutual

/-- Whether every mapping of a tree pairs its content: a check that runs. -/
def isPaired : Yaml.Node → Bool
  | ⟨kind, _, _, _, _, content, _, _, _, _, _, _⟩ =>
    (kind != .mapping || content.length % 2 == 0) && allPaired content

/-- Whether every tree of a list passes `isPaired`. -/
def allPaired : List Yaml.Node → Bool
  | [] => true
  | n :: ns => isPaired n && allPaired ns

end

mutual

theorem paired_of_isPaired : ∀ n : Yaml.Node, isPaired n = true → Paired n
  | ⟨kind, _, _, _, _, content, _, _, _, _, _, _⟩, h => by
    simp only [isPaired, Bool.and_eq_true, Bool.or_eq_true, bne_iff_ne, ne_eq, beq_iff_eq] at h
    refine paired_iff.2 ⟨fun hk => h.1.resolve_left (not_not_intro hk), paired_of_allPaired content h.2⟩

theorem paired_of_allPaired : ∀ ns : List Yaml.Node, allPaired ns = true → ∀ c ∈ ns, Paired c
  | [], _, c, hc => absurd hc List.not_mem_nil
  | n :: ns, h, c, hc => by
    simp only [allPaired, Bool.and_eq_true] at h
    rcases List.mem_cons.1 hc with hcn | hc
    · rw [hcn]
      exact paired_of_isPaired n h.1
    · exact paired_of_allPaired ns h.2 c hc

end

end Paired

section Settable

theorem settable_cons_of_valueAt {k : String} {ks : List String} {m x : Yaml.Node} {i : Nat}
    (h : valueAt k 0 m.content = some (i, x)) :
    Settable m (k :: ks) ↔ k ≠ "" ∧ (ks ≠ [] → x.kind = .mapping) ∧ Settable x ks := by
  constructor
  · rintro ⟨hseg, hmap⟩
    refine ⟨hseg k List.mem_cons_self, fun hks => ?_, fun s hs => hseg s (List.mem_cons_of_mem k hs),
      fun j hj0 hj y hy => ?_⟩
    · -- the first part finds the section the rest goes into
      have hlen : 1 < (k :: ks).length := by simpa using List.length_pos_iff.2 hks
      exact hmap 1 Nat.one_pos hlen x (by rw [List.take_one, List.head?_cons]; simp [lookup, h])
    · exact hmap (j + 1) (Nat.succ_pos j) (by simpa using hj) y
        (by rwa [List.take_succ_cons, lookup_cons_of_valueAt h])
  · rintro ⟨hk, hx, hseg, hmap⟩
    refine ⟨fun s hs => ?_, fun j hj0 hj y hy => ?_⟩
    · rcases List.mem_cons.1 hs with rfl | hs
      · exact hk
      · exact hseg s hs
    · obtain ⟨j, rfl⟩ := Nat.exists_eq_add_of_lt hj0
      rw [Nat.zero_add, List.take_succ_cons, lookup_cons_of_valueAt h] at hy
      cases j with
      | zero =>
        simp only [List.take_zero, lookup_nil, Option.some.injEq] at hy
        subst hy
        exact hx (by rintro rfl; simp at hj)
      | succ j => exact hmap (j + 1) (Nat.succ_pos j) (by simpa using hj) y hy

theorem settable_cons_of_none {k : String} {ks : List String} {m : Yaml.Node}
    (h : valueAt k 0 m.content = none) : Settable m (k :: ks) ↔ ∀ s ∈ k :: ks, s ≠ "" := by
  refine ⟨fun hs => hs.1, fun hseg => ⟨hseg, fun j hj0 _ y hy => ?_⟩⟩
  obtain ⟨j, rfl⟩ := Nat.exists_eq_add_of_lt hj0
  rw [Nat.zero_add, List.take_succ_cons, lookup_cons_of_none h] at hy
  cases hy

theorem settable_nil (m : Yaml.Node) : Settable m [] :=
  ⟨fun _ h => absurd h List.not_mem_nil, fun _ _ hi => absurd hi (Nat.not_lt_zero _)⟩

/-- Any key path without an empty part can be set in an empty mapping. -/
theorem settable_empty {ks : List String} :
    Settable { kind := .mapping } ks ↔ ∀ s ∈ ks, s ≠ "" := by
  cases ks with
  | nil => exact ⟨fun h => h.1, fun _ => settable_nil _⟩
  | cons k ks => exact settable_cons_of_none rfl

end Settable

section SetKey

variable (v : Yaml.Node)

/-- One level of setting a key path: the part is not empty, and either its first match is
replaced (by the value at the last part, keeping the comments; by the edited section before it)
or a new pair is added at the end (the value at the last part; a new section before it). -/
theorem setKey_cons_ok {k : String} {ks : List String} {m m' : Yaml.Node}
    (h : setKey v (k :: ks) m = .ok m') :
    k ≠ "" ∧
      ((∃ i x, valueAt k 0 m.content = some (i, x) ∧
          (ks = [] ∧ m' = { m with content := m.content.set i (placed v (some x)) } ∨
            ks ≠ [] ∧ x.kind = .mapping ∧ ∃ inner, setKey v ks x = .ok inner ∧
              m' = { m with content := m.content.set i inner })) ∨
        (valueAt k 0 m.content = none ∧
          (ks = [] ∧ m' = { m with content := m.content ++ [{ kind := .scalar, value := k }, v] } ∨
            ks ≠ [] ∧ ∃ inner, setKey v ks { kind := .mapping } = .ok inner ∧
              m' = { m with content := m.content ++ [{ kind := .scalar, value := k }, inner] }))) := by
  by_cases hk : k = ""
  · simp [setKey, hk] at h
  refine ⟨hk, ?_⟩
  cases hv : valueAt k 0 m.content with
  | some p =>
    obtain ⟨i, x⟩ := p
    refine .inl ⟨i, x, rfl, ?_⟩
    by_cases hks : ks = []
    · subst hks
      simp only [setKey, hk, hv, if_true, if_false, Except.ok.injEq] at h
      exact .inl ⟨rfl, h.symm⟩
    · by_cases hx : x.kind = .mapping
      · cases hs : setKey v ks x with
        | error e => simp [setKey, hk, hv, hks, hx, hs, bind, Except.bind] at h
        | ok inner =>
          simp only [setKey, hk, hv, hks, hx, hs, if_false, ne_eq, not_true_eq_false, bind,
            Except.bind, pure, Except.pure, Except.ok.injEq] at h
          exact .inr ⟨hks, hx, inner, rfl, h.symm⟩
      · simp [setKey, hk, hv, hks, hx] at h
  | none =>
    refine .inr ⟨rfl, ?_⟩
    by_cases hks : ks = []
    · subst hks
      simp only [setKey, hk, hv, if_true, if_false, Except.ok.injEq] at h
      exact .inl ⟨rfl, h.symm⟩
    · cases hs : setKey v ks { kind := .mapping } with
      | error e => simp [setKey, hk, hv, hks, hs, bind, Except.bind] at h
      | ok inner =>
        simp only [setKey, hk, hv, hks, hs, if_false, bind, Except.bind, pure, Except.pure,
          Except.ok.injEq] at h
        exact .inr ⟨hks, inner, rfl, h.symm⟩

/-- Setting a key path succeeds exactly when the path can be set. -/
theorem setKey_ok_iff : ∀ (keys : List String) (m : Yaml.Node),
    (∃ m', setKey v keys m = .ok m') ↔ Settable m keys
  | [], m => ⟨fun _ => settable_nil m, fun _ => ⟨m, rfl⟩⟩
  | k :: ks, m => by
    constructor
    · rintro ⟨m', h⟩
      obtain ⟨hk, ⟨i, x, hv, ⟨rfl, -⟩ | ⟨-, hx, inner, hs, -⟩⟩ | ⟨hv, ⟨rfl, -⟩ | ⟨-, inner, hs, -⟩⟩⟩ :=
        setKey_cons_ok v h
      · exact (settable_cons_of_valueAt hv).2 ⟨hk, fun h => absurd rfl h, settable_nil x⟩
      · exact (settable_cons_of_valueAt hv).2 ⟨hk, fun _ => hx, (setKey_ok_iff ks x).1 ⟨inner, hs⟩⟩
      · exact (settable_cons_of_none hv).2 (by simpa using hk)
      · have hrest := settable_empty.1 ((setKey_ok_iff ks _).1 ⟨inner, hs⟩)
        exact (settable_cons_of_none hv).2 (List.forall_mem_cons.2 ⟨hk, hrest⟩)
    · intro hset
      cases hv : valueAt k 0 m.content with
      | some p =>
        obtain ⟨i, x⟩ := p
        obtain ⟨hk, hx, hrest⟩ := (settable_cons_of_valueAt hv).1 hset
        by_cases hks : ks = []
        · subst hks
          simp [setKey, hk, hv]
        · obtain ⟨inner, hs⟩ := (setKey_ok_iff ks x).2 hrest
          simp [setKey, hk, hv, hks, hx hks, hs, bind, Except.bind, pure, Except.pure]
      | none =>
        have hseg := (settable_cons_of_none hv).1 hset
        have hk : k ≠ "" := hseg k List.mem_cons_self
        by_cases hks : ks = []
        · subst hks
          simp [setKey, hk, hv]
        · obtain ⟨inner, hs⟩ := (setKey_ok_iff ks _).2
            (settable_empty.2 fun s hs => hseg s (List.mem_cons_of_mem k hs))
          simp [setKey, hk, hv, hks, hs, bind, Except.bind, pure, Except.pure]

section Edit

variable {v}

/-- After setting a key path in a paired mapping, the path leads to the value, which keeps the
comments of what it replaced. -/
theorem setKey_lookup : ∀ {keys : List String} {m m' : Yaml.Node}, keys ≠ [] → m.kind = .mapping →
    Paired m → setKey v keys m = .ok m' →
      ∃ pos, placeOf keys m' = some pos ∧ lookup keys m' = some (placed v (lookup keys m))
  | [], _, _, hne, _, _, _ => absurd rfl hne
  | k :: ks, m, m', _, hm, hp, h => by
    obtain ⟨-, ⟨i, x, hv, ⟨rfl, rfl⟩ | ⟨hks, hx, inner, hs, rfl⟩⟩ | ⟨hv, ⟨rfl, rfl⟩ | ⟨hks, inner, hs, rfl⟩⟩⟩ :=
      setKey_cons_ok v h
    · have hv' := valueAt_set_content hv (placed v (some x))
      refine ⟨[i], by rw [placeOf_cons_of_valueAt hv']; rfl, ?_⟩
      rw [lookup_cons_of_valueAt hv', lookup_cons_of_valueAt hv]
      rfl
    · have hget := (valueAt_zero_get hv)
      obtain ⟨pos, hpos, hlook⟩ := setKey_lookup hks hx (hp.child hget) hs
      have hv' := valueAt_set_content hv inner
      refine ⟨i :: pos, by simp [placeOf_cons_of_valueAt hv', hpos], ?_⟩
      rw [lookup_cons_of_valueAt hv', lookup_cons_of_valueAt hv, hlook]
    · have hv' := valueAt_append_content hv (hp.even hm) v
      refine ⟨[m.content.length + 1], by rw [placeOf_cons_of_valueAt hv']; rfl, ?_⟩
      rw [lookup_cons_of_valueAt hv', lookup_cons_of_none hv]
      rfl
    · -- a new section: what the rest finds in it is the value itself, with no comments to keep
      obtain ⟨pos, hpos, hlook⟩ := setKey_lookup hks rfl paired_empty hs
      have hv' := valueAt_append_content hv (hp.even hm) inner
      refine ⟨(m.content.length + 1) :: pos, by simp [placeOf_cons_of_valueAt hv', hpos], ?_⟩
      rw [lookup_cons_of_valueAt hv', hlook, lookup_empty hks, lookup_cons_of_none hv]

/-- Setting a key path in a paired mapping leaves every node that is neither on the path nor
below its end where it was. -/
theorem setKey_frame : ∀ {keys : List String} {m m' : Yaml.Node} {pos : List Nat},
    m.kind = .mapping → Paired m → setKey v keys m = .ok m' → placeOf keys m' = some pos →
      ∀ π x, nodeAt π m = some x → ¬ π <+: pos → ¬ pos <+: π → nodeAt π m' = some x
  | [], m, m', _, _, _, h, _ => by
    simp only [setKey, Except.ok.injEq] at h
    subst h
    exact fun _ _ hx _ _ => hx
  | k :: ks, m, m', pos, hm, hp, h, hpos => by
    intro π y hy habove hbelow
    -- the empty path is above every node, so the path starts with a place of the mapping
    obtain ⟨j, π, rfl⟩ : ∃ j π', π = j :: π' := by
      cases π with
      | nil => exact absurd List.nil_prefix habove
      | cons j π => exact ⟨j, π, rfl⟩
    obtain ⟨-, ⟨i, x, hv, ⟨rfl, rfl⟩ | ⟨-, hx, inner, hs, rfl⟩⟩ | ⟨hv, ⟨rfl, rfl⟩ | ⟨-, inner, hs, rfl⟩⟩⟩ :=
      setKey_cons_ok v h
    · rw [placeOf_cons_of_valueAt (valueAt_set_content hv _)] at hpos
      simp only [placeOf, Option.map_some, Option.some.injEq] at hpos
      subst hpos
      have hj : j ≠ i := by
        rintro rfl
        exact hbelow (List.cons_prefix_cons.2 ⟨rfl, List.nil_prefix⟩)
      rwa [nodeAt_set_ne _ _ hj]
    · have hget := valueAt_zero_get hv
      rw [placeOf_cons_of_valueAt (valueAt_set_content hv inner)] at hpos
      obtain ⟨pos', hpos', rfl⟩ := Option.map_eq_some_iff.1 hpos
      by_cases hj : j = i
      · -- below the first match: the edited section keeps what lies off the rest of the path
        subst hj
        have hlt : j < m.content.length := (List.getElem?_eq_some_iff.1 hget).1
        rw [nodeAt_cons, hget, Option.bind_some] at hy
        rw [nodeAt_cons, List.getElem?_set_self hlt, Option.bind_some]
        exact setKey_frame hx (hp.child hget) hs hpos' π y hy
          (fun h => habove (List.cons_prefix_cons.2 ⟨rfl, h⟩))
          (fun h => hbelow (List.cons_prefix_cons.2 ⟨rfl, h⟩))
      · rwa [nodeAt_set_ne _ _ hj]
    all_goals
      -- a new pair lies past every place the mapping had
      have hj : j < m.content.length := Nat.lt_of_not_le fun hj => by
        rw [nodeAt_of_length_le hj] at hy
        cases hy
      rwa [nodeAt_append_left _ _ hj]

/-- Setting a key path in a paired mapping adds each section it did not find, key then value, at
the end of the mapping that holds it. -/
theorem setKey_appends : ∀ {keys : List String} {m m' : Yaml.Node}, m.kind = .mapping → Paired m →
    setKey v keys m = .ok m' → ∀ j (hj : j < keys.length), lookup (keys.take (j + 1)) m = none →
      ∃ P sec, lookup (keys.take j) m' = some P ∧
        P.content = (lookup (keys.take j) m).elim [] (·.content) ++
          [{ kind := .scalar, value := keys[j] }, sec]
  | [], _, _, _, _, _, j, hj, _ => absurd hj (Nat.not_lt_zero j)
  | k :: ks, m, m', hm, hp, h, j, hj, hnone => by
    obtain ⟨-, ⟨i, x, hv, ⟨rfl, rfl⟩ | ⟨hks, hx, inner, hs, rfl⟩⟩ | ⟨hv, ⟨rfl, rfl⟩ | ⟨hks, inner, hs, rfl⟩⟩⟩ :=
      setKey_cons_ok v h
    · -- the whole path was found: nothing was missing
      cases j with
      | zero => simp [lookup_cons_of_valueAt hv] at hnone
      | succ j => simp at hj
    · cases j with
      | zero => simp [lookup_cons_of_valueAt hv] at hnone
      | succ j =>
        have hget := valueAt_zero_get hv
        rw [List.take_succ_cons, lookup_cons_of_valueAt hv] at hnone
        obtain ⟨P, sec, hP, hcontent⟩ :=
          setKey_appends hx (hp.child hget) hs j (by simpa using hj) hnone
        refine ⟨P, sec, ?_, ?_⟩
        · rwa [List.take_succ_cons, lookup_cons_of_valueAt (valueAt_set_content hv inner)]
        · rw [List.take_succ_cons, lookup_cons_of_valueAt hv, hcontent]
          simp
    · cases j with
      | zero => exact ⟨_, v, rfl, by simp⟩
      | succ j => simp at hj
    · cases j with
      | zero => exact ⟨_, inner, rfl, by simp⟩
      | succ j =>
        -- below a new section nothing was there, so every level below is new
        have hv' := valueAt_append_content hv (hp.even hm) inner
        have hj' : j < ks.length := by simpa using hj
        have hnone' : lookup (ks.take (j + 1)) ({ kind := .mapping } : Yaml.Node) = none :=
          lookup_empty (by simp; omega)
        obtain ⟨P, sec, hP, hcontent⟩ := setKey_appends rfl paired_empty hs j hj' hnone'
        refine ⟨P, sec, ?_, ?_⟩
        · rwa [List.take_succ_cons, lookup_cons_of_valueAt hv']
        · rw [List.take_succ_cons, lookup_cons_of_none hv, hcontent, lookup_empty_content]
          simp

end Edit

end SetKey

section Save

theorem mapError_ok {ε ε' α : Type} (f : ε → ε') (a : α) :
    (Except.ok a : Except ε α).mapError f = .ok a := rfl

theorem mapError_error {ε ε' α : Type} (f : ε → ε') (e : ε) :
    (Except.error e : Except ε α).mapError f = .error (f e) := rfl

/-- A key always has at least one part. -/
theorem keySegments_ne_nil (key : String) : keySegments key ≠ [] := by
  simp [keySegments, List.splitOn, List.splitOnP_ne_nil]

/-- A file can be replaced exactly when its directory exists or can be made and its path
resolves; what is written plays no part. -/
theorem replaceFile_ok_iff (t : Workspace.Tree) (path text : String) :
    (∃ t', replaceFile t path text = .ok t') ↔
      ∃ t₁ real, t.mkdirAll (Workspace.Path.dir path) = .ok t₁ ∧ t₁.resolve false path = .ok real := by
  unfold replaceFile
  cases h₁ : t.mkdirAll (Workspace.Path.dir path) with
  | error e => simp [mapError_error, bind, Except.bind]
  | ok t₁ =>
    cases h₂ : t₁.resolve false path with
    | error e => simp [mapError_ok, bind, Except.bind, h₂, throw, throwThe, MonadExceptOf.throw]
    | ok real => simp [mapError_ok, bind, Except.bind, h₂, pure, Except.pure]

/-- A file is not replaced where its directory cannot be made. -/
theorem replaceFile_of_mkdirAll_error {t : Workspace.Tree} {path text : String}
    {e : Workspace.PathError} (h : t.mkdirAll (Workspace.Path.dir path) = .error e) :
    replaceFile t path text = .error ("creating config directory: " ++ e.text) := by
  simp [replaceFile, h, mapError_error, bind, Except.bind]

/-- A settings file that is not there reads as empty. -/
theorem readSettings_of_missing {t : Workspace.Tree} {path : String}
    (h : t.entry true path = .error .noent) : readSettings t path = .ok "" := by
  simp [readSettings, Workspace.Tree.readText, Workspace.Tree.read, h, bind, Except.bind, pure,
    Except.pure]

/-- An empty settings text holds an empty mapping. -/
theorem settingsDocument_empty :
    settingsDocument "" = .ok { kind := .document, content := [{ kind := .mapping }] } := by
  simp [settingsDocument, pure, Except.pure, bind, Except.bind]

variable {t : Workspace.Tree} {path key value data : String} {doc top : Yaml.Node}

/-- Saving reads the settings, edits the text, and replaces the file with it. -/
theorem saveValue_of_read (hread : readSettings t path = .ok data) :
    saveValue t path key value = (setText data key value).bind (replaceFile t path) := by
  simp [saveValue, hread, bind, Except.bind]

/-- The text of a settings document whose top level is a mapping, after a key is set in it. -/
theorem setText_of_document (hdoc : settingsDocument data = .ok doc)
    (htop : doc.content.head? = some top) (hmap : top.kind = .mapping) :
    setText data key value =
      ((setKey { kind := .scalar, tag := "!!str", value } (keySegments key) top).mapError
        fun e => "setting " ++ key ++ ": " ++ e).map
        fun top' => { doc with content := doc.content.set 0 top' }.text := by
  obtain ⟨rest, hcontent⟩ : ∃ rest, doc.content = top :: rest := by
    cases hc : doc.content with
    | nil => simp [hc] at htop
    | cons x rest =>
      simp only [hc, List.head?_cons, Option.some.injEq] at htop
      exact ⟨rest, by rw [htop]⟩
  cases hk : setKey { kind := .scalar, tag := "!!str", value } (keySegments key) top <;>
    simp [setText, hdoc, hcontent, hmap, hk, bind, Except.bind, pure, Except.pure, mapError_ok, mapError_error,
      Except.map]

/-- Saving a key in a settings file that reads (a missing file reads as empty), holds a document
whose top level is a mapping, and pairs its keys and values as parsing gives them: it succeeds
exactly when the key can be set and the file can be replaced. A key that cannot be set fails
naming the key, before anything is written. Otherwise the file is replaced with the text of the
edited tree, in which the key finds the string value with the comments of the value it replaced,
every node that is neither on the key's path nor below its end is where it was, and each section
that was not found is added, key then value, at the end of the mapping that holds it. -/
theorem saveValue_sets_key_path (hread : readSettings t path = .ok data)
    (hdoc : settingsDocument data = .ok doc) (htop : doc.content.head? = some top)
    (hmap : top.kind = .mapping) (hpaired : Paired top) :
    let keys := keySegments key
    let v : Yaml.Node := { kind := .scalar, tag := "!!str", value }
    ((∃ t', saveValue t path key value = .ok t') ↔ Settable top keys ∧
        ∃ t₁ real, t.mkdirAll (Workspace.Path.dir path) = .ok t₁ ∧ t₁.resolve false path = .ok real) ∧
    (¬ Settable top keys → ∃ e, saveValue t path key value = .error ("setting " ++ key ++ ": " ++ e)) ∧
    (Settable top keys → ∃ top' pos,
      saveValue t path key value = replaceFile t path { doc with content := doc.content.set 0 top' }.text ∧
      placeOf keys top' = some pos ∧ lookup keys top' = some (placed v (lookup keys top)) ∧
      (∀ π x, nodeAt π top = some x → ¬ π <+: pos → ¬ pos <+: π → nodeAt π top' = some x) ∧
      ∀ j (hj : j < keys.length), lookup (keys.take (j + 1)) top = none →
        ∃ P sec, lookup (keys.take j) top' = some P ∧
          P.content = (lookup (keys.take j) top).elim [] (·.content) ++
            [{ kind := .scalar, value := keys[j] }, sec]) := by
  intro keys v
  have hsave : saveValue t path key value =
      ((setKey v keys top).mapError fun e => "setting " ++ key ++ ": " ++ e).bind
        fun top' => replaceFile t path { doc with content := doc.content.set 0 top' }.text := by
    rw [saveValue_of_read hread, setText_of_document hdoc htop hmap]
    cases setKey v keys top <;> rfl
  refine ⟨⟨fun ⟨t', ht'⟩ => ?_, fun ⟨hs, hw⟩ => ?_⟩, fun hns => ?_, fun hs => ?_⟩
  · -- a save that went through set the key and replaced the file
    cases hk : setKey v keys top with
    | error e => rw [hsave, hk] at ht'; cases ht'
    | ok top' =>
      rw [hsave, hk] at ht'
      exact ⟨(setKey_ok_iff v keys top).1 ⟨top', hk⟩, (replaceFile_ok_iff t path _).1 ⟨t', ht'⟩⟩
  · obtain ⟨top', hk⟩ := (setKey_ok_iff v keys top).2 hs
    rw [hsave, hk]
    exact (replaceFile_ok_iff t path _).2 hw
  · cases hk : setKey v keys top with
    | error e => exact ⟨e, by rw [hsave, hk]; rfl⟩
    | ok top' => exact absurd ((setKey_ok_iff v keys top).1 ⟨top', hk⟩) hns
  · obtain ⟨top', hk⟩ := (setKey_ok_iff v keys top).2 hs
    obtain ⟨pos, hpos, hlook⟩ := setKey_lookup (keySegments_ne_nil key) hmap hpaired hk
    refine ⟨top', pos, by rw [hsave, hk]; rfl, hpos, hlook, setKey_frame hmap hpaired hk hpos,
      setKey_appends hmap hpaired hk⟩

/-- A settings file with a section, a commented value in it, and another key. -/
def sampleSettings : String := "log:\n  level: info # verbose\nname: p\n"

/-- A tree holding the sample settings file. -/
def sampleTree : Workspace.Tree := { nodes := [("/c.yaml", .file (.text sampleSettings))] }

/-- The document the sample settings file holds. -/
def sampleDoc : Yaml.Node := (settingsDocument sampleSettings).toOption.getD { kind := .document }

/-- The top-level mapping of the sample settings file. -/
def sampleTop : Yaml.Node := sampleDoc.content.head?.getD { kind := .mapping }

/-- An existing key inside a section of a written file: the value it replaces carries a line
comment, and another key sits beside the section. -/
theorem saveValue_sets_key_path_existing_key :
    readSettings sampleTree "c.yaml" = .ok sampleSettings ∧
    settingsDocument sampleSettings = .ok sampleDoc ∧ sampleDoc.content.head? = some sampleTop ∧
    sampleTop.kind = .mapping ∧ Paired sampleTop ∧
    let keys := keySegments "log.level"
    let v : Yaml.Node := { kind := .scalar, tag := "!!str", value := "debug" }
    ((∃ t', saveValue sampleTree "c.yaml" "log.level" "debug" = .ok t') ↔ Settable sampleTop keys ∧
        ∃ t₁ real, sampleTree.mkdirAll (Workspace.Path.dir "c.yaml") = .ok t₁ ∧
          t₁.resolve false "c.yaml" = .ok real) ∧
    (¬ Settable sampleTop keys →
      ∃ e, saveValue sampleTree "c.yaml" "log.level" "debug" = .error ("setting " ++ "log.level" ++ ": " ++ e)) ∧
    (Settable sampleTop keys → ∃ top' pos,
      saveValue sampleTree "c.yaml" "log.level" "debug" =
        replaceFile sampleTree "c.yaml" { sampleDoc with content := sampleDoc.content.set 0 top' }.text ∧
      placeOf keys top' = some pos ∧ lookup keys top' = some (placed v (lookup keys sampleTop)) ∧
      (∀ π x, nodeAt π sampleTop = some x → ¬ π <+: pos → ¬ pos <+: π → nodeAt π top' = some x) ∧
      ∀ j (hj : j < keys.length), lookup (keys.take (j + 1)) sampleTop = none →
        ∃ P sec, lookup (keys.take j) top' = some P ∧
          P.content = (lookup (keys.take j) sampleTop).elim [] (·.content) ++
            [{ kind := .scalar, value := keys[j] }, sec]) := by
  have helements : Workspace.Path.elements (Workspace.Path.abs "/" "c.yaml") = ["c.yaml"] := by
    decide +kernel
  have hread : readSettings sampleTree "c.yaml" = .ok sampleSettings := by
    simp [readSettings, Workspace.Tree.readText, Workspace.Tree.read, Workspace.Tree.entry,
      sampleTree, Workspace.Tree.resolve, helements, Workspace.Tree.walk, Workspace.Tree.node?,
      Workspace.Tree.child, bind, Except.bind, pure, Except.pure]
  -- the sample parses, so the document is what parsing gives
  have hdoc : settingsDocument sampleSettings = .ok sampleDoc := by
    have hparsed : (settingsDocument sampleSettings).toBool = true := by decide +kernel
    unfold sampleDoc
    cases hs : settingsDocument sampleSettings with
    | error e => rw [hs] at hparsed; cases hparsed
    | ok d => rfl
  have htop : sampleDoc.content.head? = some sampleTop := by
    have hsome : sampleDoc.content.head?.isSome = true := by decide +kernel
    unfold sampleTop
    cases hh : sampleDoc.content.head? with
    | none => rw [hh] at hsome; cases hsome
    | some x => rfl
  have hmap : sampleTop.kind = .mapping := by decide +kernel
  have hpaired : Paired sampleTop := paired_of_isPaired sampleTop (by decide +kernel)
  exact ⟨hread, hdoc, htop, hmap, hpaired, saveValue_sets_key_path hread hdoc htop hmap hpaired⟩

/-- A settings file under a directory that is a link to nothing. -/
def danglingConfigDir : Workspace.Tree := { nodes := [("/link", .link "missing-dir")] }

/-- Setting a key can fail for the file system alone: the settings file under a dangling link
reads as missing, its key can be set in the empty mapping, and the save is still refused, as
making the directory finds the link in the way. -/
theorem saveValue_refused_under_dangling_dir :
    readSettings danglingConfigDir "link/c.yaml" = .ok "" ∧
      Settable { kind := .mapping } (keySegments "debug") ∧
      saveValue danglingConfigDir "link/c.yaml" "debug" "true" =
        .error "creating config directory: mkdir link: file exists" := by
  have hfile : Workspace.Path.elements (Workspace.Path.abs "/" "link/c.yaml") = ["link", "c.yaml"] := by
    decide +kernel
  have hdir : Workspace.Path.elements (Workspace.Path.abs "/" "link") = ["link"] := by decide +kernel
  have htarget : Workspace.Path.elements (Workspace.Path.abs "/" "missing-dir") = ["missing-dir"] := by
    decide +kernel
  have hparent : Workspace.Path.dir "link/c.yaml" = "link" := by decide +kernel
  have hclimb : Workspace.Tree.parentText "link" = "" := by decide +kernel
  -- the link leads nowhere, so the file is missing ...
  have hread : readSettings danglingConfigDir "link/c.yaml" = .ok "" := by
    apply readSettings_of_missing
    simp [Workspace.Tree.entry, danglingConfigDir, Workspace.Tree.resolve, hfile,
      Workspace.Tree.walk, Workspace.Tree.node?, Workspace.Tree.child, htarget, List.lookup_cons,
      bind, Except.bind]
  -- ... and its directory cannot be made, as the link itself is in the way
  have hmkdir : danglingConfigDir.mkdirAll (Workspace.Path.dir "link/c.yaml") =
      .error ⟨"mkdir", "link", .exist⟩ := by
    simp [hparent, Workspace.Tree.mkdirAll, Workspace.Tree.mkdirAll.go, Workspace.Tree.entry,
      Workspace.Tree.mkdir, danglingConfigDir, Workspace.Tree.resolve, hdir, Workspace.Tree.walk,
      Workspace.Tree.node?, Workspace.Tree.child, htarget, hclimb, List.lookup_cons, bind,
      Except.bind, pure, Except.pure, throw, throwThe, MonadExceptOf.throw]
  have hset : Settable { kind := .mapping } (keySegments "debug") := settable_empty.2 (by decide +kernel)
  obtain ⟨top', hk⟩ := (setKey_ok_iff _ _ _).2 hset
  refine ⟨hread, hset, ?_⟩
  rw [saveValue_of_read hread, setText_of_document settingsDocument_empty rfl rfl, hk]
  exact replaceFile_of_mkdirAll_error hmkdir

end Save

end PassPlan.Config
