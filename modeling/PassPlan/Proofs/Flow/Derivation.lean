import PassPlan.Proofs.Flow.Registry
import Mathlib.Data.List.InsertIdx
/-!
Splicing and deriving. An insertion puts its prerequisite right before or right after the first
occurrence of its anchor, and a splice places its insertions in turn, each into the list the
earlier ones left. It stops at the first insertion whose anchor is missing, reporting the list as
it stood then, or whose position names no side. A splice that succeeds adds one name per insertion
and moves none: the requirements keep their order, and the result holds them and the
prerequisites. A derivation succeeds exactly when the base is registered, the splice succeeds, the
target validates and it registers with the spliced requirements and the passes the options leave,
the last option winning; it then appends the target and leaves every other flow as it was.
-/
namespace PassPlan.Flow

section FirstAt

variable {α : Type} {l : List α} {a : α} {k : Nat}

/-- `k` is the index of the first occurrence of `a` in `l`. -/
def FirstAt (l : List α) (a : α) (k : Nat) : Prop := l[k]? = some a ∧ a ∉ l.take k

theorem idxOf?_eq_some_iff_firstAt [DecidableEq α] : l.idxOf? a = some k ↔ FirstAt l a k := by
  rw [List.idxOf?_eq_some_iff, FirstAt, List.getElem?_eq_some_iff, List.mem_take_iff_getElem]
  constructor
  · rintro ⟨hk, hka, hbefore⟩
    exact ⟨⟨hk, hka⟩, fun ⟨j, hj, hja⟩ => hbefore j (by omega) hja⟩
  · rintro ⟨⟨hk, hka⟩, hnone⟩
    exact ⟨hk, hka, fun j hj hja => hnone ⟨j, by omega, hja⟩⟩

theorem FirstAt.lt_length (h : FirstAt l a k) : k < l.length :=
  (List.getElem?_eq_some_iff.1 h.1).1

theorem FirstAt.unique [DecidableEq α] {j : Nat} (hk : FirstAt l a k) (hj : FirstAt l a j) : j = k :=
  Option.some.inj ((idxOf?_eq_some_iff_firstAt.2 hj).symm.trans (idxOf?_eq_some_iff_firstAt.2 hk))

end FirstAt

theorem insertIdx_eq_take_drop {α : Type} {l : List α} {i : Nat} (h : i ≤ l.length) (x : α) :
    l.insertIdx i x = l.take i ++ x :: l.drop i := by
  obtain ⟨l₁, l₂, rfl, rfl, heq⟩ := List.exists_of_modifyTailIdx (List.cons x) h
  rw [List.insertIdx, heq, List.take_left, List.drop_left]

/-- Inserting an element that a map sends to nothing leaves the joined images as they were. -/
theorem flatMap_insertIdx {α β : Type} {l : List α} {i : Nat} (h : i ≤ l.length) {x : α}
    {g : α → List β} (hx : g x = []) : (l.insertIdx i x).flatMap g = l.flatMap g := by
  conv_rhs => rw [← List.take_append_drop i l]
  rw [insertIdx_eq_take_drop h, List.flatMap_append, List.flatMap_cons, hx, List.nil_append,
    List.flatMap_append]

namespace Insertion

variable {i : Insertion} {out out' : List Name} {e : Error}

/-- Placing `i` into `out` gives `out'`: its prerequisite stands right before or right after the
first occurrence of its anchor. -/
def Places (i : Insertion) (out out' : List Name) : Prop :=
  ∃ k, FirstAt out i.anchor k ∧
    (i.position = .before ∧ out' = out.insertIdx k i.prerequisite ∨
      i.position = .after ∧ out' = out.insertIdx (k + 1) i.prerequisite)

/-- Why `i` cannot be placed into `out`: its anchor is missing, reported with the list as it
stands, or its position names no side. -/
def Refuses (i : Insertion) (out : List Name) (e : Error) : Prop :=
  i.anchor ∉ out ∧ e = .anchorMissing i.anchor out Name.zero ∨
    i.anchor ∈ out ∧ ∃ c, i.position = .other c ∧ e = .badPosition c

theorem apply_eq_ok : i.apply out = .ok out' ↔ i.Places out out' := by
  unfold apply Places
  cases hk : out.idxOf? i.anchor with
  | none =>
    simp only [reduceCtorEq, false_iff]
    rintro ⟨k, hfirst, -⟩
    rw [idxOf?_eq_some_iff_firstAt.2 hfirst] at hk
    cases hk
  | some k =>
    have hfirst := idxOf?_eq_some_iff_firstAt.1 hk
    have hlen := hfirst.lt_length
    -- the anchor's first index is the one `idxOf?` found, so the side alone decides
    have hk' : ∀ j, FirstAt out i.anchor j ↔ j = k := fun j => ⟨hfirst.unique, fun h => h ▸ hfirst⟩
    simp only [hk', exists_eq_left]
    cases i.position with
    | before => simp [insertIdx_eq_take_drop (Nat.le_of_lt hlen), eq_comm]
    | after => simp [insertIdx_eq_take_drop (Nat.succ_le_of_lt hlen), eq_comm]
    | other c => simp

theorem apply_eq_error : i.apply out = .error e ↔ i.Refuses out e := by
  unfold apply Refuses
  cases hk : out.idxOf? i.anchor with
  | none =>
    have hmem : i.anchor ∉ out := List.idxOf?_eq_none_iff.1 hk
    simp [hmem, eq_comm]
  | some k =>
    have hmem : i.anchor ∈ out := List.isSome_idxOf?.1 (by simp [hk])
    cases i.position <;> simp [hmem, eq_comm]

/-- A placed insertion is the list with the prerequisite inserted at an index within it. -/
theorem Places.exists_insertIdx (h : i.Places out out') :
    ∃ j ≤ out.length, out' = out.insertIdx j i.prerequisite := by
  obtain ⟨k, hfirst, ⟨-, rfl⟩ | ⟨-, rfl⟩⟩ := h
  · exact ⟨k, Nat.le_of_lt hfirst.lt_length, rfl⟩
  · exact ⟨k + 1, Nat.succ_le_of_lt hfirst.lt_length, rfl⟩

theorem Places.length_eq (h : i.Places out out') : out'.length = out.length + 1 := by
  obtain ⟨j, hj, rfl⟩ := h.exists_insertIdx
  exact List.length_insertIdx_of_le_length hj _

theorem Places.sublist (h : i.Places out out') : out.Sublist out' := by
  obtain ⟨j, -, rfl⟩ := h.exists_insertIdx
  exact List.sublist_insertIdx _ _ _

theorem Places.perm (h : i.Places out out') : out'.Perm (i.prerequisite :: out) := by
  obtain ⟨j, hj, rfl⟩ := h.exists_insertIdx
  exact List.perm_insertIdx _ _ hj

theorem Places.flatMap_eq {β : Type} {g : Name → List β} (h : i.Places out out')
    (hg : g i.prerequisite = []) : out'.flatMap g = out.flatMap g := by
  obtain ⟨j, hj, rfl⟩ := h.exists_insertIdx
  exact flatMap_insertIdx hj hg

end Insertion

/-- The progressive splice: the insertions placed in turn, each into the list the earlier ones
left. -/
inductive Spliced : List Name → List Insertion → List Name → Prop
  | nil (rs : List Name) : Spliced rs [] rs
  | cons {rs mid out : List Name} {i : Insertion} {ins : List Insertion} :
      i.Places rs mid → Spliced mid ins out → Spliced rs (i :: ins) out

variable {rs out : List Name} {ins : List Insertion} {e : Error}

theorem splice_nil (rs : List Name) : splice rs [] = .ok rs := rfl

theorem splice_cons (rs : List Name) (i : Insertion) (ins : List Insertion) :
    splice rs (i :: ins) = i.apply rs >>= fun mid => splice mid ins := List.foldlM_cons

/-- A splice succeeds exactly on the progressive splice. -/
theorem splice_eq_ok : splice rs ins = .ok out ↔ Spliced rs ins out := by
  induction ins generalizing rs with
  | nil =>
    rw [splice_nil, Except.ok.injEq]
    constructor
    · rintro rfl
      exact .nil rs
    · rintro ⟨⟩
      rfl
  | cons i ins ih =>
    rw [splice_cons, Except.bind_eq_ok]
    constructor
    · rintro ⟨mid, hmid, hrest⟩
      exact .cons (Insertion.apply_eq_ok.1 hmid) (ih.1 hrest)
    · rintro (_ | ⟨hmid, hrest⟩)
      exact ⟨_, Insertion.apply_eq_ok.2 hmid, ih.2 hrest⟩

theorem Except.bind_eq_error {ε α β : Type} {x : Except ε α} {f : α → Except ε β} {e : ε} :
    x >>= f = .error e ↔ x = .error e ∨ ∃ a, x = .ok a ∧ f a = .error e := by
  cases x <;> simp [bind, Except.bind]

/-- Where a splice of `i₀ :: ins` first fails: at `i₀` itself, or after placing it. -/
theorem firstRefusal_cons {i₀ : Insertion} :
    (∃ pre i post mid, i₀ :: ins = pre ++ i :: post ∧ Spliced rs pre mid ∧ i.Refuses mid e) ↔
      i₀.Refuses rs e ∨ ∃ mid, i₀.Places rs mid ∧
        ∃ pre i post mid', ins = pre ++ i :: post ∧ Spliced mid pre mid' ∧ i.Refuses mid' e := by
  constructor
  · rintro ⟨pre, i, post, mid, hins, hpre, href⟩
    cases pre with
    | nil =>
      obtain ⟨rfl, rfl⟩ := List.cons.inj hins
      cases hpre
      exact .inl href
    | cons j pre =>
      obtain ⟨rfl, rfl⟩ := List.cons.inj hins
      cases hpre with
      | cons hplace hrest => exact .inr ⟨_, hplace, pre, i, post, mid, rfl, hrest, href⟩
  · rintro (href | ⟨mid, hplace, pre, i, post, mid', rfl, hrest, href⟩)
    · exact ⟨[], i₀, ins, rs, rfl, .nil rs, href⟩
    · exact ⟨i₀ :: pre, i, post, mid', rfl, .cons hplace hrest, href⟩

/-- A splice fails exactly at the first insertion that the list spliced so far refuses, with
that insertion's failure. -/
theorem splice_eq_error : splice rs ins = .error e ↔
    ∃ pre i post mid, ins = pre ++ i :: post ∧ Spliced rs pre mid ∧ i.Refuses mid e := by
  induction ins generalizing rs with
  | nil =>
    simp only [splice_nil, reduceCtorEq, false_iff]
    rintro ⟨pre, i, post, mid, hins, -⟩
    simp at hins
  | cons i ins ih =>
    rw [splice_cons, Except.bind_eq_error, firstRefusal_cons, Insertion.apply_eq_error]
    simp only [Insertion.apply_eq_ok, ih]

namespace Spliced

theorem length_eq (h : Spliced rs ins out) : out.length = rs.length + ins.length := by
  induction h with
  | nil => rfl
  | cons hplace _ ih => rw [ih, hplace.length_eq, List.length_cons]; omega

theorem sublist (h : Spliced rs ins out) : rs.Sublist out := by
  induction h with
  | nil => exact List.Sublist.refl _
  | cons hplace _ ih => exact hplace.sublist.trans ih

theorem perm (h : Spliced rs ins out) : out.Perm (rs ++ ins.map (·.prerequisite)) := by
  induction h with
  | nil => simp
  | @cons rs mid out i ins hplace _ ih =>
    -- the prerequisite placed first moves behind the requirements
    have hmid : (mid ++ ins.map (·.prerequisite)).Perm (rs ++ (i :: ins).map (·.prerequisite)) := by
      rw [List.map_cons, ← List.singleton_append, ← List.append_assoc]
      exact (hplace.perm.trans (List.perm_append_singleton _ _).symm).append_right _
    exact ih.trans hmid

/-- Names that a map sends to nothing may be spliced in without changing the joined images. -/
theorem flatMap_eq {β : Type} {g : Name → List β} (h : Spliced rs ins out)
    (hg : ∀ i ∈ ins, g i.prerequisite = []) : out.flatMap g = rs.flatMap g := by
  induction h with
  | nil => rfl
  | cons hplace _ ih =>
    rw [ih fun i hi => hg i (List.mem_cons_of_mem _ hi),
      hplace.flatMap_eq (hg _ List.mem_cons_self)]

theorem mem_iff (h : Spliced rs ins out) (n : Name) :
    n ∈ out ↔ n ∈ rs ∨ ∃ i ∈ ins, i.prerequisite = n := by
  rw [h.perm.mem_iff, List.mem_append, List.mem_map]

end Spliced

/-- The options leave the passes of the last one. -/
theorem DeriveOption.choose_eq_getLast? (opts : List DeriveOption) :
    DeriveOption.choose opts = opts.getLast?.map DeriveOption.passes := by
  -- a later option overrides whatever the earlier ones chose
  suffices h : ∀ (init : Option (List String)) (os : List DeriveOption),
      os.foldl (fun _ o => some o.passes) init = (os.getLast?.map DeriveOption.passes).or init from
    (h none opts).trans Option.or_none
  intro init os
  induction os generalizing init with
  | nil => rfl
  | cons o os ih =>
    rw [List.foldl_cons, ih, List.getLast?_cons]
    cases os.getLast? <;> rfl

namespace Registry

variable {r r' : Registry} {base target : Name} {passes : Option (List String)} {d : Definition}

/-- A derivation succeeds exactly when the base is registered, its requirements splice, the
target validates and registers with the spliced requirements and the chosen passes. -/
theorem derive_eq_ok_iff : r.derive base target ins passes = .ok (d, r') ↔
    ∃ b rs, r.find? base = some b ∧ splice b.requires ins = .ok rs ∧ target.validate = .ok () ∧
      r.register target.flow (passes.getD b.passes) rs target.backend = .ok (d, r') := by
  unfold derive
  -- each check in turn: a failure is thrown, and only the last reaches the registration
  cases hb : r.find? base with
  | none => simp [get, hb, bind, Except.bind]
  | some b =>
    cases hs : splice b.requires ins with
    | error e => cases e <;> simp [get, hb, hs, bind, Except.bind, throw, throwThe]
    | ok rs =>
      cases hv : target.validate with
      | error p => simp [get, hb, hs, bind, Except.bind, pure, Except.pure, throw, throwThe]
      | ok u => simp [get, hb, hs, bind, Except.bind, pure, Except.pure]

/-- A splice that misses an anchor makes the derivation fail with the base named. -/
theorem derive_anchorMissing {b : Definition} {a : Name} {l : List Name}
    (hb : r.find? base = some b) (hs : splice b.requires ins = .error (.anchorMissing a l Name.zero)) :
    r.derive base target ins passes = .error (.anchorMissing a l base) := by
  simp only [derive, get, hb, hs, bind, Except.bind]
  rfl

/-- A derivation that succeeds appends the target and finds the base as before. -/
theorem derive_appends (h : r.derive base target ins passes = .ok (d, r')) :
    r'.defs = r.defs ++ [d] ∧ r'.find? base = r.find? base := by
  obtain ⟨b, rs, hb, -, -, hreg⟩ := derive_eq_ok_iff.1 h
  obtain ⟨n, -, -, -, -, -, -, -, rfl⟩ := register_eq_ok.1 hreg
  refine ⟨rfl, ?_⟩
  simp only [find?, List.find?_append]
  simp only [find?] at hb
  rw [hb]
  rfl

/-- A derivation that fails leaves the registry as it was. -/
theorem apply_derive_of_error (h : r.derive base target ins passes = .error e) :
    r.apply (.derive base target ins passes) = r := by
  simp [Registry.apply, call, h, Functor.map, Except.map]

/-- What a derivation leaves in a well-formed registry: a well-formed registry holding the target,
which validates, under the name its text qualifies to, with the chosen passes and the base's
requirements spliced, next to the base and every prerequisite. -/
theorem Invariant.derived (h : r.Invariant) (hd : r.derive base target ins passes = .ok (d, r')) :
    r'.Invariant ∧ d ∈ r'.defs ∧ target.validate = .ok () ∧
      qualify target.flow target.backend = .ok d.name ∧
      (∃ b ∈ r'.defs, b.name = base ∧ d.passes = passes.getD b.passes ∧
        Spliced b.requires ins d.requires) ∧
      ∀ i ∈ ins, ∃ e ∈ r'.defs, e.name = i.prerequisite := by
  obtain ⟨hdefs, -⟩ := derive_appends hd
  obtain ⟨b, rs, hb, hs, hv, hreg⟩ := derive_eq_ok_iff.1 hd
  have hsp := splice_eq_ok.1 hs
  obtain ⟨n, hq, -, -, -, -, hc, rfl, -⟩ := register_eq_ok.1 hreg
  -- the flows registered before stay, and the target comes last
  have hold : ∀ e ∈ r.defs, e ∈ r'.defs := fun e he => hdefs ▸ List.mem_append_left _ he
  refine ⟨h.register hreg, hdefs ▸ List.mem_append_right _ List.mem_cons_self, hv, hq,
    ⟨b, hold b (List.mem_of_find?_eq_some hb), by simpa using List.find?_some hb, rfl, hsp⟩,
    fun i hi => ?_⟩
  have hreq := (checkRequires_eq_ok.1 hc i.prerequisite ((hsp.mem_iff _).2 (.inr ⟨i, hi, rfl⟩))).2
  obtain ⟨e, he, hname⟩ := List.mem_map.1 (has_iff.1 hreq)
  exact ⟨e, hold e he, hname⟩

end Registry

/-- Splicing is the progressive splice at the first occurrence of each anchor, which fails at the
first insertion whose anchor is missing from the list spliced so far, or whose position names no
side; a splice that succeeds grows the list by one name per insertion, keeps the requirements in
order as a subsequence, and holds exactly the requirements and the prerequisites. A derivation
under options, the last of which chooses the passes, succeeds exactly when the base is
registered, the splice succeeds, the target validates and registers with the spliced list; it
then appends the target and finds the base as before, reports a missing anchor with the base
named, and when it fails leaves the registry as it was. -/
theorem splice_progressive :
    (∀ rs ins out, splice rs ins = .ok out ↔ Spliced rs ins out) ∧
    (∀ rs ins e, splice rs ins = .error e ↔
      ∃ pre i post mid, ins = pre ++ i :: post ∧ Spliced rs pre mid ∧ i.Refuses mid e) ∧
    (∀ rs ins out, splice rs ins = .ok out →
      out.length = rs.length + ins.length ∧ rs.Sublist out ∧
        out.Perm (rs ++ ins.map (·.prerequisite))) ∧
    (∀ opts, DeriveOption.choose opts = opts.getLast?.map DeriveOption.passes) ∧
    ∀ (r : Registry) (base target : Name) (ins : List Insertion) (opts : List DeriveOption),
      (∀ d r', r.deriveWith base target ins opts = .ok (d, r') ↔
        ∃ b rs, r.find? base = some b ∧ splice b.requires ins = .ok rs ∧
          target.validate = .ok () ∧
          r.register target.flow ((DeriveOption.choose opts).getD b.passes) rs target.backend =
            .ok (d, r')) ∧
      (∀ d r', r.deriveWith base target ins opts = .ok (d, r') →
        r'.defs = r.defs ++ [d] ∧ r'.find? base = r.find? base) ∧
      (∀ b a l, r.find? base = some b → splice b.requires ins = .error (.anchorMissing a l Name.zero) →
        r.deriveWith base target ins opts = .error (.anchorMissing a l base)) ∧
      (∀ e, r.deriveWith base target ins opts = .error e →
        r.apply (.derive base target ins (DeriveOption.choose opts)) = r) := by
  refine ⟨fun _ _ _ => splice_eq_ok, fun _ _ _ => splice_eq_error, ?_,
    DeriveOption.choose_eq_getLast?, ?_⟩
  · intro rs ins out h
    have hs := splice_eq_ok.1 h
    exact ⟨hs.length_eq, hs.sublist, hs.perm⟩
  · intro r base target ins opts
    exact ⟨fun _ _ => Registry.derive_eq_ok_iff, fun _ _ => Registry.derive_appends,
      fun _ _ _ => Registry.derive_anchorMissing, fun _ => Registry.apply_derive_of_error⟩

end PassPlan.Flow
