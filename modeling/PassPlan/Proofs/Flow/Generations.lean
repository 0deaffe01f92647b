import PassPlan.Proofs.Flow.Registry
import PassPlan.Proofs.Flow.Memo
import Mathlib.Data.List.Basic
import Mathlib.Data.List.Chain
/-!
A resolver's memo is never seen. Within a generation a source only gains definitions, and it
leaves a generation only for a later one; a resolver flushes its memo when it finds the source
at another generation than its own. So every plan the memo keeps stays the flattening of its
flow in the source as it stands, and for names whose texts tell them apart, as valid names'
texts do, resolving and explaining through the memo answer as a fresh resolver does, after any
interleaving of source changes, resolutions, explanations and flushes. Every call on a registry
changes it as such a source may change.
-/
namespace PassPlan.Flow

namespace Name

/-- A name with a flow part and no colon in either part. -/
def Valid (n : Name) : Prop := n.validate = .ok ()

instance : DecidablePred Valid := fun n =>
  match h : n.validate with
  | .ok () => isTrue h
  | .error _ => isFalse fun hv => by rw [Valid, h] at hv; cases hv

theorem valid_iff {n : Name} :
    n.Valid ↔ n.flow ≠ "" ∧ ':' ∉ n.flow.toList ∧ ':' ∉ n.backend.toList := by
  unfold Valid validate
  split_ifs <;> simp_all

theorem text_toList (n : Name) : n.text.toList =
    if n.backend = "" then n.flow.toList else n.backend.toList ++ ':' :: n.flow.toList := by
  unfold text
  split <;> simp [String.toList_append]

/-- Valid names are told apart by their texts: the one colon of a text parts backend and flow. -/
theorem text_inj {a b : Name} (ha : a.Valid) (hb : b.Valid) (h : a.text = b.text) : a = b := by
  obtain ⟨-, haf, hab⟩ := valid_iff.1 ha
  obtain ⟨-, hbf, -⟩ := valid_iff.1 hb
  have ht := congrArg String.toList h
  rw [text_toList, text_toList] at ht
  obtain ⟨ab, af⟩ := a
  obtain ⟨bb, bf⟩ := b
  dsimp only at ht haf hab hbf ⊢
  split_ifs at ht with hga hgb hgb
  · rw [hga, hgb, String.toList_inj.1 ht]
  · exact absurd (by rw [ht]; simp) haf
  · exact absurd (by rw [← ht]; simp) hbf
  · obtain ⟨hb', -, hf'⟩ := (List.append_cons_inj_of_notMem hab haf).1 ht
    rw [String.toList_inj.1 hb', String.toList_inj.1 hf']

end Name

namespace Source

variable {S S' : Source} {m : Memo}

/-- Every name the source defines or requires is valid. -/
def Valid (S : Source) : Prop := ∀ d ∈ S.defs, d.name.Valid ∧ ∀ q ∈ d.requires, q.Valid

instance : DecidablePred Valid := fun S => inferInstanceAs (Decidable (∀ d ∈ S.defs, _))

theorem Valid.keyed (h : S.Valid) : S.Keyed Name.Valid where
  inj _ _ ha hb ht := Name.text_inj ha hb ht
  defined d hd := (h d hd).1
  required d hd q hq := (h d hd).2 q hq

/-- Every name `S` defines is looked up in `S'` as in `S`. -/
def Keeps (S S' : Source) : Prop := ∀ d ∈ S.defs, S'.get? d.name = S.get? d.name

instance : Decidable (S.Keeps S') := inferInstanceAs (Decidable (∀ d ∈ S.defs, _))

theorem Keeps.get? (hk : S.Keeps S') {n : Name} {d : Definition} (h : S.get? n = some d) :
    S'.get? n = some d := by
  obtain ⟨hd, rfl⟩ := get?_spec h
  rw [hk d hd, h]

theorem Expands.keeps (hk : S.Keeps S') {ns : List Name} {xs : List String} (h : S.Expands ns xs) :
    S'.Expands ns xs := by
  induction h with
  | nil => exact .nil
  | cons hd _ _ ihreq ihrest => exact .cons (hk.get? hd) ihreq ihrest

/-- How a source may change under its readers: within a generation it only gains definitions,
and it leaves a generation only for a later one. -/
def Follows (S S' : Source) : Prop :=
  (S'.generation = S.generation ∧ S.Keeps S') ∨ S.generation < S'.generation

instance : DecidableRel Follows := fun S S' =>
  inferInstanceAs (Decidable ((S'.generation = S.generation ∧ S.Keeps S') ∨ _))

/-- Appending definitions keeps those there. -/
theorem keeps_append (ds : List Definition) (g : Nat) : S.Keeps ⟨S.defs ++ ds, g⟩ := by
  intro d hd
  have hsome : (S.defs.find? (·.name = d.name)).isSome := List.find?_isSome.2 ⟨d, hd, by simp⟩
  obtain ⟨e, he⟩ := Option.isSome_iff_exists.1 hsome
  simp only [Source.get?]
  rw [List.find?_append, he]
  rfl

end Source

theorem Memo.Sound.keeps {S S' : Source} {m : Memo} (hk : S.Keeps S') (h : m.Sound S) :
    m.Sound S' := by
  intro k q hq
  obtain ⟨ht, xs, hx, hp⟩ := h k q hq
  exact ⟨ht, xs, hx.keeps hk, hp⟩

namespace Resolver

variable {S S' : Source} {K : Name → Prop} {r : Resolver} {n : Name}

/-- A resolver never ahead of its source's generation, whose memo is right for the source
whenever it stands at that generation. -/
structure Tracks (S : Source) (r : Resolver) : Prop where
  le : r.generation ≤ S.generation
  current : r.Current S

theorem tracks_new (S : Source) : (Resolver.new S).Tracks S :=
  ⟨le_refl _, current_of_sound Memo.sound_empty⟩

/-- A change of the source keeps a resolver tracking it: within the generation the memo stays
right, and at a later generation it will be flushed before it is read. -/
theorem Tracks.follow (h : r.Tracks S) (hf : S.Follows S') : r.Tracks S' := by
  rcases hf with ⟨hg, hk⟩ | hlt
  · exact ⟨hg ▸ h.le, fun hr => (h.current (hr.trans hg)).keeps hk⟩
  · have hbehind : r.generation < S'.generation := lt_of_le_of_lt h.le hlt
    exact ⟨le_of_lt hbehind, fun hr => absurd hr (ne_of_lt hbehind)⟩

theorem Tracks.resolve (hK : S.Keyed K) (h : r.Tracks S) : (r.resolve S n).1.Tracks S :=
  ⟨by simp, resolve_current hK h.current⟩

theorem Tracks.explain (hK : S.Keyed K) (h : r.Tracks S) : (r.explain S n).1.Tracks S := by
  rw [explain_fst]
  exact h.resolve hK

theorem Tracks.invalidate (h : r.Tracks S) : r.invalidate.Tracks S :=
  ⟨h.le, current_of_sound Memo.sound_empty⟩

/-- Through a current memo a name of the key set resolves as through an empty one. -/
theorem resolve_eq_fresh (hK : S.Keyed K) (hn : K n) (h : r.Current S) :
    (r.resolve S n).2 = ((Resolver.new S).resolve S n).2 := by
  rw [resolve_eq_search hK hn h, resolve_eq_search hK hn (tracks_new S).current]

theorem explain_eq_fresh (hK : S.Keyed K) (hn : K n) (h : r.Current S) :
    (r.explain S n).2 = ((Resolver.new S).explain S n).2 := by
  rw [explain_snd, explain_snd, resolve_eq_fresh hK hn h]

end Resolver

/-- What may happen to a resolver and the source it reads. -/
inductive Event where
  /-- The source becomes another. -/
  | change (S : Source)
  | resolve (n : Name)
  | explain (n : Name)
  | invalidate
deriving Repr

namespace Event

/-- The source and the resolver after an event. -/
def apply : Source × Resolver → Event → Source × Resolver
  | (_, r), .change S => (S, r)
  | (S, r), .resolve n => (S, (r.resolve S n).1)
  | (S, r), .explain n => (S, (r.explain S n).1)
  | (S, r), .invalidate => (S, r.invalidate)

/-- The source and the resolver after events in turn. -/
def run (p : Source × Resolver) (evs : List Event) : Source × Resolver := evs.foldl apply p

/-- The sources the events change to, in order. -/
def changes : List Event → List Source
  | [] => []
  | .change S :: evs => S :: changes evs
  | _ :: evs => changes evs

/-- Events whose source changes each follow the source before and leave valid names keep a
resolver tracking its source. -/
theorem tracks_run : ∀ (evs : List Event) {S : Source} {r : Resolver}, r.Tracks S →
    (S :: changes evs).IsChain Source.Follows → (∀ S' ∈ S :: changes evs, S'.Valid) →
    (run (S, r) evs).2.Tracks (run (S, r) evs).1 ∧ (run (S, r) evs).1.Valid
  | [], _, _, h, _, hv => ⟨h, hv _ List.mem_cons_self⟩
  | .change S' :: evs, _, _, h, hc, hv => by
    rw [changes, List.isChain_cons_cons] at hc
    exact tracks_run evs (h.follow hc.1) hc.2 fun S'' hS'' => hv S'' (List.mem_cons_of_mem _ hS'')
  | .resolve n :: evs, _, _, h, hc, hv =>
    tracks_run evs (h.resolve (hv _ List.mem_cons_self).keyed) hc hv
  | .explain n :: evs, _, _, h, hc, hv =>
    tracks_run evs (h.explain (hv _ List.mem_cons_self).keyed) hc hv
  | .invalidate :: evs, _, _, h, hc, hv => tracks_run evs h.invalidate hc hv

end Event

namespace Registry

variable {r : Registry}

/-- The names of a well-formed registry are valid: its flows by registration, their
requirements by being registered. -/
theorem Invariant.valid_source (h : r.Invariant) : r.source.Valid := by
  intro d (hd : d ∈ r.defs)
  refine ⟨h.valid d hd, fun q hq => ?_⟩
  obtain ⟨pre, post, hsplit⟩ := List.append_of_mem hd
  have hp : pre ++ [d] <+: r.defs := ⟨post, by rw [hsplit]; simp⟩
  obtain ⟨e, he, rfl⟩ := List.mem_map.1 (h.closed pre d hp q hq)
  exact h.valid e (hp.subset (List.mem_append_left _ he))

/-- Every call changes a registry as a source may change under its resolvers: a registration
appends, a freeze or a failure changes nothing, and a reset moves to the next generation. -/
theorem follows_apply (c : Call) : r.source.Follows (r.apply c).source := by
  unfold Registry.apply
  split
  · next r' hc =>
    rcases call_eq_ok hc with ⟨_, _, _, _, _, hr⟩ | rfl | rfl
    · obtain ⟨n, -, -, -, -, -, -, -, rfl⟩ := register_eq_ok.1 hr
      exact .inl ⟨rfl, Source.keeps_append [_] _⟩
    · exact .inl ⟨rfl, fun _ _ => rfl⟩
    · exact .inr (Nat.lt_succ_self _)
  · exact .inl ⟨rfl, fun _ _ => rfl⟩

end Registry
end PassPlan.Flow
