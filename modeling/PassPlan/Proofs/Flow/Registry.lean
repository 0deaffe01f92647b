import PassPlan.Flow.Derive
import PassPlan.Proofs.Flow.Expansion
import PassPlan.Proofs.Text.Case
import Mathlib.Data.List.Nodup
import Mathlib.Data.String.Basic
/-!
The registry stays well formed whatever is asked of it. A registration succeeds exactly when its
name qualifies, it has passes or requirements, no blank pass, the registry is thawed, the name is
new and every requirement is registered and not the flow itself; it then appends the flow. So
along any run of registrations, derivations, freezes and resets, failed calls included, the
registered names stay distinct, valid and normalized, every requirement points back in the
order, the requirement graph is acyclic, and the listings by backend agree with the flows.
-/
namespace PassPlan.Flow

section Except

variable {ε α β : Type} {x : Except ε α} {b : β}

theorem Except.bind_eq_ok {f : α → Except ε β} : x >>= f = .ok b ↔ ∃ a, x = .ok a ∧ f a = .ok b := by
  cases x <;> simp [bind, Except.bind]

theorem Except.map_eq_ok {f : α → β} : f <$> x = .ok b ↔ ∃ a, x = .ok a ∧ f a = b := by
  cases x <;> simp [Functor.map, Except.map]

theorem Except.map_eq_error {f : α → β} {e : ε} : f <$> x = .error e ↔ x = .error e := by
  cases x <;> simp [Functor.map, Except.map]

theorem Except.mapError_eq_ok {f : ε → β} {a : α} : x.mapError f = .ok a ↔ x = .ok a := by
  cases x <;> simp [Except.mapError]

end Except

/-- Normalizing a backend twice is normalizing it once. -/
@[simp] theorem normalizeBackend_normalizeBackend (b : String) :
    normalizeBackend (normalizeBackend b) = normalizeBackend b := by
  rw [normalizeBackend, normalizeBackend, Text.trim_lower, Text.trim_trim, Text.lower_lower]

theorem normalizeBackend_empty : normalizeBackend "" = "" := by decide

namespace Name

/-- A parsed name is in normal form: its backend normalized (empty when unqualified) and its
flow trimmed. -/
theorem parse_normal {s : String} {n : Name} (h : parse s = .ok n) :
    normalizeBackend n.backend = n.backend ∧ Text.trim n.flow = n.flow := by
  unfold parse at h
  dsimp only at h
  split_ifs at h
  split at h
  · obtain rfl := Except.ok.inj h
    exact ⟨normalizeBackend_empty, Text.trim_trim s⟩
  · split at h
    · obtain rfl := Except.ok.inj h
      exact ⟨normalizeBackend_normalizeBackend _, Text.trim_trim _⟩
    · cases h

end Name

namespace Registry

variable {r r' : Registry} {flow backend : String} {passes : List String} {requires : List Name}
  {n : Name} {d : Definition}

/-- The name a registration asks for validates and is in normal form. -/
theorem qualify_ok (h : qualify flow backend = .ok n) :
    n.validate = .ok () ∧ normalizeBackend n.backend = n.backend ∧ Text.trim n.flow = n.flow := by
  unfold qualify at h
  -- either branch builds a name and then validates it
  split_ifs at h
  · obtain ⟨m, hm, h⟩ := Except.bind_eq_ok.1 h
    dsimp only at h
    split at h
    · next hv =>
      obtain rfl := Except.ok.inj h
      exact ⟨hv, Name.parse_normal (Except.mapError_eq_ok.1 hm)⟩
    · cases h
  · obtain ⟨m, hm, h⟩ := Except.bind_eq_ok.1 h
    obtain rfl := Except.ok.inj hm
    dsimp only at h
    split at h
    · next hv =>
      obtain rfl := Except.ok.inj h
      exact ⟨hv, normalizeBackend_normalizeBackend _, Text.trim_trim _⟩
    · cases h

theorem has_iff : r.has n = true ↔ n ∈ r.defs.map (·.name) := by
  simp [has, find?, List.find?_isSome]

theorem checkRequires_eq_ok : ∀ {reqs : List Name},
    r.checkRequires n reqs = .ok () ↔ ∀ q ∈ reqs, q ≠ n ∧ r.has q = true
  | [] => by simp [checkRequires]
  | q :: qs => by
    unfold checkRequires
    by_cases hq : q = n
    · simp [hq]
    · by_cases hh : r.has q = true
      · simp [hq, hh, checkRequires_eq_ok]
      · simp [hq, hh]

/-- When a registration succeeds: every check passes, in the order the registry makes them, and
the new flow goes to the end. Any other registration fails and returns no registry. -/
theorem register_eq_ok :
    r.register flow passes requires backend = .ok (d, r') ↔
      ∃ n, qualify flow backend = .ok n ∧ (passes.isEmpty && requires.isEmpty) = false ∧
        firstBlank passes = none ∧ r.frozen = false ∧ r.has n = false ∧
        r.checkRequires n requires = .ok () ∧ d = ⟨n, passes, requires⟩ ∧
        r' = { r with defs := r.defs ++ [d] } := by
  simp only [register, Except.bind_eq_ok]
  refine exists_congr fun n => and_congr_right fun _ => ?_
  -- each failed check throws; only the last branch reaches the append
  cases he : passes.isEmpty && requires.isEmpty
  case true => simp only [if_true, reduceCtorEq, false_and, iff_false]; nofun
  cases hb : firstBlank passes
  case some i => simp only [reduceCtorEq, false_and, and_false, iff_false]; nofun
  cases hf : r.frozen
  case true => simp only [if_true, reduceCtorEq, false_and, and_false, iff_false]; nofun
  cases hh : r.has n
  case true => simp only [if_true, reduceCtorEq, false_and, and_false, iff_false]; nofun
  simp only [Bool.false_eq_true, if_false, true_and, Except.bind_eq_ok]
  constructor
  · rintro ⟨⟨⟩, hc, he⟩
    cases he
    exact ⟨hc, rfl, rfl⟩
  · rintro ⟨hc, rfl, rfl⟩
    exact ⟨(), hc, rfl⟩

/-- A derivation that succeeds is a registration of the target with the spliced requirements. -/
theorem derive_eq_ok {base target : Name} {ins : List Insertion} {ps : Option (List String)}
    (h : r.derive base target ins ps = .ok (d, r')) :
    ∃ (b : Definition) (rs : List Name),
      r.register target.flow (ps.getD b.passes) rs target.backend = .ok (d, r') := by
  simp only [derive, Except.bind_eq_ok] at h
  obtain ⟨b, -, h⟩ := h
  -- only a splice that succeeds and a target that validates reach the registration
  split at h
  · next rs _ =>
    simp only [pure_bind] at h
    split at h
    · exact ⟨b, rs, h⟩
    · cases h
  · cases h
  · cases h

/-- A call that may change the registry. -/
inductive Call where
  | register (flow : String) (passes : List String) (requires : List Name) (backend : String)
  | derive (base target : Name) (insertions : List Insertion) (passes : Option (List String))
  | freeze
  | reset
deriving Repr

/-- The registry a call leaves, or why it failed. -/
def call (r : Registry) : Call → Except Error Registry
  | .register flow passes requires backend => Prod.snd <$> r.register flow passes requires backend
  | .derive base target insertions passes => Prod.snd <$> r.derive base target insertions passes
  | .freeze => .ok r.freeze
  | .reset => .ok r.reset

/-- The registry after a call: a failed call leaves it as it was. -/
def apply (r : Registry) (c : Call) : Registry :=
  match r.call c with
  | .ok r' => r'
  | .error _ => r

/-- The registry after calls in turn. -/
def run (r : Registry) (cs : List Call) : Registry := cs.foldl apply r

/-- What every reachable registry satisfies: names distinct, valid and in normal form (backend
normalized, flow trimmed), and the requirements of each flow registered before it. -/
structure Invariant (r : Registry) : Prop where
  nodup : (r.defs.map (·.name)).Nodup
  valid : ∀ d ∈ r.defs, d.name.validate = .ok ()
  normal : ∀ d ∈ r.defs, normalizeBackend d.name.backend = d.name.backend ∧
    Text.trim d.name.flow = d.name.flow
  closed : ∀ pre d, pre ++ [d] <+: r.defs → ∀ q ∈ d.requires, q ∈ pre.map (·.name)

/-- A registry with no flows, as at the start and after a reset. -/
theorem Invariant.of_nil (h : r.defs = []) : r.Invariant where
  nodup := by simp [h]
  valid _ hd := by simp [h] at hd
  normal _ hd := by simp [h] at hd
  closed _ _ hp _ _ := by simp [h] at hp

/-- Appending a fresh, valid, normalized flow whose requirements are registered. -/
theorem Invariant.append (h : r.Invariant) (hv : d.name.validate = .ok ())
    (hn : normalizeBackend d.name.backend = d.name.backend ∧ Text.trim d.name.flow = d.name.flow)
    (hfresh : r.has d.name = false)
    (hreq : ∀ q ∈ d.requires, r.has q = true) : ({ r with defs := r.defs ++ [d] } : Registry).Invariant where
  nodup := by
    rw [List.map_append, List.map_singleton, ← List.concat_eq_append, List.nodup_concat]
    exact ⟨fun hm => by simp [has_iff.2 hm] at hfresh, h.nodup⟩
  valid e he := by
    rcases List.mem_append.1 he with he | he
    · exact h.valid e he
    · rw [List.mem_singleton.1 he]
      exact hv
  normal e he := by
    rcases List.mem_append.1 he with he | he
    · exact h.normal e he
    · rw [List.mem_singleton.1 he]
      exact hn
  closed pre e hp q hq := by
    rcases List.prefix_concat_iff.1 hp with heq | hp
    · obtain ⟨rfl, rfl⟩ := List.append_singleton_inj.1 heq
      exact has_iff.1 (hreq q hq)
    · exact h.closed pre e hp q hq

theorem Invariant.register (h : r.Invariant)
    (hr : r.register flow passes requires backend = .ok (d, r')) : r'.Invariant := by
  obtain ⟨n, hq, -, -, -, hh, hc, rfl, rfl⟩ := register_eq_ok.1 hr
  obtain ⟨hv, hn⟩ := qualify_ok hq
  exact h.append hv hn hh fun q hq' => (checkRequires_eq_ok.1 hc q hq').2

/-- A call that succeeds registered one flow, froze the registry or reset it. -/
theorem call_eq_ok {c : Call} (hc : r.call c = .ok r') :
    (∃ flow passes requires backend d, r.register flow passes requires backend = .ok (d, r')) ∨
      r' = r.freeze ∨ r' = r.reset := by
  cases c with
  | register flow passes requires backend =>
    obtain ⟨⟨d, r''⟩, hr, rfl⟩ := Except.map_eq_ok.1 hc
    exact .inl ⟨_, _, _, _, _, hr⟩
  | derive base target insertions passes =>
    obtain ⟨⟨d, r''⟩, hr, rfl⟩ := Except.map_eq_ok.1 hc
    obtain ⟨b, rs, hr⟩ := derive_eq_ok hr
    exact .inl ⟨_, _, _, _, _, hr⟩
  | freeze =>
    cases hc
    exact .inr (.inl rfl)
  | reset =>
    cases hc
    exact .inr (.inr rfl)

/-- A call that succeeds keeps the invariant. -/
theorem Invariant.call (h : r.Invariant) {c : Call} (hc : r.call c = .ok r') : r'.Invariant := by
  rcases call_eq_ok hc with ⟨_, _, _, _, _, hr⟩ | rfl | rfl
  · exact h.register hr
  · exact ⟨h.nodup, h.valid, h.normal, h.closed⟩
  · exact .of_nil rfl

theorem Invariant.apply (h : r.Invariant) (c : Call) : (r.apply c).Invariant := by
  unfold Registry.apply
  split
  · next r' hc => exact h.call hc
  · exact h

/-- The invariant holds after any run from a registry that has it. -/
theorem Invariant.run (h : r.Invariant) : ∀ cs, (r.run cs).Invariant := by
  intro cs
  induction cs generalizing r with
  | nil => exact h
  | cons c cs ih => exact ih (h.apply c)

section Consequences

variable (h : r.Invariant)
include h

/-- Each registered flow is found under its own name. -/
theorem Invariant.find?_name (hd : d ∈ r.defs) : r.find? d.name = some d := by
  obtain ⟨pre, post, hsplit⟩ := List.append_of_mem hd
  have hnd := h.nodup
  rw [hsplit, List.map_append, List.map_cons, List.nodup_middle, List.nodup_cons] at hnd
  -- no flow before it has its name
  have hpre : ∀ e ∈ pre, ¬ e.name = d.name := fun e he heq =>
    hnd.1 (List.mem_append_left _ (List.mem_map.2 ⟨e, he, heq⟩))
  rw [find?, hsplit, List.find?_append, List.find?_eq_none.2 (by simpa using hpre)]
  simp

/-- Every registered flow reaches only registered flows and lies on no requirement cycle. -/
theorem Invariant.sound (hd : d ∈ r.defs) : r.source.Sound d.name := by
  -- every flow of a prefix of the order is sound, by induction on the prefix
  suffices hpre : ∀ pre, pre <+: r.defs → ∀ e ∈ pre, r.source.Sound e.name from
    hpre r.defs (List.prefix_refl _) d hd
  intro pre
  induction pre using List.reverseRecOn with
  | nil => intro _ e he; cases he
  | append_singleton pre e ih =>
    intro hp e' he'
    have hsound := ih ((List.prefix_append pre [e]).trans hp)
    rcases List.mem_append.1 he' with he' | he'
    · exact hsound e' he'
    · obtain rfl := List.mem_singleton.1 he'
      have he : e' ∈ r.defs := hp.subset (List.mem_append_right _ (List.mem_singleton_self e'))
      refine Source.sound_of_requires (h.find?_name he) fun q hq => ?_
      obtain ⟨e'', he'', rfl⟩ := List.mem_map.1 (h.closed pre e' hp q hq)
      exact hsound e'' he''

end Consequences

theorem mem_backends {b : String} : b ∈ r.backends ↔ ∃ d ∈ r.defs, d.name.backend = b := by
  simp [backends, List.mem_eraseDups]

/-- The backends come sorted and each once. -/
theorem backends_sorted (r : Registry) : r.backends.Pairwise (· < ·) := by
  have hle : r.backends.Pairwise (fun a b => decide (a ≤ b) = true) :=
    @List.pairwise_mergeSort String (fun a b => decide (a ≤ b))
      (fun a b c hab hbc => decide_eq_true (le_trans (of_decide_eq_true hab) (of_decide_eq_true hbc)))
      (fun a b => by simpa using le_total a b) _
  have hnd : r.backends.Nodup := (List.mergeSort_perm _ _).nodup_iff.2 (nodup_eraseDups _)
  exact (hle.and hnd).imp fun ⟨hab, hne⟩ => lt_of_le_of_ne (of_decide_eq_true hab) hne

/-- Each backend the registry reports lists at least one flow. -/
theorem Invariant.list_ne_nil (h : r.Invariant) {b : String} (hb : b ∈ r.backends) : r.list b ≠ [] := by
  obtain ⟨d, hd, rfl⟩ := mem_backends.1 hb
  have hl : d ∈ r.list d.name.backend := List.mem_filter.2 ⟨hd, by simp [(h.normal d hd).1]⟩
  exact List.ne_nil_of_mem hl

theorem mem_list {b : String} : d ∈ r.list b ↔ d ∈ r.defs ∧ d.name.backend = normalizeBackend b := by
  simp [list]

/-- Whatever calls a registry is given from empty, failed ones included, its flows keep distinct
names, each found under its own name, valid and with its backend normalized; every requirement
was registered before the flow that names it, so every flow reaches only registered flows and
none lies on a requirement cycle; the flows of a backend are listed in order, and the backends
are reported sorted, each once, exactly those with a flow, each listing one. -/
theorem run_wellFormed (cs : List Call) :
    let r := ({} : Registry).run cs
    (r.defs.map (·.name)).Nodup ∧
    (∀ d ∈ r.defs, r.find? d.name = some d) ∧
    (∀ d ∈ r.defs, d.name.validate = .ok () ∧ normalizeBackend d.name.backend = d.name.backend) ∧
    (∀ pre d, pre ++ [d] <+: r.defs → ∀ q ∈ d.requires, q ∈ pre.map (·.name)) ∧
    (∀ d ∈ r.defs, r.source.Sound d.name) ∧
    (∀ b, (r.list b).Sublist r.defs ∧ ∀ d, d ∈ r.list b ↔ d ∈ r.defs ∧ d.name.backend = normalizeBackend b) ∧
    r.backends.Pairwise (· < ·) ∧
    (∀ b, b ∈ r.backends ↔ ∃ d ∈ r.defs, d.name.backend = b) ∧
    (∀ b ∈ r.backends, r.list b ≠ []) := by
  intro r
  have h : r.Invariant := (Invariant.of_nil rfl).run cs
  exact ⟨h.nodup, fun d hd => h.find?_name hd, fun d hd => ⟨h.valid d hd, (h.normal d hd).1⟩, h.closed,
    fun d hd => h.sound hd, fun b => ⟨List.filter_sublist, fun d => mem_list⟩, backends_sorted r,
    fun b => mem_backends, fun b hb => h.list_ne_nil hb⟩

end Registry
end PassPlan.Flow
