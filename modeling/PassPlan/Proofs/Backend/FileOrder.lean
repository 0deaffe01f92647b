import PassPlan.Proofs.Backend.ParentOrder
import PassPlan.Proofs.Backend.Transparency
import Mathlib.Data.List.Sort
/-!
Bring-up does not depend on the order of the backend files. Registering the backends of the
backend files succeeds exactly when every file describes a backend under a valid key and the
keys are distinct; it then registers them in file order and keeps each file under its key. Files
in another order register the same backends in another order, which sort alike, and keep the
same file under each key. Past that point bring-up reads the registry only through its sorted
backends and the file under each key: it takes the same files in the same order, registers the
same passes and flows, and checks the same default and writer flows. A bring-up that succeeds
takes the global files as given and then the backend files parents first, freezes its flows,
and leaves registered every default and writer flow a backend names.
-/
namespace PassPlan.Backend

open Pipeline (PipelineFile)

/-- The key a backend file registers its backend under. -/
def fileKey (f : PipelineFile) : String := Flow.normalizeBackend f.backend

/-- The key of the parent a backend file names. -/
def fileParent (f : PipelineFile) : String := Flow.normalizeBackend f.parent

/-- The backends that files describe, in file order. -/
def described (fs : List PipelineFile) : List Backend :=
  fs.filterMap fun f => (describe f).toOption

theorem describe_eq_ok {f : PipelineFile} {b : Backend} (h : describe f = .ok b) :
    b.name = f.backend ∧ b.parent = f.parent := by
  unfold describe at h
  obtain ⟨d, -, h⟩ := Flow.Except.bind_eq_ok.1 h
  obtain ⟨w, -, h⟩ := Flow.Except.bind_eq_ok.1 h
  cases h
  exact ⟨rfl, rfl⟩

theorem mem_described {fs : List PipelineFile} {b : Backend} :
    b ∈ described fs ↔ ∃ f ∈ fs, describe f = .ok b := by
  simp only [described, List.mem_filterMap]
  refine exists_congr fun f => and_congr_right fun _ => ?_
  cases describe f <;> simp [Except.toOption]

theorem described_cons {f : PipelineFile} {b : Backend} (h : describe f = .ok b)
    (fs : List PipelineFile) : described (f :: fs) = b :: described fs := by
  simp [described, h, Except.toOption]

theorem map_described {X : Type} {g : Backend → X} {g' : PipelineFile → X} :
    ∀ {fs : List PipelineFile}, (∀ f ∈ fs, ∃ b, describe f = .ok b) →
      (∀ f ∈ fs, ∀ b, describe f = .ok b → g b = g' f) → (described fs).map g = fs.map g'
  | [], _, _ => rfl
  | f :: fs, hfs, hg => by
    obtain ⟨b, hb⟩ := hfs f List.mem_cons_self
    rw [described_cons hb, List.map_cons, List.map_cons, hg f List.mem_cons_self b hb,
      map_described (fun f hf => hfs f (List.mem_cons_of_mem _ hf))
        (fun f hf => hg f (List.mem_cons_of_mem _ hf))]

namespace Registry

/-- The entry registering a backend adds: the backend under its normalised name and parent, its
display name the trimmed name as written unless one is given. -/
def entry (b : Backend) : Backend :=
  { b with name := Flow.normalizeBackend b.name
           display := if b.display = "" then Text.trim b.name else b.display
           parent := Flow.normalizeBackend b.parent }

theorem entry_of_describe {f : PipelineFile} {b : Backend} (h : describe f = .ok b) :
    (entry b).name = fileKey f ∧ (entry b).parent = fileParent f := by
  obtain ⟨hname, hparent⟩ := describe_eq_ok h
  exact ⟨by simp [entry, fileKey, hname], by simp [entry, fileParent, hparent]⟩

/-- Registering succeeds exactly on a valid key not yet registered, and appends the entry. -/
theorem register_eq_ok {r r' : Registry} {b : Backend} :
    r.register b = .ok r' ↔
      (Flow.normalizeBackend b.name ≠ "" ∧ ':' ∉ (Flow.normalizeBackend b.name).toList) ∧
      Flow.normalizeBackend b.name ∉ r.backends.map (·.name) ∧ r' = ⟨r.backends ++ [entry b]⟩ := by
  have hfind : (r.find? (Flow.normalizeBackend b.name)).isSome = true ↔
      Flow.normalizeBackend b.name ∈ r.backends.map (·.name) := by
    simp only [find?, List.find?_isSome, decide_eq_true_eq, List.mem_map]
  unfold register
  dsimp only
  by_cases hv : (decide (Flow.normalizeBackend b.name = "") ||
      (Flow.normalizeBackend b.name).toList.contains ':') = true
  · rw [if_pos hv]
    simp only [Bool.or_eq_true, decide_eq_true_eq, List.contains_iff_mem] at hv
    simp only [reduceCtorEq, false_iff, not_and]
    rintro ⟨hne, hcolon⟩
    rcases hv with h | h
    · exact absurd h hne
    · exact absurd h hcolon
  rw [if_neg hv]
  simp only [Bool.or_eq_true, decide_eq_true_eq, List.contains_iff_mem, not_or] at hv
  by_cases hf : (r.find? (Flow.normalizeBackend b.name)).isSome = true
  · rw [if_pos hf]
    simp only [reduceCtorEq, false_iff, not_and]
    exact fun _ hmem => absurd (hfind.1 hf) hmem
  rw [if_neg hf]
  have hmem : Flow.normalizeBackend b.name ∉ r.backends.map (·.name) := fun h => hf (hfind.2 h)
  simp only [Except.ok.injEq]
  constructor
  · rintro rfl
    exact ⟨hv, hmem, rfl⟩
  · rintro ⟨-, -, rfl⟩
    rfl

/-- Registries of distinct names holding the same backends list them alike once sorted. -/
theorem all_eq_of_perm {r₁ r₂ : Registry} (hnd : (r₁.backends.map (·.name)).Nodup)
    (h : r₁.backends.Perm r₂.backends) : r₁.all = r₂.all := by
  have hsorted : ∀ r : Registry, r.all.Pairwise fun a b => decide (a.name ≤ b.name) = true :=
    fun r => @List.pairwise_mergeSort Backend (fun a b => decide (a.name ≤ b.name))
      (fun a b c hab hbc => decide_eq_true (le_trans (of_decide_eq_true hab) (of_decide_eq_true hbc)))
      (fun a b => by simpa using le_total a.name b.name) _
  have hperm : r₁.all.Perm r₂.all :=
    (List.mergeSort_perm _ _).trans (h.trans (List.mergeSort_perm _ _).symm)
  refine List.Perm.eq_of_pairwise (fun a b ha hb hab hba => ?_) (hsorted r₁) (hsorted r₂) hperm
  -- two backends sorted either way share a name, and names are distinct
  have ha' : a ∈ r₁.backends := List.mem_mergeSort.1 ha
  have hb' : b ∈ r₁.backends := h.mem_iff.2 (List.mem_mergeSort.1 hb)
  exact List.inj_on_of_nodup_map hnd ha' hb'
    (le_antisymm (of_decide_eq_true hab) (of_decide_eq_true hba))

end Registry

theorem map_entry_name_described {fs : List PipelineFile} (hfs : ∀ f ∈ fs, ∃ b, describe f = .ok b) :
    ((described fs).map Registry.entry).map (·.name) = fs.map fileKey := by
  rw [List.map_map]
  exact map_described hfs fun f _ b hb => (Registry.entry_of_describe hb).1

section Lookup

variable {α β : Type} [BEq α] [LawfulBEq α] {m m' : List (α × β)} {k : α} {v : β}

theorem mem_of_lookup_eq_some (h : m.lookup k = some v) : (k, v) ∈ m := by
  obtain ⟨l₁, l₂, rfl, -⟩ := List.lookup_eq_some_iff.1 h
  simp

theorem lookup_eq_some_of_mem (hnd : (m.map Prod.fst).Nodup) (h : (k, v) ∈ m) :
    m.lookup k = some v := by
  obtain ⟨l₁, l₂, rfl⟩ := List.append_of_mem h
  refine List.lookup_eq_some_iff.2 ⟨l₁, l₂, rfl, fun p hp => ?_⟩
  -- the keys before the entry differ from its key
  have hk : k ∉ l₁.map Prod.fst := by
    simp only [List.map_append, List.map_cons] at hnd
    exact fun hk => List.disjoint_of_nodup_append hnd hk List.mem_cons_self
  simpa using fun he => hk (List.mem_map.2 ⟨p, hp, he.symm⟩)

theorem lookup_eq_of_perm (hnd : (m.map Prod.fst).Nodup) (h : m.Perm m') (k : α) :
    m.lookup k = m'.lookup k := by
  have hnd' : (m'.map Prod.fst).Nodup := (h.map _).nodup_iff.1 hnd
  cases hk : m.lookup k with
  | none =>
    cases hk' : m'.lookup k with
    | none => rfl
    | some v =>
      rw [lookup_eq_some_of_mem hnd (h.mem_iff.2 (mem_of_lookup_eq_some hk'))] at hk
      cases hk
  | some v => exact (lookup_eq_some_of_mem hnd' (h.mem_iff.1 (mem_of_lookup_eq_some hk))).symm

end Lookup

/-! ### Registering the backends of backend files -/

/-- Registers the backend a backend file describes and keeps the file under its key: one step of
ordering the backends. -/
def registerFile (s : Registry × List (String × PipelineFile)) (f : PipelineFile) :
    Except BringUpError (Registry × List (String × PipelineFile)) := do
  let b ← (describe f).mapError .file
  let reg ← (s.1.register b).mapError fun e => .file ⟨f.source, "backend", .backend e⟩
  pure (reg, s.2 ++ [(fileKey f, f)])

section RegisterFiles

variable {reg : Registry} {m : List (String × PipelineFile)} {r : Registry × List (String × PipelineFile)}

theorem registerFile_eq_ok {f : PipelineFile} :
    registerFile (reg, m) f = .ok r ↔
      ∃ b, describe f = .ok b ∧ (fileKey f ≠ "" ∧ ':' ∉ (fileKey f).toList) ∧
        fileKey f ∉ reg.backends.map (·.name) ∧
        r = (⟨reg.backends ++ [Registry.entry b]⟩, m ++ [(fileKey f, f)]) := by
  simp only [registerFile, Flow.Except.bind_eq_ok, Flow.Except.mapError_eq_ok, Registry.register_eq_ok]
  refine exists_congr fun b => and_congr_right fun hb => ?_
  -- the registry checks the key of the file's backend
  have hkey : Flow.normalizeBackend b.name = fileKey f := (Registry.entry_of_describe hb).1
  rw [hkey]
  constructor
  · rintro ⟨reg', ⟨hv, hfresh, rfl⟩, h⟩
    exact ⟨hv, hfresh, (Except.ok.inj h).symm⟩
  · rintro ⟨hv, hfresh, rfl⟩
    exact ⟨_, ⟨hv, hfresh, rfl⟩, rfl⟩

/-- Registering the backends of backend files in turn succeeds exactly when every file describes
a backend under a valid key not yet registered and the keys are distinct; it then registers them
in file order and keeps each file under its key. -/
theorem foldlM_registerFile_eq_ok : ∀ (fs : List PipelineFile) {reg : Registry}
    {m : List (String × PipelineFile)} {r : Registry × List (String × PipelineFile)},
    fs.foldlM registerFile (reg, m) = .ok r ↔
      (∀ f ∈ fs, (∃ b, describe f = .ok b) ∧ (fileKey f ≠ "" ∧ ':' ∉ (fileKey f).toList) ∧
        fileKey f ∉ reg.backends.map (·.name)) ∧
      (fs.map fileKey).Nodup ∧
      r = (⟨reg.backends ++ (described fs).map Registry.entry⟩, m ++ fs.map fun f => (fileKey f, f))
  | [], ⟨bs⟩, m, r => by
    constructor
    · intro h
      cases h
      exact ⟨by simp, List.nodup_nil, by simp [described]⟩
    · rintro ⟨-, -, rfl⟩
      simp [described]
      rfl
  | f :: fs, reg, m, r => by
    rw [List.foldlM_cons, Flow.Except.bind_eq_ok]
    constructor
    · rintro ⟨s, hs, hrest⟩
      obtain ⟨b, hb, hv, hfresh, rfl⟩ := registerFile_eq_ok.1 hs
      obtain ⟨hall, hnd, rfl⟩ := (foldlM_registerFile_eq_ok fs).1 hrest
      have hkey := (Registry.entry_of_describe hb).1
      refine ⟨fun g hg => ?_, List.nodup_cons.2 ⟨fun h => ?_, hnd⟩, ?_⟩
      · rcases List.mem_cons.1 hg with rfl | hg
        · exact ⟨⟨b, hb⟩, hv, hfresh⟩
        · obtain ⟨hd, hv', hg'⟩ := hall g hg
          exact ⟨hd, hv', fun h => hg' (by simp only [List.map_append, List.mem_append]; exact .inl h)⟩
      · -- a later file under the same key meets it registered
        obtain ⟨g, hg, hgkey⟩ := List.mem_map.1 h
        exact (hall g hg).2.2 (by simp [hgkey, hkey])
      · simp [described_cons hb]
    · rintro ⟨hall, hnd, rfl⟩
      obtain ⟨⟨b, hb⟩, hv, hfresh⟩ := hall f List.mem_cons_self
      have hkey := (Registry.entry_of_describe hb).1
      refine ⟨_, registerFile_eq_ok.2 ⟨b, hb, hv, hfresh, rfl⟩,
        (foldlM_registerFile_eq_ok fs).2 ⟨fun g hg => ?_, (List.nodup_cons.1 hnd).2, ?_⟩⟩
      · obtain ⟨hd, hv', hg'⟩ := hall g (List.mem_cons_of_mem _ hg)
        refine ⟨hd, hv', ?_⟩
        simp only [List.map_append, List.mem_append, not_or, List.map_cons, List.map_nil,
          List.mem_singleton, hkey]
        -- distinct keys keep a later file off the entry just made
        exact ⟨hg', fun h => (List.nodup_cons.1 hnd).1 (h ▸ List.mem_map_of_mem hg)⟩
      · simp [described_cons hb]

end RegisterFiles

/-! ### Ordering the backends -/

/-- Ordering the backends succeeds exactly when every backend file describes a backend under a
valid key, the keys are distinct, and the backends, registered in file order, can be put parents
first; each backend is then mapped to the file under its key. -/
theorem orderBackends_eq_ok {files : List PipelineFile} {reg : Registry} {ordered : List Backend}
    {fileOf : Backend → PipelineFile} :
    orderBackends files = .ok (reg, ordered, fileOf) ↔
      (∀ f ∈ files.filter (!·.isGlobal), (∃ b, describe f = .ok b) ∧
        fileKey f ≠ "" ∧ ':' ∉ (fileKey f).toList) ∧
      ((files.filter (!·.isGlobal)).map fileKey).Nodup ∧
      reg = ⟨(described (files.filter (!·.isGlobal))).map Registry.entry⟩ ∧
      parentOrder reg.all = .ok ordered ∧
      fileOf = fun b => (((files.filter (!·.isGlobal)).map fun f => (fileKey f, f)).lookup b.name).getD {} := by
  unfold orderBackends
  rw [Flow.Except.bind_eq_ok]
  constructor
  · rintro ⟨⟨reg', m⟩, hfold, h⟩
    obtain ⟨ordered', hord, h⟩ := Flow.Except.bind_eq_ok.1 h
    cases h
    obtain ⟨hall, hnd, hr⟩ := (foldlM_registerFile_eq_ok _).1 hfold
    obtain ⟨rfl, rfl⟩ := Prod.mk.inj hr
    exact ⟨fun f hf => ⟨(hall f hf).1, (hall f hf).2.1⟩, hnd, rfl,
      Flow.Except.mapError_eq_ok.1 hord, rfl⟩
  · rintro ⟨hall, hnd, rfl, hord, rfl⟩
    refine ⟨_, (foldlM_registerFile_eq_ok _).2
      ⟨fun f hf => ⟨(hall f hf).1, (hall f hf).2, by simp⟩, hnd, rfl⟩, ?_⟩
    dsimp only
    rw [Flow.Except.bind_eq_ok]
    exact ⟨ordered, Flow.Except.mapError_eq_ok.2 hord, rfl⟩

theorem lookup_entry {fs : List PipelineFile} (hnd : (fs.map fileKey).Nodup) {f : PipelineFile}
    {b : Backend} (hf : f ∈ fs) (hb : describe f = .ok b) :
    (fs.map fun f => (fileKey f, f)).lookup (Registry.entry b).name = some f := by
  rw [(Registry.entry_of_describe hb).1]
  refine lookup_eq_some_of_mem ?_ (List.mem_map_of_mem hf)
  rw [List.map_map]
  exact hnd

/-- Backend files in another order register the same backends in another order, which sort
alike, and keep the same file under each key, so the backends are ordered alike. -/
theorem orderBackends_perm {files₁ files₂ : List PipelineFile}
    (h : (files₁.filter (!·.isGlobal)).Perm (files₂.filter (!·.isGlobal)))
    {reg₁ : Registry} {ordered : List Backend} {fileOf : Backend → PipelineFile}
    (h₁ : orderBackends files₁ = .ok (reg₁, ordered, fileOf)) :
    ∃ reg₂, orderBackends files₂ = .ok (reg₂, ordered, fileOf) ∧
      reg₁.backends.Perm reg₂.backends ∧ reg₁.all = reg₂.all := by
  obtain ⟨hall, hnd, rfl, hord, rfl⟩ := orderBackends_eq_ok.1 h₁
  have hperm : (described (files₁.filter (!·.isGlobal))).map Registry.entry |>.Perm
      ((described (files₂.filter (!·.isGlobal))).map Registry.entry) :=
    (h.filterMap _).map _
  have hnames : (((described (files₁.filter (!·.isGlobal))).map Registry.entry).map (·.name)).Nodup := by
    rw [map_entry_name_described fun f hf => (hall f hf).1]
    exact hnd
  have hkeys : ((files₁.filter (!·.isGlobal)).map fun f => (fileKey f, f)).map Prod.fst |>.Nodup := by
    rw [List.map_map]
    exact hnd
  have hall₂ := Registry.all_eq_of_perm hnames hperm
  -- the files in the other order meet the same conditions and key the same files
  refine ⟨_, orderBackends_eq_ok.2 ⟨fun f hf => hall f (h.mem_iff.2 hf),
    (h.map fileKey).nodup_iff.1 hnd, rfl, hall₂ ▸ hord, funext fun b => ?_⟩, hperm, hall₂⟩
  rw [lookup_eq_of_perm hkeys (h.map _) b.name]

/-- Ordering the backends, when it succeeds, registers backends of distinct names and lists each
of them once, every parent first, and the file found under each backend is a backend file keyed
by its name and naming its parent: the files under the registered backends are the backend files
in the order given. -/
theorem orderBackends_sound {files : List PipelineFile} {reg : Registry} {ordered : List Backend}
    {fileOf : Backend → PipelineFile} (h : orderBackends files = .ok (reg, ordered, fileOf)) :
    parentOrder reg.all = .ok ordered ∧ ordered.Perm reg.backends ∧
      ParentsFirst (·.name) (·.parent) ordered ∧
      (∀ b ∈ reg.backends, fileKey (fileOf b) = b.name ∧ fileParent (fileOf b) = b.parent) ∧
      reg.backends.map fileOf = files.filter (!·.isGlobal) := by
  obtain ⟨hall, hnd, rfl, hord, rfl⟩ := orderBackends_eq_ok.1 h
  have hdesc : ∀ f ∈ files.filter (!·.isGlobal), ∃ b, describe f = .ok b := fun f hf => (hall f hf).1
  have hsorted : ((Registry.all ⟨(described (files.filter (!·.isGlobal))).map Registry.entry⟩).map
      (·.name)).Nodup := by
    refine ((List.mergeSort_perm _ _).map _).nodup_iff.2 ?_
    rw [map_entry_name_described hdesc]
    exact hnd
  obtain ⟨hperm, hparents⟩ := parentOrder_sound hsorted hord
  -- the file under an entry is the file that described its backend
  have hlookup : ∀ f ∈ files.filter (!·.isGlobal), ∀ b, describe f = .ok b →
      (((files.filter (!·.isGlobal)).map fun f => (fileKey f, f)).lookup
        (Registry.entry b).name).getD {} = f := by
    intro f hf b hb
    rw [lookup_entry hnd hf hb, Option.getD_some]
  refine ⟨hord, hperm.trans (List.mergeSort_perm _ _), hparents, fun b hb => ?_, ?_⟩
  · obtain ⟨b₀, hb₀, rfl⟩ := List.mem_map.1 hb
    obtain ⟨f, hf, hd⟩ := mem_described.1 hb₀
    dsimp only
    rw [hlookup f hf b₀ hd, (Registry.entry_of_describe hd).1, (Registry.entry_of_describe hd).2]
    exact ⟨rfl, rfl⟩
  · rw [List.map_map]
    exact (map_described hdesc hlookup).trans (List.map_id _)

/-! ### Bring-up past the ordering -/

section Frame

variable (x : Registry) (y : List PipelineFile)

theorem registerFlowsUpTo_go_frame (f : PipelineFile) :
    ∀ (specs : List (Pipeline.FlowSpec × Nat)) (env : Environment),
      registerFlowsUpTo.go f specs { env with backends := x, files := y } =
        ({ (registerFlowsUpTo.go f specs env).1 with backends := x, files := y },
          (registerFlowsUpTo.go f specs env).2)
  | [], env => rfl
  | (spec, i) :: rest, env => by
    have hflow : registerFlow { env with backends := x, files := y } (Flow.normalizeBackend f.backend) spec =
        registerFlow env (Flow.normalizeBackend f.backend) spec := rfl
    cases hr : registerFlow env (Flow.normalizeBackend f.backend) spec with
    | error p => simp only [registerFlowsUpTo.go, hflow, hr]
    | ok res =>
      simp only [registerFlowsUpTo.go, hflow, hr]
      exact registerFlowsUpTo_go_frame f rest { env with flows := res.2 }

/-- Registering the passes and flows of files neither reads nor changes the backends and the
files taken. -/
theorem registerAll_frame (kinds : Pass.Kinds) : ∀ (fs : List PipelineFile) (env : Environment),
    registerAll kinds fs { env with backends := x, files := y } =
      ({ (registerAll kinds fs env).1 with backends := x, files := y }, (registerAll kinds fs env).2)
  | [], env => rfl
  | f :: rest, env => by
    cases hp : registerPasses kinds f env.catalog with
    | error e => simp only [registerAll, hp]
    | ok catalog =>
      have hflows : registerFlowsUpTo f { { env with backends := x, files := y } with catalog } =
          ({ (registerFlowsUpTo f { env with catalog }).1 with backends := x, files := y },
            (registerFlowsUpTo f { env with catalog }).2) :=
        registerFlowsUpTo_go_frame x y f f.flows.zipIdx { env with catalog }
      cases hr : registerFlowsUpTo f { env with catalog } with
      | mk env' err =>
        rw [hr] at hflows
        cases err with
        | some e => simp only [registerAll, hp, hflows, hr]
        | none =>
          simp only [registerAll, hp, hflows, hr]
          exact registerAll_frame kinds rest env'

/-- Checking default and writer flows reads only the flows. -/
theorem readyBackends_frame (env : Environment) (fileOf : Backend → PipelineFile) :
    ∀ bs, readyBackends { env with backends := x, files := y } fileOf bs = readyBackends env fileOf bs
  | [] => rfl
  | b :: bs => by
    have hcheck : checkFlows { env with backends := x, files := y } b (fileOf b) =
        checkFlows env b (fileOf b) := rfl
    simp only [readyBackends, hcheck, readyBackends_frame env fileOf bs]

end Frame

theorem registerAll_keeps {kinds : Pass.Kinds} {fs : List PipelineFile} {env env' : Environment}
    {err : Option Pipeline.FileError} (h : registerAll kinds fs env = (env', err)) :
    env'.backends = env.backends ∧ env'.files = env.files := by
  have hframe := registerAll_frame env.backends env.files kinds fs env
  -- the frame at the registry and files given reads the run back
  rw [h] at hframe
  obtain ⟨henv, -⟩ := Prod.mk.inj hframe
  exact ⟨congrArg (·.backends) henv, congrArg (·.files) henv⟩

/-- A backend passes its check when its default and writer flows are each unset or registered. -/
theorem checkFlows_eq_ok {env : Environment} {b : Backend} {f : PipelineFile}
    (h : checkFlows env b f = .ok ()) :
    (b.defaultFlow.isZero = true ∨ env.flows.has b.defaultFlow = true) ∧
      (b.writerFlow.isZero = true ∨ env.flows.has b.writerFlow = true) := by
  unfold checkFlows at h
  simp only [List.forIn_cons, List.forIn_nil] at h
  -- a flow that is set and unregistered throws
  cases hd : (!b.defaultFlow.isZero && !env.flows.has b.defaultFlow) <;>
    cases hw : (!b.writerFlow.isZero && !env.flows.has b.writerFlow) <;>
    simp only [hd, hw, if_true, if_false, Bool.false_eq_true] at h
  case false.false =>
    simp only [Bool.and_eq_false_iff, Bool.not_eq_false'] at hd hw
    exact ⟨hd, hw⟩
  case false.true => cases h
  case true.false => cases h
  case true.true => cases h

theorem readyBackends_checked {env : Environment} {fileOf : Backend → PipelineFile} :
    ∀ {bs : List Backend}, (readyBackends env fileOf bs).2 = none →
      ∀ b ∈ bs, checkFlows env b (fileOf b) = .ok ()
  | [], _ => by simp
  | b :: bs, h => by
    unfold readyBackends at h
    cases hc : checkFlows env b (fileOf b) with
    | error e => simp [hc] at h
    | ok u =>
      simp only [hc] at h
      intro b' hb'
      rcases List.mem_cons.1 hb' with rfl | hb'
      · exact hc
      · exact readyBackends_checked h b' hb'

theorem bringUp_eq_ok {kinds : Pass.Kinds} {files : List PipelineFile} {e : Environment} :
    bringUp kinds files = .ok e ↔
      ∃ reg ordered fileOf, orderBackends files = .ok (reg, ordered, fileOf) ∧
        ∃ env ready, registerAll kinds (files.filter (·.isGlobal) ++ ordered.map fileOf)
            { backends := reg, files := files.filter (·.isGlobal) ++ ordered.map fileOf } = (env, none) ∧
          readyBackends env fileOf ordered = (ready, none) ∧
          e = { env with flows := env.flows.freeze } := by
  show (bringUpWith kinds files).2 = .ok e ↔ _
  unfold bringUpWith
  constructor
  · intro h
    split at h
    · cases h
    · next reg ordered fileOf ho =>
      dsimp only at h
      split at h
      · cases h
      · next env henv =>
        split at h
        · cases h
        · next ready hready =>
          cases h
          exact ⟨reg, ordered, fileOf, ho, env, ready, henv, hready, rfl⟩
  · rintro ⟨reg, ordered, fileOf, ho, env, ready, henv, hready, rfl⟩
    rw [ho]
    dsimp only
    rw [henv]
    dsimp only
    rw [hready]

/-- Bring-up from files with the same global files in the same order and the same backend files
in another order succeeds as well, with the same environment up to the order in which its
registry holds the backends, which sort alike. -/
theorem bringUp_perm {kinds : Pass.Kinds} {files₁ files₂ : List PipelineFile}
    (hglobal : files₁.filter (·.isGlobal) = files₂.filter (·.isGlobal))
    (hbackend : (files₁.filter (!·.isGlobal)).Perm (files₂.filter (!·.isGlobal)))
    {e₁ : Environment} (h₁ : bringUp kinds files₁ = .ok e₁) :
    ∃ reg₂, bringUp kinds files₂ = .ok { e₁ with backends := reg₂ } ∧
      e₁.backends.backends.Perm reg₂.backends ∧ e₁.backends.all = reg₂.all := by
  obtain ⟨reg₁, ordered, fileOf, ho₁, env, ready, henv, hready, rfl⟩ := bringUp_eq_ok.1 h₁
  obtain ⟨reg₂, ho₂, hperm, hall⟩ := orderBackends_perm hbackend ho₁
  obtain ⟨hback, hfiles⟩ := registerAll_keeps henv
  -- the other registry goes through registration and the checks untouched
  have henv₂ := registerAll_frame reg₂ (files₁.filter (·.isGlobal) ++ ordered.map fileOf) kinds
    (files₁.filter (·.isGlobal) ++ ordered.map fileOf)
    { backends := reg₁, files := files₁.filter (·.isGlobal) ++ ordered.map fileOf }
  rw [henv] at henv₂
  have hready₂ := readyBackends_frame reg₂ (files₁.filter (·.isGlobal) ++ ordered.map fileOf) env
    fileOf ordered
  rw [hready] at hready₂
  refine ⟨reg₂, bringUp_eq_ok.2 ⟨reg₂, ordered, fileOf, ho₂, _, ready, ?_, hready₂, ?_⟩,
    hback ▸ hperm, hback ▸ hall⟩
  · rw [← hglobal]
    exact henv₂
  · rw [← hfiles]

/-- What a bring-up from the files leaves: the global files as given, then the backend files, each
once and every parent's before its children's, in the order the registry's sorted backends take
parents first; the flows frozen; and every default and writer flow a backend names, unless unset,
registered. -/
structure BroughtUp (files : List PipelineFile) (e : Environment) : Prop where
  taken : ∃ fs, e.files = files.filter (·.isGlobal) ++ fs ∧ fs.Perm (files.filter (!·.isGlobal)) ∧
    (parentOrder e.backends.all).map (List.map (·.name)) = .ok (fs.map fileKey) ∧
    ParentsFirst fileKey fileParent fs
  frozen : e.flows.frozen = true
  flows : ∀ b ∈ e.backends.backends,
    (b.defaultFlow.isZero = true ∨ e.flows.has b.defaultFlow = true) ∧
      (b.writerFlow.isZero = true ∨ e.flows.has b.writerFlow = true)

theorem bringUp_broughtUp {kinds : Pass.Kinds} {files : List PipelineFile} {e : Environment}
    (h : bringUp kinds files = .ok e) : BroughtUp files e := by
  obtain ⟨reg, ordered, fileOf, ho, env, ready, henv, hready, rfl⟩ := bringUp_eq_ok.1 h
  obtain ⟨hback, hfiles⟩ := registerAll_keeps henv
  have hback' : env.backends = reg := hback
  obtain ⟨hord, hperm, hparents, hfile, hmap⟩ := orderBackends_sound ho
  have hfile' : ∀ b ∈ ordered, fileKey (fileOf b) = b.name ∧ fileParent (fileOf b) = b.parent :=
    fun b hb => hfile b (hperm.mem_iff.1 hb)
  refine ⟨⟨ordered.map fileOf, hfiles, ?_, ?_, ?_⟩, rfl, fun b hb => ?_⟩
  · -- the backend files, in the order of their backends
    rw [← hmap]
    exact hperm.map fileOf
  · show (parentOrder env.backends.all).map _ = _
    rw [hback', hord, List.map_map]
    exact congrArg Except.ok (List.map_congr_left fun b hb => (hfile' b hb).1.symm)
  · exact hparents.map (fun b hb => (hfile' b hb).1) fun b hb => (hfile' b hb).2
  · -- every registered backend was checked against the flows
    have hb' : b ∈ ordered := hperm.mem_iff.2 (hback' ▸ hb)
    have hcheck : checkFlows env b (fileOf b) = .ok () := readyBackends_checked (by rw [hready]) b hb'
    exact checkFlows_eq_ok hcheck

/-! ### Order independence -/

/-- Bring-up does not depend on the order of the backend files. From files with the same global
files in the same order and the same backend files in any order, it succeeds on both or on
neither; when it succeeds, the registries hold the same backends, sorted alike, and the flows in
their order, the passes in theirs and the files taken are the same. A bring-up that succeeds
takes the global files as given and then the backend files, every parent's first, in the order
the registry's backends take parents first; it freezes its flows and leaves registered every
default and writer flow a backend names. -/
theorem bringUp_order_independent (kinds : Pass.Kinds) {files₁ files₂ : List PipelineFile}
    (hglobal : files₁.filter (·.isGlobal) = files₂.filter (·.isGlobal))
    (hbackend : (files₁.filter (!·.isGlobal)).Perm (files₂.filter (!·.isGlobal))) :
    ((∃ e₁, bringUp kinds files₁ = .ok e₁) ↔ ∃ e₂, bringUp kinds files₂ = .ok e₂) ∧
    (∀ e₁ e₂, bringUp kinds files₁ = .ok e₁ → bringUp kinds files₂ = .ok e₂ →
      e₁.backends.backends.Perm e₂.backends.backends ∧ e₁.backends.all = e₂.backends.all ∧
      e₁.flows = e₂.flows ∧ e₁.catalog = e₂.catalog ∧ e₁.files = e₂.files) ∧
    ∀ e, bringUp kinds files₁ = .ok e → BroughtUp files₁ e := by
  refine ⟨⟨fun ⟨e₁, h₁⟩ => ?_, fun ⟨e₂, h₂⟩ => ?_⟩, fun e₁ e₂ h₁ h₂ => ?_,
    fun e h => bringUp_broughtUp h⟩
  · obtain ⟨reg₂, h₂, -⟩ := bringUp_perm hglobal hbackend h₁
    exact ⟨_, h₂⟩
  · obtain ⟨reg₁, h₁, -⟩ := bringUp_perm hglobal.symm hbackend.symm h₂
    exact ⟨_, h₁⟩
  · -- the second bring-up is the first with the other registry
    obtain ⟨reg₂, h₂', hperm, hall⟩ := bringUp_perm hglobal hbackend h₁
    rw [h₂'] at h₂
    cases h₂
    exact ⟨hperm, hall, rfl, rfl, rfl⟩

/-- A global file, then the file of a backend before the file of its parent. -/
def childFirst : List PipelineFile :=
  [{ source := "child.yaml", backend := "Child", parent := "base" }, { source := "shared.yaml" },
    { source := "base.yaml", backend := "base" }]

/-- The same files, the parent's first. -/
def parentFirst : List PipelineFile :=
  [{ source := "base.yaml", backend := "base" }, { source := "shared.yaml" },
    { source := "child.yaml", backend := "Child", parent := "base" }]

theorem bringUp_order_independent_childFirst :
    childFirst.filter (·.isGlobal) = parentFirst.filter (·.isGlobal) ∧
    (childFirst.filter (!·.isGlobal)).Perm (parentFirst.filter (!·.isGlobal)) ∧
    ((∃ e₁, bringUp Pass.Kinds.builtin childFirst = .ok e₁) ↔
      ∃ e₂, bringUp Pass.Kinds.builtin parentFirst = .ok e₂) ∧
    (∀ e₁ e₂, bringUp Pass.Kinds.builtin childFirst = .ok e₁ →
      bringUp Pass.Kinds.builtin parentFirst = .ok e₂ →
      e₁.backends.backends.Perm e₂.backends.backends ∧ e₁.backends.all = e₂.backends.all ∧
      e₁.flows = e₂.flows ∧ e₁.catalog = e₂.catalog ∧ e₁.files = e₂.files) ∧
    ∀ e, bringUp Pass.Kinds.builtin childFirst = .ok e → BroughtUp childFirst e :=
  have hglobal : childFirst.filter (·.isGlobal) = parentFirst.filter (·.isGlobal) := rfl
  have hbackend : (childFirst.filter (!·.isGlobal)).Perm (parentFirst.filter (!·.isGlobal)) :=
    List.Perm.swap _ _ []
  ⟨hglobal, hbackend, bringUp_order_independent Pass.Kinds.builtin hglobal hbackend⟩

end PassPlan.Backend
