import PassPlan.Proofs.Flow.Generations
import Mathlib.Data.List.TakeDrop
/-!
Names read back from their texts. Parsing gives a name in canonical form: valid, its backend
normalized and its flow trimmed. A canonical name's text starts and ends with no white space
and holds a colon exactly when the backend is set, right after the backend; so parsing splits
it where the text joined it, normalizing and trimming change nothing, and the name comes back.
Canonical names are therefore told apart by their texts.
-/
namespace PassPlan

namespace Text

/-- A trimmed text starts with no white space. -/
theorem dropBlanks_trim (s : String) : dropBlanks (trim s).toList = (trim s).toList :=
  dropBlanks_of_start (List.dropWhile_idempotent _ _) (trim_prefix_dropBlanks s)

theorem dropBlanks_reverse_trim (s : String) :
    dropBlanks (trim s).toList.reverse = (trim s).toList.reverse := by
  rw [trim_toList, List.reverse_reverse]
  exact List.dropWhile_idempotent _ _

/-- A text is trimmed exactly when it starts and ends with no white space. -/
theorem trim_eq_self_iff {s : String} :
    trim s = s ↔ dropBlanks s.toList = s.toList ∧ dropBlanks s.toList.reverse = s.toList.reverse := by
  constructor
  · intro h
    rw [← h]
    exact ⟨dropBlanks_trim s, dropBlanks_reverse_trim s⟩
  · rintro ⟨hfront, hback⟩
    rw [← String.toList_inj, trim_toList, hfront, hback, List.reverse_reverse]

/-- Text that starts with no white space keeps that when more follows. -/
theorem dropBlanks_append {cs ds : List Char} (hc : dropBlanks cs = cs) (hd : dropBlanks ds = ds) :
    dropBlanks (cs ++ ds) = cs ++ ds := by
  rw [dropBlanks, List.dropWhile_append, ← dropBlanks, ← dropBlanks, hc, hd]
  split
  · next hnil => rw [List.isEmpty_iff.1 hnil, List.nil_append]
  · rfl

theorem dropBlanks_colon (cs : List Char) : dropBlanks (':' :: cs) = ':' :: cs :=
  List.dropWhile_cons_of_neg (by decide)

end Text

namespace Flow

theorem trim_of_normalizeBackend {b : String} (h : normalizeBackend b = b) : Text.trim b = b := by
  rw [← h, normalizeBackend, Text.trim_lower, Text.trim_trim]

namespace Name

/-- A name in the form parsing gives: valid, its backend normalized, its flow trimmed. -/
structure Canonical (n : Name) : Prop where
  valid : n.Valid
  backend : normalizeBackend n.backend = n.backend
  flow : Text.trim n.flow = n.flow

section Split

variable {cs : List Char}

theorem span_of_colon_free (h : ':' ∉ cs) : cs.span (· ≠ ':') = (cs, []) := by
  rw [List.span_eq_takeWhile_dropWhile, List.takeWhile_eq_self_iff.2, List.dropWhile_eq_nil_iff.2]
  all_goals exact fun c hc => decide_eq_true fun hcolon => h (hcolon ▸ hc)

/-- Text is split at its first colon. -/
theorem span_append_colon (h : ':' ∉ cs) (rest : List Char) :
    (cs ++ ':' :: rest).span (· ≠ ':') = (cs, ':' :: rest) := by
  have hall : ∀ c ∈ cs, decide (c ≠ ':') = true :=
    fun c hc => decide_eq_true fun hcolon => h (hcolon ▸ hc)
  rw [List.span_eq_takeWhile_dropWhile, List.takeWhile_append_of_pos hall,
    List.dropWhile_append_of_pos hall, List.takeWhile_cons_of_neg (by simp),
    List.dropWhile_cons_of_neg (by simp), List.append_nil]

end Split

/-- Parsing gives canonical names: the unqualified branch keeps the trimmed text, which has no
colon; the qualified one normalizes both parts and validates them. -/
theorem parse_canonical {s : String} {n : Name} (h : parse s = .ok n) : n.Canonical := by
  unfold parse at h
  dsimp only at h
  split_ifs at h with hempty
  split at h
  · next hspan =>
    obtain rfl := Except.ok.inj h
    have hcolon : ':' ∉ (Text.trim s).toList := by
      have hd := congrArg Prod.snd hspan
      rw [List.span_eq_takeWhile_dropWhile, List.dropWhile_eq_nil_iff] at hd
      exact fun hc => by simpa using hd _ hc
    exact ⟨valid_iff.2 ⟨hempty, hcolon, by simp⟩, normalizeBackend_empty, Text.trim_trim s⟩
  · split at h
    · next hv =>
      obtain rfl := Except.ok.inj h
      exact ⟨hv, normalizeBackend_normalizeBackend _, Text.trim_trim _⟩
    · cases h

/-- A global canonical name's text is its flow, which holds no colon. -/
theorem parse_text_global {flow : String} (h : (⟨"", flow⟩ : Name).Canonical) :
    parse flow = .ok ⟨"", flow⟩ := by
  obtain ⟨hflow, hcolon, -⟩ := valid_iff.1 h.valid
  unfold parse
  dsimp only
  rw [h.flow, if_neg hflow, span_of_colon_free hcolon]

/-- A canonical name written with a colon is trimmed and splits at the colon after the backend;
with an empty backend it is the global name. -/
theorem parse_text_qualified {backend flow : String}
    (h : (⟨backend, flow⟩ : Name).Canonical) :
    parse (backend ++ ":" ++ flow) = .ok ⟨backend, flow⟩ := by
  obtain ⟨hflow, hfc, hbc⟩ := valid_iff.1 h.valid
  have hlist : (backend ++ ":" ++ flow).toList = backend.toList ++ ':' :: flow.toList := by
    simp [String.toList_append]
  -- the backend starts the text with no white space, the flow ends it with none
  have hfront := (Text.trim_eq_self_iff.1 (trim_of_normalizeBackend h.backend)).1
  have hback := (Text.trim_eq_self_iff.1 h.flow).2
  have htrim : Text.trim (backend ++ ":" ++ flow) = backend ++ ":" ++ flow := by
    refine Text.trim_eq_self_iff.2 ⟨?_, ?_⟩
    · rw [hlist, Text.dropBlanks_append hfront (Text.dropBlanks_colon _)]
    · rw [hlist, List.reverse_append, List.reverse_cons, List.append_assoc, List.singleton_append,
        Text.dropBlanks_append hback (Text.dropBlanks_colon _)]
  have hne : backend ++ ":" ++ flow ≠ "" := fun he => by
    have := congrArg String.toList he
    rw [hlist] at this
    simp at this
  unfold parse
  dsimp only
  rw [htrim, if_neg hne, hlist, span_append_colon hbc]
  simp only [String.ofList_toList, qualified, h.backend, h.flow]
  rw [h.valid]

theorem parse_text {n : Name} (h : n.Canonical) : parse n.text = .ok n := by
  obtain ⟨backend, flow⟩ := n
  by_cases hb : backend = ""
  · subst hb
    exact parse_text_global h
  · simp only [text, if_neg hb]
    exact parse_text_qualified h

/-- Parsing and printing names are inverse: every parsed name is canonical and reads back from
its text, a name reads back from its text exactly when it is canonical, and canonical names have
distinct texts. -/
theorem parse_text_inverse :
    (∀ s n, parse s = .ok n → n.Canonical ∧ parse n.text = .ok n) ∧
    (∀ n : Name, n.Canonical ↔ parse n.text = .ok n) ∧
    ∀ a b : Name, a.Canonical → b.Canonical → a.text = b.text → a = b := by
  refine ⟨fun s n h => ⟨parse_canonical h, parse_text (parse_canonical h)⟩,
    fun n => ⟨parse_text, parse_canonical⟩, fun a b ha hb hab => ?_⟩
  have h := (parse_text ha).symm.trans (hab ▸ parse_text hb)
  exact Except.ok.inj h

end Name
end Flow
end PassPlan
