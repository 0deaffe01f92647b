import PassPlan.Text.Lower
import PassPlan.Text.Blank
import Mathlib.Data.List.TakeWhile
import Mathlib.Data.List.DropRight
/-!
Lowering is idempotent and leaves white space where it is. Every character a run of the table
moves lands on a code point that no run moves and that is no white space, and no run moves
white space; this is checked on the table run against run. Trimming and lowering then commute,
and both are idempotent.
-/
namespace PassPlan.Text

/-- The code points of white space. -/
def blankCodes : List Nat :=
  [0x09, 0x0A, 0x0B, 0x0C, 0x0D, 0x20, 0x85, 0xA0, 0x1680, 0x2000, 0x2001, 0x2002, 0x2003, 0x2004,
    0x2005, 0x2006, 0x2007, 0x2008, 0x2009, 0x200A, 0x2028, 0x2029, 0x202F, 0x205F, 0x3000]

theorem isBlank_iff (c : Char) : isBlank c = true ↔ c.toNat ∈ blankCodes := by
  unfold isBlank
  -- the literal cases are members; the last is the range of the spaces above Latin-1
  split <;> simp_all [blankCodes]
  omega

namespace CaseRun

/-- Whether the run moves a code point. -/
def holds (r : CaseRun) (n : Nat) : Bool := r.lo ≤ n && n ≤ r.hi && (n - r.lo) % r.step == 0

/-- Where the first code point of the run goes. -/
def imageLo (r : CaseRun) : Int := r.lo + r.shift

/-- Where the last code point of the run goes. -/
def imageHi (r : CaseRun) : Int := r.hi + r.shift

/-- The run lands on characters, neither of its ranges holds white space. -/
def wellPlaced (r : CaseRun) : Bool :=
  0 ≤ r.imageLo && (r.imageHi < 0xD800 || 0xDFFF < r.imageLo) && r.imageHi < 0x110000 &&
    blankCodes.all fun b => (b < r.lo || r.hi < b) && ((b : Int) < r.imageLo || r.imageHi < b)

/-- No code point the run moves to is one that `r'` moves: the images lie outside `r'`, or
interleave with it by parity. -/
def clearOf (r r' : CaseRun) : Bool :=
  r.imageHi < r'.lo || r'.hi < r.imageLo ||
    (r'.step == 2 && (r.step == 2 || r.lo == r.hi) && (r.imageLo - r'.lo) % 2 == 1)

/-- The image of a moved code point, as a number. -/
theorem image_cast {r : CaseRun} (hw : r.wellPlaced = true) {n : Nat} (hn : r.holds n = true) :
    ((((n : Int) + r.shift).toNat : Nat) : Int) = n + r.shift := by
  simp only [wellPlaced, holds, Bool.and_eq_true, decide_eq_true_iff] at hw hn
  simp only [imageLo] at hw
  omega

theorem holds_image {r r' : CaseRun} (hw : r.wellPlaced = true) (hc : r.clearOf r' = true) {n : Nat}
    (hn : r.holds n = true) : r'.holds ((n : Int) + r.shift).toNat = false := by
  have hy := image_cast hw hn
  simp only [clearOf, holds, Bool.and_eq_true, Bool.or_eq_true, decide_eq_true_iff,
    beq_iff_eq] at hc hn ⊢
  simp only [imageLo, imageHi] at hc
  simp only [Bool.and_eq_false_iff, decide_eq_false_iff_not, beq_eq_false_iff_ne]
  rcases hc with (hc | hc) | ⟨⟨hs', hs | hs⟩, hodd⟩
  · omega
  · omega
  · rw [hs'] at ⊢; rw [hs] at hn; omega
  · rw [hs'] at ⊢; omega

theorem image_valid {r : CaseRun} (hw : r.wellPlaced = true) {n : Nat} (hn : r.holds n = true) :
    (((n : Int) + r.shift).toNat).isValidChar := by
  have hy := image_cast hw hn
  simp only [wellPlaced, holds, Bool.and_eq_true, Bool.or_eq_true, decide_eq_true_iff] at hw hn
  simp only [imageLo, imageHi] at hw
  unfold Nat.isValidChar
  omega

theorem image_not_blank {r : CaseRun} (hw : r.wellPlaced = true) {n : Nat} (hn : r.holds n = true) :
    ((n : Int) + r.shift).toNat ∉ blankCodes := by
  have hy := image_cast hw hn
  simp only [wellPlaced, holds, Bool.and_eq_true, List.all_eq_true, Bool.or_eq_true,
    decide_eq_true_iff] at hw hn
  simp only [imageLo, imageHi] at hw
  intro hb
  have := hw.2 _ hb
  omega

theorem not_blank {r : CaseRun} (hw : r.wellPlaced = true) {n : Nat} (hn : r.holds n = true) :
    n ∉ blankCodes := by
  simp only [wellPlaced, holds, Bool.and_eq_true, List.all_eq_true, Bool.or_eq_true,
    decide_eq_true_iff] at hw hn
  intro hb
  have := hw.2 _ hb
  omega

end CaseRun

/-- The table of runs passes both checks. -/
theorem lowerRuns_checked :
    lowerRuns.toList.all (fun r => r.wellPlaced && lowerRuns.toList.all r.clearOf) = true := by
  decide +kernel

/-- Each run of the table passes both checks. -/
theorem mem_lowerRuns {r : CaseRun} (hr : r ∈ lowerRuns) :
    r.wellPlaced = true ∧ ∀ r' ∈ lowerRuns, r.clearOf r' = true := by
  have h := lowerRuns_checked
  simp only [List.all_eq_true, Bool.and_eq_true, Array.mem_toList_iff] at h
  exact h r hr

/-- A character no run holds stays; one a run holds goes where the run sends it. -/
theorem lowerChar_cases (c : Char) :
    (lowerChar c = c ∧ ∀ r ∈ lowerRuns, r.holds c.toNat = false) ∨
    ∃ r ∈ lowerRuns, r.holds c.toNat = true ∧
      lowerChar c = Char.ofNat ((c.toNat : Int) + r.shift).toNat := by
  dsimp only [lowerChar]
  split
  · next r hr =>
    have hc := Array.find?_some hr
    exact .inr ⟨r, Array.mem_of_find?_eq_some hr, hc, rfl⟩
  · next hn =>
    refine .inl ⟨rfl, fun r hr => ?_⟩
    have hc := Array.find?_eq_none.1 hn r hr
    exact Bool.eq_false_iff.2 hc

theorem toNat_ofNat_of_valid {n : Nat} (h : n.isValidChar) : (Char.ofNat n).toNat = n := by
  rw [Char.ofNat, dif_pos h]
  rfl

theorem toNat_image {r : CaseRun} (hw : r.wellPlaced = true) {n : Nat} (hn : r.holds n = true) :
    (Char.ofNat ((n : Int) + r.shift).toNat).toNat = ((n : Int) + r.shift).toNat := by
  exact toNat_ofNat_of_valid (CaseRun.image_valid hw hn)

/-- Lowering twice is lowering once: a moved character lands where no run holds. -/
@[simp] theorem lowerChar_lowerChar (c : Char) : lowerChar (lowerChar c) = lowerChar c := by
  rcases lowerChar_cases c with ⟨h, -⟩ | ⟨r, hr, hc, h⟩
  · rw [h, h]
  · obtain ⟨hw, hclear⟩ := mem_lowerRuns hr
    rw [h]
    rcases lowerChar_cases (Char.ofNat ((c.toNat : Int) + r.shift).toNat) with ⟨h', -⟩ | ⟨r', hr', hc', -⟩
    · exact h'
    · rw [toNat_image hw hc, CaseRun.holds_image hw (hclear r' hr') hc] at hc'
      cases hc'

/-- Lowering keeps white space white and other characters not. -/
@[simp] theorem isBlank_lowerChar (c : Char) : isBlank (lowerChar c) = isBlank c := by
  rcases lowerChar_cases c with ⟨h, -⟩ | ⟨r, hr, hc, h⟩
  · rw [h]
  · have hw := (mem_lowerRuns hr).1
    rw [h, Bool.eq_iff_iff, isBlank_iff, isBlank_iff, toNat_image hw hc]
    exact iff_of_false (CaseRun.image_not_blank hw hc) (CaseRun.not_blank hw hc)

theorem lower_toList (s : String) : (lower s).toList = s.toList.map lowerChar := by
  rw [lower, String.toList_ofList]

@[simp] theorem lower_lower (s : String) : lower (lower s) = lower s := by
  rw [← String.toList_inj]
  simp only [lower_toList, List.map_map, Function.comp_def, lowerChar_lowerChar]

theorem dropBlanks_map_lowerChar (cs : List Char) :
    dropBlanks (cs.map lowerChar) = (dropBlanks cs).map lowerChar := by
  have h : isBlank ∘ lowerChar = isBlank := funext fun c => by
    rw [Function.comp_apply, isBlank_lowerChar]
  rw [dropBlanks, List.dropWhile_map, h, dropBlanks]

/-- Trimming and lowering commute. -/
theorem trim_lower (s : String) : trim (lower s) = lower (trim s) := by
  rw [← String.toList_inj, trim_toList, lower_toList, lower_toList, trim_toList]
  simp only [dropBlanks_map_lowerChar, ← List.map_reverse]

/-- A list that starts with no white space keeps that on its prefixes. -/
theorem dropBlanks_of_start {cs ds : List Char} (h : dropBlanks cs = cs) (hp : ds <+: cs) :
    dropBlanks ds = ds := by
  rw [dropBlanks, List.dropWhile_eq_self_iff] at h ⊢
  intro hl
  rw [hp.getElem hl]
  exact h (Nat.lt_of_lt_of_le hl hp.length_le)

/-- The front is trimmed first, and trimming the back keeps a prefix of what is left. -/
theorem trim_prefix_dropBlanks (s : String) : (trim s).toList <+: dropBlanks s.toList := by
  have hs : dropBlanks (dropBlanks s.toList).reverse <:+ (dropBlanks s.toList).reverse :=
    List.dropWhile_suffix isBlank
  simpa [trim_toList] using List.reverse_prefix.2 hs

/-- Trimming only cuts characters off the ends. -/
theorem trim_infix_self (s : String) : (trim s).toList <:+: s.toList :=
  (trim_prefix_dropBlanks s).isInfix.trans (List.dropWhile_suffix isBlank).isInfix

/-- Trimming twice is trimming once. -/
@[simp] theorem trim_trim (s : String) : trim (trim s) = trim s := by
  have hp := trim_prefix_dropBlanks s
  rw [trim_toList] at hp
  rw [← String.toList_inj, trim_toList, trim_toList]
  have ha : dropBlanks (dropBlanks s.toList) = dropBlanks s.toList := List.dropWhile_idempotent _ _
  have hb : dropBlanks (dropBlanks (dropBlanks s.toList).reverse) =
      dropBlanks (dropBlanks s.toList).reverse := List.dropWhile_idempotent _ _
  rw [dropBlanks_of_start ha hp, List.reverse_reverse, hb]

end PassPlan.Text
