import Mathlib.Data.List.Basic
import PassPlan.Diff.Lines
/-!
A line diff keeps both sides. The engine that compares the numbered lines, and the mapping of
its script back to text, are a third party's; all the line diff relies on is that the engine's
runs are never empty, that its kept and deleted runs spell the first sequence and its kept and
inserted runs the second, and that each run comes back as the lines its numbers stand for, one
after another. Given that, the kept and deleted lines of the line diff are the old lines in
order and the kept and inserted lines the new ones, empty lines included, so the counts of added
and removed lines differ by the change in length. Two readings of text make this exact. Each
side is joined with a line feed after every line and cut back at the line feeds, which gives its
lines, each with its line feed. The text of a run is such lines one after another, so trimming
its last line feed and cutting at the others gives them back, and since no run is empty no
empty line is invented. Numbering by first appearance loses nothing: each number reads back as
its line in the shared table, which numbering the second side only extends.
-/
namespace PassPlan.Diff

/-- What the line diff relies on of the engine it is given: no run is empty, the kept and
deleted runs spell the first sequence and the kept and inserted runs the second. -/
structure LawfulEngine (engine : List Nat → List Nat → List Edit) : Prop where
  nonempty : ∀ x y, ∀ e ∈ engine x y, e.items ≠ []
  old : ∀ x y, ((engine x y).filter (·.op ≠ .insert)).flatMap (·.items) = x
  new : ∀ x y, ((engine x y).filter (·.op ≠ .delete)).flatMap (·.items) = y

/-- What the line diff relies on of the mapping back from numbers to text: each run keeps what
happens to it, and its text is the lines its numbers stand for, one after another. -/
def MapsBack (toLines : List String → List Edit → List Chunk) : Prop :=
  ∀ table es, toLines table es = es.map fun e => ⟨e.op, String.join (e.items.map (lineText table))⟩

theorem charsToLines_mapsBack : MapsBack charsToLines := fun _ _ => rfl

/-- Every number of every run of a lawful engine is a number of one side or the other. -/
theorem LawfulEngine.mem_sides {engine : List Nat → List Nat → List Edit} (hlaw : LawfulEngine engine)
    {x y : List Nat} {e : Edit} {i : Nat} (he : e ∈ engine x y) (hi : i ∈ e.items) :
    i ∈ x ∨ i ∈ y := by
  by_cases hins : e.op = .insert
  · right
    rw [← hlaw.new x y]
    exact List.mem_flatMap.2 ⟨e, List.mem_filter.2 ⟨he, by simp [hins]⟩, hi⟩
  · left
    rw [← hlaw.old x y]
    exact List.mem_flatMap.2 ⟨e, List.mem_filter.2 ⟨he, by simp [hins]⟩, hi⟩

/-- A table numbers lines when every number is a place of the table and reads back as its
line. -/
def Numbers (table : List String) (ids : List Nat) (lines : List String) : Prop :=
  ids.map (lineText table) = lines ∧ ∀ i ∈ ids, 0 < i ∧ i ≤ table.length

section Numbering

theorem lineText_append {table : List String} {i : Nat} (more : List String) (h0 : 0 < i)
    (h : i ≤ table.length) : lineText (table ++ more) i = lineText table i := by
  have hi : i - 1 < table.length := by omega
  simp only [lineText, List.getD_eq_getElem?_getD, List.getElem?_append_left hi]

/-- Lines numbered by a table stay numbered by any longer table. -/
theorem Numbers.extend {table : List String} {ids : List Nat} {lines : List String}
    (h : Numbers table ids lines) (more : List String) : Numbers (table ++ more) ids lines := by
  obtain ⟨hmap, hrange⟩ := h
  refine ⟨?_, fun i hi => ?_⟩
  · rw [← hmap]
    exact List.map_congr_left fun i hi =>
      lineText_append more (hrange i hi).1 (hrange i hi).2
  · have := hrange i hi
    simp only [List.length_append]
    omega

/-- Numbering one line extends the table and adds one number that reads back as the line. -/
theorem numberLine_spec (table : List String) (ids : List Nat) (l : String) :
    ∃ more i, numberLine (table, ids) l = (table ++ more, ids ++ [i]) ∧
      lineText (table ++ more) i = l ∧ 0 < i ∧ i ≤ (table ++ more).length := by
  cases hj : table.idxOf? l with
  | some j =>
    obtain ⟨hlt, hget, -⟩ := List.idxOf?_eq_some_iff.1 hj
    refine ⟨[], j + 1, by simp [numberLine, hj], ?_, by omega, by simp; omega⟩
    simp [lineText, List.getElem?_eq_getElem hlt, hget]
  | none =>
    refine ⟨[l], table.length + 1, by simp [numberLine, hj], ?_, by omega, by simp⟩
    simp [lineText]

/-- Numbering lines one by one extends the table and numbers them after those already numbered. -/
theorem foldl_numberLine (rest : List String) :
    ∀ (table : List String) (ids : List Nat) (lines : List String), Numbers table ids lines →
      ∃ more, (rest.foldl numberLine (table, ids)).1 = table ++ more ∧
        Numbers (rest.foldl numberLine (table, ids)).1 (rest.foldl numberLine (table, ids)).2
          (lines ++ rest) := by
  induction rest with
  | nil => exact fun table _ _ h => ⟨[], by simp, by simpa using h⟩
  | cons l rest ih =>
    intro table ids lines h
    obtain ⟨more, i, hstep, htext, h0, hle⟩ := numberLine_spec table ids l
    have hnext : Numbers (table ++ more) (ids ++ [i]) (lines ++ [l]) := by
      obtain ⟨hmap, hrange⟩ := h.extend more
      refine ⟨by simp [hmap, htext], fun j hj => ?_⟩
      rcases List.mem_append.1 hj with hj | hj
      · exact hrange j hj
      · obtain rfl := List.mem_singleton.1 hj
        exact ⟨h0, hle⟩
    obtain ⟨more', hext, hnum⟩ := ih (table ++ more) (ids ++ [i]) (lines ++ [l]) hnext
    simp only [List.foldl_cons, hstep]
    exact ⟨more ++ more', by simp [hext], by simpa using hnum⟩

/-- Numbering a side extends the table and numbers its lines. -/
theorem numberLines_spec (table : List String) (lines : List String) :
    ∃ more, (numberLines table lines).1 = table ++ more ∧
      Numbers (numberLines table lines).1 (numberLines table lines).2 lines := by
  simpa [numberLines] using foldl_numberLine lines table [] [] ⟨rfl, by simp⟩

end Numbering

section Text

/-- Lines each ended by a separator are the lines joined by it, then the separator once more. -/
theorem flatMap_append_sep (sep : List Char) : ∀ {ls : List (List Char)}, ls ≠ [] →
    ls.flatMap (· ++ sep) = sep.intercalate ls ++ sep
  | [], h => absurd rfl h
  | [l], _ => by simp
  | l :: l' :: rest, _ => by
    rw [List.flatMap_cons, flatMap_append_sep sep (List.cons_ne_nil l' rest),
      List.intercalate_cons_cons]
    simp

/-- The characters of lines each followed by a line feed. -/
theorem toList_join_lines (xs : List String) :
    (String.join (xs.map (· ++ "\n"))).toList = (xs.map String.toList).flatMap (· ++ ['\n']) := by
  simp [String.toList_join, String.toList_append, List.flatMap_map]

/-- Lines without line feeds, each followed by one, cut at the line feeds give the lines back
and an empty last part. -/
theorem splitOn_lines {ls : List (List Char)} (hne : ls ≠ []) (h : ∀ l ∈ ls, '\n' ∉ l) :
    (ls.flatMap (· ++ ['\n'])).splitOn '\n' = ls ++ [[]] := by
  rw [flatMap_append_sep _ hne, List.splitOn_eq_splitOnP,
    List.splitOnP_append_cons _ _ (by simp), ← List.splitOn_eq_splitOnP,
    List.splitOn_intercalate '\n' h hne]
  rfl

/-- A side joined for the engine is cut back into its lines, each with its line feed. -/
theorem cutLines_joinLines {xs : List String} (h : ∀ x ∈ xs, '\n' ∉ x.toList) :
    cutLines (joinLines xs) = xs.map (· ++ "\n") := by
  cases xs with
  | nil => rfl
  | cons x rest =>
    have hparts := splitOn_lines (List.map_eq_nil_iff.not.2 (List.cons_ne_nil x rest))
      (List.forall_mem_map.2 h)
    rw [← toList_join_lines] at hparts
    simp only [cutLines, joinLines, hparts, List.dropLast_concat, List.getLast?_concat]
    simp [Function.comp_def, String.ofList_toList]

/-- The text of a run of lines without line feeds, each with its line feed, is cut back into
those lines: the last line feed is trimmed and the text cut at the others. -/
theorem chunkLines_join {ys : List String} (hne : ys ≠ []) (h : ∀ y ∈ ys, '\n' ∉ y.toList) :
    chunkLines (String.join (ys.map (· ++ "\n"))) = ys := by
  have hne' : ys.map String.toList ≠ [] := List.map_eq_nil_iff.not.2 hne
  have htext := toList_join_lines ys
  rw [flatMap_append_sep _ hne'] at htext
  simp only [chunkLines, htext, List.getLast?_concat, List.dropLast_concat, if_true,
    List.splitOn_intercalate '\n' (List.forall_mem_map.2 h) hne']
  simp [Function.comp_def, String.ofList_toList]

/-- A number whose line in the table is a line without line feeds followed by one. -/
def Ended (table : List String) (i : Nat) : Prop :=
  ∃ x, '\n' ∉ x.toList ∧ lineText table i = x ++ "\n"

/-- The line a number stands for, without its line feed. -/
def bodyText (table : List String) (i : Nat) : String :=
  String.ofList (lineText table i).toList.dropLast

theorem bodyText_of_eq {table : List String} {i : Nat} {x : String}
    (h : lineText table i = x ++ "\n") : bodyText table i = x := by
  simp [bodyText, h, String.toList_append, String.ofList_toList]

theorem Ended.eq {table : List String} {i : Nat} (h : Ended table i) :
    lineText table i = bodyText table i ++ "\n" ∧ '\n' ∉ (bodyText table i).toList := by
  obtain ⟨x, hx, heq⟩ := h
  rw [bodyText_of_eq heq]
  exact ⟨heq, hx⟩

/-- Numbers that read back lines each with its line feed are ended, and read back the lines
without it. -/
theorem ended_of_map {table : List String} {ids : List Nat} {xs : List String}
    (hmap : ids.map (lineText table) = xs.map (· ++ "\n")) (hx : ∀ x ∈ xs, '\n' ∉ x.toList) :
    (∀ i ∈ ids, Ended table i) ∧ ids.map (bodyText table) = xs := by
  induction ids generalizing xs with
  | nil =>
    cases xs with
    | nil => exact ⟨fun _ h => absurd h List.not_mem_nil, rfl⟩
    | cons _ _ => simp at hmap
  | cons i ids ih =>
    cases xs with
    | nil => simp at hmap
    | cons x xs =>
      simp only [List.map_cons, List.cons.injEq] at hmap
      obtain ⟨hended, hbodies⟩ := ih hmap.2 fun y hy => hx y (List.mem_cons_of_mem x hy)
      refine ⟨fun j hj => ?_, by rw [List.map_cons, bodyText_of_eq hmap.1, hbodies]⟩
      rcases List.mem_cons.1 hj with rfl | hj
      · exact ⟨x, hx x List.mem_cons_self, hmap.1⟩
      · exact hended j hj

end Text

section Runs

variable (table : List String) (p : Op → Bool)

/-- The text of a non-empty run of ended numbers is cut back into their lines. -/
theorem runLines_join {op : Op} {items : List Nat} (hne : items ≠ [])
    (h : ∀ i ∈ items, Ended table i) :
    runLines ⟨op, String.join (items.map (lineText table))⟩ =
      items.map fun i => ⟨op, bodyText table i⟩ := by
  have hlines : items.map (lineText table) = (items.map (bodyText table)).map (· ++ "\n") := by
    rw [List.map_map]
    exact List.map_congr_left fun i hi => (h i hi).eq.1
  have hbodies : ∀ y ∈ items.map (bodyText table), '\n' ∉ y.toList :=
    List.forall_mem_map.2 fun i hi => (h i hi).eq.2
  simp only [runLines]
  rw [hlines, chunkLines_join (List.map_eq_nil_iff.not.2 hne) hbodies, List.map_map]
  rfl

/-- Over a script without empty runs of ended numbers, the lines a filter keeps read back the
numbers of the runs it keeps, in order. -/
theorem flatMap_runLines_filter {es : List Edit} (hne : ∀ e ∈ es, e.items ≠ [])
    (h : ∀ e ∈ es, ∀ i ∈ e.items, Ended table i) :
    (((es.map fun e => (⟨e.op, String.join (e.items.map (lineText table))⟩ : Chunk)).flatMap
        runLines).filter fun l => p l.op).map (·.text) =
      ((es.filter fun e => p e.op).flatMap (·.items)).map (bodyText table) := by
  induction es with
  | nil => rfl
  | cons e es ih =>
    have hrest := ih (fun e' he' => hne e' (List.mem_cons_of_mem e he'))
      (fun e' he' => h e' (List.mem_cons_of_mem e he'))
    rw [List.map_cons, List.flatMap_cons, List.filter_append, List.map_append, hrest,
      runLines_join table (hne e List.mem_cons_self) (h e List.mem_cons_self)]
    by_cases hp : p e.op <;> simp [hp, List.filter_map, Function.comp_def]

end Runs

/-- The counts of added and removed lines differ by the change in length between the sides the
lines spell. -/
theorem stats_sub (lines : List LineEdit) :
    ((stats lines).1 : Int) - (stats lines).2 =
      (lines.filter (·.op ≠ .delete)).length - (lines.filter (·.op ≠ .insert)).length := by
  have hi : lines.length = _ + _ := List.length_eq_length_filter_add fun l : LineEdit => decide (l.op = .insert)
  have hd : lines.length = _ + _ := List.length_eq_length_filter_add fun l : LineEdit => decide (l.op = .delete)
  simp only [stats, ne_eq, decide_not]
  omega

/-- A line diff over a lawful engine and a lawful mapping back to text keeps both sides: its
kept and deleted lines are the old lines in order, its kept and inserted lines the new ones, and
the added and removed counts differ by the change in length. -/
theorem lineDiffWith_sides (engine : List Nat → List Nat → List Edit) (hlaw : LawfulEngine engine)
    (toLines : List String → List Edit → List Chunk) (hback : MapsBack toLines)
    (a b : List String) (ha : ∀ x ∈ a, '\n' ∉ x.toList) (hb : ∀ x ∈ b, '\n' ∉ x.toList) :
    ((lineDiffWith engine toLines a b).filter (·.op ≠ .insert)).map (·.text) = a ∧
      ((lineDiffWith engine toLines a b).filter (·.op ≠ .delete)).map (·.text) = b ∧
      ((stats (lineDiffWith engine toLines a b)).1 : Int) -
          (stats (lineDiffWith engine toLines a b)).2 = b.length - a.length := by
  have hca := cutLines_joinLines ha
  have hcb := cutLines_joinLines hb
  rcases h1 : numberLines [] (a.map (· ++ "\n")) with ⟨t1, ia⟩
  rcases h2 : numberLines t1 (b.map (· ++ "\n")) with ⟨t2, ib⟩
  obtain ⟨_, -, hna⟩ := numberLines_spec [] (a.map (· ++ "\n"))
  obtain ⟨more, hext, hnb⟩ := numberLines_spec t1 (b.map (· ++ "\n"))
  rw [h1] at hna
  rw [h2] at hext hnb
  -- the numbers of the first side still read back in the table the second side extends
  have hna' : Numbers t2 ia (a.map (· ++ "\n")) := by
    have := hna.extend more
    rwa [← hext] at this
  obtain ⟨hendA, hbodyA⟩ := ended_of_map hna'.1 ha
  obtain ⟨hendB, hbodyB⟩ := ended_of_map hnb.1 hb
  have hended : ∀ e ∈ engine ia ib, ∀ i ∈ e.items, Ended t2 i := fun e he i hi =>
    (hlaw.mem_sides he hi).elim (hendA i) (hendB i)
  -- the lines a filter keeps read back the numbers of the runs it keeps
  have hside : ∀ p : Op → Bool, ((lineDiffWith engine toLines a b).filter fun l => p l.op).map
      (·.text) = (((engine ia ib).filter fun e => p e.op).flatMap (·.items)).map (bodyText t2) := by
    intro p
    simp only [lineDiffWith, hca, hcb, h1, h2]
    rw [hback t2]
    exact flatMap_runLines_filter t2 p (hlaw.nonempty _ _) hended
  have hold : ((lineDiffWith engine toLines a b).filter (·.op ≠ .insert)).map (·.text) = a := by
    rw [hside fun o => decide (o ≠ .insert), hlaw.old]
    exact hbodyA
  have hnew : ((lineDiffWith engine toLines a b).filter (·.op ≠ .delete)).map (·.text) = b := by
    rw [hside fun o => decide (o ≠ .delete), hlaw.new]
    exact hbodyB
  refine ⟨hold, hnew, ?_⟩
  rw [stats_sub]
  have hlo := congrArg List.length hold
  have hln := congrArg List.length hnew
  simp only [List.length_map] at hlo hln
  omega

/-- The engine that deletes the whole first sequence and inserts the whole second, leaving out
empty runs: what the real engine answers for two sequences with no token in common. -/
def replaceAll (x y : List Nat) : List Edit :=
  (if x = [] then [] else [⟨.delete, x⟩]) ++ (if y = [] then [] else [⟨.insert, y⟩])

theorem replaceAll_lawful : LawfulEngine replaceAll where
  nonempty x y e he := by
    unfold replaceAll at he
    split at he <;> split at he <;> simp only [List.mem_append, List.mem_singleton,
      List.not_mem_nil, false_or, or_false] at he <;> rcases he with rfl | rfl <;> assumption
  old x y := by unfold replaceAll; split <;> split <;> simp_all
  new x y := by unfold replaceAll; split <;> split <;> simp_all

/-- An empty old line and two lines that share nothing: the old side is spelled by the deleted
lines, the empty one included, the new side by the inserted one. -/
theorem lineDiffWith_sides_replace :
    LawfulEngine replaceAll ∧ MapsBack charsToLines ∧ (∀ x ∈ ["", "x"], '\n' ∉ x.toList) ∧
      (∀ x ∈ ["y"], '\n' ∉ x.toList) ∧
      ((lineDiffWith replaceAll charsToLines ["", "x"] ["y"]).filter (·.op ≠ .insert)).map (·.text) =
        ["", "x"] ∧
      ((lineDiffWith replaceAll charsToLines ["", "x"] ["y"]).filter (·.op ≠ .delete)).map (·.text) =
        ["y"] ∧
      ((stats (lineDiffWith replaceAll charsToLines ["", "x"] ["y"])).1 : Int) -
          (stats (lineDiffWith replaceAll charsToLines ["", "x"] ["y"])).2 =
        (["y"] : List String).length - (["", "x"] : List String).length :=
  ⟨replaceAll_lawful, charsToLines_mapsBack, by decide, by decide,
    lineDiffWith_sides replaceAll replaceAll_lawful charsToLines charsToLines_mapsBack ["", "x"] ["y"]
      (by decide) (by decide)⟩

end PassPlan.Diff
