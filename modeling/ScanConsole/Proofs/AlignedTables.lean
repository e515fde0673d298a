import Mathlib.Algebra.BigOperators.Group.Finset.Basic
import Mathlib.Algebra.Order.Group.Nat
import Mathlib.Order.Bounds.Basic
import ScanConsole.Screen.Layout

/-!
# Tables in columns

A table is laid out in columns: `InColumns` says that a line shows a text in
each column, at the place where the column begins, and spaces between the
columns.

    columnStart w j = ∑ k ∈ range j, (w k + 2)
    tableWidth w n  = ∑ k ∈ range n, w k + 2 * (n - 1)

The cells of a row, each filled up to the width of its column, make up such a
line when they are joined (`inColumns_intercalate`), and so does the rule.
Trimming takes nothing but spaces from its end (`trimEnd_fill`), so a row that
is filled up again is the whole line (`showsRow_layoutRow`).

All this is so of every table that has a layout (`table_in_columns`). There is
none exactly if some cell is wider than columns can be
(`layoutTable_eq_none_iff`).

## What is assumed of the cells

Blanks are spaces. A cell may hold other white space, and then the layout is
still made, but trimming takes such blanks from the end of a row, and a line
feed in a cell would begin a line of its own. Nothing is assumed of the number
of cells in a row; those that are missing are blank.

Widths are counted in characters. How wide a character is on a screen is not
part of this.
-/

namespace ScanConsole

/-! ## Blanks at the end

A text whose blanks are spaces is its trimmed form filled up with spaces. -/

namespace Text

variable {s : List Char}

theorem trimEnd_fill (h : ∀ c ∈ s, isBlank c = true → c = ' ') :
    trimEnd s ++ List.replicate (s.length - (trimEnd s).length) ' ' = s := by
  obtain ⟨r, hs, hr⟩ := exists_trimEnd s
  have hspaces : r = List.replicate r.length ' ' := by
    refine List.eq_replicate_iff.mpr ⟨rfl, fun c hc => ?_⟩
    exact h c (hs ▸ List.mem_append_right _ hc) (hr c hc)
  have hlength := congrArg List.length hs
  rw [List.length_append] at hlength
  rw [hlength, Nat.add_sub_cancel_left, ← hspaces, ← hs]

theorem length_trimEnd_le (s : List Char) : (trimEnd s).length ≤ s.length := by
  obtain ⟨r, hs, -⟩ := exists_trimEnd s
  have hlength := congrArg List.length hs
  rw [List.length_append] at hlength
  exact hlength ▸ Nat.le_add_right _ _

end Text

namespace Screen

/-! ## Columns

The places of the columns are sums of widths. Going down a list of cells the
first column goes away, so the sums are taken apart at their first term. -/

open Finset in
/-- Where a column begins, if the columns have these widths and two spaces between them. -/
def columnStart (w : Nat → Nat) (j : Nat) : Nat := ∑ k ∈ range j, (w k + 2)

open Finset in
/-- The width of `n` columns and the gaps between them. -/
def tableWidth (w : Nat → Nat) (n : Nat) : Nat := ∑ k ∈ range n, w k + 2 * (n - 1)

/-- The text shows `cell j` in its column `j`, of `n` columns, and spaces between the columns. -/
structure InColumns (w : Nat → Nat) (n : Nat) (cell : Nat → List Char) (text : List Char) : Prop where
  length : text.length = tableWidth w n
  cells : ∀ j < n, (text.drop (columnStart w j)).take (w j) = cell j
  gaps : ∀ i < tableWidth w n, (∀ j < n, i < columnStart w j ∨ columnStart w j + w j ≤ i) →
    text[i]? = some ' '

section
variable {w : Nat → Nat}

@[simp] theorem columnStart_zero : columnStart w 0 = 0 := rfl

theorem columnStart_succ (j : Nat) : columnStart w (j + 1) = w 0 + 2 + columnStart (fun k => w (k + 1)) j := by
  rw [columnStart, Finset.sum_range_succ', Nat.add_comm, columnStart]

@[simp] theorem tableWidth_one : tableWidth w 1 = w 0 := by
  simp [tableWidth]

theorem tableWidth_succ (n : Nat) :
    tableWidth w (n + 2) = w 0 + 2 + tableWidth (fun k => w (k + 1)) (n + 1) := by
  rw [tableWidth, Finset.sum_range_succ', tableWidth]
  omega

theorem inColumns_one {cell : Nat → List Char} (hcell : (cell 0).length = w 0) :
    InColumns w 1 cell (cell 0) where
  length := by rw [tableWidth_one, hcell]
  cells j hj := by
    obtain rfl := Nat.lt_one_iff.mp hj
    rw [columnStart_zero, List.drop_zero, ← hcell, List.take_length]
  gaps i hi hout := by
    have hfirst := hout 0 Nat.one_pos
    rw [tableWidth_one] at hi
    rw [columnStart_zero] at hfirst
    omega

/-- A column in front of others. -/
theorem inColumns_succ {cell : Nat → List Char} {n : Nat} {behind : List Char} (hpos : 0 < n)
    (hcell : (cell 0).length = w 0)
    (h : InColumns (fun k => w (k + 1)) n (fun k => cell (k + 1)) behind) :
    InColumns w (n + 1) cell (cell 0 ++ gap ++ behind) := by
  have hgap : gap.length = 2 := rfl
  have hwidth : tableWidth w (n + 1) = w 0 + 2 + tableWidth (fun k => w (k + 1)) n := by
    obtain ⟨n, rfl⟩ := Nat.exists_eq_add_of_le' hpos
    exact tableWidth_succ n
  have hbehind (i : Nat) : (cell 0 ++ gap ++ behind).drop (w 0 + 2 + i) = behind.drop i := by
    rw [← List.drop_drop, List.drop_left' (by rw [List.length_append, hcell, hgap])]
  constructor
  · rw [hwidth, List.length_append, List.length_append, hcell, hgap, h.length]
  · rintro (_ | j) hj
    · rw [columnStart_zero, List.drop_zero, List.append_assoc, List.take_left' hcell]
    · rw [columnStart_succ, hbehind]
      exact h.cells j (Nat.lt_of_succ_lt_succ hj)
  · intro i hi hout
    have hfirst := hout 0 (Nat.succ_pos n)
    rw [columnStart_zero] at hfirst
    rcases Nat.lt_or_ge i (w 0 + 2) with hlt | hge
    · -- in the gap behind the first column
      rw [List.getElem?_append_left (by rw [List.length_append, hcell, hgap]; exact hlt),
        List.getElem?_append_right (by omega), hcell]
      obtain h | h : i - w 0 = 0 ∨ i - w 0 = 1 := by omega
      · rw [h]; rfl
      · rw [h]; rfl
    · obtain ⟨i, rfl⟩ := Nat.exists_eq_add_of_le hge
      rw [← List.head?_drop, hbehind, List.head?_drop]
      refine h.gaps i ?_ fun j hj => ?_
      · rw [hwidth] at hi
        exact Nat.lt_of_add_lt_add_left hi
      · have hother := hout (j + 1) (Nat.succ_lt_succ hj)
        rw [columnStart_succ] at hother
        omega

theorem inColumns_intercalate {f : Nat → List Char} {n : Nat} (hpos : 0 < n)
    (hlength : ∀ j < n, (f j).length = w j) :
    InColumns w n f (gap.intercalate ((List.range n).map f)) := by
  induction n, hpos using Nat.le_induction generalizing w f with
  | base =>
    rw [List.range_one, List.map_singleton, List.intercalate_singleton]
    exact inColumns_one (hlength 0 Nat.one_pos)
  | succ n hpos ih =>
    have ih := ih (w := fun k => w (k + 1)) (f := fun k => f (k + 1))
      fun j hj => hlength (j + 1) (Nat.succ_lt_succ hj)
    have hne : (List.range n).map (fun k => f (k + 1)) ≠ [] := by
      rw [Ne, List.map_eq_nil_iff, List.range_eq_nil]
      exact Nat.pos_iff_ne_zero.mp hpos
    have hcells : (List.range (n + 1)).map f = f 0 :: (List.range n).map fun k => f (k + 1) := by
      rw [List.range_succ_eq_map, List.map_cons, List.map_map]
      rfl
    rw [hcells, List.intercalate_cons_of_ne_nil hne]
    exact inColumns_succ hpos (hlength 0 (Nat.succ_pos n)) ih

end

/-! ## The greatest of a list

The number of columns and their widths are greatest elements, and the proofs
know them as such; what the layout computes is a fold with `max`. -/

theorem foldl_max_le_iff {l : List Nat} {b m : Nat} : l.foldl max b ≤ m ↔ b ≤ m ∧ ∀ x ∈ l, x ≤ m := by
  induction l generalizing b with
  | nil => simp
  | cons x l ih => simp [ih, and_assoc]

theorem foldl_max_eq {l : List Nat} {m : Nat} (h : IsGreatest {x | x ∈ l} m) : l.foldl max 0 = m := by
  refine Nat.le_antisymm (foldl_max_le_iff.mpr ⟨Nat.zero_le m, fun x hx => h.2 hx⟩) ?_
  exact (foldl_max_le_iff.mp (Nat.le_refl (l.foldl max 0))).2 m h.1

section
variable {rows : List (List String)}

theorem mem_columnLengths {j m : Nat} :
    m ∈ (rows.filterMap fun row => row[j]?).map String.length ↔
      ∃ row ∈ rows, ∃ cell ∈ row[j]?, cell.length = m := by
  simp only [List.mem_map, List.mem_filterMap]
  constructor
  · rintro ⟨cell, ⟨row, hrow, hcell⟩, hm⟩
    exact ⟨row, hrow, cell, hcell, hm⟩
  · rintro ⟨row, hrow, cell, hcell, hm⟩
    exact ⟨cell, ⟨row, hrow, hcell⟩, hm⟩

theorem columns_eq {n : Nat} (h : IsGreatest {m | ∃ row ∈ rows, row.length = m} n) : columns rows = n := by
  refine foldl_max_eq ?_
  simpa only [List.mem_map] using h

theorem columnWidth_eq {j m : Nat}
    (h : IsGreatest {m | ∃ row ∈ rows, ∃ cell ∈ row[j]?, cell.length = m} m) :
    columnWidth rows j = m := by
  refine foldl_max_eq ?_
  simpa only [mem_columnLengths] using h

theorem length_le_columns {row : List String} (h : row ∈ rows) : row.length ≤ columns rows :=
  (foldl_max_le_iff.mp (Nat.le_refl (columns rows))).2 _ (List.mem_map_of_mem h)

/-- A table has no layout exactly if some cell is wider than a column can be. -/
theorem layoutTable_eq_none_iff :
    layoutTable rows = Option.none ↔ ∃ row ∈ rows, ∃ cell ∈ row, widthLimit < cell.length := by
  have hwide (j : Nat) : widthLimit < columnWidth rows j ↔
      ∃ row ∈ rows, ∃ cell ∈ row[j]?, widthLimit < cell.length := by
    rw [← Nat.not_le, columnWidth, foldl_max_le_iff]
    simp only [Nat.zero_le, true_and, not_forall, mem_columnLengths, Nat.not_le]
    constructor
    · rintro ⟨_, ⟨row, hrow, cell, hcell, rfl⟩, hlt⟩
      exact ⟨row, hrow, cell, hcell, hlt⟩
    · rintro ⟨row, hrow, cell, hcell, hlt⟩
      exact ⟨_, ⟨row, hrow, cell, hcell, rfl⟩, hlt⟩
  have hany : (columnWidths rows).any (widthLimit < ·) = true ↔
      ∃ row ∈ rows, ∃ cell ∈ row, widthLimit < cell.length := by
    simp only [columnWidths, List.any_map, List.any_eq_true, List.mem_range, Function.comp_apply,
      decide_eq_true_eq, hwide]
    constructor
    · rintro ⟨j, -, row, hrow, cell, hcell, hlt⟩
      exact ⟨row, hrow, cell, List.mem_of_getElem? hcell, hlt⟩
    · rintro ⟨row, hrow, cell, hcell, hlt⟩
      obtain ⟨j, hj, hget⟩ := List.getElem_of_mem hcell
      exact ⟨j, Nat.lt_of_lt_of_le hj (length_le_columns hrow), row, hrow, cell,
        List.getElem?_eq_some_iff.mpr ⟨hj, hget⟩, hlt⟩
  rw [← hany, layoutTable.eq_def]
  dsimp only
  split
  · next h => exact iff_of_true rfl h
  · next h => cases rows <;> exact iff_of_false (Option.some_ne_none _) h

end

/-! ## Rows

A cell that is missing is a blank one (`shownCell`). A row has no blanks but
spaces if its cells have no others, and then no line feed either
(`lineFeed_not_mem_layoutRow`). -/

/-- A cell filled up to the width of its column; one that is missing is blank. -/
def shownCell (width : Nat) : Option String → List Char
  | some cell => cell.toList ++ List.replicate (width - cell.length) ' '
  | none => List.replicate width ' '

/-- The line shows a row: it is not wider than the table, it ends in no space, and filled up with spaces it
has the cells in their columns. -/
structure ShowsRow (w : Nat → Nat) (n : Nat) (row : List String) (line : List Char) : Prop where
  length_le : line.length ≤ tableWidth w n
  trimmed : line.getLast? ≠ some ' '
  inColumns : InColumns w n (fun j => shownCell (w j) row[j]?)
    (line ++ List.replicate (tableWidth w n - line.length) ' ')

theorem getElem?_paddedCells (widths : List Nat) (row : List String) (j : Nat) :
    (paddedCells widths row)[j]? = widths[j]?.map fun width => shownCell width row[j]? := by
  fun_induction paddedCells widths row generalizing j with
  | case1 => simp
  | case2 width widths ih => cases j <;> simp [ih, shownCell, paddedCell]
  | case3 width widths cell row ih => cases j <;> simp [ih, shownCell, paddedCell]

theorem paddedCells_eq (w : Nat → Nat) (n : Nat) (row : List String) :
    paddedCells ((List.range n).map w) row = (List.range n).map fun j => shownCell (w j) row[j]? := by
  refine List.ext_getElem? fun j => ?_
  rw [getElem?_paddedCells, List.getElem?_map, List.getElem?_map, Option.map_map]
  rcases Nat.lt_or_ge j n with hj | hj
  · rw [List.getElem?_range hj]
    rfl
  · have hnone : (List.range n)[j]? = none := List.getElem?_eq_none (by rwa [List.length_range])
    rw [hnone]
    rfl

theorem mem_intercalate {sep : List Char} {pieces : List (List Char)} {c : Char}
    (h : c ∈ sep.intercalate pieces) : c ∈ sep ∨ ∃ piece ∈ pieces, c ∈ piece := by
  induction pieces with
  | nil => cases h
  | cons piece pieces ih =>
    cases pieces with
    | nil =>
      rw [List.intercalate_singleton] at h
      exact .inr ⟨piece, List.mem_cons_self, h⟩
    | cons piece' pieces =>
      rw [List.intercalate_cons_cons, List.mem_append, List.mem_append] at h
      obtain (h | h) | h := h
      · exact .inr ⟨piece, List.mem_cons_self, h⟩
      · exact .inl h
      · obtain h | ⟨other, hother, hc⟩ := ih h
        · exact .inl h
        · exact .inr ⟨other, List.mem_cons_of_mem _ hother, hc⟩

section
variable {rows : List (List String)} {n : Nat} {w : Nat → Nat}

theorem length_shownCell {width : Nat} {cell : Option String} (h : ∀ text ∈ cell, text.length ≤ width) :
    (shownCell width cell).length = width := by
  cases cell with
  | none => exact List.length_replicate
  | some text =>
    rw [shownCell, List.length_append, List.length_replicate, String.length_toList]
    exact Nat.add_sub_cancel' (h text rfl)

theorem eq_space_of_isBlank {row : List String}
    (hblanks : ∀ cell ∈ row, ∀ c ∈ cell.toList, Text.isBlank c = true → c = ' ') {c : Char}
    (hc : c ∈ gap.intercalate ((List.range n).map fun j => shownCell (w j) row[j]?))
    (hblank : Text.isBlank c = true) : c = ' ' := by
  obtain hc | ⟨cell, hcell, hc⟩ := mem_intercalate hc
  · exact List.eq_of_mem_replicate (n := 2) hc
  · obtain ⟨j, -, rfl⟩ := List.mem_map.mp hcell
    cases htext : row[j]? with
    | none =>
      rw [htext] at hc
      exact List.eq_of_mem_replicate hc
    | some text =>
      rw [htext] at hc
      obtain hc | hc := List.mem_append.mp hc
      · exact hblanks text (List.mem_of_getElem? htext) c hc hblank
      · exact List.eq_of_mem_replicate hc

theorem showsRow_layoutRow {row : List String} (hpos : 0 < n)
    (hfits : ∀ j < n, ∀ cell ∈ row[j]?, cell.length ≤ w j)
    (hblanks : ∀ cell ∈ row, ∀ c ∈ cell.toList, Text.isBlank c = true → c = ' ') :
    ShowsRow w n row (layoutRow ((List.range n).map w) row) := by
  have hfull := inColumns_intercalate (w := w) (f := fun j => shownCell (w j) row[j]?) hpos
    fun j hj => length_shownCell (hfits j hj)
  rw [layoutRow, paddedCells_eq]
  refine ⟨?_, ?_, ?_⟩
  · exact hfull.length ▸ Text.length_trimEnd_le _
  · intro hlast
    have hno := Text.not_isBlank_getLast?_trimEnd hlast
    cases hno
  · rw [← hfull.length, Text.trimEnd_fill fun c => eq_space_of_isBlank hblanks]
    exact hfull

theorem inColumns_layoutRule (hpos : 0 < n) :
    InColumns w n (fun j => List.replicate (w j) '-') (layoutRule ((List.range n).map w)) := by
  rw [layoutRule, List.map_map]
  exact inColumns_intercalate hpos fun j _ => List.length_replicate

theorem columnWidths_eq (hcolumns : IsGreatest {m | ∃ row ∈ rows, row.length = m} n)
    (hwidths : ∀ j < n,
      IsGreatest {m | ∃ row ∈ rows, ∃ cell ∈ row[j]?, cell.length = m} (w j)) :
    columnWidths rows = (List.range n).map w := by
  rw [columnWidths, columns_eq hcolumns]
  refine List.map_congr_left fun j hj => ?_
  exact columnWidth_eq (hwidths j (List.mem_range.mp hj))

theorem lineFeed_not_mem_layoutRow {row : List String}
    (hblanks : ∀ cell ∈ row, ∀ c ∈ cell.toList, Text.isBlank c = true → c = ' ') :
    '\n' ∉ layoutRow ((List.range n).map w) row := by
  intro hmem
  rw [layoutRow, paddedCells_eq] at hmem
  have hfull := (List.dropWhile_sublist Text.isBlank).subset (List.mem_reverse.mp hmem)
  have hspace := eq_space_of_isBlank hblanks (List.mem_reverse.mp hfull) rfl
  cases hspace

theorem lineFeed_not_mem_layoutRule (widths : List Nat) : '\n' ∉ layoutRule widths := by
  intro hmem
  obtain hmem | ⟨dashes, hdashes, hmem⟩ := mem_intercalate hmem
  · cases List.eq_of_mem_replicate (n := 2) hmem
  · obtain ⟨width, -, rfl⟩ := List.mem_map.mp hdashes
    cases List.eq_of_mem_replicate hmem

end

/-! ## Tables

A column is as wide as its widest cell, and the widths are given by what they
are: greatest elements over the rows. -/

/-- A table in which blanks are spaces has a layout unless a cell is wider than columns can be. Its lines are
those of its rows, with the rule behind the first of them. The rule shows dashes in the columns, and each row
its cells, where a column is as wide as its widest cell. -/
theorem table_in_columns {rows : List (List String)} {n : Nat} {w : Nat → Nat}
    (hcolumns : IsGreatest {m | ∃ row ∈ rows, row.length = m} n) (hpos : 0 < n)
    (hwidths : ∀ j < n, IsGreatest {m | ∃ row ∈ rows, ∃ cell ∈ row[j]?, cell.length = m} (w j))
    (hblanks : ∀ row ∈ rows, ∀ cell ∈ row, ∀ c ∈ cell.toList, Text.isBlank c = true → c = ' ') :
    (layoutContent (.table rows) = none ↔ ∃ row ∈ rows, ∃ cell ∈ row, widthLimit < cell.length) ∧
    ∀ text, layoutContent (.table rows) = some text →
      ∃ head rule body, text.toList.splitOn '\n' = head :: rule :: body ∧
        InColumns w n (fun j => List.replicate (w j) '-') rule ∧
        List.Forall₂ (ShowsRow w n) rows (head :: body) := by
  refine ⟨Option.map_eq_none_iff.trans layoutTable_eq_none_iff, fun text htext => ?_⟩
  let line (row : List String) : List Char := layoutRow ((List.range n).map w) row
  have hrow : ∀ row ∈ rows, ShowsRow w n row (line row) := by
    intro row hmem
    refine showsRow_layoutRow hpos (fun j hj cell hcell => ?_) (hblanks row hmem)
    exact (hwidths j hj).2 ⟨row, hmem, cell, hcell, rfl⟩
  have hfeed : ∀ row ∈ rows, '\n' ∉ line row := fun row hmem => lineFeed_not_mem_layoutRow (hblanks row hmem)
  obtain ⟨lines, hlines, rfl⟩ := Option.map_eq_some_iff.mp htext
  rw [layoutTable.eq_def, columnWidths_eq hcolumns hwidths] at hlines
  cases rows with
  | nil =>
    obtain ⟨row, hrow, -⟩ := hcolumns.1
    cases hrow
  | cons head body =>
    have hsplit : lines.map String.toList = line head :: layoutRule ((List.range n).map w) :: body.map line := by
      dsimp only at hlines
      split at hlines
      · cases hlines
      · rw [← Option.some.inj hlines]
        simp [Function.comp_def, line]
    refine ⟨line head, layoutRule ((List.range n).map w), body.map line, ?_, inColumns_layoutRule hpos, ?_⟩
    · rw [String.toList_intercalate, hsplit]
      refine List.splitOn_intercalate '\n' ?_ (List.cons_ne_nil _ _)
      rw [List.forall_mem_cons, List.forall_mem_cons, List.forall_mem_map]
      obtain ⟨hhead, hbody⟩ := List.forall_mem_cons.mp hfeed
      exact ⟨hhead, lineFeed_not_mem_layoutRule _, hbody⟩
    · rw [← List.map_cons, List.forall₂_map_right_iff, List.forall₂_same]
      exact hrow

/-- A list of ports, of which one has no service and a state of two words. -/
def portTable : List (List String) := [["Port", "State"], ["22", "open ", "ssh"], ["8080"]]

theorem portTable_in_columns :
    IsGreatest {m | ∃ row ∈ portTable, row.length = m} 3 ∧
    (∀ j < 3, IsGreatest {m | ∃ row ∈ portTable, ∃ cell ∈ row[j]?, cell.length = m} ([4, 5, 3].getD j 0)) ∧
    (∀ row ∈ portTable, ∀ cell ∈ row, ∀ c ∈ cell.toList, Text.isBlank c = true → c = ' ') ∧
    layoutContent (.table portTable) = some "Port  State\n----  -----  ---\n22    open   ssh\n8080" ∧
    ∃ head rule body, "Port  State\n----  -----  ---\n22    open   ssh\n8080".toList.splitOn '\n' =
        head :: rule :: body ∧
      InColumns (fun j => [4, 5, 3].getD j 0) 3 (fun j => List.replicate ([4, 5, 3].getD j 0) '-') rule ∧
      List.Forall₂ (ShowsRow (fun j => [4, 5, 3].getD j 0) 3) portTable (head :: body) := by
  have hcolumns : IsGreatest {m | ∃ row ∈ portTable, row.length = m} 3 := by
    refine ⟨by decide, ?_⟩
    rintro m ⟨row, hrow, rfl⟩
    revert row
    decide
  have hwidths : ∀ j < 3, IsGreatest {m | ∃ row ∈ portTable, ∃ cell ∈ row[j]?, cell.length = m}
      ([4, 5, 3].getD j 0) := by
    intro j hj
    constructor
    · show ∃ row ∈ portTable, ∃ cell ∈ row[j]?, cell.length = [4, 5, 3].getD j 0
      revert j
      decide
    · rintro m ⟨row, hrow, cell, hcell, rfl⟩
      revert j row cell
      decide
  have hblanks : ∀ row ∈ portTable, ∀ cell ∈ row, ∀ c ∈ cell.toList, Text.isBlank c = true → c = ' ' := by
    have hall : (portTable.flatten.all fun cell => cell.toList.all fun c => !Text.isBlank c || c == ' ') = true :=
      rfl
    intro row hrow cell hcell c hc hblank
    have hcellAll := List.all_eq_true.mp hall cell (List.mem_flatten_of_mem hrow hcell)
    simpa [hblank] using List.all_eq_true.mp hcellAll c hc
  have htext : layoutContent (.table portTable) =
      some "Port  State\n----  -----  ---\n22    open   ssh\n8080" := by rfl
  exact ⟨hcolumns, hwidths, hblanks, htext,
    (table_in_columns hcolumns (by decide) hwidths hblanks).2 _ htext⟩

/-- A table of one cell, which is wider than columns can be, has no layout. -/
theorem no_layout_of_wide_cell :
    let cell := String.ofList (List.replicate 65536 'a')
    (∀ c ∈ cell.toList, Text.isBlank c = false) ∧ layoutContent (.table [[cell]]) = none := by
  intro cell
  have hchars : ∀ c ∈ cell.toList, Text.isBlank c = false := by
    intro c hc
    rw [String.toList_ofList] at hc
    rw [List.eq_of_mem_replicate hc]
    rfl
  have hlength : cell.length = 65536 := by
    rw [String.length_ofList, List.length_replicate]
  -- nothing is to be computed from so long a text
  clear_value cell
  refine ⟨hchars, Option.map_eq_none_iff.mpr (layoutTable_eq_none_iff.mpr ?_)⟩
  refine ⟨[cell], List.mem_singleton_self _, cell, List.mem_singleton_self _, ?_⟩
  rw [hlength]
  decide

end Screen

end ScanConsole
