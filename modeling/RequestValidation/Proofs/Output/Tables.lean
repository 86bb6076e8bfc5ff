import Mathlib
import RequestValidation.Output.Writer
import RequestValidation.Proofs.Text.Margins
import RequestValidation.Proofs.Text.Pieces
import RequestValidation.Proofs.Traversal
/-!
# Tables are aligned

The headers, the ruler and each row of a table are cells of the same widths with something between
them, so the lines agree place by place: where the ruler has a crossing, a line of cells has a bar.
A row loses blanks at its end, and no bar is one.

Results:
* `forall₂_intercalate`, `countP_intercalate`: cells with a separator between them.
* `isGreatest_widths`: a column is as wide as its longest cell.
* `bars_at_crossings`: bars stand where the ruler has crossings.
* `shows_trimmed`: they still do so when the blanks at the end are gone.
* `tables_aligned`: the lines of a table.
-/
namespace RequestValidation

/-! ## Cells with separators -/

/-- Two lists of cells agree place by place if the cells do and the separators. -/
theorem forall₂_intercalate {α β : Type} {r : α → β → Prop} {sep : List α} {sep' : List β}
    (hsep : List.Forall₂ r sep sep') {us : List (List α)} {vs : List (List β)}
    (h : List.Forall₂ (List.Forall₂ r) us vs) :
    List.Forall₂ r (sep.intercalate us) (sep'.intercalate vs) := by
  induction h with
  | nil => exact .nil
  | cons huv hrest ih =>
    cases hrest with
    | nil =>
      rw [List.intercalate_singleton, List.intercalate_singleton]
      exact huv
    | cons _ _ =>
      rw [List.intercalate_cons_cons, List.intercalate_cons_cons]
      exact List.rel_append (List.rel_append huv hsep) ih

theorem countP_intercalate {α : Type} (p : α → Bool) (sep : List α) (us : List (List α)) :
    (sep.intercalate us).countP p =
      (us.map (List.countP p)).sum + sep.countP p * (us.length - 1) := by
  induction us with
  | nil => simp
  | cons u rest ih =>
    cases rest with
    | nil => simp
    | cons v rest =>
      rw [List.intercalate_cons_cons, List.countP_append, List.countP_append, ih]
      simp only [List.map_cons, List.sum_cons, List.length_cons, Nat.add_sub_cancel,
        Nat.mul_add_one]
      omega

theorem length_intercalate {α : Type} (sep : List α) (us : List (List α)) :
    (sep.intercalate us).length =
      (us.map List.length).sum + sep.length * (us.length - 1) := by
  have h := countP_intercalate (fun _ => true) sep us
  simpa only [List.countP_true, ← List.countP_true] using h

/-- What is in no cell is counted in the separators alone. -/
theorem count_intercalate {α : Type} [DecidableEq α] {a : α} (sep : List α) {us : List (List α)}
    (hus : ∀ u ∈ us, a ∉ u) : (sep.intercalate us).count a = sep.count a * (us.length - 1) := by
  have hnone : us.map (List.countP (· == a)) = us.map fun _ => 0 :=
    List.map_congr_left fun u hu => List.count_eq_zero.mpr (hus u hu)
  rw [List.count, countP_intercalate, hnone]
  simp

namespace Table

/-! ## Widths -/

/-- The lengths of the cells of a column, its header among them. -/
def columnLengths (headers : List String) (rows : List (List String)) (j : Nat) : Set Nat :=
  {n | ∃ cells ∈ headers :: rows, cells[j]?.map String.length = some n}

/-- How wide the lines of a table are: three characters stand between any two columns. -/
def lineWidth (ws : List Nat) : Nat := ws.sum + 3 * (ws.length - 1)

theorem getElem?_widen (ws : List Nat) (cells : List String) (j : Nat) :
    (widen ws cells)[j]? =
      ws[j]?.map fun w => cells[j]?.elim w fun cell => max cell.length w := by
  induction ws generalizing cells j with
  | nil => simp [widen]
  | cons w ws ih =>
    cases cells with
    | nil => cases j <;> simp [widen]
    | cons cell cells =>
      cases j with
      | zero => simp [widen, Nat.max_comm]
      | succ j => simp [widen, ih]

theorem widths_concat (headers : List String) (rows : List (List String)) (row : List String) :
    widths headers (rows ++ [row]) = widen (widths headers rows) row := by
  simp [widths]

theorem columnLengths_concat (headers : List String) (rows : List (List String))
    (row : List String) (j : Nat) :
    columnLengths headers (rows ++ [row]) j =
      {n | row[j]?.map String.length = some n} ∪ columnLengths headers rows j := by
  ext n
  constructor
  · rintro ⟨cells, hcells, hn⟩
    rcases List.mem_append.mp (show cells ∈ (headers :: rows) ++ [row] from hcells) with h | h
    · exact .inr ⟨cells, h, hn⟩
    · obtain rfl := List.mem_singleton.mp h
      exact .inl hn
  · rintro (hn | ⟨cells, hcells, hn⟩)
    · exact ⟨row, List.mem_append_right (headers :: rows) List.mem_cons_self, hn⟩
    · exact ⟨cells, List.mem_append_left [row] hcells, hn⟩

/-- A column is as wide as its longest cell. -/
theorem isGreatest_widths {headers : List String} {rows : List (List String)} {j w : Nat}
    (h : (widths headers rows)[j]? = some w) : IsGreatest (columnLengths headers rows j) w := by
  -- on the rows from the last: it is compared with the longest cell above it
  induction rows using List.reverseRecOn generalizing w with
  | nil =>
    rw [widths, List.foldl_nil, List.getElem?_map] at h
    refine ⟨⟨headers, List.mem_cons_self, h⟩, ?_⟩
    rintro n ⟨cells, hcells, hn⟩
    rw [List.mem_singleton.mp hcells, h] at hn
    exact (Option.some.inj hn).ge
  | append_singleton rows row ih =>
    rw [widths_concat, getElem?_widen] at h
    obtain ⟨v, hv, rfl⟩ := Option.map_eq_some_iff.mp h
    rw [columnLengths_concat]
    cases hcell : row[j]? with
    | none => simpa using ih hv
    | some cell =>
      have hset : {n | (some cell).map String.length = some n} = {cell.length} := by
        ext n
        simp [eq_comm]
      rw [hset, Set.singleton_union]
      exact (ih hv).insert cell.length

theorem length_widths (headers : List String) (rows : List (List String)) :
    (widths headers rows).length = headers.length := by
  have hwiden (ws : List Nat) (cells : List String) : (widen ws cells).length = ws.length := by
    fun_induction widen ws cells <;> simp_all
  induction rows using List.reverseRecOn with
  | nil => simp [widths]
  | append_singleton rows row ih => rw [widths_concat, hwiden, ih]

/-- Whether cells fit the widths of the columns. -/
def Fit (ws : List Nat) (cells : List String) : Prop :=
  List.Forall₂ (fun w cell => cell.length ≤ w) ws cells

theorem fit_widths {headers : List String} {rows : List (List String)} {cells : List String}
    (hcells : cells ∈ headers :: rows) (hlength : cells.length = headers.length) :
    Fit (widths headers rows) cells := by
  refine List.forall₂_iff_get.mpr ⟨(length_widths headers rows).trans hlength.symm, ?_⟩
  intro j hj hj'
  refine (isGreatest_widths (List.getElem?_eq_getElem hj)).2 ⟨cells, hcells, ?_⟩
  rw [List.getElem?_eq_getElem hj']
  rfl

/-! ## Lines -/

theorem length_pad {w : Nat} {cell : String} (h : cell.length ≤ w) : (pad w cell).length = w := by
  rw [pad, String.length_append, String.length_ofList, List.length_replicate]
  omega

theorem padRow_eq {ws : List Nat} {cells : List String} (h : ws.length = cells.length) :
    padRow ws cells = List.zipWith pad ws cells := by
  induction ws generalizing cells with
  | nil =>
    obtain rfl := List.length_eq_zero_iff.mp h.symm
    rfl
  | cons w ws ih =>
    obtain ⟨cell, cells, rfl⟩ := List.exists_cons_of_length_eq_add_one h.symm
    rw [padRow, List.zipWith_cons_cons, ih (Nat.succ.inj h)]

/-- The parts of the ruler. -/
def dashes (ws : List Nat) : List (List Char) := ws.map fun w => List.replicate w '─'

theorem toList_ruler (ws : List Nat) :
    (ruler ws).toList = ['─', '┼', '─'].intercalate (dashes ws) := by
  have hparts : (ws.map fun w => String.ofList (List.replicate w '─')).map String.toList =
      dashes ws := by
    simp [dashes]
  rw [ruler, String.toList_intercalate, hparts]
  rfl

theorem toList_rowText {ws : List Nat} {cells : List String} (h : ws.length = cells.length) :
    (rowText ws cells).toList =
      [' ', '│', ' '].intercalate ((List.zipWith pad ws cells).map String.toList) := by
  rw [rowText, String.toList_intercalate, padRow_eq h]
  rfl

theorem length_ruler (ws : List Nat) : (ruler ws).toList.length = lineWidth ws := by
  rw [toList_ruler, length_intercalate, lineWidth]
  simp [dashes, Function.comp_def]

theorem count_ruler (ws : List Nat) : (ruler ws).toList.count '┼' = ws.length - 1 := by
  have hdashes : ∀ u ∈ dashes ws, '┼' ∉ u := by simp [dashes]
  rw [toList_ruler, count_intercalate _ hdashes]
  simp [dashes]

/-- Whether a character may stand in a line of cells at the place that another has in the ruler. -/
def Meets (crossing bar : Char) : Prop := crossing = '┼' → bar = '│'

/-- Bars stand where the ruler has crossings. -/
theorem bars_at_crossings {ws : List Nat} {cells : List String} (h : Fit ws cells) :
    List.Forall₂ Meets (ruler ws).toList (rowText ws cells).toList := by
  rw [toList_ruler, toList_rowText h.length_eq]
  have hsep : List.Forall₂ Meets ['─', '┼', '─'] [' ', '│', ' '] := by simp [Meets]
  refine forall₂_intercalate hsep ?_
  induction h with
  | nil => exact .nil
  | @cons w cell _ _ hw _ ih =>
    refine .cons (List.forall₂_iff_zip.mpr ⟨?_, fun hmem hcrossing => ?_⟩) ih
    · rw [List.length_replicate, String.length_toList, length_pad hw]
    · have hdash := List.eq_of_mem_replicate (List.of_mem_zip hmem).1
      rw [hdash] at hcrossing
      exact absurd hcrossing (by decide)

/-- Whether a line shows a row below a ruler: filled up with blanks it has a bar wherever the ruler
has a crossing, it does not end in blanks, and no more than blanks at its end are missing of the
cells. -/
structure Shows (ws : List Nat) (ruler : List Char) (row : List String) (line : List Char) :
    Prop where
  length_le : line.length ≤ lineWidth ws
  bars : ∀ k : Nat, ruler[k]? = some '┼' → (line.rightpad (lineWidth ws) ' ')[k]? = some '│'
  ends : Text.EndsOutside Text.isBlank line
  whole : ∃ blanks, Text.Within Text.isBlank blanks ∧
    line ++ blanks = (" │ ".intercalate (List.zipWith pad ws row)).toList

/-- Bars are no blanks, so they stay where they are when the end of a line is stripped. -/
theorem shows_trimmed {ws : List Nat} {row : List String} (h : Fit ws row) :
    Shows ws (ruler ws).toList row (Human.trimmed (rowText ws row)).toList := by
  have hmeets := bars_at_crossings h
  have hlength := hmeets.length_eq
  obtain ⟨blanks, hwhole, hblanks, hends⟩ :=
    Text.trimEnd_eq_iff.mp (Eq.refl (Text.trimEnd Text.isBlank (rowText ws row).toList))
  rw [Human.trimmed, String.toList_ofList]
  generalize Text.trimEnd Text.isBlank (rowText ws row).toList = line at hwhole hends ⊢
  refine ⟨?_, fun k hk => ?_, hends, blanks, hblanks, ?_⟩
  · rw [← length_ruler, hlength, hwhole, List.length_append]
    exact Nat.le_add_right _ _
  · obtain ⟨bar, hbar, hmeet⟩ := getElem?_of_forall₂ hmeets hk
    obtain rfl := hmeet rfl
    rw [hwhole] at hbar
    by_cases hin : k < line.length
    · rw [List.getElem?_append_left hin] at hbar
      rw [List.rightpad, List.getElem?_append_left hin, hbar]
    · rw [List.getElem?_append_right (Nat.not_lt.mp hin)] at hbar
      exact absurd (hblanks _ (List.mem_of_getElem? hbar)) (by decide)
  · rw [← hwhole, rowText, padRow_eq h.length_eq]

/-! ## The table -/

/-- A line break stands in a line of cells only if it stands in one of them. -/
theorem not_mem_rowText {ws : List Nat} {cells : List String} (h : Fit ws cells)
    (hcells : ∀ cell ∈ cells, '\n' ∉ cell.toList) : '\n' ∉ (rowText ws cells).toList := by
  have hpadded : ∀ u ∈ (List.zipWith pad ws cells).map String.toList, '\n' ∉ u := by
    intro u hu
    obtain ⟨padded, hpadded, rfl⟩ := List.mem_map.mp hu
    rw [← List.map_uncurry_zip_eq_zipWith] at hpadded
    obtain ⟨⟨w, cell⟩, hcell, rfl⟩ := List.mem_map.mp hpadded
    simp [Function.uncurry, pad, hcells cell (List.of_mem_zip hcell).2]
  rw [toList_rowText h.length_eq, ← List.count_eq_zero, count_intercalate _ hpadded]
  exact Nat.zero_mul _

theorem not_mem_ruler (ws : List Nat) : '\n' ∉ (ruler ws).toList := by
  have hdashes : ∀ u ∈ dashes ws, '\n' ∉ u := by simp [dashes]
  rw [toList_ruler, ← List.count_eq_zero, count_intercalate _ hdashes]
  exact Nat.zero_mul _

theorem not_mem_trimmed {s : String} {c : Char} (h : c ∉ s.toList) :
    c ∉ (Human.trimmed s).toList := by
  rw [Human.trimmed, String.toList_ofList]
  intro hc
  apply h
  rw [← Text.trimEnd_append Text.isBlank s.toList]
  exact List.mem_append_left _ hc

/-- Lines that are closed one after another are the pieces between line breaks. -/
theorem splitOn_lines {ls : List String} (h : ∀ l ∈ ls, '\n' ∉ l.toList) :
    (String.join (ls.map Writer.line)).toList.splitOn '\n' = ls.map String.toList ++ [[]] := by
  induction ls with
  | nil => rfl
  | cons l ls ih =>
    obtain ⟨hl, hls⟩ := List.forall_mem_cons.mp h
    have hjoin : (String.join ((l :: ls).map Writer.line)).toList =
        l.toList ++ '\n' :: (String.join (ls.map Writer.line)).toList := by
      simp [Writer.line]
    rw [hjoin, List.splitOn_append_cons_self, List.splitOn_eq_singleton hl, ih hls]
    rfl

theorem table_eq_lines (headers : List String) (rows : List (List String)) :
    Writer.table ⟨.human, false, false⟩ headers rows =
      String.join ((lines headers rows).map Writer.line) := by
  rw [lines, List.map_cons, String.join_cons]
  rfl

/-- What it means for the lines of a table with some widths to be aligned. -/
structure Aligned (headers : List String) (rows : List (List String)) (ws : List Nat)
    (head ruler : List Char) (body : List (List Char)) : Prop where
  columns : ws.length = headers.length
  widest : ∀ j w, ws[j]? = some w → IsGreatest (columnLengths headers rows j) w
  head_length : head.length = lineWidth ws
  ruler_length : ruler.length = lineWidth ws
  crossings : ruler.count '┼' = headers.length - 1
  head_bars : ∀ k : Nat, ruler[k]? = some '┼' → head[k]? = some '│'
  head_whole : head = (" │ ".intercalate (List.zipWith pad ws headers)).toList
  body : List.Forall₂ (Shows ws ruler) rows body

/-- The lines of a table whose rows have a cell for each header. -/
theorem aligned_lines {headers : List String} {rows : List (List String)}
    (hrows : ∀ row ∈ rows, row.length = headers.length) :
    Aligned headers rows (widths headers rows) (rowText (widths headers rows) headers).toList
      (ruler (widths headers rows)).toList
      (rows.map fun row => (Human.trimmed (rowText (widths headers rows) row)).toList) := by
  have hhead : Fit (widths headers rows) headers := fit_widths List.mem_cons_self rfl
  have hmeets := bars_at_crossings hhead
  refine ⟨length_widths headers rows, fun j w => isGreatest_widths, ?_, length_ruler _, ?_,
    fun k hk => ?_, ?_, ?_⟩
  · rw [← hmeets.length_eq, length_ruler]
  · rw [count_ruler, length_widths]
  · obtain ⟨bar, hbar, hmeet⟩ := getElem?_of_forall₂ hmeets hk
    rw [hbar, hmeet rfl]
  · rw [rowText, padRow_eq hhead.length_eq]
  · rw [List.forall₂_map_right_iff, List.forall₂_same]
    intro row hrow
    exact shows_trimmed (fit_widths (List.mem_cons_of_mem _ hrow) (hrows row hrow))

end Table

/-- **Tables are aligned.** If every row has a cell for each header and no cell a line break, the
header and the ruler below it are as wide as the columns with three characters between any two,
where a column is as wide as its longest cell. The ruler has a crossing between any two columns, and
every line of the table, filled up with blanks, has a bar at each of them. The rows do not end in
blanks, and nothing else than blanks at their end is missing of any cell. -/
theorem tables_aligned {headers : List String} {rows : List (List String)}
    (hrows : ∀ row ∈ rows, row.length = headers.length)
    (hbreaks : ∀ cells ∈ headers :: rows, ∀ cell ∈ cells, '\n' ∉ cell.toList) :
    ∃ ws head ruler body,
      (Writer.table ⟨.human, false, false⟩ headers rows).toList.splitOn '\n' =
        head :: ruler :: body ++ [[]] ∧
      Table.Aligned headers rows ws head ruler body := by
  have hfit : ∀ cells ∈ headers :: rows, Table.Fit (Table.widths headers rows) cells := by
    intro cells hcells
    refine Table.fit_widths hcells ?_
    rcases List.mem_cons.mp hcells with rfl | hrow
    · rfl
    · exact hrows cells hrow
  refine ⟨_, _, _, _, ?_, Table.aligned_lines hrows⟩
  rw [Table.table_eq_lines, Table.splitOn_lines, Table.lines, List.map_cons, List.map_cons,
    List.map_map]
  · rfl
  · have hline : ∀ cells ∈ headers :: rows,
        '\n' ∉ (Table.rowText (Table.widths headers rows) cells).toList := fun cells hcells =>
      Table.not_mem_rowText (hfit cells hcells) (hbreaks cells hcells)
    obtain ⟨hhead, hbody⟩ := List.forall_mem_cons.mp hline
    rw [Table.lines, List.forall_mem_cons, List.forall_mem_cons, List.forall_mem_map]
    exact ⟨hhead, Table.not_mem_ruler _, fun row hrow => Table.not_mem_trimmed (hbody row hrow)⟩

/-- Rows with an empty cell, a bar in a cell and a blank at the end. -/
def awkwardRows : List (List String) := [["isInt", ""], ["a │ b", "x "]]

/-- The bars of both rows stand below that of the headers. -/
theorem awkwardRows_aligned :
    Writer.table ⟨.human, false, false⟩ ["Règle", "Kind"] awkwardRows =
        "Règle │ Kind\n──────┼─────\nisInt │\na │ b │ x\n" ∧
      (∀ row ∈ awkwardRows, row.length = ["Règle", "Kind"].length) ∧
      ∃ ws, Table.Aligned ["Règle", "Kind"] awkwardRows ws "Règle │ Kind".toList
        "──────┼─────".toList ["isInt │".toList, "a │ b │ x".toList] := by
  have htable : Writer.table ⟨.human, false, false⟩ ["Règle", "Kind"] awkwardRows =
      "Règle │ Kind\n──────┼─────\nisInt │\na │ b │ x\n" := by decide
  have hrows : ∀ row ∈ awkwardRows, row.length = ["Règle", "Kind"].length := by decide
  obtain ⟨ws, head, ruler, body, hlines, haligned⟩ := tables_aligned hrows (by decide)
  have hsplit : "Règle │ Kind\n──────┼─────\nisInt │\na │ b │ x\n".toList.splitOn '\n' =
      "Règle │ Kind".toList :: "──────┼─────".toList :: ["isInt │".toList, "a │ b │ x".toList] ++
        [[]] := by decide
  rw [htable, hsplit] at hlines
  cases List.append_cancel_right hlines
  exact ⟨htable, hrows, ws, haligned⟩

end RequestValidation
