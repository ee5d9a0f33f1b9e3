import Mathlib.Data.List.Forall2
import SqlCells.Proofs.Data.Views

/-!
# Rows and columns

A frame of rows has one column for each name and in every column one value for each row.  So no look-up
in it goes astray, its rows can be read off again, and a result set whose rows are as wide as it has names
comes back from its frame.  Only without columns are the rows lost.
-/

namespace SqlCells
namespace Frame

/-- A row brought to a width: filled up with nulls, or cut. -/
def fit (width : Nat) (row : Row) : Row :=
  row.take width ++ List.replicate (width - row.length) .null

theorem length_fit (width : Nat) (row : Row) : (fit width row).length = width := by
  simp [fit]
  omega

theorem fit_of_length {width : Nat} {row : Row} (hrow : row.length = width) : fit width row = row := by
  simp [fit, ← hrow]

theorem getElem?_fit {width i : Nat} (hi : i < width) (row : Row) :
    (fit width row)[i]? = some (row.getD i .null) := by
  unfold fit
  rw [List.getElem?_append, List.length_take]
  by_cases hrow : i < row.length
  · rw [if_pos (by omega)]
    simp [hi, hrow]
  · have hpadded : i - min width row.length < width - row.length := by omega
    rw [if_neg (by omega)]
    simp [hrow, hpadded]

theorem fit_eq_map_range (width : Nat) (row : Row) :
    fit width row = (List.range width).map fun i => row.getD i .null := by
  apply List.ext_getElem?
  intro i
  by_cases hi : i < width
  · rw [getElem?_fit hi, List.getElem?_map, List.getElem?_range hi]
    rfl
  · rw [List.getElem?_eq_none (by simpa [length_fit] using hi),
      List.getElem?_eq_none (by simpa using hi)]

/-! ## Look-ups -/

/-- A frame with a column for each name and columns of one length. -/
structure Rectangular (f : Frame) : Prop where
  width : f.columns.length = f.names.length
  height : ∀ column ∈ f.columns, column.length = f.size

/-- Look-ups in a frame find what there is: each name has a column, the first with that name is found, and
no other name is; each row before the end has a cell in every column, and there is no other row; and the
rows are all of these, in order. -/
structure Readable (f : Frame) : Prop where
  column : ∀ name ∈ f.names, ∃ values, f.columns[f.names.idxOf name]? = some values ∧
    f.column? name = some values
  unnamed : ∀ name, name ∉ f.names → f.column? name = none
  row : ∀ i < f.size, ∃ row, List.Forall₂ (fun column v => column[i]? = some v) f.columns row ∧
    f.row? i = some row
  beyond : ∀ i, f.size ≤ i → f.row? i = none
  rows : f.rows.map some = (List.range f.size).map f.row?

/-- In a rectangular frame every look-up stays inside. -/
theorem Rectangular.readable {f : Frame} (h : f.Rectangular) : f.Readable where
  column := by
    intro name hname
    have hindex : f.names.idxOf name < f.columns.length := by
      rw [h.width]
      exact List.idxOf_lt_length_of_mem hname
    refine ⟨_, List.getElem?_eq_getElem hindex, ?_⟩
    rw [column?, if_pos (by simpa using hname)]
    exact List.getElem?_eq_getElem hindex
  unnamed := by
    intro name hname
    rw [column?, if_neg (by simpa using hname)]
  row := by
    intro i hi
    refine ⟨_, ?_, row?_of_lt hi⟩
    rw [List.forall₂_map_right_iff, List.forall₂_same]
    intro column hcolumn
    have hcell : i < column.length := by rwa [h.height column hcolumn]
    simp [hcell]
  beyond := by
    intro i hi
    exact if_neg (Nat.not_lt.2 hi)
  rows := by
    rw [rows_eq, List.map_map]
    apply List.map_congr_left
    intro i hi
    exact (row?_of_lt (List.mem_range.1 hi)).symm

/-! ## Frames of rows -/

variable {names : List String} {rows : List Row}

theorem length_columns_ofRows (names : List String) (rows : List Row) :
    (ofRows names rows).columns.length = names.length := by
  rw [columns_ofRows, List.length_map, List.length_range]

theorem length_of_mem_columns_ofRows {column : List Value} (hcolumn : column ∈ (ofRows names rows).columns) :
    column.length = rows.length := by
  rw [columns_ofRows] at hcolumn
  obtain ⟨i, -, rfl⟩ := List.mem_map.1 hcolumn
  exact List.length_map _

theorem rectangular_ofRows (names : List String) (rows : List Row) : (ofRows names rows).Rectangular where
  width := length_columns_ofRows names rows
  height := by
    intro column hcolumn
    -- The number of rows is read off the first column, so there has to be one.
    have hnames : names ≠ [] := by
      rintro rfl
      rw [columns_ofRows] at hcolumn
      cases hcolumn
    rw [length_of_mem_columns_ofRows hcolumn, size_ofRows hnames]

/-- A frame of one column has all its rows there. -/
theorem rectangular_single (name : String) (values : List Value) :
    Rectangular ⟨[name], [values]⟩ where
  width := rfl
  height := by
    intro column hcolumn
    rw [List.mem_singleton.1 hcolumn]
    rfl

/-- The cells at one place of all columns are those of one row, brought to the number of columns. -/
theorem map_getElem?_columns_ofRows {r : Nat} {row : Row} (hrow : rows[r]? = some row) :
    (ofRows names rows).columns.map (fun column => column[r]?) = (fit names.length row).map some := by
  rw [columns_ofRows, fit_eq_map_range, List.map_map, List.map_map]
  apply List.map_congr_left
  intro i _
  simp [hrow]

/-- The rows of a frame are those it was made of, each brought to the number of columns. -/
theorem rows_ofRows_eq_map_fit (hnames : names ≠ []) (rows : List Row) :
    (ofRows names rows).rows = rows.map (fit names.length) := by
  rw [rows_ofRows hnames]
  apply List.map_congr_left
  intro row _
  exact (fit_eq_map_range names.length row).symm

/-- Rows that are brought to the number of columns make the same frame. -/
theorem ofRows_map_fit (names : List String) (rows : List Row) :
    ofRows names (rows.map (fit names.length)) = ofRows names rows := by
  have hcolumns : (ofRows names (rows.map (fit names.length))).columns = (ofRows names rows).columns := by
    rw [columns_ofRows, columns_ofRows]
    apply List.map_congr_left
    intro i hi
    rw [List.map_map]
    apply List.map_congr_left
    intro row _
    rw [Function.comp_apply, List.getD_eq_getElem?_getD, getElem?_fit (List.mem_range.1 hi)]
    rfl
  exact congrArg (Frame.mk names) hcolumns

end Frame

namespace ResultSet

theorem rectangular_toFrame (rs : ResultSet) : rs.toFrame.Rectangular :=
  Frame.rectangular_ofRows rs.keys rs.rows

theorem rows_ofFrame (f : Frame) : (ofFrame f).rows = f.rows :=
  rfl

theorem keys_ofFrame_toFrame {rs : ResultSet} (hnodup : rs.keys.Nodup) :
    (ofFrame rs.toFrame).keys = rs.keys :=
  distinctNames_eq_self_iff.2 hnodup

/-- The rows of a result set come back from its frame exactly if they are as wide as it has names. -/
theorem rows_ofFrame_toFrame_iff {rs : ResultSet} (hkeys : rs.keys ≠ []) :
    (ofFrame rs.toFrame).rows = rs.rows ↔ ∀ row ∈ rs.rows, row.length = rs.keys.length := by
  rw [rows_ofFrame, toFrame, Frame.rows_ofRows_eq_map_fit hkeys]
  constructor
  · intro hsame row hrow
    rw [← hsame] at hrow
    obtain ⟨before, -, rfl⟩ := List.mem_map.1 hrow
    exact Frame.length_fit _ _
  · intro hwide
    have hfits : rs.rows.map (Frame.fit rs.keys.length) = rs.rows.map id :=
      List.map_congr_left fun row hrow => Frame.fit_of_length (hwide row hrow)
    rw [hfits, List.map_id]

/-- A frame of rows with distinct names comes back from its result set. -/
theorem toFrame_ofFrame {names : List String} (hnodup : names.Nodup) (rows : List Row) :
    (ofFrame (Frame.ofRows names rows)).toFrame = Frame.ofRows names rows := by
  have hkeys : (ofFrame (Frame.ofRows names rows)).keys = names := distinctNames_eq_self_iff.2 hnodup
  unfold toFrame
  rw [hkeys, rows_ofFrame]
  by_cases hnames : names = []
  · rw [hnames, Frame.ofRows_nil, Frame.ofRows_nil]
  · rw [Frame.rows_ofRows_eq_map_fit hnames, Frame.ofRows_map_fit]

end ResultSet
end SqlCells
