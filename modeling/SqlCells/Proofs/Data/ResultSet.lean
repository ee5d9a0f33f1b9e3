import Mathlib.Data.List.Nodup
import Mathlib.Data.List.Perm.Subperm
import Mathlib.Data.List.TakeDrop
import SqlCells.Data.ResultSet

/-!
# Distinct names and bounded rows

What a result set makes of the names and rows that a driver reports: the names become distinct and are
left alone if they were, the rows are cut at the limit.  A frame shows the difference exactly when there
is one.
-/

namespace SqlCells

/-! ## Distinct names -/

theorem length_suffixed (name : String) (count : Nat) : (suffixed name count).length = count + 1 := by
  simp [suffixed]

/-- A name and its suffixed forms differ from each other. -/
theorem nodup_suffixed (name : String) (count : Nat) : (suffixed name count).Nodup := by
  unfold suffixed
  rw [List.nodup_cons]
  constructor
  · -- A suffixed form is longer than the name.
    intro hmem
    obtain ⟨k, -, hk⟩ := List.mem_map.1 hmem
    have hlength := congrArg String.length hk
    simp only [String.length_append] at hlength
    have hunderscore : "_".length = 1 := rfl
    omega
  · refine List.Nodup.map ?_ List.nodup_range
    intro j k hjk
    have hchars := congrArg String.toList hjk
    simp only [String.toList_append, List.append_cancel_left_eq] at hchars
    have hdigits : Nat.toDigits 10 (j + 1) = Nat.toDigits 10 (k + 1) := by
      simpa [Nat.repr] using hchars
    have hsucc := congrArg (fun digits => Nat.ofDigitChars 10 digits 0) hdigits
    simp only [Nat.ofDigitChars_ten_toDigits] at hsucc
    omega

/-- One of the forms of a name is not taken: there is one more of them than there are taken names. -/
theorem exists_suffixed_not_mem (taken : List String) (name : String) :
    ∃ n ∈ suffixed name taken.length, n ∉ taken := by
  by_contra hall
  have hsubset : suffixed name taken.length ⊆ taken := by
    intro n hn
    by_contra hfree
    exact hall ⟨n, hn, hfree⟩
  have hle := (List.subperm_of_subset (nodup_suffixed name taken.length) hsubset).length_le
  rw [length_suffixed] at hle
  omega

theorem freshName_not_mem (taken : List String) (name : String) : freshName taken name ∉ taken := by
  obtain ⟨n, hn, hfree⟩ := exists_suffixed_not_mem taken name
  unfold freshName
  cases hfind : (suffixed name taken.length).find? fun n => !taken.contains n with
  | none =>
    have htaken := List.find?_eq_none.1 hfind n hn
    simp [hfree] at htaken
  | some fresh =>
    have hfresh := List.find?_some hfind
    simpa using hfresh

/-- A name that is not taken is kept. -/
theorem freshName_eq_self {taken : List String} {name : String} (hfree : name ∉ taken) :
    freshName taken name = name := by
  have hfirst : (suffixed name taken.length).find? (fun n => !taken.contains n) = some name := by
    unfold suffixed
    rw [List.find?_cons_of_pos (by simpa using hfree)]
  unfold freshName
  rw [hfirst]
  rfl

theorem nodup_distinctNamesFrom {taken : List String} (htaken : taken.Nodup) (names : List String) :
    (distinctNamesFrom taken names).Nodup := by
  induction names generalizing taken with
  | nil => exact htaken
  | cons name rest ih =>
    have hstep : (taken ++ [freshName taken name]).Nodup := by
      rw [List.nodup_append_comm]
      exact List.nodup_cons.2 ⟨freshName_not_mem taken name, htaken⟩
    exact ih hstep

/-- The names of a result set are distinct. -/
theorem nodup_distinctNames (names : List String) : (distinctNames names).Nodup :=
  nodup_distinctNamesFrom List.nodup_nil names

theorem distinctNamesFrom_eq_append {taken names : List String} (hall : (taken ++ names).Nodup) :
    distinctNamesFrom taken names = taken ++ names := by
  induction names generalizing taken with
  | nil => simp [distinctNamesFrom]
  | cons name rest ih =>
    have hfree : name ∉ taken := by
      intro hmem
      exact (List.nodup_append.1 hall).2.2 name hmem name List.mem_cons_self rfl
    have hsplit : taken ++ name :: rest = taken ++ [name] ++ rest := by simp
    rw [distinctNamesFrom, freshName_eq_self hfree, hsplit]
    exact ih (by rwa [← hsplit])

/-- Names are left as they are exactly if they are distinct. -/
theorem distinctNames_eq_self_iff {names : List String} : distinctNames names = names ↔ names.Nodup := by
  constructor
  · intro hsame
    rw [← hsame]
    exact nodup_distinctNames names
  · intro hnodup
    exact distinctNamesFrom_eq_append hnodup

/-! ## Bounded rows -/

namespace RawResult

theorem truncate_truncate (limit : Option Nat) (raw : RawResult) :
    (raw.truncate limit).truncate limit = raw.truncate limit := by
  cases limit with
  | none => rfl
  | some n => simp [truncate, List.take_take]

theorem truncate_empty (limit : Option Nat) : truncate limit {} = {} := by
  cases limit with
  | none => rfl
  | some n => simp [truncate]

theorem columns_truncate (limit : Option Nat) (raw : RawResult) :
    (raw.truncate limit).columns = raw.columns := by
  cases limit <;> rfl

theorem rows_truncate_eq_iff {limit : Option Nat} {raw : RawResult} :
    (raw.truncate limit).rows = raw.rows ↔ ∀ n, limit = some n → raw.rows.length ≤ n := by
  cases limit with
  | none => simp [truncate]
  | some n => simp [truncate, List.take_eq_self_iff]

/-- No more rows are left than the limit allows. -/
theorem length_rows_truncate {limit : Option Nat} (raw : RawResult) {n : Nat} (hn : limit = some n) :
    (raw.truncate limit).rows.length ≤ n := by
  rw [hn]
  exact List.length_take_le n raw.rows

end RawResult

/-! ## Frames -/

theorem Frame.push_eq_mapIdx (columns : List (List Value)) (row : Row) :
    push columns row = columns.mapIdx fun i column => column ++ [row.getD i .null] := by
  induction columns generalizing row with
  | nil => rfl
  | cons column columns ih =>
    rw [List.mapIdx_cons]
    cases row with
    | nil => rw [push, ih]; rfl
    | cons v row => rw [push, ih]; rfl

/-- A column holds the cells of the rows at its index, missing cells as nulls. -/
theorem Frame.columns_ofRows (names : List String) (rows : List Row) :
    (ofRows names rows).columns =
      (List.range names.length).map fun i => rows.map fun row => row.getD i .null := by
  have hpush : ∀ columns : List (List Value), rows.foldl push columns =
      columns.mapIdx fun i column => column ++ rows.map fun row => row.getD i .null := by
    induction rows with
    | nil => exact fun columns => List.ext_getElem (by simp) (by simp)
    | cons row rows ih =>
      intro columns
      rw [List.foldl_cons, ih, push_eq_mapIdx, List.mapIdx_mapIdx]
      simp [Function.comp_def]
  rw [ofRows, hpush]
  apply List.ext_getElem
  · simp
  · intro i hi hi'
    simp

/-- Where there is a column, a frame of rows has as many rows as it was made of. -/
theorem Frame.size_ofRows {names : List String} (hnames : names ≠ []) (rows : List Row) :
    (ofRows names rows).size = rows.length := by
  obtain ⟨count, hcount⟩ : ∃ count, names.length = count + 1 :=
    Nat.exists_eq_succ_of_ne_zero (by simpa using hnames)
  unfold size
  rw [columns_ofRows, hcount, List.range_succ_eq_map, List.map_cons]
  exact List.length_map _

theorem Frame.row?_of_lt {f : Frame} {i : Nat} (hi : i < f.size) :
    f.row? i = some (f.columns.map fun column => column.getD i .null) :=
  if_pos hi

theorem Frame.rows_eq (f : Frame) :
    f.rows = (List.range f.size).map fun i => f.columns.map fun column => column.getD i .null := by
  unfold rows
  rw [← List.filterMap_eq_map]
  apply List.filterMap_congr
  intro i hi
  exact row?_of_lt (List.mem_range.1 hi)

/-- The rows of a frame are the rows it was built from, each as long as there are columns. -/
theorem Frame.rows_ofRows {names : List String} (hnames : names ≠ []) (rows : List Row) :
    (ofRows names rows).rows =
      rows.map fun row => (List.range names.length).map fun i => row.getD i .null := by
  rw [rows_eq, size_ofRows hnames, columns_ofRows]
  apply List.ext_getElem
  · simp
  · intro r hr hr'
    have hr : r < rows.length := by simpa using hr
    simp [hr]

theorem Frame.ofRows_nil (rows : List Row) : ofRows [] rows = ⟨[], []⟩ :=
  congrArg (Frame.mk []) (columns_ofRows [] rows)

/-- Without columns a frame has no rows. -/
theorem Frame.rows_ofRows_nil (rows : List Row) : (ofRows [] rows).rows = [] := by
  rw [ofRows_nil]
  rfl

/-- A row that is cut off is missing from a frame, unless the frame has no columns. -/
theorem Frame.ofRows_eq_iff_rows {names : List String} {rows kept : List Row}
    (hkept : kept = rows ∨ kept.length < rows.length) :
    ofRows names rows = ofRows names kept ↔ names = [] ∨ kept = rows := by
  constructor
  · intro hsame
    by_cases hnames : names = []
    · exact Or.inl hnames
    · have hsize := congrArg size hsame
      rw [size_ofRows hnames, size_ofRows hnames] at hsize
      refine Or.inr (hkept.resolve_right ?_)
      omega
  · rintro (rfl | hrows)
    · rw [ofRows_nil, ofRows_nil]
    · rw [hrows]

/-- A driver's answer makes the same frame as its result set exactly if the names are distinct and, where
there are columns to show it, no row is cut off. -/
theorem frame_eq_toFrame_iff (limit : Option Nat) (raw : RawResult) :
    Frame.ofRows raw.columns raw.rows = (ResultSet.ofRaw raw limit).toFrame ↔
      raw.columns.Nodup ∧ (raw.columns = [] ∨ ∀ n, limit = some n → raw.rows.length ≤ n) := by
  have hkept : (raw.truncate limit).rows = raw.rows ∨
      (raw.truncate limit).rows.length < raw.rows.length := by
    cases limit with
    | none => exact Or.inl rfl
    | some n =>
      by_cases hfit : raw.rows.length ≤ n
      · exact Or.inl (List.take_of_length_le hfit)
      · refine Or.inr ?_
        change (raw.rows.take n).length < _
        rw [List.length_take]
        omega
  unfold ResultSet.toFrame ResultSet.ofRaw
  dsimp only
  constructor
  · intro hsame
    have hnames : raw.columns = distinctNames raw.columns := congrArg Frame.names hsame
    rw [← hnames] at hsame
    have hrows := (Frame.ofRows_eq_iff_rows hkept).1 hsame
    rw [RawResult.rows_truncate_eq_iff] at hrows
    exact ⟨distinctNames_eq_self_iff.1 hnames.symm, hrows⟩
  · rintro ⟨hnodup, hrows⟩
    rw [distinctNames_eq_self_iff.2 hnodup]
    refine (Frame.ofRows_eq_iff_rows hkept).2 ?_
    rwa [RawResult.rows_truncate_eq_iff]

end SqlCells
