import SqlCells.Proofs.Data.ResultSet

/-!
# Views of a result set

A result set is seen by row, by column, by key, as a frame and as JSON.  The views by key are maps, in
which a later value takes the place of an earlier one with the same key; as the names of a result set
are distinct, nothing is lost in them and every view has the same cells.
-/

namespace SqlCells

section Lookup

variable {α : Type} {key : String} {value : α} {pairs : List (String × α)}

theorem lookup_of_mem (hnodup : (pairs.map Prod.fst).Nodup) (hmem : (key, value) ∈ pairs) :
    pairs.lookup key = some value := by
  induction pairs with
  | nil => cases hmem
  | cons pair pairs ih =>
    obtain ⟨k, v⟩ := pair
    obtain ⟨hfree, hnodup⟩ := List.nodup_cons.1 hnodup
    rcases List.mem_cons.1 hmem with heq | hrest
    · cases heq
      exact List.lookup_cons_self
    · have hne : (key == k) = false := by
        rw [beq_eq_false_iff_ne]
        intro hsame
        exact hfree (List.mem_map.2 ⟨_, hrest, hsame⟩)
      rw [List.lookup_cons, hne]
      exact ih hnodup hrest

namespace Keyed

theorem insert_of_not_mem (hfree : key ∉ pairs.map Prod.fst) :
    insert key value pairs = pairs ++ [(key, value)] := by
  induction pairs with
  | nil => rfl
  | cons pair pairs ih =>
    obtain ⟨k, v⟩ := pair
    obtain ⟨hne, hfree⟩ := not_or.1 (mt List.mem_cons.2 hfree)
    rw [insert, if_neg (Ne.symm hne), ih hfree]
    rfl

/-- Pairs with distinct keys are a map as they stand. -/
theorem ofPairs_of_nodup (hnodup : (pairs.map Prod.fst).Nodup) : ofPairs pairs = pairs := by
  have hfold : ∀ map : List (String × α), ((map ++ pairs).map Prod.fst).Nodup →
      pairs.foldl (fun map pair => insert pair.1 pair.2 map) map = map ++ pairs := by
    clear hnodup
    induction pairs with
    | nil => exact fun map _ => (List.append_nil map).symm
    | cons pair pairs ih =>
      intro map hnodup
      obtain ⟨k, v⟩ := pair
      have hfree : k ∉ map.map Prod.fst := by
        rw [List.map_append] at hnodup
        exact fun hmem => (List.nodup_append.1 hnodup).2.2 k hmem k List.mem_cons_self rfl
      have hstep : map ++ (k, v) :: pairs = map ++ [(k, v)] ++ pairs := by simp
      rw [hstep] at hnodup ⊢
      rw [List.foldl_cons]
      dsimp only
      rw [insert_of_not_mem hfree]
      exact ih _ hnodup
  exact hfold [] hnodup

end Keyed

end Lookup

namespace Json

variable {key : String} {value : Json} {fields : List (String × Json)}

theorem perm_insertField (hfree : key ∉ fields.map Prod.fst) :
    (insertField key value fields).Perm ((key, value) :: fields) := by
  induction fields with
  | nil => exact List.Perm.refl _
  | cons field fields ih =>
    obtain ⟨k, v⟩ := field
    obtain ⟨hne, hfree⟩ := not_or.1 (mt List.mem_cons.2 hfree)
    rw [insertField]
    split
    · exact List.Perm.refl _
    · exact ((ih hfree).cons _).trans (List.Perm.swap _ _ _)

/-- Sorting fields with distinct keys loses none of them. -/
theorem perm_sortFields (hnodup : (fields.map Prod.fst).Nodup) : (sortFields fields).Perm fields := by
  have hfold : ∀ sorted : List (String × Json), ((sorted ++ fields).map Prod.fst).Nodup →
      (fields.foldl (fun sorted field => insertField field.1 field.2 sorted) sorted).Perm
        (sorted ++ fields) := by
    clear hnodup
    induction fields with
    | nil => exact fun sorted _ => by rw [List.append_nil]; exact List.Perm.refl _
    | cons field fields ih =>
      intro sorted hnodup
      obtain ⟨k, v⟩ := field
      have hfree : k ∉ sorted.map Prod.fst := by
        rw [List.map_append] at hnodup
        exact fun hmem => (List.nodup_append.1 hnodup).2.2 k hmem k List.mem_cons_self rfl
      have hperm : (insertField k v sorted ++ fields).Perm (sorted ++ (k, v) :: fields) :=
        ((perm_insertField hfree).append_right fields).trans List.perm_middle.symm
      exact (ih _ ((hperm.map Prod.fst).nodup_iff.2 hnodup)).trans hperm
  exact hfold [] hnodup

/-- The field of the object at an index of a list of objects. -/
def field? (json : Json) (index : Nat) (key : String) : Option Json :=
  match json with
  | .array items =>
    match items[index]? with
    | some (.object fields) => fields.lookup key
    | _ => none
  | _ => none

end Json

/-! ## Rows of one length -/

theorem length_distinctNames (names : List String) : (distinctNames names).length = names.length := by
  have hfrom : ∀ taken, (distinctNamesFrom taken names).length = taken.length + names.length := by
    induction names with
    | nil => exact fun taken => rfl
    | cons name rest ih =>
      intro taken
      rw [distinctNamesFrom, ih, List.length_append, List.length_singleton, List.length_cons]
      omega
  exact (hfrom []).trans (Nat.zero_add _)

/-! ## Columns by name -/

namespace ResultSet

variable {rs : ResultSet}

/-- The values of the column at an index; missing cells are null. -/
def column (rs : ResultSet) (i : Nat) : List Value :=
  rs.rows.map fun row => row.getD i .null

theorem map_fst_mapIdx {α : Type} (keys : List String) (f : Nat → α) :
    (keys.mapIdx fun i key => (key, f i)).map Prod.fst = keys :=
  List.ext_getElem (by simp) (by simp)

theorem toDict_of_nodup (hnodup : rs.keys.Nodup) :
    rs.toDict = rs.keys.mapIdx fun i key => (key, rs.column i) := by
  apply Keyed.ofPairs_of_nodup
  rw [map_fst_mapIdx]
  exact hnodup

/-- A column is found under its name. -/
theorem lookup_toDict (hnodup : rs.keys.Nodup) {i : Nat} {key : String}
    (hkey : rs.keys[i]? = some key) : rs.toDict.lookup key = some (rs.column i) := by
  rw [toDict_of_nodup hnodup]
  apply lookup_of_mem
  · rw [map_fst_mapIdx]
    exact hnodup
  · apply List.mem_of_getElem? (i := i)
    rw [List.getElem?_mapIdx, hkey]
    rfl

theorem column?_toFrame (hnodup : rs.keys.Nodup) {i : Nat} {key : String}
    (hkey : rs.keys[i]? = some key) : rs.toFrame.column? key = some (rs.column i) := by
  obtain ⟨hi, rfl⟩ := List.getElem?_eq_some_iff.1 hkey
  have hmem : rs.toFrame.names.contains rs.keys[i] = true := by
    simp [toFrame, Frame.ofRows]
  have hindex : rs.toFrame.names.idxOf rs.keys[i] = i := hnodup.idxOf_getElem i hi
  rw [Frame.column?, if_pos hmem, hindex, toFrame, Frame.columns_ofRows, List.getElem?_map,
    List.getElem?_range hi]
  rfl

end ResultSet

/-- A result set with distinct column names and a cell for each of them in every row. -/
structure ResultSet.Rectangular (rs : ResultSet) : Prop where
  nodup : rs.keys.Nodup
  cells : ∀ row ∈ rs.rows, row.length = rs.keys.length

namespace ResultSet.Rectangular

variable {rs : ResultSet} (h : rs.Rectangular)

include h

theorem toDict_eq :
    rs.toDict = rs.keys.mapIdx fun i key => (key, rs.rows.map fun row => row.getD i .null) :=
  toDict_of_nodup h.nodup

theorem keys_toDict : rs.toDict.map Prod.fst = rs.keys := by
  rw [h.toDict_eq, ResultSet.map_fst_mapIdx]

theorem map_fst_zip {α : Type} {row : Row} (hrow : row ∈ rs.rows) (f : Value → α) :
    (rs.keys.zip (row.map f)).map Prod.fst = rs.keys := by
  apply List.map_fst_zip
  rw [List.length_map]
  exact Nat.le_of_eq (h.cells row hrow).symm

theorem toDicts_eq : rs.toDicts = rs.rows.map fun row => rs.keys.zip row := by
  apply List.map_congr_left
  intro row hrow
  apply Keyed.ofPairs_of_nodup
  have hkeys := h.map_fst_zip hrow id
  rw [List.map_id] at hkeys
  rw [hkeys]
  exact h.nodup

/-- The object of a row has the fields of the row in another order. -/
theorem perm_fields {row : Row} (hrow : row ∈ rs.rows) :
    (Json.sortFields (rs.keys.zip (row.map Value.toJson))).Perm
      (rs.keys.zip (row.map Value.toJson)) := by
  apply Json.perm_sortFields
  rw [h.map_fst_zip hrow]
  exact h.nodup

end ResultSet.Rectangular

namespace ResultSet

variable {rs : ResultSet}

theorem size_toFrame (hkeys : rs.keys ≠ []) : rs.toFrame.size = rs.rows.length :=
  Frame.size_ofRows hkeys rs.rows

/-- The rows of the frame are the rows of the set. -/
theorem Rectangular.row?_toFrame (h : rs.Rectangular) (hkeys : rs.keys ≠ []) (r : Nat) :
    rs.toFrame.row? r = rs.rows[r]? := by
  unfold Frame.row?
  rw [size_toFrame hkeys]
  split
  · next hr =>
    rw [List.getElem?_eq_getElem hr]
    have hlength := h.cells rs.rows[r] (List.getElem_mem hr)
    refine congrArg some (List.ext_getElem ?_ ?_)
    · rw [toFrame, Frame.columns_ofRows, List.length_map, List.length_map, List.length_range, hlength]
    · intro i hi hi'
      simp [toFrame, Frame.columns_ofRows, hr, hi']
  · next hr => rw [List.getElem?_eq_none (Nat.not_lt.1 hr)]

/-- The views of a result set agree that the cell of the row `r` and the column `i`, named `key`, is
`v`. -/
structure Agrees (rs : ResultSet) (r i : Nat) (key : String) (v : Value) : Prop where
  rows : rs.rows[r]?.bind (·[i]?) = some v
  dict : (rs.toDict.lookup key).bind (·[r]?) = some v
  dicts : rs.toDicts[r]?.bind (·.lookup key) = some v
  column : rs.toFrame.columns[i]?.bind (·[r]?) = some v
  row : (rs.toFrame.row? r).bind (·[i]?) = some v
  json : rs.toJson.field? r key = some v.toJson

theorem Rectangular.agrees (h : rs.Rectangular) {r i : Nat} {key : String} {row : Row} {v : Value}
    (hkey : rs.keys[i]? = some key) (hrow : rs.rows[r]? = some row) (hv : row[i]? = some v) :
    rs.Agrees r i key v := by
  have hmem : row ∈ rs.rows := List.mem_of_getElem? hrow
  have hgetD : row.getD i .null = v := by rw [List.getD_eq_getElem?_getD, hv]; rfl
  have hi : i < rs.keys.length := (List.getElem?_eq_some_iff.1 hkey).1
  -- In the columns the cell stands at the place of its row.
  have hcolumn : (rs.rows.map fun row => row.getD i .null)[r]? = some v := by
    rw [List.getElem?_map, hrow, Option.map_some, hgetD]
  have hcolumns : rs.toFrame.columns[i]? = some (rs.rows.map fun row => row.getD i .null) := by
    rw [toFrame, Frame.columns_ofRows, List.getElem?_map, List.getElem?_range hi]
    rfl
  constructor
  case rows =>
    rw [hrow]
    exact hv
  case dict =>
    rw [lookup_toDict h.nodup hkey]
    exact hcolumn
  case dicts =>
    have hkeys : ((rs.keys.zip row).map Prod.fst).Nodup := by
      have hsame := h.map_fst_zip hmem id
      rw [List.map_id] at hsame
      rw [hsame]
      exact h.nodup
    have hpair : (key, v) ∈ rs.keys.zip row :=
      List.mem_of_getElem? (List.getElem?_zip_eq_some.2 ⟨hkey, hv⟩)
    rw [h.toDicts_eq, List.getElem?_map, hrow]
    exact lookup_of_mem hkeys hpair
  case column =>
    rw [hcolumns]
    exact hcolumn
  case row =>
    rw [h.row?_toFrame (List.ne_nil_of_length_pos (Nat.zero_lt_of_lt hi)), hrow]
    exact hv
  case json =>
    have hperm := h.perm_fields hmem
    have hfield : (key, v.toJson) ∈ rs.keys.zip (row.map Value.toJson) := by
      refine List.mem_of_getElem? (List.getElem?_zip_eq_some.2 ⟨hkey, ?_⟩)
      rw [List.getElem?_map, hv]
      rfl
    have hkeys : ((Json.sortFields (rs.keys.zip (row.map Value.toJson))).map Prod.fst).Nodup := by
      rw [(hperm.map Prod.fst).nodup_iff, h.map_fst_zip hmem]
      exact h.nodup
    unfold toJson Json.field?
    dsimp only
    rw [List.getElem?_map, hrow]
    exact lookup_of_mem hkeys (hperm.mem_iff.2 hfield)

theorem rectangular_ofRaw {raw : RawResult}
    (hrows : ∀ row ∈ raw.rows, row.length = raw.columns.length) (limit : Option Nat) :
    (ofRaw raw limit).Rectangular where
  nodup := nodup_distinctNames raw.columns
  cells := by
    intro row hrow
    have hmem : row ∈ raw.rows := by
      cases limit with
      | none => exact hrow
      | some n => exact List.mem_of_mem_take hrow
    exact (hrows row hmem).trans (length_distinctNames raw.columns).symm

/-- How many entries the views of a result set have: one for each column and one for each row. -/
structure Shaped (rs : ResultSet) (width height : Nat) : Prop where
  keys : rs.keys.length = width ∧ rs.keys.Nodup
  rows : rs.rows.length = height ∧ ∀ row ∈ rs.rows, row.length = width
  dict : rs.toDict.map Prod.fst = rs.keys ∧ ∀ entry ∈ rs.toDict, entry.2.length = height
  dicts : rs.toDicts.length = height ∧ ∀ dict ∈ rs.toDicts, dict.map Prod.fst = rs.keys
  names : rs.toFrame.names = rs.keys ∧ rs.toFrame.columns.length = width
  columns : rs.toFrame.size = height ∧ ∀ column ∈ rs.toFrame.columns, column.length = height
  frameRows : ∀ r, rs.toFrame.row? r = rs.rows[r]?
  json : ∃ objects : List (List (String × Json)), rs.toJson = .array (objects.map .object) ∧
    objects.length = height ∧ ∀ fields ∈ objects, (fields.map Prod.fst).Perm rs.keys

theorem Rectangular.shaped (h : rs.Rectangular) (hkeys : rs.keys ≠ []) :
    rs.Shaped rs.keys.length rs.rows.length where
  keys := ⟨rfl, h.nodup⟩
  rows := ⟨rfl, h.cells⟩
  dict := by
    refine ⟨h.keys_toDict, ?_⟩
    intro entry hentry
    rw [h.toDict_eq] at hentry
    obtain ⟨i, hi, rfl⟩ := List.mem_mapIdx.1 hentry
    exact List.length_map _
  dicts := by
    rw [h.toDicts_eq]
    refine ⟨List.length_map _, ?_⟩
    intro dict hdict
    obtain ⟨row, hrow, rfl⟩ := List.mem_map.1 hdict
    have hsame := h.map_fst_zip hrow id
    rwa [List.map_id] at hsame
  names := by
    refine ⟨rfl, ?_⟩
    rw [toFrame, Frame.columns_ofRows, List.length_map, List.length_range]
  columns := by
    refine ⟨size_toFrame hkeys, ?_⟩
    intro column hcolumn
    rw [toFrame, Frame.columns_ofRows] at hcolumn
    obtain ⟨i, -, rfl⟩ := List.mem_map.1 hcolumn
    exact List.length_map _
  frameRows := h.row?_toFrame hkeys
  json := by
    refine ⟨rs.rows.map fun row => Json.sortFields (rs.keys.zip (row.map Value.toJson)), ?_, ?_, ?_⟩
    · rw [List.map_map]
      rfl
    · exact List.length_map _
    · intro fields hfields
      obtain ⟨row, hrow, rfl⟩ := List.mem_map.1 hfields
      have hperm := (h.perm_fields hrow).map Prod.fst
      rwa [h.map_fst_zip hrow] at hperm

end ResultSet

/-- The number of rows of an answer that a limit leaves. -/
def RawResult.kept (raw : RawResult) (limit : Option Nat) : Nat :=
  match limit with
  | some n => min n raw.rows.length
  | none => raw.rows.length

theorem ResultSet.length_rows_ofRaw (raw : RawResult) (limit : Option Nat) :
    (ofRaw raw limit).rows.length = raw.kept limit := by
  cases limit with
  | none => rfl
  | some n => exact List.length_take

/-- A row that the limit leaves is the row of the answer. -/
theorem ResultSet.getElem?_rows_ofRaw {raw : RawResult} {limit : Option Nat} {r : Nat}
    (hr : r < raw.kept limit) : (ofRaw raw limit).rows[r]? = raw.rows[r]? := by
  cases limit with
  | none => rfl
  | some n => exact List.getElem?_take_of_lt (Nat.lt_of_lt_of_le hr (Nat.min_le_left _ _))

/-- Where the rows of an answer have a cell for each column, every view of its result set has one entry
for each column, whether or not the names of the columns repeat, and as many rows as the limit leaves;
and every view has the cell of the answer at each row and column. -/
theorem ResultSet.ofRaw_views_agree (raw : RawResult) (limit : Option Nat) (hcolumns : raw.columns ≠ [])
    (hrows : ∀ row ∈ raw.rows, row.length = raw.columns.length) :
    (ofRaw raw limit).Shaped raw.columns.length (raw.kept limit) ∧
      ∀ r < raw.kept limit, ∀ i < raw.columns.length, ∃ key v,
        (ofRaw raw limit).keys[i]? = some key ∧ raw.rows[r]?.bind (·[i]?) = some v ∧
          (ofRaw raw limit).Agrees r i key v := by
  have h := rectangular_ofRaw hrows limit
  have hlength : (ofRaw raw limit).keys.length = raw.columns.length :=
    length_distinctNames raw.columns
  have hkeys : (ofRaw raw limit).keys ≠ [] := by
    rw [← List.length_pos_iff, hlength]
    exact List.length_pos_iff.2 hcolumns
  constructor
  · have hshaped := h.shaped hkeys
    rwa [hlength, length_rows_ofRaw] at hshaped
  · intro r hr i hi
    have hkey := List.getElem?_eq_getElem (hlength.symm ▸ hi)
    have hr' := hr
    rw [← length_rows_ofRaw] at hr'
    have hrow := List.getElem?_eq_getElem hr'
    have hwide := h.cells _ (List.getElem_mem hr')
    have hv := List.getElem?_eq_getElem (hwide.symm ▸ hlength.symm ▸ hi)
    refine ⟨_, _, hkey, ?_, h.agrees hkey hrow hv⟩
    rw [← getElem?_rows_ofRaw hr, hrow]
    exact hv

/-- Columns of one name, one of which is named as another of them comes to be named. -/
def repeatedNames : RawResult :=
  .ofRows ["a", "a", "a_1"] [[.int 1, .int 2, .null], [.text "x", .null, .int 3]]

theorem ResultSet.ofRaw_views_agree_repeatedNames :
    repeatedNames.columns ≠ [] ∧
      (∀ row ∈ repeatedNames.rows, row.length = repeatedNames.columns.length) ∧
      (ofRaw repeatedNames (some 1)).keys = ["a", "a_1", "a_1_1"] ∧
      (ofRaw repeatedNames (some 1)).Shaped 3 1 ∧
      (ofRaw repeatedNames (some 1)).Agrees 0 1 "a_1" (.int 2) := by
  have hrows : ∀ row ∈ repeatedNames.rows, row.length = repeatedNames.columns.length := by decide
  obtain ⟨hshaped, hcells⟩ := ofRaw_views_agree repeatedNames (some 1) (by decide) hrows
  obtain ⟨key, v, hkey, hv, hagrees⟩ := hcells 0 (by decide) 1 (by decide)
  obtain rfl : "a_1" = key := Option.some.inj hkey
  obtain rfl : .int 2 = v := Option.some.inj hv
  exact ⟨by decide, hrows, by decide +kernel, hshaped, hagrees⟩

end SqlCells
