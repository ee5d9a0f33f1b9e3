import Mathlib.Order.Bounds.Basic
import SqlCells.Proofs.Data.Views
import SqlCells.Proofs.Lists

/-!
# Column names one by one

A result set settles the names of its columns from left to right.  A name is kept unless an earlier
column is shown under it; then it gets the least number that makes it differ from all earlier ones.  What
is shown earlier counts, and that includes names that were numbered themselves: a name that occurs only
once loses its own name to an earlier column that was numbered to look like it.
-/

namespace SqlCells

/-- A name with a number behind it. -/
def numbered (name : String) (k : Nat) : String :=
  name ++ "_" ++ toString k

/-! ## The name of one column -/

/-- A name that is taken gets the least number with which it is not; there is no need to try more numbers
than there are names taken. -/
theorem freshName_of_mem {taken : List String} {name : String} (htaken : name ∈ taken) :
    ∃ k, IsLeast {k | 1 ≤ k ∧ numbered name k ∉ taken} k ∧ k ≤ taken.length ∧
      freshName taken name = numbered name k := by
  have hsearch : (suffixed name taken.length).find? (fun n => !taken.contains n) =
      ((List.range taken.length).find? fun k => !taken.contains (numbered name (k + 1))).map
        fun k => numbered name (k + 1) := by
    rw [suffixed, List.find?_cons_of_neg (by simpa using htaken), List.find?_map]
    rfl
  unfold freshName
  rw [hsearch]
  cases hfind : (List.range taken.length).find? fun k => !taken.contains (numbered name (k + 1)) with
  | none =>
    -- The search ends: the forms of the name that are tried are more than the names taken.
    rw [hfind, Option.map_none, List.find?_eq_none] at hsearch
    obtain ⟨n, hn, hfree⟩ := exists_suffixed_not_mem taken name
    simpa [hfree] using hsearch n hn
  | some k =>
    obtain ⟨hfree, hk, hearlier⟩ := List.find?_range_eq_some.1 hfind
    refine ⟨k + 1, ⟨⟨by omega, by simpa using hfree⟩, ?_⟩, List.mem_range.1 hk, rfl⟩
    rintro j ⟨hpos, hj⟩
    by_contra hless
    have htested := hearlier (j - 1) (by omega)
    rw [Nat.sub_add_cancel hpos] at htested
    simp [hj] at htested

theorem prefix_distinctNamesFrom (taken names : List String) :
    taken <+: distinctNamesFrom taken names := by
  induction names generalizing taken with
  | nil => exact List.prefix_rfl
  | cons name rest ih => exact (List.prefix_append _ _).trans (ih _)

/-- Each name is settled by those settled before it. -/
theorem getElem?_distinctNamesFrom (taken : List String) {names : List String} {i : Nat} {name : String}
    (hname : names[i]? = some name) :
    let keys := distinctNamesFrom taken names
    keys[taken.length + i]? = some (freshName (keys.take (taken.length + i)) name) := by
  intro keys
  induction names generalizing taken i with
  | nil => simp at hname
  | cons first rest ih =>
    cases i with
    | zero =>
      obtain rfl : first = name := by simpa using hname
      obtain ⟨more, hkeys⟩ := prefix_distinctNamesFrom (taken ++ [freshName taken first]) rest
      have hsplit : keys = taken ++ freshName taken first :: more := by
        rw [← List.singleton_append, ← List.append_assoc, hkeys]
        rfl
      rw [hsplit, Nat.add_zero, List.take_left, List.getElem?_append_right (Nat.le_refl _), Nat.sub_self]
      rfl
    | succ i =>
      have hlater := ih (taken ++ [freshName taken first]) (i := i) (by simpa using hname)
      rw [List.length_append, List.length_singleton, Nat.add_assoc, Nat.add_comm 1 i] at hlater
      exact hlater

/-! ## The names of a result set -/

namespace ResultSet

variable {raw : RawResult} {limit : Option Nat} {i : Nat} {name : String}

theorem getElem?_keys_ofRaw (hname : raw.columns[i]? = some name) :
    (ofRaw raw limit).keys[i]? = some (freshName ((ofRaw raw limit).keys.take i) name) := by
  have hkeys := getElem?_distinctNamesFrom [] hname
  rw [List.length_nil, Nat.zero_add] at hkeys
  exact hkeys

/-- How a result set names its columns, whatever names the driver reports.  There is one name for each
column and no two are the same.  Each is the name reported for the column, if no earlier column is shown
under that, and else that name with the least number that makes it differ from all earlier ones, which is
at most the number of these.  Only distinct names are all left as they are, so settling them again
changes nothing. -/
theorem keys_ofRaw_settled (raw : RawResult) (limit : Option Nat) :
    let rs := ofRaw raw limit
    rs.keys.length = raw.columns.length ∧ rs.keys.Nodup ∧
      (∀ (i : Nat) (name : String), raw.columns[i]? = some name →
        let earlier := rs.keys.take i
        (name ∉ earlier ∧ rs.keys[i]? = some name) ∨
        (name ∈ earlier ∧ ∃ k ≤ i, IsLeast {k | 1 ≤ k ∧ numbered name k ∉ earlier} k ∧
          rs.keys[i]? = some (numbered name k))) ∧
      (rs.keys = raw.columns ↔ raw.columns.Nodup) ∧
      ofRaw { raw with columns := rs.keys } limit = rs ∧
      (ofFrame rs.toFrame).keys = rs.keys := by
  intro rs
  have hagain : distinctNames rs.keys = rs.keys :=
    distinctNames_eq_self_iff.2 (nodup_distinctNames raw.columns)
  refine ⟨length_distinctNames raw.columns, nodup_distinctNames raw.columns, ?_,
    distinctNames_eq_self_iff, ?_, hagain⟩
  · intro i name hname earlier
    have hkey : rs.keys[i]? = some (freshName earlier name) := getElem?_keys_ofRaw hname
    by_cases htaken : name ∈ earlier
    · obtain ⟨k, hleast, hk, hfresh⟩ := freshName_of_mem htaken
      refine Or.inr ⟨htaken, k, hk.trans (List.length_take_le i rs.keys), hleast, ?_⟩
      rw [hkey, hfresh]
    · refine Or.inl ⟨htaken, ?_⟩
      rw [hkey, freshName_eq_self htaken]
  · have hrows : (RawResult.truncate limit { raw with columns := rs.keys }).rows =
        (raw.truncate limit).rows := by
      cases limit <;> rfl
    change ResultSet.mk (distinctNames rs.keys) _ _ _ _ = _
    rw [hagain, hrows]
    rfl

/-- A number that is taken by a name in front is passed over, and a name behind that a number has taken
is numbered in turn. -/
example : (ofRaw (.ofRows ["a_1", "a", "a", "a_1"] []) none).keys = ["a_1", "a", "a_2", "a_1_1"] := by
  decide +kernel

/-- A name is looked up in a result set, and the values of a column are found. -/
structure Finds (rs : ResultSet) (name : String) (values : List Value) : Prop where
  dict : rs.toDict.lookup name = some values
  frame : rs.toFrame.column? name = some values

theorem finds_of_getElem? {j : Nat} (hkey : (ofRaw raw limit).keys[j]? = some name) :
    (ofRaw raw limit).Finds name ((ofRaw raw limit).column j) where
  dict := lookup_toDict (nodup_distinctNames raw.columns) hkey
  frame := column?_toFrame (nodup_distinctNames raw.columns) hkey

theorem getElem?_keys_eq_some_iff (hname : raw.columns[i]? = some name) :
    (ofRaw raw limit).keys[i]? = some name ↔ name ∉ (ofRaw raw limit).keys.take i := by
  rw [getElem?_keys_ofRaw hname]
  constructor
  · intro hkept htaken
    exact freshName_not_mem _ name ((Option.some.inj hkept).symm ▸ htaken)
  · intro hfree
    rw [freshName_eq_self hfree]

/-- A column that is shown under a name other than its own has been numbered. -/
theorem numbered_of_getElem?_keys {j : Nat} {base : String} (hbase : raw.columns[j]? = some base)
    (hkey : (ofRaw raw limit).keys[j]? = some name) (hne : base ≠ name) :
    base ∈ (ofRaw raw limit).keys.take j ∧ ∃ k, 1 ≤ k ∧ name = numbered base k := by
  rw [getElem?_keys_ofRaw hbase] at hkey
  have hfresh := Option.some.inj hkey
  by_cases htaken : base ∈ (ofRaw raw limit).keys.take j
  · obtain ⟨k, hleast, -, hnumbered⟩ := freshName_of_mem htaken
    exact ⟨htaken, k, hleast.1.1, hfresh.symm.trans hnumbered⟩
  · exact absurd ((freshName_eq_self htaken).symm.trans hfresh) hne

/-- A name that occurs once among those that the driver reports is kept by its column exactly if no
earlier column is shown under it, and then the values of the column are found under it.  An earlier
column that is shown under it is one whose own name was taken and that was numbered; then the values of
that column are found.  So where the name is none of the earlier ones with a number behind it, it is
kept. -/
theorem unrepeated_name_kept_iff (raw : RawResult) (limit : Option Nat) {i : Nat} {name : String}
    (hname : raw.columns[i]? = some name) (honce : raw.columns.count name = 1) :
    let rs := ofRaw raw limit
    (rs.keys[i]? = some name ↔ ∀ j < i, rs.keys[j]? ≠ some name) ∧
      (rs.keys[i]? = some name → rs.Finds name (rs.column i)) ∧
      (∀ j < i, rs.keys[j]? = some name → rs.Finds name (rs.column j) ∧
        ∃ base, raw.columns[j]? = some base ∧ base ≠ name ∧ base ∈ rs.keys.take j ∧
          ∃ k, 1 ≤ k ∧ name = numbered base k) ∧
      ((∀ base ∈ raw.columns.take i, ∀ k, 1 ≤ k → name ≠ numbered base k) →
        rs.keys[i]? = some name) := by
  intro rs
  have hkept : rs.keys[i]? = some name ↔ ∀ j < i, rs.keys[j]? ≠ some name := by
    rw [getElem?_keys_eq_some_iff hname, mem_take_iff]
    simp [rs]
  have hearlier : ∀ j < i, rs.keys[j]? = some name → ∃ base, raw.columns[j]? = some base ∧
      base ≠ name ∧ base ∈ rs.keys.take j ∧ ∃ k, 1 ≤ k ∧ name = numbered base k := by
    intro j hj hkey
    have hlength : j < raw.columns.length := hj.trans (List.getElem?_eq_some_iff.1 hname).1
    have hbase := List.getElem?_eq_getElem hlength
    have hne : raw.columns[j] ≠ name := by
      intro hsame
      rw [hsame] at hbase
      exact absurd (eq_of_count_eq_one honce hbase hname) (Nat.ne_of_lt hj)
    obtain ⟨htaken, hnumbered⟩ := numbered_of_getElem?_keys hbase hkey hne
    exact ⟨_, hbase, hne, htaken, hnumbered⟩
  refine ⟨hkept, finds_of_getElem?, fun j hj hkey => ⟨finds_of_getElem? hkey, hearlier j hj hkey⟩, ?_⟩
  intro hnone
  rw [hkept]
  intro j hj hkey
  obtain ⟨base, hbase, -, -, k, hk, hnumbered⟩ := hearlier j hj hkey
  exact hnone base (mem_take_iff.2 ⟨j, hj, hbase⟩) k hk hnumbered

/-- A column with a number of its own behind two that share a name. -/
theorem unrepeated_name_kept_iff_numbered :
    let raw := RawResult.ofRows ["a", "a", "b", "a_2"] [[.int 1, .int 2, .int 3, .int 4]]
    raw.columns[3]? = some "a_2" ∧ raw.columns.count "a_2" = 1 ∧
      (∀ j < 3, (ofRaw raw none).keys[j]? ≠ some "a_2") ∧
      (ofRaw raw none).keys[3]? = some "a_2" ∧ (ofRaw raw none).Finds "a_2" [.int 4] := by
  intro raw
  have hfree : ∀ j < 3, (ofRaw raw none).keys[j]? ≠ some "a_2" := by decide +kernel
  have hname : raw.columns[3]? = some "a_2" := rfl
  have honce : raw.columns.count "a_2" = 1 := by decide +kernel
  obtain ⟨hiff, hfinds, -⟩ := unrepeated_name_kept_iff raw none hname honce
  have hkept := hiff.2 hfree
  exact ⟨hname, honce, hfree, hkept, hfinds hkept⟩

/-- A name that occurs once goes to a column of another name, and that column's values are found under
it. -/
theorem unrepeated_name_lost :
    let raw := RawResult.ofRows ["a", "a", "a_1"] [[.int 1, .int 2, .int 3]]
    raw.columns.count "a_1" = 1 ∧ raw.columns[2]? = some "a_1" ∧
      (ofRaw raw none).keys = ["a", "a_1", "a_1_1"] ∧
      (ofRaw raw none).toDict.lookup "a_1" = some [.int 2] := by
  decide +kernel

end ResultSet
end SqlCells
