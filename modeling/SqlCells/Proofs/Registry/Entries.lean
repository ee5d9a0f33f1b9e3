import Mathlib.Data.String.Basic
import Mathlib.Tactic
import SqlCells.Registry

/-!
# Entries by key

Open connections stand in a list by key.  Inserting puts an entry in its place and out of the place the
one with an equal key, and lookup finds it from then on; whatever has another key is found as before.
The keys are in strictly ascending order before and after, so each stands once.
-/

namespace SqlCells
namespace Registry

/-! ## Inserting -/

section InsertSorted

variable {c x : Connection} {entries : List Connection}

theorem mem_insertSorted_self (c : Connection) (entries : List Connection) :
    c ∈ insertSorted c entries := by
  induction entries with
  | nil => exact List.mem_singleton_self c
  | cons d rest ih =>
    rw [insertSorted]
    split
    · exact List.mem_cons_self
    · split
      · exact List.mem_cons_self
      · exact List.mem_cons_of_mem _ ih

theorem eq_or_mem_of_mem_insertSorted (hmem : x ∈ insertSorted c entries) : x = c ∨ x ∈ entries := by
  induction entries with
  | nil => exact Or.inl (List.mem_singleton.1 hmem)
  | cons d rest ih =>
    rw [insertSorted] at hmem
    split at hmem
    · exact List.mem_cons.1 hmem
    · split at hmem
      · rcases List.mem_cons.1 hmem with rfl | hrest
        · exact Or.inl rfl
        · exact Or.inr (List.mem_cons_of_mem _ hrest)
      · rcases List.mem_cons.1 hmem with rfl | hrest
        · exact Or.inr List.mem_cons_self
        · exact (ih hrest).imp_right (List.mem_cons_of_mem _)

/-- Only an entry with the new key gives way. -/
theorem mem_insertSorted_of_ne (hmem : x ∈ entries) (hkey : x.key ≠ c.key) :
    x ∈ insertSorted c entries := by
  induction entries with
  | nil => cases hmem
  | cons d rest ih =>
    rw [insertSorted]
    split
    · exact List.mem_cons_of_mem _ hmem
    · split
      · next hsame =>
        rcases List.mem_cons.1 hmem with rfl | hrest
        · exact absurd hsame.symm hkey
        · exact List.mem_cons_of_mem _ hrest
      · rcases List.mem_cons.1 hmem with rfl | hrest
        · exact List.mem_cons_self
        · exact List.mem_cons_of_mem _ (ih hrest)

theorem find?_insertSorted (c : Connection) (entries : List Connection) (key : String) :
    (insertSorted c entries).find? (fun d => d.key == key) =
      if key = c.key then some c else entries.find? fun d => d.key == key := by
  by_cases hkey : key = c.key
  · subst hkey
    rw [if_pos rfl]
    induction entries with
    | nil => simp [insertSorted]
    | cons d rest ih =>
      rw [insertSorted]
      split
      · simp
      · split
        · simp
        · next hne =>
          rw [List.find?_cons_of_neg (by simpa using Ne.symm hne)]
          exact ih
  · have hc : ¬ (c.key == key) = true := by simpa using Ne.symm hkey
    rw [if_neg hkey]
    induction entries with
    | nil => exact List.find?_cons_of_neg hc
    | cons d rest ih =>
      rw [insertSorted]
      split
      · exact List.find?_cons_of_neg hc
      · split
        · next hsame =>
          have hd : d.key ≠ key := hsame ▸ Ne.symm hkey
          simp [Ne.symm hkey, hd]
        · rw [List.find?_cons, List.find?_cons, ih]

theorem pairwise_insertSorted (c : Connection)
    (hsorted : entries.Pairwise fun d d' => d.key < d'.key) :
    (insertSorted c entries).Pairwise fun d d' => d.key < d'.key := by
  induction entries with
  | nil => exact List.pairwise_singleton _ c
  | cons d rest ih =>
    obtain ⟨hd, hrest⟩ := List.pairwise_cons.1 hsorted
    rw [insertSorted]
    split
    · next hlt =>
      refine List.pairwise_cons.2 ⟨?_, hsorted⟩
      intro x hx
      rcases List.mem_cons.1 hx with rfl | hx
      · exact hlt
      · exact lt_trans hlt (hd x hx)
    · next hle =>
      split
      · -- The new entry has the key of the one that gives way, so it stands right among the others.
        next hsame => exact List.pairwise_cons.2 ⟨fun x hx => hsame ▸ hd x hx, hrest⟩
      · next hne =>
        have hlt : d.key < c.key := lt_of_le_of_ne (not_lt.1 hle) (Ne.symm hne)
        refine List.pairwise_cons.2 ⟨?_, ih hrest⟩
        intro x hx
        rcases eq_or_mem_of_mem_insertSorted hx with rfl | hx
        · exact hlt
        · exact hd x hx

end InsertSorted

/-! ## Lookup -/

theorem mem_of_find? {r : Registry} {key : String} {c : Connection} (hfind : r.find? key = some c) :
    c ∈ r.connections ∧ c.key = key :=
  ⟨List.mem_of_find?_eq_some hfind, by simpa using List.find?_some hfind⟩

theorem find?_insert (r : Registry) (c : Connection) (key : String) :
    (r.insert c).find? key = if key = c.key then some c else r.find? key :=
  find?_insertSorted c r.connections key

theorem nodup_keys {r : Registry} (hsorted : r.connections.Pairwise fun d d' => d.key < d'.key) :
    r.keys.Nodup := by
  unfold keys
  rw [List.Nodup, List.pairwise_map]
  exact hsorted.imp fun hlt => ne_of_lt hlt

/-- Where the keys ascend, every entry is found under its key. -/
theorem find?_of_mem {r : Registry} {c : Connection}
    (hsorted : r.connections.Pairwise fun d d' => d.key < d'.key) (hmem : c ∈ r.connections) :
    r.find? c.key = some c := by
  cases hfind : r.find? c.key with
  | none =>
    have htest := List.find?_eq_none.1 hfind c hmem
    simp at htest
  | some found =>
    obtain ⟨hfound, hkey⟩ := mem_of_find? hfind
    rw [List.inj_on_of_nodup_map (nodup_keys hsorted) hfound hmem hkey]

/-- A name stands for a key that is there. -/
theorem find?_of_keyOf? {r : Registry} {name key : String} (hkey : r.keyOf? name = some key) :
    (r.find? key).isSome = true := by
  unfold keyOf? at hkey
  split at hkey
  · next hfound =>
    cases hkey
    exact hfound
  · dsimp only at hkey
    split at hkey
    · next hfound =>
      cases hkey
      exact hfound
    · cases hkey

end Registry
end SqlCells
