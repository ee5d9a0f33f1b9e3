import SqlCells.Proofs.Snippets.Edits

/-!
# Saving one snippet

When a snippet is saved and what that changes, for any snippets whatever: they need not have been saved
one by one, so names may repeat and ways along edges may already be cycles.  The guard is a loop over a
stack of names.  Each pass takes one name off, and only a name that is visited for the first time puts
its edges on; so there are at most as many passes as names to start with and edges in the graph.
-/

namespace SqlCells
namespace Snippets

open Relation

/-! ## The number of passes -/

/-- The walk as a loop of at most so many passes; `none` if names are left on the stack. -/
def walkWithin (s : Snippets) (target : String) : Nat → List String → List String → Option Bool
  | _, _, [] => some false
  | 0, _, _ :: _ => none
  | passes + 1, visited, name :: stack =>
    if name = target then some true
    else if visited.contains name then s.walkWithin target passes visited stack
    else s.walkWithin target passes (name :: visited) (s.reads name ++ stack)

/-- The number of edges in the graph. -/
def edgeCount (s : Snippets) : Nat :=
  (s.entries.map fun e => e.dependencies.length).sum

/-- The number of edges that do not start at a visited name. -/
def edgesAhead (s : Snippets) (visited : List String) : Nat :=
  (s.entries.map fun e => if e.name ∈ visited then 0 else e.dependencies.length).sum

theorem edgesAhead_nil (s : Snippets) : s.edgesAhead [] = s.edgeCount := by
  simp [edgesAhead, edgeCount]

theorem edgesAhead_cons_le (s : Snippets) (name : String) (visited : List String) :
    s.edgesAhead (name :: visited) ≤ s.edgesAhead visited := by
  apply List.sum_le_sum
  intro e _
  by_cases hvisited : e.name ∈ visited
  · simp [hvisited]
  · by_cases hname : e.name = name <;> simp [hvisited, hname]

/-- Visiting a saved name for the first time takes at least its edges away. -/
theorem edgesAhead_visit {s : Snippets} {name : String} {visited : List String} {e : Snippet}
    (hfind : s.find? name = some e) (hnew : name ∉ visited) :
    s.edgesAhead (name :: visited) + e.dependencies.length ≤ s.edgesAhead visited := by
  obtain ⟨hmem, rfl⟩ := mem_of_find? hfind
  obtain ⟨front, behind, hsplit⟩ := List.append_of_mem hmem
  have hfront := edgesAhead_cons_le ⟨front⟩ e.name visited
  have hbehind := edgesAhead_cons_le ⟨behind⟩ e.name visited
  unfold edgesAhead at hfront hbehind ⊢
  dsimp only at hfront hbehind
  simp only [hsplit, List.map_append, List.map_cons, List.sum_append, List.sum_cons,
    List.mem_cons_self, if_true, if_neg hnew]
  omega

/-- The walk ends within as many passes as there are names on the stack and edges ahead. -/
theorem walkWithin_eq_some_walk (s : Snippets) (target : String) (visited stack : List String)
    {passes : Nat} (henough : stack.length + s.edgesAhead visited ≤ passes) :
    s.walkWithin target passes visited stack = some (s.walk target visited stack) := by
  -- One pass is spent on each name, and the names that a visit puts on the stack are paid for by edges.
  induction passes generalizing visited stack with
  | zero =>
    have hempty : stack = [] := List.length_eq_zero_iff.1 (by omega)
    rw [hempty, walk, walkWithin]
  | succ passes ih =>
    cases stack with
    | nil => rw [walk, walkWithin]
    | cons name stack =>
      rw [List.length_cons] at henough
      rw [walk, walkWithin]
      by_cases htarget : name = target
      · rw [if_pos htarget, if_pos htarget]
      · rw [if_neg htarget, if_neg htarget]
        by_cases hvisited : visited.contains name = true
        · rw [if_pos hvisited, dif_pos hvisited]
          exact ih visited stack (by omega)
        · rw [if_neg hvisited, dif_neg hvisited]
          have hnew : name ∉ visited := by simpa using hvisited
          split
          · next hfind =>
            have hle := s.edgesAhead_cons_le name visited
            rw [reads_of_find?_eq_none hfind, List.nil_append]
            exact ih (name :: visited) stack (by omega)
          · next e hfind =>
            have hless := edgesAhead_visit hfind hnew
            rw [reads_of_find? hfind]
            exact ih (name :: visited) (e.dependencies ++ stack) (by rw [List.length_append]; omega)

/-! ## What saving changes -/

/-- A snippet that is put in the place of one with its name leaves all places as they are. -/
theorem entries_insert_of_contains {s : Snippets} {e : Snippet} (hsaved : s.contains e.name = true) :
    (s.insert e).entries = s.entries.map fun old => if old.name = e.name then e else old := by
  rw [insert, if_pos hsaved]

theorem entries_insert_of_not_contains {s : Snippets} {e : Snippet}
    (hfree : s.contains e.name = false) : (s.insert e).entries = s.entries ++ [e] := by
  rw [insert, if_neg (by rw [hfree]; exact Bool.false_ne_true)]

theorem hasHyphen_eq_false_iff (name : String) : hasHyphen name = false ↔ '-' ∉ name.toList := by
  simp [hasHyphen]

/-- Saving one snippet, whatever is saved already.  The walk that guards it ends within as many passes as
there are dependencies and edges.  The snippet is saved exactly if no name has a hyphen and no dependency
is, or leads to, the name.  If it is refused nothing changes; if it is saved the name has the new snippet
and all other names have what they had, each saved name at its place and a new one behind all others. -/
theorem store_edits_one_name (s : Snippets) (name body : String) (dependencies : List String) :
    let new : Snippet := ⟨name, body, dependencies⟩
    let after := s.edit (.save name body dependencies)
    s.walkWithin name (dependencies.length + s.edgeCount) [] dependencies =
        some (s.reaches dependencies name) ∧
      ((∃ s', s.store name body dependencies = .ok s') ↔
        '-' ∉ name.toList ∧ (∀ d ∈ dependencies, '-' ∉ d.toList) ∧
          ∀ d ∈ dependencies, ¬ ReflTransGen s.ReadsFrom d name) ∧
      (∀ f, s.store name body dependencies = .error f → after = s) ∧
      ∀ s', s.store name body dependencies = .ok s' → after = s' ∧
        (∀ other, s'.find? other = if other = name then some new else s.find? other) ∧
        (s.contains name = true → s'.entries.length = s.entries.length ∧
          ∀ (i : Nat) (old : Snippet), s.entries[i]? = some old →
            s'.entries[i]? = some (if old.name = name then new else old)) ∧
        (s.contains name = false → s'.entries = s.entries ++ [new]) := by
  intro new after
  refine ⟨?_, ?_, ?_, ?_⟩
  · exact s.walkWithin_eq_some_walk name [] dependencies (by rw [edgesAhead_nil])
  · have hfree : ¬ s.Needs dependencies name ↔
        ∀ d ∈ dependencies, ¬ ReflTransGen s.ReadsFrom d name := by
      simp [Needs]
    simp only [store_eq_ok_iff, hasHyphen_eq_false_iff, hfree, ← and_assoc, exists_and_left,
      exists_eq, and_true]
  · intro f hfails
    simp only [after, edit, hfails]
  · intro s' hstore
    obtain ⟨-, -, -, rfl⟩ := store_eq_ok_iff.1 hstore
    refine ⟨?_, s.find?_insert new, ?_, entries_insert_of_not_contains (e := new)⟩
    · simp only [after, edit, hstore]
    · intro hsaved
      rw [entries_insert_of_contains hsaved]
      refine ⟨List.length_map _, ?_⟩
      intro i old hold
      rw [List.getElem?_map, hold]
      rfl

/-- Where two snippets read from each other, saving a third that reads from one of them ends. -/
example :
    let s : Snippets := ⟨[⟨"a", "", ["b"]⟩, ⟨"b", "", ["a"]⟩]⟩
    s.store "c" "" ["a"] = .ok ⟨s.entries ++ [⟨"c", "", ["a"]⟩]⟩ ∧
      s.store "a" "" ["b"] = .error (.circularSave "a") := by
  cbv

end Snippets
end SqlCells
