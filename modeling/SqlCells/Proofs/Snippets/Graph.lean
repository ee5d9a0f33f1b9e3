import Mathlib.Logic.Relation
import Mathlib.Tactic
import SqlCells.Snippets

/-!
# What snippets read from

The saved snippets span a graph: a saved name has an edge to each name it reads from, and a name that
is not saved has none, although edges may lead to it.  The walk that guards saving is a search in this
graph with a stack and a list of visited names; it answers exactly whether the target can be reached.
Nothing here asks the graph to be free of cycles.
-/

namespace SqlCells
namespace Snippets

open Relation

/-- One step in the graph: a saved name reads from a dependency, saved or not. -/
def ReadsFrom (s : Snippets) (name dependency : String) : Prop :=
  dependency ∈ s.reads name

/-- Names that the given ones cannot do without: each of them, and what it leads to in any number of
steps. -/
def Needs (s : Snippets) (names : List String) (name : String) : Prop :=
  ∃ root ∈ names, ReflTransGen s.ReadsFrom root name

theorem reads_of_find? {s : Snippets} {name : String} {e : Snippet}
    (hfind : s.find? name = some e) : s.reads name = e.dependencies := by
  simp [reads, hfind]

theorem reads_of_find?_eq_none {s : Snippets} {name : String} (hfind : s.find? name = none) :
    s.reads name = [] := by
  simp [reads, hfind]

theorem contains_of_find? {s : Snippets} {name : String} {e : Snippet}
    (hfind : s.find? name = some e) : s.contains name = true := by
  simp [contains, hfind]

theorem not_needs_nil (s : Snippets) (name : String) : ¬ s.Needs [] name := by
  rintro ⟨root, hroot, -⟩
  exact absurd hroot (List.not_mem_nil)

theorem needs_cons {s : Snippets} {root : String} {rest : List String} {name : String} :
    s.Needs (root :: rest) name ↔ ReflTransGen s.ReadsFrom root name ∨ s.Needs rest name := by
  simp [Needs]

theorem needs_append {s : Snippets} {names more : List String} {name : String} :
    s.Needs (names ++ more) name ↔ s.Needs names name ∨ s.Needs more name := by
  simp only [Needs, List.mem_append]
  constructor
  · rintro ⟨root, hroot | hroot, hlead⟩
    · exact Or.inl ⟨root, hroot, hlead⟩
    · exact Or.inr ⟨root, hroot, hlead⟩
  · rintro (⟨root, hroot, hlead⟩ | ⟨root, hroot, hlead⟩)
    · exact ⟨root, Or.inl hroot, hlead⟩
    · exact ⟨root, Or.inr hroot, hlead⟩

theorem needs_of_mem {s : Snippets} {names : List String} {name : String} (hmem : name ∈ names) :
    s.Needs names name :=
  ⟨name, hmem, ReflTransGen.refl⟩

theorem Needs.mono {s : Snippets} {names more : List String} {name : String}
    (hneeds : s.Needs names name) (hsub : ∀ root ∈ names, root ∈ more) : s.Needs more name := by
  obtain ⟨root, hroot, hlead⟩ := hneeds
  exact ⟨root, hsub root hroot, hlead⟩

/-- What a name leads to is the name itself and what its dependencies need. -/
theorem reflTransGen_iff_needs_reads {s : Snippets} {root name : String} :
    ReflTransGen s.ReadsFrom root name ↔ name = root ∨ s.Needs (s.reads root) name := by
  rw [ReflTransGen.cases_head_iff]
  constructor
  · rintro (hsame | ⟨next, hnext, hlead⟩)
    · exact Or.inl hsame.symm
    · exact Or.inr ⟨next, hnext, hlead⟩
  · rintro (hsame | ⟨next, hnext, hlead⟩)
    · exact Or.inl hsame.symm
    · exact Or.inr ⟨next, hnext, hlead⟩

/-- A saved name needs itself and what its dependencies need. -/
theorem needs_cons_of_find? {s : Snippets} {root name : String} {rest : List String} {e : Snippet}
    (hfind : s.find? root = some e) : s.Needs (root :: rest) name ↔
      name = root ∨ s.Needs e.dependencies name ∨ s.Needs rest name := by
  rw [needs_cons, reflTransGen_iff_needs_reads, reads_of_find? hfind, or_assoc]

theorem readsFrom_of_find? {s : Snippets} {name dependency : String} {e : Snippet}
    (hfind : s.find? name = some e) (hmem : dependency ∈ e.dependencies) :
    s.ReadsFrom name dependency := by
  unfold ReadsFrom
  rwa [reads_of_find? hfind]

/-! ## The walk -/

/-- Every dependency of a visited name is visited or waits on the stack. -/
def Frontier (s : Snippets) (visited stack : List String) : Prop :=
  ∀ name ∈ visited, ∀ dependency ∈ s.reads name, dependency ∈ visited ∨ dependency ∈ stack

/-- A visited name may be taken off the stack. -/
theorem Frontier.skip {s : Snippets} {visited stack : List String} {name : String}
    (hfrontier : s.Frontier visited (name :: stack)) (hmem : name ∈ visited) :
    s.Frontier visited stack := by
  intro n hn d hd
  rcases hfrontier n hn d hd with hv | hs
  · exact Or.inl hv
  · rcases List.mem_cons.1 hs with rfl | hs
    · exact Or.inl hmem
    · exact Or.inr hs

/-- A name may be visited when its dependencies take its place on the stack. -/
theorem Frontier.visit {s : Snippets} {visited stack : List String} {name : String}
    (hfrontier : s.Frontier visited (name :: stack)) :
    s.Frontier (name :: visited) (s.reads name ++ stack) := by
  intro n hn d hd
  rcases List.mem_cons.1 hn with rfl | hn
  · exact Or.inr (List.mem_append_left _ hd)
  · rcases hfrontier n hn d hd with hv | hs
    · exact Or.inl (List.mem_cons_of_mem _ hv)
    · rcases List.mem_cons.1 hs with rfl | hs
      · exact Or.inl List.mem_cons_self
      · exact Or.inr (List.mem_append_right _ hs)

/-- Names closed under reading lead to no other name. -/
theorem Frontier.mem_of_needs {s : Snippets} {visited : List String} {name : String}
    (hfrontier : s.Frontier visited []) (hneeds : s.Needs visited name) : name ∈ visited := by
  obtain ⟨root, hroot, hlead⟩ := hneeds
  induction hlead with
  | refl => exact hroot
  | tail _ hstep ih => simpa using hfrontier _ ih _ hstep

/-- The walk comes to its target only along edges. -/
theorem needs_of_walk {s : Snippets} {target : String} {visited stack : List String}
    (hwalk : s.walk target visited stack = true) : s.Needs stack target := by
  fun_induction walk s target visited stack with
  | case1 => cases hwalk
  | case2 visited stack => exact needs_of_mem List.mem_cons_self
  | case3 visited name stack hne hvisited ih => exact needs_cons.2 (Or.inr (ih hwalk))
  | case4 visited name stack hne hvisited hfind ih => exact needs_cons.2 (Or.inr (ih hwalk))
  | case5 visited name stack hne hvisited e hfind ih =>
    rcases needs_append.1 (ih hwalk) with hdeps | hstack
    · exact (needs_cons_of_find? hfind).2 (Or.inr (Or.inl hdeps))
    · exact needs_cons.2 (Or.inr hstack)

/-- A walk that ends without its target has visited all that can be reached, so the target cannot:
`Frontier` is the invariant, and with an empty stack it says that the visited names are closed under
reading. -/
theorem not_needs_of_walk {s : Snippets} {target : String} {visited stack : List String}
    (hwalk : s.walk target visited stack = false) (hnew : target ∉ visited)
    (hfrontier : s.Frontier visited stack) : ¬ s.Needs (visited ++ stack) target := by
  fun_induction walk s target visited stack with
  | case1 visited =>
    intro hneeds
    exact hnew (hfrontier.mem_of_needs (by simpa using hneeds))
  | case2 => cases hwalk
  | case3 visited name stack hne hvisited ih =>
    have hmem : name ∈ visited := by simpa using hvisited
    intro hneeds
    -- The name leaves the stack but stays among the visited ones, so no root is lost.
    refine ih hwalk hnew (hfrontier.skip hmem) (hneeds.mono ?_)
    intro root hroot
    rcases List.mem_append.1 hroot with hv | hs
    · exact List.mem_append_left _ hv
    · rcases List.mem_cons.1 hs with rfl | hs
      · exact List.mem_append_left _ hmem
      · exact List.mem_append_right _ hs
  | case4 visited name stack hne hvisited hfind ih =>
    have hvisit := hfrontier.visit
    rw [reads_of_find?_eq_none hfind, List.nil_append] at hvisit
    have htarget : target ∉ name :: visited := by simp [hnew, Ne.symm hne]
    intro hneeds
    exact ih hwalk htarget hvisit (hneeds.mono (by simp [or_left_comm]))
  | case5 visited name stack hne hvisited e hfind ih =>
    -- The name moves to the visited ones and its dependencies take its place, as `Frontier` asks.
    have hvisit := hfrontier.visit
    rw [reads_of_find? hfind] at hvisit
    have htarget : target ∉ name :: visited := by simp [hnew, Ne.symm hne]
    intro hneeds
    refine ih hwalk htarget hvisit (hneeds.mono ?_)
    intro root hroot
    simp only [List.mem_append, List.mem_cons] at hroot ⊢
    tauto

/-- The guard answers exactly whether one of the given names is, or leads to, the target. -/
theorem reaches_eq_true_iff (s : Snippets) (start : List String) (target : String) :
    s.reaches start target = true ↔ s.Needs start target := by
  constructor
  · exact needs_of_walk
  · intro hneeds
    by_contra hwalk
    have hfalse : s.walk target [] start = false := Bool.eq_false_of_not_eq_true hwalk
    have hempty : s.Frontier [] start := fun n hn => absurd hn List.not_mem_nil
    exact not_needs_of_walk hfalse List.not_mem_nil hempty hneeds

end Snippets
end SqlCells
