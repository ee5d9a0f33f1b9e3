import SqlCells.Proofs.Snippets.Edits

/-!
# Chains of snippets

A chain lists names so that each stands once and after everything it reads from.  `collect` extends a
chain in post-order by what some names need; `resolve` first collects what the requested names read
from and then appends those of them that are still missing, which keeps the order because by then
nothing they read from is missing.  In sound snippets the search never comes back to a name on its own
path, so it can only fail at a name that is not saved.
-/

namespace SqlCells
namespace Snippets

open Relation

/-- A list of names in which each stands once, after everything it reads from. -/
structure Chain (s : Snippets) (names : List String) : Prop where
  distinct : names.Nodup
  ordered : ∀ before name after, names = before ++ name :: after →
    ∀ dependency ∈ s.reads name, dependency ∈ before

theorem chain_nil (s : Snippets) : s.Chain [] where
  distinct := List.nodup_nil
  ordered := by
    intro before name after hsplit
    simp at hsplit

theorem mem_appendNew {names : List String} {new name : String} :
    name ∈ appendNew names new ↔ name ∈ names ∨ name = new := by
  unfold appendNew
  split
  · next hin =>
    have hmem : new ∈ names := by simpa using hin
    constructor
    · exact Or.inl
    · rintro (hold | rfl)
      · exact hold
      · exact hmem
  · simp

/-- A chain stays one when a name is appended whose dependencies it holds. -/
theorem Chain.appendNew {s : Snippets} {names : List String} {new : String}
    (hchain : s.Chain names) (hreads : ∀ dependency ∈ s.reads new, dependency ∈ names) :
    s.Chain (appendNew names new) := by
  unfold Snippets.appendNew
  split
  · exact hchain
  · next hnew =>
    have hnotin : new ∉ names := by simpa using hnew
    constructor
    · exact List.nodup_append_comm.1 (by simpa using ⟨hnotin, hchain.distinct⟩)
    · intro before name after hsplit dependency hread
      rcases List.eq_nil_or_concat after with rfl | ⟨after, last, rfl⟩
      · obtain ⟨rfl, hlast⟩ := List.append_inj' hsplit rfl
        obtain rfl : new = name := by simpa using hlast
        exact hreads dependency hread
      · have hsplit' : names ++ [new] = (before ++ name :: after) ++ [last] := by
          simpa using hsplit
        obtain ⟨hnames, -⟩ := List.append_inj' hsplit' rfl
        exact hchain.ordered before name after hnames dependency hread

/-- What a successful search for `names` makes of a list. -/
structure Collected (s : Snippets) (names before after : List String) : Prop where
  saved : ∀ name, s.Needs names name → s.contains name = true
  mem : ∀ name, name ∈ after ↔ name ∈ before ∨ s.Needs names name
  chain : s.Chain before → s.Chain after

theorem collected_nil (s : Snippets) (names : List String) : s.Collected [] names names where
  saved := fun name hneeds => absurd hneeds (not_needs_nil s name)
  mem := fun name => by simp [not_needs_nil s name]
  chain := id

theorem Collected.append {s : Snippets} {names more before middle after : List String}
    (hfirst : s.Collected names before middle) (hsecond : s.Collected more middle after) :
    s.Collected (names ++ more) before after where
  saved := by
    intro name hneeds
    rcases needs_append.1 hneeds with hnames | hmore
    · exact hfirst.saved name hnames
    · exact hsecond.saved name hmore
  mem := by
    intro name
    rw [hsecond.mem, hfirst.mem, needs_append, or_assoc]
  chain := fun hchain => hsecond.chain (hfirst.chain hchain)

/-- Once the dependencies of a saved name are collected, appending the name collects it. -/
theorem Collected.appendNew {s : Snippets} {before after : List String} {name : String}
    {e : Snippet} (hfind : s.find? name = some e)
    (hdeps : s.Collected e.dependencies before after) :
    s.Collected [name] before (Snippets.appendNew after name) where
  saved := by
    intro needed hneeds
    rcases (needs_cons_of_find? hfind).1 hneeds with rfl | hneeds | hneeds
    · exact contains_of_find? hfind
    · exact hdeps.saved needed hneeds
    · exact absurd hneeds (not_needs_nil s needed)
  mem := by
    intro needed
    rw [mem_appendNew, hdeps.mem, needs_cons_of_find? hfind]
    have hnil := not_needs_nil s needed
    tauto
  chain := by
    intro hchain
    refine (hdeps.chain hchain).appendNew ?_
    intro dependency hread
    rw [reads_of_find? hfind] at hread
    exact (hdeps.mem dependency).2 (Or.inr (needs_of_mem hread))

theorem collected_of_collect {s : Snippets} {path names before after : List String}
    (hcollect : s.collect path before names = .ok after) : s.Collected names before after := by
  fun_induction collect s path before names generalizing after with
  | case1 =>
    cases hcollect
    exact collected_nil s _
  | case2 => cases hcollect
  | case3 => cases hcollect
  | case4 => cases hcollect
  | case5 path before name rest hpath e hget middle hdeps ihDeps ihRest =>
    have hname := (ihDeps hdeps).appendNew (find?_of_get hget)
    exact hname.append (ihRest hcollect)

/-- Where every name on the path leads to the names sought, the search fails only at a name that is
not saved: one of them on the path would close a cycle. -/
theorem get_error_of_collect {s : Snippets} {path names before : List String} {f : Fault}
    (hacyclic : ∀ name, ¬ TransGen s.ReadsFrom name name)
    (hpath : ∀ passed ∈ path, ∀ name ∈ names, TransGen s.ReadsFrom passed name)
    (hcollect : s.collect path before names = .error f) :
    ∃ name, s.Needs names name ∧ s.get name = .error f := by
  fun_induction collect s path before names with
  | case1 => cases hcollect
  | case2 path before name rest hin =>
    have hmem : name ∈ path := by simpa using hin
    exact absurd (hpath name hmem name List.mem_cons_self) (hacyclic name)
  | case3 path before name rest hnotin g hget =>
    cases hcollect
    exact ⟨name, needs_of_mem List.mem_cons_self, hget⟩
  | case4 path before name rest hnotin e hget g hdeps ihDeps =>
    cases hcollect
    have hfind := find?_of_get hget
    -- The path grows by a name, and every name on it leads on to the dependencies of that name.
    have hdepsPath : ∀ passed ∈ path ++ [name], ∀ d ∈ e.dependencies,
        TransGen s.ReadsFrom passed d := by
      intro passed hpassed d hd
      have hstep : s.ReadsFrom name d := readsFrom_of_find? hfind hd
      rcases List.mem_append.1 hpassed with hold | hlast
      · exact (hpath passed hold name List.mem_cons_self).tail hstep
      · rw [List.mem_singleton.1 hlast]
        exact TransGen.single hstep
    obtain ⟨missing, hneeds, hmissing⟩ := ihDeps hdepsPath hdeps
    exact ⟨missing, (needs_cons_of_find? hfind).2 (Or.inr (Or.inl hneeds)), hmissing⟩
  | case5 path before name rest hnotin e hget middle hdeps ihDeps ihRest =>
    have hrestPath : ∀ passed ∈ path, ∀ n ∈ rest, TransGen s.ReadsFrom passed n :=
      fun passed hpassed n hn => hpath passed hpassed n (List.mem_cons_of_mem _ hn)
    obtain ⟨missing, hneeds, hmissing⟩ := ihRest hrestPath hcollect
    exact ⟨missing, needs_cons.2 (Or.inr hneeds), hmissing⟩

/-! ## Requested names -/

theorem collected_of_collectRoots {s : Snippets} {names before after : List String}
    (hcollect : s.collectRoots before names = .ok after) :
    s.Collected (names.flatMap s.reads) before after ∧
      ∀ name ∈ names, s.contains name = true := by
  fun_induction collectRoots s before names with
  | case1 =>
    cases hcollect
    exact ⟨collected_nil s _, fun name hname => absurd hname List.not_mem_nil⟩
  | case2 => cases hcollect
  | case3 => cases hcollect
  | case4 before name rest e hget middle hdeps ih =>
    obtain ⟨hrest, hsaved⟩ := ih hcollect
    have hfind := find?_of_get hget
    have hname := collected_of_collect hdeps
    rw [← reads_of_find? hfind] at hname
    rw [List.flatMap_cons]
    refine ⟨hname.append hrest, ?_⟩
    intro n hn
    rcases List.mem_cons.1 hn with rfl | hn
    · exact contains_of_find? hfind
    · exact hsaved n hn

theorem get_error_of_collectRoots {s : Snippets} {names before : List String} {f : Fault}
    (hacyclic : ∀ name, ¬ TransGen s.ReadsFrom name name)
    (hcollect : s.collectRoots before names = .error f) :
    ∃ name, s.Needs names name ∧ s.get name = .error f := by
  fun_induction collectRoots s before names with
  | case1 => cases hcollect
  | case2 before name rest g hget =>
    cases hcollect
    exact ⟨name, needs_of_mem List.mem_cons_self, hget⟩
  | case3 before name rest e hget g hdeps =>
    cases hcollect
    have hfind := find?_of_get hget
    have hpath : ∀ passed ∈ [name], ∀ d ∈ e.dependencies, TransGen s.ReadsFrom passed d := by
      intro passed hpassed d hd
      rw [List.mem_singleton.1 hpassed]
      exact TransGen.single (readsFrom_of_find? hfind hd)
    obtain ⟨missing, hneeds, hmissing⟩ := get_error_of_collect hacyclic hpath hdeps
    exact ⟨missing, (needs_cons_of_find? hfind).2 (Or.inr (Or.inl hneeds)), hmissing⟩
  | case4 before name rest e hget middle hdeps ih =>
    obtain ⟨missing, hneeds, hmissing⟩ := ih hcollect
    exact ⟨missing, needs_cons.2 (Or.inr hneeds), hmissing⟩

/-- Appending names to a chain that holds all they read from. -/
theorem foldl_appendNew {s : Snippets} {names before : List String}
    (hreads : ∀ name ∈ names, ∀ dependency ∈ s.reads name, dependency ∈ before) :
    (∀ name, name ∈ names.foldl appendNew before ↔ name ∈ before ∨ name ∈ names) ∧
      (s.Chain before → s.Chain (names.foldl appendNew before)) := by
  induction names generalizing before with
  | nil => simp
  | cons first rest ih =>
    have hgrown : ∀ name ∈ rest, ∀ d ∈ s.reads name, d ∈ appendNew before first :=
      fun name hname d hd =>
        mem_appendNew.2 (Or.inl (hreads name (List.mem_cons_of_mem _ hname) d hd))
    obtain ⟨hmem, hchain⟩ := ih hgrown
    rw [List.foldl_cons]
    constructor
    · intro name
      rw [hmem, mem_appendNew, List.mem_cons, or_assoc]
    · intro hbefore
      exact hchain (hbefore.appendNew (hreads first List.mem_cons_self))

theorem needs_iff_mem_or_needs_reads (s : Snippets) (names : List String) (name : String) :
    s.Needs names name ↔ name ∈ names ∨ s.Needs (names.flatMap s.reads) name := by
  induction names with
  | nil => simp [not_needs_nil]
  | cons first rest ih =>
    rw [needs_cons, reflTransGen_iff_needs_reads, ih, List.flatMap_cons, needs_append,
      List.mem_cons]
    tauto

theorem collected_of_resolve {s : Snippets} {names chain : List String}
    (hresolve : s.resolve names = .ok chain) : s.Collected names [] chain := by
  unfold resolve at hresolve
  cases hroots : s.collectRoots [] names with
  | error f =>
    rw [hroots] at hresolve
    cases hresolve
  | ok ordered =>
    rw [hroots] at hresolve
    cases hresolve
    obtain ⟨hcollected, hsaved⟩ := collected_of_collectRoots hroots
    -- All that the requested names read from is there before the first of them is appended.
    have hreads : ∀ name ∈ names, ∀ d ∈ s.reads name, d ∈ ordered := by
      intro name hname d hd
      rw [hcollected.mem]
      exact Or.inr (needs_of_mem (List.mem_flatMap.2 ⟨name, hname, hd⟩))
    obtain ⟨hmem, hchain⟩ := foldl_appendNew hreads
    constructor
    · intro name hneeds
      rcases (needs_iff_mem_or_needs_reads s names name).1 hneeds with hname | hdeps
      · exact hsaved name hname
      · exact hcollected.saved name hdeps
    · intro name
      rw [hmem, hcollected.mem, needs_iff_mem_or_needs_reads s names name]
      tauto
    · exact fun hnil => hchain (hcollected.chain hnil)

theorem get_error_of_resolve {s : Snippets} {names : List String} {f : Fault}
    (hacyclic : ∀ name, ¬ TransGen s.ReadsFrom name name)
    (hresolve : s.resolve names = .error f) :
    ∃ name, s.Needs names name ∧ s.get name = .error f := by
  unfold resolve at hresolve
  cases hroots : s.collectRoots [] names with
  | error g =>
    rw [hroots] at hresolve
    cases hresolve
    exact get_error_of_collectRoots hacyclic hroots
  | ok ordered =>
    rw [hroots] at hresolve
    cases hresolve

end Snippets
end SqlCells
