import SqlCells.Proofs.Snippets.Graph

/-!
# Saving and removing snippets

What one edit does to the snippets, and the invariant of all that can be saved: one snippet for each
name, no hyphen in any name, and no way from a name back to itself.  The guard of `store` looks at the
graph before the edit; since a new edge can only start at the saved name, it sees every way that the
edit would close.  Names that are read from but not saved count as ends of ways, so a cycle cannot be
completed later by saving them either.
-/

namespace SqlCells
namespace Snippets

open Relation

/-! ## Lookup after an edit -/

theorem find?_insert (s : Snippets) (e : Snippet) (name : String) :
    (s.insert e).find? name = if name = e.name then some e else s.find? name := by
  unfold insert
  by_cases hcontains : s.contains e.name = true
  · have hlookup : (s.entries.map fun old => if old.name = e.name then e else old).find?
        (fun old => old.name == name) =
        (s.find? name).map fun old => if old.name = e.name then e else old := by
      rw [List.find?_map]
      have htest : (fun old : Snippet => old.name == name) ∘
          (fun old => if old.name = e.name then e else old) = fun old => old.name == name := by
        funext old
        by_cases hold : old.name = e.name
        · simp [hold]
        · simp [hold]
      rw [htest]
      rfl
    rw [if_pos hcontains]
    change List.find? _ _ = _
    rw [hlookup]
    cases hfind : s.find? name with
    | none =>
      have hne : name ≠ e.name := by
        rintro rfl
        simp [contains, hfind] at hcontains
      simp [hne]
    | some old =>
      have hname := (mem_of_find? hfind).2
      by_cases hsame : name = e.name
      · simp [hname, hsame]
      · simp [hname, hsame]
  · have hnone : s.find? e.name = none := by simpa [contains] using hcontains
    rw [if_neg hcontains]
    change List.find? _ (s.entries ++ [e]) = _
    rw [List.find?_append]
    by_cases hname : name = e.name
    · subst hname
      have hentries : s.entries.find? (fun old => old.name == e.name) = none := hnone
      simp [hentries]
    · have hlast : List.find? (fun old : Snippet => old.name == name) [e] = none := by
        simp [Ne.symm hname]
      rw [hlast, Option.or_none, if_neg hname]
      rfl

theorem reads_insert (s : Snippets) (e : Snippet) (name : String) :
    (s.insert e).reads name = if name = e.name then e.dependencies else s.reads name := by
  unfold reads
  rw [find?_insert]
  by_cases hname : name = e.name
  · simp [hname]
  · simp [hname]

/-- Saving a snippet changes no edge that starts at another name. -/
theorem readsFrom_insert_iff {s : Snippets} {e : Snippet} {name next : String}
    (hname : name ≠ e.name) : (s.insert e).ReadsFrom name next ↔ s.ReadsFrom name next := by
  unfold ReadsFrom
  rw [reads_insert, if_neg hname]

theorem mem_entries_insert {s : Snippets} {e old : Snippet} (hmem : old ∈ (s.insert e).entries) :
    old = e ∨ old ∈ s.entries := by
  unfold insert at hmem
  split at hmem
  · obtain ⟨before, hbefore, hold⟩ := List.mem_map.1 hmem
    by_cases hname : before.name = e.name
    · left
      simpa [hname] using hold.symm
    · right
      rw [if_neg hname] at hold
      exact hold ▸ hbefore
  · rcases List.mem_append.1 hmem with hold | hold
    · exact Or.inr hold
    · exact Or.inl (List.mem_singleton.1 hold)

theorem contains_iff_mem_names (s : Snippets) (name : String) :
    s.contains name = true ↔ name ∈ s.names := by
  simp [contains, find?, names, List.find?_isSome]

theorem names_insert (s : Snippets) (e : Snippet) :
    (s.insert e).names = if s.contains e.name then s.names else s.names ++ [e.name] := by
  unfold insert
  split
  · simp only [names, List.map_map]
    apply List.map_congr_left
    intro old _
    by_cases hold : old.name = e.name
    · simp [hold]
    · simp [hold]
  · simp [names]

/-- The snippets without the one saved under a name. -/
def without (s : Snippets) (name : String) : Snippets :=
  ⟨s.entries.filter fun old => old.name != name⟩

theorem find?_without (s : Snippets) (removed name : String) :
    (s.without removed).find? name = if name = removed then none else s.find? name := by
  unfold without find?
  rw [List.find?_filter]
  by_cases hname : name = removed
  · subst hname
    simp
  · rw [if_neg hname]
    congr 1
    funext old
    by_cases hold : old.name = name
    · simp [hold, hname]
    · simp [hold]

theorem readsFrom_of_without {s : Snippets} {removed name next : String}
    (hstep : (s.without removed).ReadsFrom name next) : s.ReadsFrom name next := by
  unfold ReadsFrom reads at hstep ⊢
  rw [find?_without] at hstep
  by_cases hname : name = removed
  · simp [hname] at hstep
  · simpa [hname] using hstep

/-! ## What an edit does -/

theorem checkDependencies_eq_ok_iff (names : List String) :
    checkDependencies names = .ok () ↔ ∀ name ∈ names, hasHyphen name = false := by
  simp [checkDependencies]

/-- A snippet is saved exactly when no name has a hyphen and the name is not among what its
dependencies need. The check that it is not a dependency itself is a case of this. -/
theorem store_eq_ok_iff {s s' : Snippets} {name body : String} {dependencies : List String} :
    s.store name body dependencies = .ok s' ↔
      hasHyphen name = false ∧ (∀ d ∈ dependencies, hasHyphen d = false) ∧
        ¬ s.Needs dependencies name ∧ s' = s.insert ⟨name, body, dependencies⟩ := by
  unfold store
  by_cases hname : hasHyphen name = true
  · simp [hname]
  · rw [if_neg hname]
    cases hcheck : checkDependencies dependencies with
    | error f =>
      have hhyphen : ¬ ∀ d ∈ dependencies, hasHyphen d = false := by
        rw [← checkDependencies_eq_ok_iff, hcheck]
        simp
      simp only [reduceCtorEq, false_iff]
      rintro ⟨-, hdeps, -⟩
      exact hhyphen hdeps
    | ok u =>
      have hdeps := (checkDependencies_eq_ok_iff dependencies).1 hcheck
      by_cases hself : name ∈ dependencies
      · have hneeds : s.Needs dependencies name := needs_of_mem hself
        simp [hself, hneeds]
      · by_cases hneeds : s.Needs dependencies name
        · have hreaches := (reaches_eq_true_iff s dependencies name).2 hneeds
          simp [hself, hreaches, hneeds]
        · have hreaches : ¬ s.reaches dependencies name = true :=
            fun h => hneeds ((reaches_eq_true_iff s dependencies name).1 h)
          simp only [List.contains_eq_mem, hself, decide_false, Bool.false_eq_true, if_false,
            hreaches, Except.ok.injEq]
          constructor
          · intro hs
            exact ⟨by simpa using hname, hdeps, hneeds, hs.symm⟩
          · rintro ⟨-, -, -, hs⟩
            exact hs.symm

theorem get_eq_ok_iff {s : Snippets} {name : String} {e : Snippet} :
    s.get name = .ok e ↔ s.find? name = some e := by
  constructor
  · exact find?_of_get
  · intro hfind
    have hentries : s.entries ≠ [] := by
      intro hnil
      have hmem := (mem_of_find? hfind).1
      rw [hnil] at hmem
      cases hmem
    simp [get, hfind, hentries]

theorem remove_eq_ok_iff {s s' : Snippets} {name : String} {e : Snippet} :
    s.remove name = .ok (e, s') ↔ s.find? name = some e ∧ s' = s.without name := by
  unfold remove
  cases hget : s.get name with
  | error f =>
    have hnot : s.find? name ≠ some e := by
      rw [← get_eq_ok_iff.ne, hget]
      simp
    simp [hnot]
  | ok found =>
    have hfind := get_eq_ok_iff.1 hget
    simp only [hfind, Except.ok.injEq, Prod.mk.injEq, Option.some.injEq]
    constructor
    · rintro ⟨hfound, hs⟩
      exact ⟨hfound, hs.symm⟩
    · rintro ⟨hfound, hs⟩
      exact ⟨hfound, hs.symm⟩

/-! ## The invariant -/

/-- What holds of all snippets that can be saved. -/
structure Sound (s : Snippets) : Prop where
  /-- No two snippets have one name. -/
  distinct : s.names.Nodup
  /-- No hyphen stands in the name of a snippet or of what it reads from. -/
  unhyphenated : ∀ e ∈ s.entries, hasHyphen e.name = false ∧
    ∀ d ∈ e.dependencies, hasHyphen d = false
  /-- No way along edges leads from a name back to it, whether the names on it are saved or not. -/
  acyclic : ∀ name, ¬ TransGen s.ReadsFrom name name

theorem sound_empty : Sound {} where
  distinct := List.nodup_nil
  unhyphenated := by
    intro e hmem
    cases hmem
  acyclic := by
    intro name hcycle
    obtain ⟨next, hstep, -⟩ := TransGen.head'_iff.1 hcycle
    cases hstep

/-- Two relations with the same edges from all names but one have the same ways to that name: until it
arrives, a way uses only edges of other names. -/
theorem reflTransGen_iff_of_edges {R R' : String → String → Prop} {goal : String}
    (hedges : ∀ name next, name ≠ goal → (R name next ↔ R' name next)) {start : String} :
    ReflTransGen R start goal ↔ ReflTransGen R' start goal := by
  have htransfer : ∀ {S S' : String → String → Prop},
      (∀ name next, name ≠ goal → S name next → S' name next) →
      ReflTransGen S start goal → ReflTransGen S' start goal := by
    intro S S' hsteps hway
    induction hway using ReflTransGen.head_induction_on with
    | refl => exact ReflTransGen.refl
    | @head name next hstep _ ih =>
      by_cases hname : name = goal
      · exact hname ▸ ReflTransGen.refl
      · exact ReflTransGen.head (hsteps name next hname hstep) ih
  exact ⟨htransfer fun name next hname => (hedges name next hname).1,
    htransfer fun name next hname => (hedges name next hname).2⟩

/-- The saved name is needed after saving it where it was needed before. -/
theorem needs_insert_iff {s : Snippets} {e : Snippet} {names : List String} :
    (s.insert e).Needs names e.name ↔ s.Needs names e.name := by
  unfold Needs
  refine exists_congr fun root => and_congr_right fun _ => reflTransGen_iff_of_edges ?_
  exact fun name next hname => readsFrom_insert_iff hname

/-- A way in snippets with one more is an old way or passes the new name. -/
theorem transGen_insert {s : Snippets} {e : Snippet} {start goal : String}
    (hway : TransGen (s.insert e).ReadsFrom start goal) :
    TransGen s.ReadsFrom start goal ∨
      ReflTransGen (s.insert e).ReadsFrom start e.name ∧
        TransGen (s.insert e).ReadsFrom e.name goal := by
  induction hway with
  | @single next hstep =>
    by_cases hname : start = e.name
    · subst hname
      exact Or.inr ⟨ReflTransGen.refl, TransGen.single hstep⟩
    · exact Or.inl (TransGen.single ((readsFrom_insert_iff hname).1 hstep))
  | @tail middle next hfirst hstep ih =>
    by_cases hname : middle = e.name
    · subst hname
      exact Or.inr ⟨hfirst.to_reflTransGen, TransGen.single hstep⟩
    · rcases ih with hold | ⟨hto, hfrom⟩
      · exact Or.inl (hold.tail ((readsFrom_insert_iff hname).1 hstep))
      · exact Or.inr ⟨hto, hfrom.tail hstep⟩

theorem acyclic_insert {s : Snippets} {e : Snippet}
    (hacyclic : ∀ name, ¬ TransGen s.ReadsFrom name name)
    (hfree : ¬ s.Needs e.dependencies e.name) (name : String) :
    ¬ TransGen (s.insert e).ReadsFrom name name := by
  intro hcycle
  rcases transGen_insert hcycle with hold | ⟨hto, hfrom⟩
  · exact hacyclic name hold
  · -- Turned round, the cycle starts and ends at the new name.
    have hself : TransGen (s.insert e).ReadsFrom e.name e.name := hfrom.trans_left hto
    obtain ⟨first, hstep, hlead⟩ := TransGen.head'_iff.1 hself
    have hfirst : first ∈ e.dependencies := by
      unfold ReadsFrom at hstep
      rwa [reads_insert, if_pos rfl] at hstep
    exact hfree (needs_insert_iff.1 ⟨first, hfirst, hlead⟩)

theorem Sound.store {s s' : Snippets} {name body : String} {dependencies : List String}
    (hsound : s.Sound) (hstore : s.store name body dependencies = .ok s') : s'.Sound := by
  obtain ⟨hname, hdeps, hfree, rfl⟩ := store_eq_ok_iff.1 hstore
  refine ⟨?_, ?_, acyclic_insert hsound.acyclic hfree⟩
  · rw [names_insert]
    split
    · exact hsound.distinct
    · next hnew =>
      have hnotin : name ∉ s.names := by
        rwa [← contains_iff_mem_names]
      exact List.nodup_append_comm.1 (by simpa using ⟨hnotin, hsound.distinct⟩)
  · intro e hmem
    rcases mem_entries_insert hmem with rfl | hold
    · exact ⟨hname, hdeps⟩
    · exact hsound.unhyphenated e hold

theorem Sound.without {s : Snippets} (hsound : s.Sound) (name : String) :
    (s.without name).Sound where
  distinct := hsound.distinct.sublist (List.Sublist.map _ List.filter_sublist)
  unhyphenated := fun e hmem => hsound.unhyphenated e (List.mem_of_mem_filter hmem)
  acyclic := by
    intro start hcycle
    have hsub : (s.without name).ReadsFrom ≤ s.ReadsFrom := fun _ _ => readsFrom_of_without
    exact hsound.acyclic start (TransGen.mono hsub start start hcycle)

/-- In sound snippets the entries are exactly what is found, each under its own name. -/
theorem Sound.find?_eq_some_iff {s : Snippets} (hsound : s.Sound) {name : String} {e : Snippet} :
    s.find? name = some e ↔ e ∈ s.entries ∧ e.name = name := by
  constructor
  · exact mem_of_find?
  · rintro ⟨hmem, rfl⟩
    cases hfind : s.find? e.name with
    | none =>
      have htest := List.find?_eq_none.1 hfind e hmem
      simp at htest
    | some found =>
      obtain ⟨hfound, hsame⟩ := mem_of_find? hfind
      rw [List.inj_on_of_nodup_map hsound.distinct hfound hmem hsame]

/-! ## Runs of edits -/

/-- A call that may change the snippets. -/
inductive Edit where
  | save (name body : String) (dependencies : List String)
  | remove (name : String)

/-- The snippets after an edit. One that is refused changes nothing. -/
def edit (s : Snippets) : Edit → Snippets
  | .save name body dependencies =>
    match s.store name body dependencies with
    | .ok s' => s'
    | .error _ => s
  | .remove name =>
    match s.remove name with
    | .ok (_, s') => s'
    | .error _ => s

/-- The snippets after some edits, starting with none saved. -/
def afterEdits (edits : List Edit) : Snippets :=
  edits.foldl edit {}

theorem Sound.edit {s : Snippets} (hsound : s.Sound) (change : Edit) :
    (s.edit change).Sound := by
  cases change with
  | save name body dependencies =>
    cases hstore : s.store name body dependencies with
    | error f => simpa only [Snippets.edit, hstore] using hsound
    | ok s' => simpa only [Snippets.edit, hstore] using hsound.store hstore
  | remove name =>
    cases hremove : s.remove name with
    | error f => simpa only [Snippets.edit, hremove] using hsound
    | ok result =>
      obtain ⟨e, s'⟩ := result
      have hs : s' = s.without name := (remove_eq_ok_iff.1 hremove).2
      simpa only [Snippets.edit, hremove, hs] using hsound.without name

theorem sound_afterEdits (edits : List Edit) : (afterEdits edits).Sound := by
  have hrun : ∀ s : Snippets, s.Sound → (edits.foldl edit s).Sound := by
    induction edits with
    | nil => exact fun s hsound => hsound
    | cons change rest ih => exact fun s hsound => ih _ (hsound.edit change)
  exact hrun {} sound_empty

end Snippets
end SqlCells
