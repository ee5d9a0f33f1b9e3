import SqlCells.Proofs.Snippets.Chain

/-!
# Rendering on top of snippets

What a query rendered on top of snippets looks like, and when rendering is refused.  For snippets that
were saved and removed one after another, in whatever order and with whatever refusals in between,
rendering succeeds exactly when everything needed is saved, defines each needed name once and after all
it reads from, and is never refused because of a cycle.
-/

namespace SqlCells
namespace Snippets

open Relation

/-- How one snippet is defined at the front of a query. -/
def definitionText (q : NameQuoting) (e : Snippet) : List Char :=
  q.quote e.name.toList ++ " AS (".toList ++ e.body.toList ++ [')']

/-- A query behind the definitions of some snippets. -/
def chainText (q : NameQuoting) (chain : List Snippet) (query : String) : String :=
  String.ofList ("WITH ".toList ++ Text.joinWith [',', ' '] (chain.map (definitionText q)) ++ ' ' ::
    query.toList)

/-- The refusal of a name that is not saved. -/
def Missing (s : Snippets) (name : String) (f : Fault) : Prop :=
  s.contains name = false ∧ (f = .noSnippets ∨ ∃ close, f = .unknownSnippet name close s.names)

theorem missing_of_get {s : Snippets} {name : String} {f : Fault} (hget : s.get name = .error f) :
    s.Missing name f := by
  have hnone : s.find? name = none := by
    cases hfind : s.find? name with
    | none => rfl
    | some e =>
      rw [get_eq_ok_iff.2 hfind] at hget
      cases hget
  refine ⟨by simp [contains, hnone], ?_⟩
  unfold get at hget
  split at hget
  · cases hget
    exact Or.inl rfl
  · rw [hnone] at hget
    cases hget
    exact Or.inr ⟨_, rfl⟩

theorem Missing.ne_circularChain {s : Snippets} {name : String} {f : Fault}
    (hmissing : s.Missing name f) (path : List String) : f ≠ .circularChain path := by
  rcases hmissing.2 with rfl | ⟨close, rfl⟩
  · simp
  · simp

theorem exists_snippets_of_saved {s : Snippets} {names : List String}
    (hsaved : ∀ name ∈ names, s.contains name = true) :
    ∃ chain : List Snippet, chain.map Snippet.name = names ∧
      ∀ e ∈ chain, s.find? e.name = some e := by
  induction names with
  | nil => exact ⟨[], rfl, fun e he => absurd he List.not_mem_nil⟩
  | cons name rest ih =>
    obtain ⟨chain, hnames, hfound⟩ := ih fun n hn => hsaved n (List.mem_cons_of_mem _ hn)
    obtain ⟨e, hfind⟩ := Option.isSome_iff_exists.1 (hsaved name List.mem_cons_self)
    have hname := (mem_of_find? hfind).2
    refine ⟨e :: chain, by simp [hname, hnames], ?_⟩
    intro found hmem
    rcases List.mem_cons.1 hmem with rfl | hmem
    · rwa [hname]
    · exact hfound found hmem

/-- Snippets that are found under their names are told apart by them. -/
theorem eq_of_names_eq {s : Snippets} {chain chain' : List Snippet}
    (hfound : ∀ e ∈ chain, s.find? e.name = some e)
    (hfound' : ∀ e ∈ chain', s.find? e.name = some e)
    (hnames : chain.map Snippet.name = chain'.map Snippet.name) : chain = chain' := by
  have hlookup : ∀ l : List Snippet, (∀ e ∈ l, s.find? e.name = some e) →
      l.map some = (l.map Snippet.name).map s.find? := by
    intro l hl
    rw [List.map_map]
    exact List.map_congr_left fun e he => (hl e he).symm
  have hsame : chain.map some = chain'.map some := by
    rw [hlookup chain hfound, hlookup chain' hfound', hnames]
  exact List.map_injective_iff.2 (Option.some_injective _) hsame

theorem mapM_definition {s : Snippets} {chain : List Snippet} (q : NameQuoting)
    (hfound : ∀ e ∈ chain, s.find? e.name = some e) :
    (chain.map Snippet.name).mapM (s.definition q) = .ok (chain.map (definitionText q)) := by
  induction chain with
  | nil => rfl
  | cons e rest ih =>
    have hget : s.get e.name = .ok e := get_eq_ok_iff.2 (hfound e List.mem_cons_self)
    have hdefinition : s.definition q e.name = .ok (definitionText q e) := by
      simp [definition, hget, definitionText]
    rw [List.map_cons, List.mapM_cons, hdefinition,
      ih fun found hmem => hfound found (List.mem_cons_of_mem _ hmem)]
    rfl

theorem render_nil (s : Snippets) (query : String) (q : NameQuoting) :
    s.render query [] q = .ok query := by
  rfl

theorem render_of_hyphen {s : Snippets} {query : String} {names : List String} {q : NameQuoting}
    (hhyphen : ∃ name ∈ names, hasHyphen name = true) :
    s.render query names q = .error (.hyphenInDependencies names) := by
  have hany : names.any hasHyphen = true := by simpa using hhyphen
  have hcheck : checkDependencies names = .error (.hyphenInDependencies names) := by
    simp [checkDependencies, hany]
  unfold render
  rw [hcheck]

/-- Rendering fails where the search for what is needed does, and otherwise puts the definitions of
what was found in front. -/
theorem render_of_resolve {s : Snippets} {names : List String} (query : String) (q : NameQuoting)
    (hne : names ≠ []) (hhyphen : ∀ name ∈ names, hasHyphen name = false) :
    (∀ f, s.resolve names = .error f → s.render query names q = .error f) ∧
    ∀ resolved, s.resolve names = .ok resolved →
      ∃ chain : List Snippet, chain.map Snippet.name = resolved ∧
        (∀ e ∈ chain, s.find? e.name = some e) ∧
        s.render query names q = .ok (chainText q chain query) := by
  have hcheck := (checkDependencies_eq_ok_iff names).2 hhyphen
  have hnonempty : ¬ names.isEmpty = true := by simpa using hne
  constructor
  · intro f hresolve
    unfold render
    rw [hcheck, hresolve]
    exact if_neg hnonempty
  · intro resolved hresolve
    have hcollected := collected_of_resolve hresolve
    have hsaved : ∀ name ∈ resolved, s.contains name = true := by
      intro name hname
      rcases (hcollected.mem name).1 hname with hnil | hneeds
      · cases hnil
      · exact hcollected.saved name hneeds
    obtain ⟨chain, hnames, hfound⟩ := exists_snippets_of_saved hsaved
    refine ⟨chain, hnames, hfound, ?_⟩
    have hdefinitions := mapM_definition q hfound
    rw [hnames] at hdefinitions
    unfold render
    rw [hcheck, hresolve]
    simp only [if_neg hnonempty, hdefinitions]
    rfl

/-- Rendering succeeds where no name has a hyphen and the search for what is needed succeeds. -/
theorem render_eq_ok_iff {s : Snippets} {query text : String} {names : List String}
    {q : NameQuoting} (hne : names ≠ []) :
    s.render query names q = .ok text ↔
      (∀ name ∈ names, hasHyphen name = false) ∧
        ∃ chain : List Snippet, s.resolve names = .ok (chain.map Snippet.name) ∧
          (∀ e ∈ chain, s.find? e.name = some e) ∧ text = chainText q chain query := by
  constructor
  · intro hrender
    by_cases hhyphen : ∃ name ∈ names, hasHyphen name = true
    · rw [render_of_hyphen hhyphen] at hrender
      cases hrender
    · have hfree : ∀ name ∈ names, hasHyphen name = false := by simpa using hhyphen
      obtain ⟨hfails, hworks⟩ := render_of_resolve query q hne hfree
      cases hresolve : s.resolve names with
      | error f =>
        rw [hfails f hresolve] at hrender
        cases hrender
      | ok resolved =>
        obtain ⟨chain, rfl, hfound, hok⟩ := hworks resolved hresolve
        rw [hok] at hrender
        exact ⟨hfree, chain, rfl, hfound, (Except.ok.inj hrender).symm⟩
  · rintro ⟨hfree, chain, hresolve, hfound, rfl⟩
    obtain ⟨chain', hnames, hfound', hok⟩ :=
      (render_of_resolve query q hne hfree).2 _ hresolve
    rw [hok, eq_of_names_eq hfound' hfound hnames]

theorem render_error {s : Snippets} {query : String} {names : List String} {q : NameQuoting}
    {f : Fault} (hacyclic : ∀ name, ¬ TransGen s.ReadsFrom name name)
    (hrender : s.render query names q = .error f) :
    (f = .hyphenInDependencies names ∧ ∃ name ∈ names, hasHyphen name = true) ∨
      ∃ name, s.Needs names name ∧ s.Missing name f := by
  by_cases hhyphen : ∃ name ∈ names, hasHyphen name = true
  · left
    rw [render_of_hyphen hhyphen] at hrender
    cases hrender
    exact ⟨rfl, hhyphen⟩
  · right
    have hfree : ∀ name ∈ names, hasHyphen name = false := by simpa using hhyphen
    by_cases hne : names = []
    · rw [hne, render_nil] at hrender
      cases hrender
    · obtain ⟨hfails, hworks⟩ := render_of_resolve query q hne hfree
      cases hresolve : s.resolve names with
      | error g =>
        rw [hfails g hresolve] at hrender
        cases hrender
        obtain ⟨name, hneeds, hget⟩ := get_error_of_resolve hacyclic hresolve
        exact ⟨name, hneeds, missing_of_get hget⟩
      | ok resolved =>
        obtain ⟨chain, -, -, hok⟩ := hworks resolved hresolve
        rw [hok] at hrender
        cases hrender

theorem quote_injective (q : NameQuoting) : Function.Injective q.quote := by
  intro first second hsame
  cases q with
  | bare => exact hsame
  | backtick =>
    have htails := (List.cons.inj hsame).2
    exact List.append_cancel_right htails

/-- A text that is rendered on top of some names defines each snippet of their chain once, and after all
it reads from. -/
theorem chain_of_render {s : Snippets} {query text : String} {names : List String} {q : NameQuoting}
    (hne : names ≠ []) (hrender : s.render query names q = .ok text) :
    ∃ chain : List Snippet, text = chainText q chain query ∧
      s.resolve names = .ok (chain.map Snippet.name) ∧
      (chain.map fun e => q.quote e.name.toList).Nodup ∧
      ∀ before e after, chain = before ++ e :: after →
        s.find? e.name = some e ∧ ∀ d ∈ e.dependencies, d ∈ before.map Snippet.name := by
  obtain ⟨-, chain, hresolve, hfound, htext⟩ := (render_eq_ok_iff hne).1 hrender
  have hchain := (collected_of_resolve hresolve).chain (chain_nil s)
  refine ⟨chain, htext, hresolve, ?_, ?_⟩
  · have hquoted : (chain.map fun e => q.quote e.name.toList) =
        (chain.map Snippet.name).map fun name => q.quote name.toList := by
      rw [List.map_map]
      rfl
    rw [hquoted]
    refine hchain.distinct.map ?_
    intro first second hsame
    exact String.toList_injective (quote_injective q hsame)
  · intro before e after hsplit
    have hfind := hfound e (hsplit ▸ List.mem_append_right _ List.mem_cons_self)
    refine ⟨hfind, ?_⟩
    have hnames : chain.map Snippet.name =
        before.map Snippet.name ++ e.name :: after.map Snippet.name := by
      rw [hsplit, List.map_append, List.map_cons]
    intro d hd
    refine hchain.ordered _ _ _ hnames d ?_
    rwa [reads_of_find? hfind]

/-! ## Sound stores -/

section Sound

variable {s : Snippets} {names : List String} {f : Fault}

/-- Resolving fails only at a needed name that is not saved. -/
theorem Sound.missing_of_resolve (hsound : s.Sound) (hf : s.resolve names = .error f) :
    ∃ name, s.Needs names name ∧ s.Missing name f := by
  obtain ⟨name, hneeds, hget⟩ := get_error_of_resolve hsound.acyclic hf
  exact ⟨name, hneeds, missing_of_get hget⟩

theorem Sound.missing_of_renderSnippet (hsound : s.Sound) {name : String} {q : NameQuoting}
    (hf : s.renderSnippet name q = .error f) :
    ∃ needed, s.Needs [name] needed ∧ s.Missing needed f := by
  unfold renderSnippet at hf
  cases hget : s.get name with
  | error g =>
    rw [hget] at hf
    cases hf
    exact ⟨name, needs_of_mem List.mem_cons_self, missing_of_get hget⟩
  | ok e =>
    rw [hget] at hf
    have hfind := find?_of_get hget
    rcases render_error hsound.acyclic hf with ⟨-, d, hd, hhyphen⟩ | ⟨needed, hneeds, hmissing⟩
    · -- What a saved snippet reads from has been checked for hyphens.
      have hfree := (hsound.unhyphenated e (mem_of_find? hfind).1).2 d hd
      rw [hfree] at hhyphen
      cases hhyphen
    · exact ⟨needed, (needs_cons_of_find? hfind).2 (Or.inr (Or.inl hneeds)), hmissing⟩

theorem Sound.resolves_iff (hsound : s.Sound) :
    (∃ resolved, s.resolve names = .ok resolved) ↔
      ∀ name, s.Needs names name → s.contains name = true := by
  constructor
  · rintro ⟨resolved, hresolve⟩
    exact (collected_of_resolve hresolve).saved
  · intro hsaved
    cases hresolve : s.resolve names with
    | ok resolved => exact ⟨resolved, rfl⟩
    | error f =>
      obtain ⟨name, hneeds, hmissing⟩ := hsound.missing_of_resolve hresolve
      have hnone := hmissing.1
      rw [hsaved name hneeds] at hnone
      cases hnone

/-- Names that are saved have no hyphen. -/
theorem Sound.not_hasHyphen (hsound : s.Sound)
    (hsaved : ∀ name, s.Needs names name → s.contains name = true) :
    ∀ name ∈ names, hasHyphen name = false := by
  intro name hname
  obtain ⟨e, hfind⟩ := Option.isSome_iff_exists.1 (hsaved name (needs_of_mem hname))
  obtain ⟨hmem, rfl⟩ := mem_of_find? hfind
  exact (hsound.unhyphenated e hmem).1

theorem Sound.renders_iff (hsound : s.Sound) (query : String) (q : NameQuoting) :
    (∃ text, s.render query names q = .ok text) ↔
      ∀ name, s.Needs names name → s.contains name = true := by
  by_cases hne : names = []
  · have hnil : ∀ name, ¬ s.Needs names name := by
      rw [hne]
      exact not_needs_nil s
    rw [hne, render_nil, ← hne]
    exact ⟨fun _ name hneeds => absurd hneeds (hnil name), fun _ => ⟨query, rfl⟩⟩
  · constructor
    · rintro ⟨text, hrender⟩
      obtain ⟨-, chain, hresolve, -⟩ := (render_eq_ok_iff hne).1 hrender
      exact hsound.resolves_iff.1 ⟨_, hresolve⟩
    · intro hsaved
      obtain ⟨resolved, hresolve⟩ := hsound.resolves_iff.2 hsaved
      obtain ⟨chain, -, -, hok⟩ :=
        (render_of_resolve query q hne (hsound.not_hasHyphen hsaved)).2 resolved hresolve
      exact ⟨_, hok⟩

end Sound

/-! ## One snippet -/

/-- The snippets after saving one that reads from nothing. -/
theorem afterEdits_one {name : String} (body : String) (hname : hasHyphen name = false) :
    afterEdits [.save name body []] = ⟨[⟨name, body, []⟩]⟩ := by
  have hreach : ({} : Snippets).reaches [] name = false := by
    rw [reaches, walk]
  have hstore : ({} : Snippets).store name body [] = .ok ⟨[⟨name, body, []⟩]⟩ := by
    simp [store, hname, hreach, checkDependencies, insert, contains, find?]
  change edit {} (.save name body []) = _
  rw [edit, hstore]

theorem resolve_one (name body : String) :
    (⟨[⟨name, body, []⟩]⟩ : Snippets).resolve [name] = .ok [name] := by
  have hget : (⟨[⟨name, body, []⟩]⟩ : Snippets).get name = .ok ⟨name, body, []⟩ := by
    simp [get, find?]
  rw [resolve, collectRoots, hget]
  dsimp only
  rw [collect]
  rfl

theorem render_one {name : String} (body query : String) (q : NameQuoting)
    (hname : hasHyphen name = false) :
    (⟨[⟨name, body, []⟩]⟩ : Snippets).render query [name] q =
      .ok (chainText q [⟨name, body, []⟩] query) := by
  refine (render_eq_ok_iff (by simp)).2 ⟨by simpa using hname, [⟨name, body, []⟩],
    resolve_one name body, ?_, rfl⟩
  intro e he
  obtain rfl := List.mem_singleton.1 he
  simp [find?]

/-! ## Snippets after any edits -/

/-- Whatever has been saved and removed, each name has one snippet, no name has a hyphen, and no name
leads back to itself. So requests are refused only because of a hyphen or a name that is not saved, and
never because of a cycle. -/
theorem afterEdits_never_circular (edits : List Edit) :
    let s := afterEdits edits
    (∀ name e, s.find? name = some e ↔ e ∈ s.entries ∧ e.name = name) ∧
    (∀ e ∈ s.entries, hasHyphen e.name = false ∧ ∀ d ∈ e.dependencies, hasHyphen d = false) ∧
    (∀ name, ¬ TransGen s.ReadsFrom name name) ∧
    (∀ names f, s.resolve names = .error f → ∃ name, s.Needs names name ∧ s.Missing name f) ∧
    (∀ query names q f, s.render query names q = .error f →
      (f = .hyphenInDependencies names ∧ ∃ name ∈ names, hasHyphen name = true) ∨
        ∃ name, s.Needs names name ∧ s.Missing name f) ∧
    (∀ name q f, s.renderSnippet name q = .error f →
      ∃ needed, s.Needs [name] needed ∧ s.Missing needed f) ∧
    ∀ path, (∀ names, s.resolve names ≠ .error (.circularChain path)) ∧
      (∀ query names q, s.render query names q ≠ .error (.circularChain path)) ∧
      ∀ name q, s.renderSnippet name q ≠ .error (.circularChain path) := by
  intro s
  have hsound : s.Sound := sound_afterEdits edits
  refine ⟨fun name e => hsound.find?_eq_some_iff, hsound.unhyphenated, hsound.acyclic,
    fun names f => hsound.missing_of_resolve, fun query names q f => render_error hsound.acyclic,
    fun name q f => hsound.missing_of_renderSnippet, ?_⟩
  intro path
  refine ⟨?_, ?_, ?_⟩
  · intro names hcircular
    obtain ⟨name, -, hmissing⟩ := hsound.missing_of_resolve hcircular
    exact hmissing.ne_circularChain path rfl
  · intro query names q hcircular
    rcases render_error hsound.acyclic hcircular with ⟨hhyphen, -⟩ | ⟨name, -, hmissing⟩
    · cases hhyphen
    · exact hmissing.ne_circularChain path rfl
  · intro name q hcircular
    obtain ⟨needed, -, hmissing⟩ := hsound.missing_of_renderSnippet hcircular
    exact hmissing.ne_circularChain path rfl

/-- Whatever has been saved and removed, names resolve exactly when everything they need is saved, to a
list of just what they need, each name once and after all it reads from; rendering on top of them
succeeds in the same cases and defines the names in that order. -/
theorem afterEdits_resolve_dependencies_first (edits : List Edit) (names : List String) :
    let s := afterEdits edits
    ((∃ resolved, s.resolve names = .ok resolved) ↔
      ∀ name, s.Needs names name → s.contains name = true) ∧
    (∀ resolved, s.resolve names = .ok resolved →
      resolved.Nodup ∧ (∀ name, name ∈ resolved ↔ s.Needs names name) ∧
      ∀ before name after, resolved = before ++ name :: after →
        ∀ d ∈ s.reads name, d ∈ before) ∧
    (∀ query q, (∃ text, s.render query names q = .ok text) ↔
      ∀ name, s.Needs names name → s.contains name = true) ∧
    ∀ query q text, names ≠ [] → s.render query names q = .ok text →
      ∃ chain : List Snippet, text = chainText q chain query ∧
        s.resolve names = .ok (chain.map Snippet.name) ∧
        (chain.map fun e => q.quote e.name.toList).Nodup ∧
        ∀ before e after, chain = before ++ e :: after →
          s.find? e.name = some e ∧ ∀ d ∈ e.dependencies, d ∈ before.map Snippet.name := by
  intro s
  have hsound : s.Sound := sound_afterEdits edits
  refine ⟨hsound.resolves_iff, ?_, hsound.renders_iff, fun query q text => chain_of_render⟩
  intro resolved hresolve
  have hcollected := collected_of_resolve hresolve
  have hchain := hcollected.chain (chain_nil s)
  exact ⟨hchain.distinct, fun name => by simpa using hcollected.mem name, hchain.ordered⟩

end Snippets
end SqlCells
