import SqlCells.Proofs.Snippets.Rendering

/-!
# Snippets that agree on what is needed

What some names render to depends on the snippets they need and on no other: snippets that have the
same under each of those names resolve them to the same chain and define it in the same words.  Saving
is an instance.  A snippet can only be saved under a name that its dependencies do not need, so whatever
did not need that name before renders as before, and the saved snippet renders to what its text was
rendered to before it was saved.
-/

namespace SqlCells
namespace Snippets

open Relation

/-- Other snippets are found under each name that some names need as they are in these. -/
def Agrees (s t : Snippets) (names : List String) : Prop :=
  ∀ name, s.Needs names name → t.find? name = s.find? name

section Agrees

variable {s t : Snippets} {names : List String}

theorem Agrees.mono {fewer : List String} (h : s.Agrees t names)
    (hsub : ∀ name, s.Needs fewer name → s.Needs names name) : s.Agrees t fewer :=
  fun name hneeds => h name (hsub name hneeds)

theorem Agrees.tail {name : String} (h : s.Agrees t (name :: names)) : s.Agrees t names :=
  h.mono fun _ hneeds => needs_cons.2 (Or.inr hneeds)

/-- What is found under the first name is the same, and what it reads from is agreed on. -/
theorem Agrees.head {name : String} {e : Snippet} (h : s.Agrees t (name :: names))
    (hget : s.get name = .ok e) : t.get name = .ok e ∧ s.Agrees t e.dependencies := by
  have hfind := find?_of_get hget
  constructor
  · rw [get_eq_ok_iff, h name (needs_of_mem List.mem_cons_self), hfind]
  · exact h.mono fun _ hneeds => (needs_cons_of_find? hfind).2 (Or.inr (Or.inl hneeds))

/-- Agreement goes both ways: along a way in the other snippets every name is needed here. -/
theorem Agrees.symm (h : s.Agrees t names) : t.Agrees s names := by
  have hneeds : ∀ name, t.Needs names name → s.Needs names name := by
    rintro name ⟨root, hroot, hlead⟩
    -- From the root on: the name before the last edge is needed here too, so both sides read the same
    -- from it.
    induction hlead with
    | refl => exact needs_of_mem hroot
    | @tail middle next _ hstep ih =>
      have hsame : s.reads middle = t.reads middle := by
        unfold reads
        rw [h middle ih]
      obtain ⟨start, hstart, hway⟩ := ih
      refine ⟨start, hstart, hway.tail ?_⟩
      unfold ReadsFrom at hstep ⊢
      rwa [hsame]
  exact fun name hname => (h name (hneeds name hname)).symm

end Agrees

/-! ## Chains -/

theorem collect_cons_of_ok {s : Snippets} {path before middle rest : List String} {name : String}
    {e : Snippet} (hpath : ¬ path.contains name = true) (hget : s.get name = .ok e)
    (hdeps : s.collect (path ++ [name]) before e.dependencies = .ok middle) :
    s.collect path before (name :: rest) = s.collect path (appendNew middle name) rest := by
  rw [collect, dif_neg hpath]
  split
  · next f hf => rw [hget] at hf; cases hf
  · next e' he' =>
    rw [hget] at he'
    obtain rfl := Except.ok.inj he'
    rw [hdeps]

section Agrees

variable {s t : Snippets} {names : List String}

theorem Agrees.collect {path before after : List String} (h : s.Agrees t names)
    (hcollect : s.collect path before names = .ok after) :
    t.collect path before names = .ok after := by
  -- Along the run itself: the names it looks up are the first ones of lists that are agreed on, and the
  -- lists it goes on with are agreed on again.
  fun_induction Snippets.collect s path before names generalizing after with
  | case1 =>
    rw [Snippets.collect]
    exact hcollect
  | case2 => cases hcollect
  | case3 => cases hcollect
  | case4 => cases hcollect
  | case5 path before name rest hpath e hget middle hdeps ihDeps ihRest =>
    obtain ⟨hget', hreads⟩ := h.head hget
    rw [collect_cons_of_ok hpath hget' (ihDeps hreads hdeps)]
    exact ihRest h.tail hcollect

theorem Agrees.collectRoots {before after : List String} (h : s.Agrees t names)
    (hcollect : s.collectRoots before names = .ok after) :
    t.collectRoots before names = .ok after := by
  fun_induction Snippets.collectRoots s before names with
  | case1 => exact hcollect
  | case2 => cases hcollect
  | case3 => cases hcollect
  | case4 before name rest e hget middle hdeps ih =>
    obtain ⟨hget', hreads⟩ := h.head hget
    rw [Snippets.collectRoots, hget']
    dsimp only
    rw [hreads.collect hdeps]
    exact ih h.tail hcollect

theorem Agrees.resolve {chain : List String} (h : s.Agrees t names)
    (hresolve : s.resolve names = .ok chain) : t.resolve names = .ok chain := by
  unfold Snippets.resolve at hresolve ⊢
  cases hroots : s.collectRoots [] names with
  | error f =>
    rw [hroots] at hresolve
    cases hresolve
  | ok ordered =>
    rw [hroots] at hresolve
    rw [h.collectRoots hroots]
    exact hresolve

theorem Agrees.render {query text : String} {q : NameQuoting} (h : s.Agrees t names)
    (hrender : s.render query names q = .ok text) : t.render query names q = .ok text := by
  by_cases hne : names = []
  · rw [hne, render_nil] at hrender ⊢
    exact hrender
  · obtain ⟨hhyphen, chain, hresolve, hfound, htext⟩ := (render_eq_ok_iff hne).1 hrender
    refine (render_eq_ok_iff hne).2 ⟨hhyphen, chain, h.resolve hresolve, ?_, htext⟩
    intro e he
    -- A snippet of the chain is there because its name is needed.
    have hmem : e.name ∈ chain.map Snippet.name := List.mem_map.2 ⟨e, he, rfl⟩
    have hneeds : s.Needs names e.name := by
      simpa using ((collected_of_resolve hresolve).mem e.name).1 hmem
    rw [h e.name hneeds, hfound e he]

/-- Agreeing snippets render the same texts. -/
theorem Agrees.render_iff {query text : String} {q : NameQuoting} (h : s.Agrees t names) :
    t.render query names q = .ok text ↔ s.render query names q = .ok text :=
  ⟨h.symm.render, h.render⟩

end Agrees

/-! ## Saving -/

theorem renderSnippet_eq_ok_iff {s : Snippets} {name text : String} {q : NameQuoting} :
    s.renderSnippet name q = .ok text ↔
      ∃ e, s.find? name = some e ∧ s.render e.body e.dependencies q = .ok text := by
  unfold renderSnippet
  constructor
  · intro hrender
    cases hget : s.get name with
    | error f =>
      rw [hget] at hrender
      cases hrender
    | ok e =>
      rw [hget] at hrender
      exact ⟨e, find?_of_get hget, hrender⟩
  · rintro ⟨e, hfind, hrender⟩
    rw [get_eq_ok_iff.2 hfind]
    exact hrender

/-- Saving changes nothing for names that do not need the saved one. -/
theorem agrees_insert {s : Snippets} {e : Snippet} {names : List String}
    (hfree : ¬ s.Needs names e.name) : s.Agrees (s.insert e) names := by
  intro name hneeds
  have hne : name ≠ e.name := by
    rintro rfl
    exact hfree hneeds
  rw [find?_insert, if_neg hne]

theorem renderSnippet_insert_self {s : Snippets} {e : Snippet} {text : String} {q : NameQuoting}
    (hfree : ¬ s.Needs e.dependencies e.name) :
    (s.insert e).renderSnippet e.name q = .ok text ↔
      s.render e.body e.dependencies q = .ok text := by
  rw [renderSnippet_eq_ok_iff, find?_insert, if_pos rfl, ← (agrees_insert hfree).render_iff]
  simp

theorem renderSnippet_insert_other {s : Snippets} {e : Snippet} {other text : String}
    {q : NameQuoting} (hfree : ¬ s.Needs [other] e.name) :
    (s.insert e).renderSnippet other q = .ok text ↔ s.renderSnippet other q = .ok text := by
  have hother : (s.insert e).find? other = s.find? other :=
    agrees_insert hfree other (needs_of_mem List.mem_cons_self)
  rw [renderSnippet_eq_ok_iff, renderSnippet_eq_ok_iff, hother]
  refine exists_congr fun found => and_congr_right fun hfind => ?_
  have hreads : ¬ s.Needs found.dependencies e.name := fun hneeds =>
    hfree ((needs_cons_of_find? hfind).2 (Or.inr (Or.inl hneeds)))
  exact (agrees_insert hreads).render_iff

end Snippets
end SqlCells
