import SqlCells.Proofs.Snippets.Agreement
import SqlCells.Proofs.Session.Saving

/-!
# Saving and rendering again

Saving a snippet changes the snippets between two renderings of the same text: once when the command
that saves it is read, and again when the snippet is asked for.  Both give the same, also where an older
snippet was overwritten, because nothing that the saved text needs is its own name.  Every other snippet
that does not need that name renders as before.
-/

namespace SqlCells
namespace Session

open Snippets

/-- The SQL of a command is its own text rendered on top of the snippets it names, also if it names
none. -/
theorem render_of_parse {s : Session} {header body : String} {p : Command.Parsed}
    (hparse : s.parse header body = .ok p) :
    s.snippets.render p.sqlOriginal p.args.withSnippets s.quoting = .ok p.sql := by
  by_cases hwith : p.args.withSnippets = []
  · have hcompose := Command.compose_of_parse hparse
    unfold Command.compose at hcompose
    rw [hwith] at hcompose ⊢
    rw [render_nil]
    exact hcompose
  · exact Command.render_of_parse hparse hwith

/-- After a save, the saved snippet renders exactly to what its text rendered to before it, in every
quoting, and every snippet that does not need the saved name renders exactly to what it did.  So what a
command was rendered to while it was read is what the snippet saved by it renders to, as the connection
quotes that was current then. -/
theorem store_renders_as_composed {s s' : Snippets} {name body : String}
    {dependencies : List String} (hstore : s.store name body dependencies = .ok s') (q : NameQuoting) :
    (∀ text, s'.renderSnippet name q = .ok text ↔ s.render body dependencies q = .ok text) ∧
    (∀ other, (s'.Needs [other] name ↔ s.Needs [other] name) ∧ (¬ s.Needs [other] name →
      ∀ text, s'.renderSnippet other q = .ok text ↔ s.renderSnippet other q = .ok text)) ∧
    ∀ (session : Session) (header line : String) (p : Command.Parsed), session.snippets = s →
      session.parse header line = .ok p → p.sqlOriginal = body →
      p.args.withSnippets = dependencies → s'.renderSnippet name session.quoting = .ok p.sql := by
  obtain ⟨-, -, hfree, rfl⟩ := store_eq_ok_iff.1 hstore
  have hself : ∀ (quoting : NameQuoting) (text : String),
      (s.insert ⟨name, body, dependencies⟩).renderSnippet name quoting = .ok text ↔
        s.render body dependencies quoting = .ok text :=
    fun quoting text => renderSnippet_insert_self (e := ⟨name, body, dependencies⟩) hfree
  refine ⟨hself q, ?_, ?_⟩
  · intro other
    exact ⟨needs_insert_iff (e := ⟨name, body, dependencies⟩),
      fun hother text => renderSnippet_insert_other (e := ⟨name, body, dependencies⟩) hother⟩
  · rintro session header line p rfl hparse rfl rfl
    exact (hself _ _).2 (render_of_parse hparse)

/-- Two snippets of which neither reads from the other. -/
def unrelated : Snippets :=
  ⟨[⟨"x", "SELECT 1", []⟩, ⟨"y", "SELECT 2", []⟩]⟩

/-- The same with the second saved anew on top of the first. -/
def related : Snippets :=
  ⟨[⟨"x", "SELECT 1", []⟩, ⟨"y", "SELECT * FROM x", ["x"]⟩]⟩

theorem store_renders_as_composed_overwriting :
    unrelated.store "y" "SELECT * FROM x" ["x"] = .ok related ∧
      ¬ unrelated.Needs ["x"] "y" ∧
      related.renderSnippet "y" .bare = .ok "WITH x AS (SELECT 1) SELECT * FROM x" ∧
      related.renderSnippet "x" .bare = .ok "SELECT 1" := by
  have hstore : unrelated.store "y" "SELECT * FROM x" ["x"] = .ok related := by cbv
  have hfree : ¬ unrelated.Needs ["x"] "y" := by
    have hreach : unrelated.reaches ["x"] "y" = false := by cbv
    rw [← reaches_eq_true_iff, hreach]
    exact Bool.false_ne_true
  have hrender : unrelated.render "SELECT * FROM x" ["x"] .bare =
      .ok "WITH x AS (SELECT 1) SELECT * FROM x" := by cbv
  have hother : unrelated.renderSnippet "x" .bare = .ok "SELECT 1" := by cbv
  obtain ⟨hself, hothers, -⟩ := store_renders_as_composed hstore .bare
  exact ⟨hstore, hfree, (hself _).2 hrender, ((hothers "x").2 hfree _).2 hother⟩

end Session
end SqlCells
