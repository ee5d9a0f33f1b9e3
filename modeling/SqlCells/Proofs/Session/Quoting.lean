import SqlCells.Proofs.Command.Assembly
import SqlCells.Proofs.Registry.Requests
import SqlCells.Proofs.Snippets.Rendering
import SqlCells.Database.Mock
import SqlCells.Session

/-!
# Quoting and the selected connection

A command on top of snippets is rendered while it is read, in the quoting of the connection that is
current at that time, and only then selects the connection on which it runs.  The text that reaches the
selected client is the one its dialect asks for exactly when the two quotings agree.
-/

namespace SqlCells

open Effects

namespace Snippets

/-- Quotes add two characters to the text of each snippet in a chain. -/
theorem length_joinWith_backtick (sep : List Char) (chain : List Snippet) :
    (Text.joinWith sep (chain.map (definitionText .backtick))).length =
      (Text.joinWith sep (chain.map (definitionText .bare))).length + 2 * chain.length := by
  have hone : ∀ e : Snippet, (definitionText .backtick e).length =
      (definitionText .bare e).length + 2 := by
    intro e
    simp [definitionText, NameQuoting.quote]
    omega
  induction chain with
  | nil => rfl
  | cons first rest ih =>
    cases rest with
    | nil => simpa [Text.joinWith] using hone first
    | cons second rest =>
      simp only [List.map_cons, Text.joinWith, List.length_append, List.length_cons] at ih ⊢
      rw [ih, hone first]
      omega

theorem length_chainText_backtick (chain : List Snippet) (query : String) :
    (chainText .backtick chain query).length =
      (chainText .bare chain query).length + 2 * chain.length := by
  unfold chainText
  rw [String.length_ofList, String.length_ofList, List.length_append, List.length_append,
    List.length_append, List.length_append, length_joinWith_backtick]
  omega

/-- A chain of at least one snippet shows how it is quoted. -/
theorem chainText_inj {q q' : NameQuoting} {chain : List Snippet} {query : String}
    (hne : chain ≠ []) (htext : chainText q chain query = chainText q' chain query) : q = q' := by
  have hpos : 0 < chain.length := List.length_pos_of_ne_nil hne
  have hlength := length_chainText_backtick chain query
  cases q with
  | bare =>
    cases q' with
    | bare => rfl
    | backtick =>
      rw [htext] at hlength
      omega
  | backtick =>
    cases q' with
    | bare =>
      rw [htext] at hlength
      omega
    | backtick => rfl

/-- Rendering on top of at least one name gives one text in two quotings only if they are the same. -/
theorem render_eq_render_iff {s : Snippets} {query text : String} {names : List String}
    {q q' : NameQuoting} (hne : names ≠ []) (hrender : s.render query names q = .ok text) :
    s.render query names q' = .ok text ↔ q = q' := by
  constructor
  · intro hrender'
    obtain ⟨-, chain, hresolve, hfound, htext⟩ := (render_eq_ok_iff hne).1 hrender
    obtain ⟨-, chain', hresolve', hfound', htext'⟩ := (render_eq_ok_iff hne).1 hrender'
    have hnames : chain'.map Snippet.name = chain.map Snippet.name := by
      rw [hresolve'] at hresolve
      exact Except.ok.inj hresolve
    obtain rfl := eq_of_names_eq hfound' hfound hnames
    have hnonempty : chain' ≠ [] := by
      rintro rfl
      obtain ⟨name, hname⟩ := List.exists_mem_of_ne_nil names hne
      have hmem := ((collected_of_resolve hresolve).mem name).2 (Or.inr (needs_of_mem hname))
      cases hmem
    exact chainText_inj hnonempty (htext.symm.trans htext')
  · rintro rfl
    exact hrender

end Snippets

namespace Command

/-- Of all that reading a command does, one step makes its SQL from its own text. -/
theorem compose_of_parse {ctx : Command.Context} {header body : String} {p : Command.Parsed}
    (hparse : Command.parse ctx header body = .ok p) :
    Command.compose ctx p.args p.sqlOriginal = .ok p.sql := by
  obtain ⟨parts, h⟩ := parse_eq_ok_iff.1 hparse
  exact h.sql

/-- The SQL of a command that names snippets is its own text rendered on top of them, as the connection
quotes that is current while the command is read. -/
theorem render_of_parse {ctx : Command.Context} {header body : String} {p : Command.Parsed}
    (hparse : Command.parse ctx header body = .ok p) (hwith : p.args.withSnippets ≠ []) :
    ctx.snippets.render p.sqlOriginal p.args.withSnippets ctx.quoting = .ok p.sql := by
  have hcompose := compose_of_parse hparse
  have hnonempty : ¬ p.args.withSnippets.isEmpty = true := by simpa using hwith
  unfold Command.compose at hcompose
  rwa [if_neg hnonempty] at hcompose

end Command

namespace Session

theorem eq_with_snippets_of_saveSnippet {p : Command.Parsed} {s s' : Session}
    (hsave : (saveSnippet p).run.run s = (.ok (), s')) : ∃ snippets, s' = { s with snippets } := by
  unfold saveSnippet at hsave
  split at hsave
  · cases hsave
    exact ⟨s.snippets, rfl⟩
  · obtain ⟨now, middle, hget, hsave⟩ := of_run_bind_ok hsave
    cases hget
    obtain ⟨snippets, middle, hstore, hsave⟩ := of_run_bind_ok hsave
    rw [run_lift] at hstore
    obtain ⟨-, rfl⟩ := Prod.mk.inj hstore
    cases hsave
    exact ⟨snippets, rfl⟩

theorem prepare_eq_ready {p : Command.Parsed} {s s' : Session} {notices : List String}
    (hprepare : (prepare p).run.run s = (.ok (.ready notices), s')) :
    ∃ selected, (selectConnection p).run.run s = (.ok notices, selected) ∧
      ∃ snippets, s' = { selected with snippets } := by
  unfold prepare at hprepare
  obtain ⟨now, middle, hget, hprepare⟩ := of_run_bind_ok hprepare
  cases hget
  dsimp only at hprepare
  split at hprepare
  · obtain ⟨_, _, hthrow, -⟩ := of_run_bind_ok hprepare
    cases hthrow
  · split at hprepare
    · cases hprepare
    · split at hprepare
      · obtain ⟨_, _, -, hprepare⟩ := of_run_bind_ok hprepare
        cases hprepare
      · obtain ⟨selectNotices, selected, hselect, hprepare⟩ := of_run_bind_ok hprepare
        split at hprepare
        · obtain ⟨_, _, -, hprepare⟩ := of_run_bind_ok hprepare
          cases hprepare
        · -- Blank SQL is run as it is; other SQL may be saved first.
          split at hprepare
          · obtain ⟨now, middle, hget, hprepare⟩ := of_run_bind_ok hprepare
            cases hget
            split at hprepare
            · cases hprepare
            · cases hprepare
              exact ⟨_, hselect, _, rfl⟩
          · obtain ⟨_, saved, hsave, hprepare⟩ := of_run_bind_ok hprepare
            split at hprepare
            · cases hprepare
            · cases hprepare
              exact ⟨selected, hselect, eq_with_snippets_of_saveSnippet hsave⟩

theorem run_onDesk {α : Type} (change : Registry.Desk → Except Fault (α × Registry.Desk))
    (s : Session) :
    (onDesk change).run.run s = match change s.desk with
      | .ok (a, d) => (.ok a, s.withDesk d)
      | .error f => (.error f, s) :=
  rfl

/-- A command that names no connection stays on the current one while any is open. -/
theorem eq_of_selectConnection {p : Command.Parsed} {s s' : Session} {notices : List String}
    (hnone : p.connection = none) (hopen : s.registry.connections ≠ [])
    (hselect : (selectConnection p).run.run s = (.ok notices, s')) : s' = s := by
  unfold selectConnection at hselect
  obtain ⟨now, middle, hget, hselect⟩ := of_run_bind_ok hselect
  cases hget
  obtain ⟨creator, middle, hcreator, hselect⟩ := of_run_bind_ok hselect
  obtain ⟨-, rfl⟩ := Prod.mk.inj hcreator
  have hdesk : s.desk.registry.connections ≠ [] := hopen
  have hstays : ∀ options, s.changeConnection p options s.desk =
      .ok ((if s.config.settings.displaycon then some s.desk.registry.listing else none).toList,
        s.desk) := by
    intro options
    unfold changeConnection
    rw [hnone]
    dsimp only
    rw [Registry.selectDefault_of_open hdesk]
    rfl
  rw [run_onDesk, hstays] at hselect
  exact (Prod.mk.inj hselect).2.symm

theorem run_talk {α : Type} (id : ClientId) (t : Talk α) (s : Session) :
    (talk id t).run.run s =
      ((s.clients.talk id (.error s.registry.noConnection) t).1,
        { s with clients := (s.clients.talk id (.error s.registry.noConnection) t).2 }) :=
  rfl

/-- Running the SQL of a command is one conversation with the client of the current connection, about
the text of the command as it was read. -/
theorem runSql_clients {p : Command.Parsed} {s : Session} {notices : List String} {c : Connection}
    (hcurrent : s.registry.currentConnection? = some c) :
    ((runSql p notices).run.run s).2.clients =
      (s.clients.talk c.client (.error s.registry.noConnection) (Execution.run
        { settings := s.config.settings, name := c.name
          hasMeta := (s.clients.dialect c.client).caps.metaCommands } p.sql.toList)).2 := by
  have hrequire : s.registry.requireCurrent = .ok c := by
    unfold Registry.requireCurrent
    rw [hcurrent]
  unfold runSql
  rw [run_bind, run_get]
  dsimp only
  rw [hrequire, run_bind, run_lift]
  dsimp only
  rw [run_bind, run_tryCatch_throw, run_talk]
  generalize s.clients.talk c.client _ _ = conversation
  rcases conversation with ⟨result, clients⟩
  cases result with
  | error f => rfl
  | ok execution => rfl

theorem execute_of_ready {header body : String} {p : Command.Parsed} {s s' : Session}
    {notices : List String} (hparse : s.parse header body = .ok p)
    (hprepare : (prepare p).run.run s = (.ok (.ready notices), s')) :
    (execute header body).run.run s = (runSql p notices).run.run s' := by
  unfold execute
  rw [run_bind, run_get]
  dsimp only
  rw [hparse, run_bind, run_lift]
  dsimp only
  unfold runParsed
  rw [run_bind, hprepare]

/-! ## The text that is run -/

/-- What is run on the selected client is the command's own SQL on top of the snippets it names, quoted
as the connection asks that was current before the command. So it is quoted as the selected connection
asks exactly when both ask for the same quoting, as they do for a command that names no connection
while one is open. -/
theorem executed_text_quoted_iff {header body : String} {p : Command.Parsed} {s s' : Session}
    {notices : List String} {c : Connection} (hparse : s.parse header body = .ok p)
    (hwith : p.args.withSnippets ≠ [])
    (hready : (prepare p).run.run s = (.ok (.ready notices), s'))
    (hcurrent : s'.registry.currentConnection? = some c) :
    ((execute header body).run.run s).2.clients =
      (s'.clients.talk c.client (.error s'.registry.noConnection) (Execution.run
        { settings := s'.config.settings, name := c.name
          hasMeta := (s'.clients.dialect c.client).caps.metaCommands } p.sql.toList)).2 ∧
    s.snippets.render p.sqlOriginal p.args.withSnippets s.quoting = .ok p.sql ∧
    (s.snippets.render p.sqlOriginal p.args.withSnippets
        (s'.clients.dialect c.client).nameQuoting = .ok p.sql ↔
      s.quoting = (s'.clients.dialect c.client).nameQuoting) ∧
    (p.connection = none → s.registry.connections ≠ [] →
      s.quoting = (s'.clients.dialect c.client).nameQuoting) := by
  have hrender := Command.render_of_parse hparse hwith
  refine ⟨?_, hrender, Snippets.render_eq_render_iff hwith hrender, ?_⟩
  · rw [execute_of_ready hparse hready]
    exact runSql_clients hcurrent
  · intro hnone hopen
    obtain ⟨selected, hselect, snippets, rfl⟩ := prepare_eq_ready hready
    have hsame := eq_of_selectConnection hnone hopen hselect
    subst hsame
    -- Saving a snippet may have come between, but it leaves the connections alone.
    have hbefore : selected.registry.currentConnection? = some c := hcurrent
    unfold quoting
    rw [hbefore]

/-- A session with one snippet and two open connections that quote differently; the one with backticks
is current. -/
def twoDialects : Session where
  registry :=
    { connections :=
        [⟨"my", "my", "mock://mysql", some "my", 0⟩, ⟨"pg", "pg", "mock://postgresql", some "pg", 1⟩]
      current := some "my" }
  clients := ⟨[(Mock.ofUrl "mock://mysql").client, (Mock.ofUrl "mock://postgresql").client]⟩
  snippets := ⟨[⟨"x", "SELECT 1", []⟩]⟩

/-- The same session on its other connection. -/
def twoDialectsOnPg : Session :=
  { twoDialects with registry := { twoDialects.registry with current := some "pg" } }

/-- A command on the other connection, on top of the snippet, as it is read in that session. -/
def selectOnPg : Command.Parsed where
  connection := some (.key "pg")
  sql := "WITH `x` AS (SELECT 1) SELECT * FROM x"
  sqlOriginal := "SELECT * FROM x"
  resultVar := none
  returnsResult := false
  arguments := []
  args := { line := ["pg"], withSnippets := ["x"] }

theorem render_twoDialects (q : NameQuoting) :
    twoDialects.snippets.render "SELECT * FROM x" ["x"] q =
      .ok (Snippets.chainText q [⟨"x", "SELECT 1", []⟩] "SELECT * FROM x") :=
  Snippets.render_one "SELECT 1" "SELECT * FROM x" q (by decide +kernel)

theorem parse_twoDialects :
    twoDialects.parse "pg --with x" "SELECT * FROM x" = .ok selectOnPg := by
  refine Command.parse_eq_ok_iff.2 ⟨{ sql := "SELECT * FROM x".toList }, ?_⟩
  constructor
  · rfl
  · decide +kernel
  · decide +kernel
  · decide +kernel
  · exact render_twoDialects .backtick
  all_goals rfl

theorem prepare_twoDialects :
    (prepare selectOnPg).run.run twoDialects = (.ok (.ready []), twoDialectsOnPg) := by
  rfl

/-- The other connection is sent backticks although its dialect has none: the text is not the one that
the snippets render for it. -/
theorem backticks_sent_to_postgresql :
    twoDialects.parse "pg --with x" "SELECT * FROM x" = .ok selectOnPg ∧
      (((execute "pg --with x" "SELECT * FROM x").run.run twoDialects).2.clients.all.map
        fun c => Call.executed c.calls) = [[], ["WITH `x` AS (SELECT 1) SELECT * FROM x"]] ∧
      (twoDialects.clients.dialect 1).nameQuoting = .bare ∧
      twoDialects.snippets.render selectOnPg.sqlOriginal selectOnPg.args.withSnippets .bare =
        .ok "WITH x AS (SELECT 1) SELECT * FROM x" := by
  refine ⟨parse_twoDialects, ?_, by decide +kernel, render_twoDialects .bare⟩
  rw [execute_of_ready parse_twoDialects prepare_twoDialects]
  decide +kernel

theorem executed_text_quoted_iff_twoDialects :
    selectOnPg.args.withSnippets ≠ [] ∧
      (twoDialects.snippets.render selectOnPg.sqlOriginal selectOnPg.args.withSnippets
          (twoDialectsOnPg.clients.dialect 1).nameQuoting = .ok selectOnPg.sql ↔
        twoDialects.quoting = (twoDialectsOnPg.clients.dialect 1).nameQuoting) := by
  have hwith : selectOnPg.args.withSnippets ≠ [] := by decide
  obtain ⟨-, -, hquoted, -⟩ := executed_text_quoted_iff
    (c := ⟨"pg", "pg", "mock://postgresql", some "pg", 1⟩)
    parse_twoDialects hwith prepare_twoDialects rfl
  exact ⟨hwith, hquoted⟩

end Session

end SqlCells
