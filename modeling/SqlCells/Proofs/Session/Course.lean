import SqlCells.Proofs.Session.Quoting

/-!
# How a command ends

A command that has been read ends in one of few ways.  Each way is listed once, with what led to it, what
the command answers and what it has made of the session by then: before its connection is selected as
`Course`, and from then on as `Finishes`.  What holds of all commands is proved by going through them.
-/

namespace SqlCells
namespace Session

open Effects

/-! ## Parts of a command -/

/-- The connections when a command has selected its own, behind the messages to print. -/
def selection (s : Session) (p : Command.Parsed) : Except Fault (List String × Registry.Desk) := do
  let creator ← s.creator p.args
  s.changeConnection p
    { arguments := p.arguments, aliasName := p.args.aliasName, creator, engines := s.engines } s.desk

/-- The table and the frame that a persisting command writes. -/
def persisted (s : Session) (p : Command.Parsed) : Except Fault (String × Frame) := do
  let name ← persistVariable p.sql
  let frame ← frameOf s.scope name
  let table ← Persist.tableName name
  .ok (table, frame)

/-- The snippets when a command has saved its SQL, if it has any and asks for that. -/
def saved (s : Session) (p : Command.Parsed) : Except Fault Snippets :=
  if Text.isAllBlank p.sql.toList then .ok s.snippets
  else
    match p.args.saveAs with
    | none => .ok s.snippets
    | some name => s.snippets.store name p.sqlOriginal p.args.withSnippets

/-- What SQL is run by on a connection of the session. -/
def executionContext (s : Session) (c : Connection) : Execution.Context where
  settings := s.config.settings
  name := c.name
  hasMeta := (s.clients.dialect c.client).caps.metaCommands

/-- The outcome of a conversation with the client of a connection, and the clients after it. -/
def converse {α : Type} (s : Session) (c : Connection) (t : Talk α) : Except Fault α × Clients :=
  s.clients.talk c.client (.error s.registry.noConnection) t

/-- What a command does once its connection is selected. -/
def work (p : Command.Parsed) (notices : List String) : Step Reply := do
  if p.args.wantsPersist then persist p notices
  else if Text.isAllBlank p.sql.toList then
    if (← get).registry.currentConnection?.isNone then return ⟨.nothing, notices⟩
    runSql p notices
  else
    saveSnippet p
    if p.args.noExecute then return ⟨.status "Skipping execution...", notices⟩
    runSql p notices

/-- What there is to bind and to show of an output that is a result: the result as a binding and as an
outcome, and its frame. -/
def product? : Output → Option (Binding × Outcome × Frame)
  | .status _ => none
  | .rows rs => some (.rows rs, .rows rs, rs.toFrame)
  | .frame f => some (.frame f, .frame f, f)

/-- How an output is bound: what is left to show of it, and the variables then. -/
inductive Routes (settings : Settings) (p : Command.Parsed) (scope : Variables) (output : Output) :
    Reply → Variables → Prop
  | status {text : String} (hstatus : output = .status text) :
      Routes settings p scope output ⟨.status text, []⟩ scope
  /-- Each column is bound to its own name. -/
  | columns (hsplit : settings.columnLocalVars = true) {b : Binding} {shown : Outcome} {f : Frame}
      (hproduct : product? output = some (b, shown, f)) :
      Routes settings p scope output
        ⟨.nothing, if settings.feedback then
          ["Returning data to local variables [" ++ Fault.commaList f.names ++ "]"] else []⟩
        (bindColumns scope f)
  | binds (hwhole : settings.columnLocalVars = false) {name : String}
      (hname : p.resultVar = some name) {b : Binding} {shown : Outcome} {f : Frame}
      (hproduct : product? output = some (b, shown, f)) :
      Routes settings p scope output ⟨if p.returnsResult then shown else .nothing, []⟩
        (scope.set name b)
  | shows (hwhole : settings.columnLocalVars = false) (hnone : p.resultVar = none) {b : Binding}
      {shown : Outcome} {f : Frame} (hproduct : product? output = some (b, shown, f)) :
      Routes settings p scope output ⟨shown, []⟩ scope

/-! ## The ways to end -/

/-- How a command ends once its connection is selected: its answer, and the session it leaves. -/
inductive Finishes (s : Session) (p : Command.Parsed) (notices : List String) :
    Except Fault Reply → Session → Prop
  /-- It names nothing that can be written to a table. -/
  | notPersistable (hpersist : p.args.wantsPersist = true) {f : Fault}
      (hjob : s.persisted p = .error f) : Finishes s p notices (.error f) s
  | persistStranded (hpersist : p.args.wantsPersist = true)
      (hnone : s.registry.currentConnection? = none) :
      Finishes s p notices (.error s.registry.noConnection) s
  | persists (hpersist : p.args.wantsPersist = true) {table : String} {frame : Frame}
      (hjob : s.persisted p = .ok (table, frame)) {c : Connection}
      (hcurrent : s.registry.currentConnection? = some c) {result : Except Fault (List String)}
      {clients : Clients}
      (htalk : s.converse c (Persist.writeFrame table frame (persistMode p.args).1
        (!p.args.noIndex)) = (result, clients)) :
      Finishes s p notices
        (result.map fun printed =>
          ⟨.status ("Persisted " ++ table), notices ++ (persistMode p.args).2 ++ printed⟩)
        { s with clients }
  /-- It has no SQL and there is nothing to report. -/
  | idle (hrun : p.args.wantsPersist = false) (hblank : Text.isAllBlank p.sql.toList = true)
      (hnone : s.registry.currentConnection? = none) :
      Finishes s p notices (.ok ⟨.nothing, notices⟩) s
  | notSaved (hrun : p.args.wantsPersist = false) {f : Fault} (hsaved : s.saved p = .error f) :
      Finishes s p notices (.error f) s
  /-- It saves its SQL at most. -/
  | skips (hrun : p.args.wantsPersist = false) (hsql : Text.isAllBlank p.sql.toList = false)
      {snippets : Snippets} (hsaved : s.saved p = .ok snippets)
      (hskip : p.args.noExecute = true) :
      Finishes s p notices (.ok ⟨.status "Skipping execution...", notices⟩) { s with snippets }
  | stranded (hrun : p.args.wantsPersist = false) (hsql : Text.isAllBlank p.sql.toList = false)
      {snippets : Snippets} (hsaved : s.saved p = .ok snippets)
      (hgoes : p.args.noExecute = false) (hnone : s.registry.currentConnection? = none) :
      Finishes s p notices (.error s.registry.noConnection) { s with snippets }
  | fails (hrun : p.args.wantsPersist = false)
      (hgoes : Text.isAllBlank p.sql.toList = true ∨ p.args.noExecute = false)
      {snippets : Snippets} (hsaved : s.saved p = .ok snippets) {c : Connection}
      (hcurrent : s.registry.currentConnection? = some c) {f : Fault} {clients : Clients}
      (htalk : s.converse c (Execution.run (s.executionContext c) p.sql.toList) =
        (.error f, clients)) :
      Finishes s p notices (.error (explain s.config.settings p.sql f))
        { s with snippets, clients }
  | succeeds (hrun : p.args.wantsPersist = false)
      (hgoes : Text.isAllBlank p.sql.toList = true ∨ p.args.noExecute = false)
      {snippets : Snippets} (hsaved : s.saved p = .ok snippets) {c : Connection}
      (hcurrent : s.registry.currentConnection? = some c) {execution : Execution}
      {clients : Clients}
      (htalk : s.converse c (Execution.run (s.executionContext c) p.sql.toList) =
        (.ok execution, clients)) {reply : Reply} {scope : Variables}
      (hroutes : Routes s.config.settings p s.scope execution.output reply scope) :
      Finishes s p notices
        (.ok ⟨reply.outcome, notices ++ execution.notices ++ reply.notices⟩)
        { s with snippets, clients, scope }

/-- How a command ends that has been read. -/
inductive Course (s : Session) (p : Command.Parsed) : Except Fault Reply → Session → Prop
  | interacts (hask : p.args.interact ≠ []) : Course s p (.error .interactUnavailable) s
  | lists (hplain : p.args.interact = []) (hask : p.args.connections = true) :
      Course s p (.ok ⟨.status s.registry.listing, []⟩) s
  | closes (hplain : p.args.interact = [] ∧ p.args.connections = false) {name : String}
      (hask : p.args.closeKey = some name) {d : Registry.Desk}
      (hclose : Registry.close name s.desk = .ok d) :
      Course s p (.ok ⟨.nothing, []⟩) (s.withDesk d)
  | notClosed (hplain : p.args.interact = [] ∧ p.args.connections = false) {name : String}
      (hask : p.args.closeKey = some name) {f : Fault}
      (hclose : Registry.close name s.desk = .error f) : Course s p (.error f) s
  | notSelected
      (hplain : p.args.interact = [] ∧ p.args.connections = false ∧ p.args.closeKey = none)
      {f : Fault} (hselect : s.selection p = .error f) : Course s p (.error f) s
  | selected
      (hplain : p.args.interact = [] ∧ p.args.connections = false ∧ p.args.closeKey = none)
      {notices : List String} {d : Registry.Desk} (hselect : s.selection p = .ok (notices, d))
      {result : Except Fault Reply} {s' : Session}
      (hfinishes : Finishes (s.withDesk d) p notices result s') : Course s p result s'

/-! ## Runs of the parts -/

variable {p : Command.Parsed} {s : Session}

theorem run_selectConnection (p : Command.Parsed) (s : Session) :
    (selectConnection p).run.run s = match s.selection p with
      | .ok (notices, d) => (.ok notices, s.withDesk d)
      | .error f => (.error f, s) := by
  unfold selectConnection selection
  rw [run_bind, run_get]
  dsimp only
  rw [run_bind, run_lift]
  cases s.creator p.args with
  | error f => rfl
  | ok creator =>
    dsimp only
    rw [ok_bind, run_onDesk]
    cases s.changeConnection p _ s.desk with
    | error f => rfl
    | ok changed => rfl

theorem run_saveSnippet (hsql : Text.isAllBlank p.sql.toList = false) :
    (saveSnippet p).run.run s = match s.saved p with
      | .ok snippets => (.ok (), { s with snippets })
      | .error f => (.error f, s) := by
  unfold saveSnippet saved
  rw [hsql, if_neg Bool.false_ne_true]
  cases p.args.saveAs with
  | none => rfl
  | some name =>
    dsimp only
    rw [run_bind, run_get]
    dsimp only
    rw [run_bind, run_lift]
    cases s.snippets.store name p.sqlOriginal p.args.withSnippets with
    | ok snippets => rfl
    | error f => rfl

theorem requireCurrent_of_none {r : Registry} (hnone : r.currentConnection? = none) :
    r.requireCurrent = .error r.noConnection := by
  unfold Registry.requireCurrent
  rw [hnone]

theorem requireCurrent_of_some {r : Registry} {c : Connection}
    (hcurrent : r.currentConnection? = some c) : r.requireCurrent = .ok c := by
  unfold Registry.requireCurrent
  rw [hcurrent]

theorem run_runSql_of_none (notices : List String)
    (hnone : s.registry.currentConnection? = none) :
    (runSql p notices).run.run s = (.error s.registry.noConnection, s) := by
  unfold runSql
  rw [run_bind, run_get]
  dsimp only
  rw [requireCurrent_of_none hnone, run_bind, run_lift]

theorem run_runSql_of_some (notices : List String) {c : Connection}
    (hcurrent : s.registry.currentConnection? = some c) :
    (runSql p notices).run.run s =
      match s.converse c (Execution.run (s.executionContext c) p.sql.toList) with
      | (.error f, clients) =>
        (.error (explain s.config.settings p.sql f), { s with clients })
      | (.ok execution, clients) =>
        let routed := route s.config.settings p s.scope execution.output
        (.ok ⟨routed.1.outcome, notices ++ execution.notices ++ routed.1.notices⟩,
          { s with clients, scope := routed.2 }) := by
  unfold runSql
  rw [run_bind, run_get]
  dsimp only
  rw [requireCurrent_of_some hcurrent, run_bind, run_lift]
  dsimp only
  rw [run_bind, run_tryCatch_throw, run_talk]
  unfold converse executionContext
  generalize s.clients.talk c.client _ _ = conversation
  rcases conversation with ⟨result, clients⟩
  cases result with
  | error f => rfl
  | ok execution => rfl

theorem run_persist (p : Command.Parsed) (notices : List String) (s : Session) :
    (persist p notices).run.run s = match s.persisted p with
      | .error f => (.error f, s)
      | .ok (table, frame) =>
        match s.registry.currentConnection? with
        | none => (.error s.registry.noConnection, s)
        | some c =>
          let conversation := s.converse c
            (Persist.writeFrame table frame (persistMode p.args).1 (!p.args.noIndex))
          (conversation.1.map fun printed =>
            ⟨.status ("Persisted " ++ table), notices ++ (persistMode p.args).2 ++ printed⟩,
            { s with clients := conversation.2 }) := by
  unfold persist persisted
  rw [run_bind, run_get]
  dsimp only
  -- The steps in front of the conversation may fail, and none of them changes the session.
  rw [run_bind, run_lift]
  cases persistVariable p.sql with
  | error f => rfl
  | ok name =>
    dsimp only
    rw [ok_bind, run_bind, run_lift]
    cases frameOf s.scope name with
    | error f => rfl
    | ok frame =>
      dsimp only
      rw [ok_bind, run_bind, run_lift]
      cases Persist.tableName name with
      | error f => rfl
      | ok table =>
        dsimp only
        rw [ok_bind, run_bind, run_lift]
        cases hcurrent : s.registry.currentConnection? with
        | none =>
          rw [requireCurrent_of_none hcurrent]
        | some c =>
          rw [requireCurrent_of_some hcurrent]
          dsimp only
          rw [run_bind, run_talk]
          unfold converse
          generalize s.clients.talk c.client _ _ = conversation
          rcases conversation with ⟨result, clients⟩
          cases result with
          | error f => rfl
          | ok printed => rfl

/-- A conversation that succeeds is one with a client of the session, and it is this client that it
leaves as it is then. -/
theorem exists_of_converse {α : Type} {c : Connection} {t : Talk α} {a : α} {clients : Clients}
    (htalk : s.converse c t = (.ok a, clients)) :
    ∃ client after, s.clients.get? c.client = some client ∧ t.run.run client = (.ok a, after) ∧
      clients = ⟨s.clients.all.set c.client after⟩ := by
  unfold converse Clients.talk at htalk
  cases hget : s.clients.get? c.client with
  | none =>
    rw [hget] at htalk
    cases htalk
  | some client =>
    rw [hget] at htalk
    obtain ⟨hresult, hclients⟩ := Prod.mk.inj htalk
    exact ⟨client, _, rfl, Prod.ext hresult rfl, hclients.symm⟩

/-- An output that is a result is bound as the settings say, whichever kind of result it is. -/
theorem routes_of_product {settings : Settings} {scope : Variables} {output : Output} {b : Binding}
    {shown : Outcome} {f : Frame} (hproduct : product? output = some (b, shown, f)) :
    Routes settings p scope output (route settings p scope output).1
      (route settings p scope output).2 := by
  have hroute : route settings p scope output =
      if settings.columnLocalVars then
        (⟨.nothing, if settings.feedback then
          ["Returning data to local variables [" ++ Fault.commaList f.names ++ "]"] else []⟩,
          bindColumns scope f)
      else p.resultVar.elim (⟨shown, []⟩, scope) fun name =>
        (⟨if p.returnsResult then shown else .nothing, []⟩, scope.set name b) := by
    unfold route
    cases output <;> cases hproduct <;> cases p.resultVar <;> rfl
  rw [hroute]
  cases hsplit : settings.columnLocalVars with
  | true => exact .columns hsplit hproduct
  | false =>
    rw [if_neg Bool.false_ne_true]
    cases hname : p.resultVar with
    | some name => exact .binds hsplit hname hproduct
    | none => exact .shows hsplit hname hproduct

theorem routes_route (settings : Settings) (p : Command.Parsed) (scope : Variables)
    (output : Output) :
    Routes settings p scope output (route settings p scope output).1
      (route settings p scope output).2 := by
  cases output with
  | status text => exact .status rfl
  | rows rs => exact routes_of_product rfl
  | frame f => exact routes_of_product rfl

/-! ## Every command ends in one of the ways -/

theorem finishes_persist (notices : List String) (hpersist : p.args.wantsPersist = true) :
    Finishes s p notices ((persist p notices).run.run s).1 ((persist p notices).run.run s).2 := by
  rw [run_persist]
  cases hjob : s.persisted p with
  | error f => exact .notPersistable hpersist hjob
  | ok job =>
    dsimp only
    cases hcurrent : s.registry.currentConnection? with
    | none => exact .persistStranded hpersist hcurrent
    | some c => exact .persists hpersist hjob hcurrent rfl

/-- Saving before the SQL is run changes nothing of what it is run by. -/
theorem finishes_runSql (notices : List String) (hrun : p.args.wantsPersist = false)
    (hgoes : Text.isAllBlank p.sql.toList = true ∨ p.args.noExecute = false)
    {snippets : Snippets} (hsaved : s.saved p = .ok snippets) {c : Connection}
    (hcurrent : s.registry.currentConnection? = some c) :
    Finishes s p notices ((runSql p notices).run.run { s with snippets }).1
      ((runSql p notices).run.run { s with snippets }).2 := by
  have hsame : Session.converse { s with snippets } c
      (Execution.run (Session.executionContext { s with snippets } c) p.sql.toList) =
        s.converse c (Execution.run (s.executionContext c) p.sql.toList) := rfl
  rw [run_runSql_of_some (s := { s with snippets }) notices hcurrent, hsame]
  rcases htalk : s.converse c (Execution.run (s.executionContext c) p.sql.toList) with
    ⟨result, clients⟩
  cases result with
  | error f => exact .fails hrun hgoes hsaved hcurrent htalk
  | ok execution =>
    exact .succeeds hrun hgoes hsaved hcurrent htalk (routes_route _ p s.scope execution.output)

theorem finishes_work (p : Command.Parsed) (notices : List String) (s : Session) :
    Finishes s p notices ((work p notices).run.run s).1 ((work p notices).run.run s).2 := by
  unfold work
  cases hpersist : p.args.wantsPersist with
  | true =>
    rw [if_pos rfl]
    exact finishes_persist notices hpersist
  | false =>
    rw [if_neg Bool.false_ne_true]
    cases hblank : Text.isAllBlank p.sql.toList with
    | true =>
      -- Nothing is saved of blank SQL, but it is run where there is a connection.
      have hsaved : s.saved p = .ok s.snippets := by
        unfold saved
        rw [hblank, if_pos rfl]
      rw [if_pos rfl, run_bind, run_get]
      dsimp only
      cases hcurrent : s.registry.currentConnection? with
      | none => exact .idle hpersist hblank hcurrent
      | some c =>
        exact finishes_runSql notices hpersist (Or.inl hblank) hsaved hcurrent
    | false =>
      rw [if_neg Bool.false_ne_true, run_bind, run_saveSnippet hblank]
      cases hsaved : s.saved p with
      | error f => exact .notSaved hpersist hsaved
      | ok snippets =>
        dsimp only
        cases hskip : p.args.noExecute with
        | true => exact .skips hpersist hblank hsaved hskip
        | false =>
          rw [if_neg Bool.false_ne_true]
          cases hcurrent : s.registry.currentConnection? with
          | none =>
            rw [run_runSql_of_none (s := { s with snippets }) notices hcurrent]
            exact .stranded hpersist hblank hsaved hskip hcurrent
          | some c =>
            exact finishes_runSql notices hpersist (Or.inr hskip) hsaved hcurrent

/-- A command that asks for nothing else selects its connection and does its work. -/
theorem run_runParsed_of_plain
    (hplain : p.args.interact = [] ∧ p.args.connections = false ∧ p.args.closeKey = none) :
    (runParsed p).run.run s = match s.selection p with
      | .ok (notices, d) => (work p notices).run.run (s.withDesk d)
      | .error f => (.error f, s) := by
  obtain ⟨hinteract, hconnections, hclose⟩ := hplain
  unfold runParsed prepare
  rw [run_bind, run_bind, run_get]
  dsimp only
  rw [hinteract, hconnections, hclose, if_neg (by simp), if_neg Bool.false_ne_true]
  dsimp only
  rw [run_bind, run_selectConnection]
  cases s.selection p with
  | error f => rfl
  | ok selected =>
    obtain ⟨notices, d⟩ := selected
    dsimp only
    unfold work
    -- From here on both take the same decisions, and a command that is ready goes on to its SQL.
    cases p.args.wantsPersist with
    | true =>
      rw [if_pos rfl, if_pos rfl, run_bind]
      rcases (persist p notices).run.run (s.withDesk d) with ⟨result, s'⟩
      cases result with
      | error f => rfl
      | ok reply => rfl
    | false =>
      rw [if_neg Bool.false_ne_true, if_neg Bool.false_ne_true]
      cases Text.isAllBlank p.sql.toList with
      | true =>
        rw [if_pos rfl, if_pos rfl, run_bind, run_bind, run_get]
        dsimp only
        cases (s.withDesk d).registry.currentConnection?.isNone with
        | true => rfl
        | false => rfl
      | false =>
        rw [if_neg Bool.false_ne_true, if_neg Bool.false_ne_true, run_bind, run_bind]
        rcases (saveSnippet p).run.run (s.withDesk d) with ⟨result, s'⟩
        cases result with
        | error f => rfl
        | ok _ =>
          cases p.args.noExecute with
          | true => rfl
          | false => rfl

theorem run_runParsed_of_close
    (hplain : p.args.interact = [] ∧ p.args.connections = false) {name : String}
    (hask : p.args.closeKey = some name) :
    (runParsed p).run.run s = match Registry.close name s.desk with
      | .ok d => (.ok ⟨.nothing, []⟩, s.withDesk d)
      | .error f => (.error f, s) := by
  obtain ⟨hinteract, hconnections⟩ := hplain
  unfold runParsed prepare
  rw [run_bind, run_bind, run_get]
  dsimp only
  rw [hinteract, hconnections, hask, if_neg (by simp), if_neg Bool.false_ne_true]
  dsimp only
  rw [run_bind, run_onDesk]
  cases Registry.close name s.desk with
  | error f => rfl
  | ok d => rfl

theorem course_runParsed (p : Command.Parsed) (s : Session) :
    Course s p ((runParsed p).run.run s).1 ((runParsed p).run.run s).2 := by
  -- In the order in which a command is asked what it wants, up to the first answer.
  by_cases hinteract : p.args.interact = []
  · cases hconnections : p.args.connections with
    | true =>
      have hrun : (runParsed p).run.run s = (.ok ⟨.status s.registry.listing, []⟩, s) := by
        unfold runParsed prepare
        rw [run_bind, run_bind, run_get]
        dsimp only
        rw [hinteract, hconnections]
        rfl
      rw [hrun]
      exact .lists hinteract hconnections
    | false =>
      cases hclose : p.args.closeKey with
      | some name =>
        rw [run_runParsed_of_close ⟨hinteract, hconnections⟩ hclose]
        cases hdesk : Registry.close name s.desk with
        | error f => exact .notClosed ⟨hinteract, hconnections⟩ hclose hdesk
        | ok d => exact .closes ⟨hinteract, hconnections⟩ hclose hdesk
      | none =>
        have hplain := And.intro hinteract (And.intro hconnections hclose)
        rw [run_runParsed_of_plain hplain]
        cases hselect : s.selection p with
        | error f => exact .notSelected hplain hselect
        | ok selected => exact .selected hplain hselect (finishes_work p selected.1 _)
  · have hrun : (runParsed p).run.run s = (.error .interactUnavailable, s) := by
      have hask : (!p.args.interact.isEmpty) = true := by simpa using hinteract
      unfold runParsed prepare
      rw [run_bind, run_bind, run_get]
      dsimp only
      rw [if_pos hask]
      rfl
    rw [hrun]
    exact .interacts hinteract

/-- A command that cannot be read changes nothing, and one that is read takes one of the courses. -/
theorem execute_cases (s : Session) (header body : String) :
    (∃ f, s.parse header body = .error f ∧ (execute header body).run.run s = (.error f, s)) ∨
    ∃ p, s.parse header body = .ok p ∧ Course s p ((execute header body).run.run s).1
      ((execute header body).run.run s).2 := by
  unfold execute
  rw [run_bind, run_get]
  dsimp only
  rw [run_bind, run_lift]
  cases hparse : s.parse header body with
  | error f => exact Or.inl ⟨f, rfl, rfl⟩
  | ok p => exact Or.inr ⟨p, rfl, course_runParsed p s⟩

end Session
end SqlCells
