import SqlCells.Proofs.Session.Bindings
import SqlCells.Proofs.Session.Recipient

/-!
# Refused transactions

A command whose SQL opens a transaction is refused before any call on a client, but not before it has
selected its connection and saved its SQL: these come first, as for every command that runs SQL.  So a
refusal leaves exactly the selected connection and the saved snippet behind, and nothing where the command
names no connection and saves nothing.
-/

namespace SqlCells

open Effects

/-- Every client of a table has a driver that never refuses a transaction itself. -/
def Clients.RefuseNothing (cs : Clients) : Prop :=
  ∀ id client, cs.get? id = some client → client.driver.RefusesNothing

namespace Session

variable {s : Session} {p : Command.Parsed}

/-! ## Faults that are no refusals -/

theorem ne_of_persisted_error {f : Fault} (hjob : s.persisted p = .error f) :
    f ≠ .transactionsUnsupported := by
  unfold persisted at hjob
  cases hname : persistVariable p.sql with
  | error g =>
    rw [hname] at hjob
    obtain rfl := Except.error.inj hjob
    unfold persistVariable at hname
    dsimp only at hname
    split at hname
    · exact Except.error.inj hname ▸ nofun
    · split at hname
      · cases hname
      · exact Except.error.inj hname ▸ nofun
  | ok name =>
    rw [hname, ok_bind] at hjob
    cases hframe : frameOf s.scope name with
    | error g =>
      rw [hframe] at hjob
      obtain rfl := Except.error.inj hjob
      unfold frameOf at hframe
      split at hframe
      case h_1 | h_5 => exact Except.error.inj hframe ▸ nofun
      all_goals cases hframe
    | ok frame =>
      rw [hframe, ok_bind] at hjob
      cases htable : Persist.tableName name with
      | error g =>
        rw [htable] at hjob
        obtain rfl := Except.error.inj hjob
        unfold Persist.tableName at htable
        dsimp only at htable
        split at htable
        · exact Except.error.inj htable ▸ nofun
        · cases htable
      | ok table =>
        rw [htable] at hjob
        cases hjob

theorem ne_of_store_error {snippets : Snippets} {name body : String} {dependencies : List String}
    {f : Fault} (hstore : snippets.store name body dependencies = .error f) :
    f ≠ .transactionsUnsupported := by
  unfold Snippets.store at hstore
  split at hstore
  · exact Except.error.inj hstore ▸ nofun
  · split at hstore
    · next g hcheck =>
      obtain rfl := Except.error.inj hstore
      unfold Snippets.checkDependencies at hcheck
      split at hcheck
      · exact Except.error.inj hcheck ▸ nofun
      · cases hcheck
    · split at hstore
      · exact Except.error.inj hstore ▸ nofun
      · split at hstore
        · exact Except.error.inj hstore ▸ nofun
        · cases hstore

theorem ne_of_saved_error {f : Fault} (hsaved : s.saved p = .error f) :
    f ≠ .transactionsUnsupported := by
  unfold saved at hsaved
  split at hsaved
  · cases hsaved
  · split at hsaved
    · cases hsaved
    · exact ne_of_store_error hsaved

/-- Only faults of drivers are explained. -/
theorem eq_of_explain {settings : Settings} {sql : String} {f : Fault}
    (hexplain : explain settings sql f = .transactionsUnsupported) : f = .transactionsUnsupported := by
  unfold explain at hexplain
  split at hexplain
  · split at hexplain
    · split at hexplain <;> cases hexplain
    · cases hexplain
  · exact hexplain

/-- A conversation that may end in no refusal ends in none with a client whose driver gives none. -/
theorem ne_of_converse_error {α : Type} {c : Connection} {t : Talk α} {f : Fault} {clients : Clients}
    (hdrivers : s.clients.RefuseNothing) (ht : Talk.Proper (· ≠ .transactionsUnsupported) t)
    (htalk : s.converse c t = (.error f, clients)) : f ≠ .transactionsUnsupported := by
  unfold converse Clients.talk at htalk
  cases hget : s.clients.get? c.client with
  | none =>
    rw [hget] at htalk
    exact Except.error.inj (Prod.mk.inj htalk).1 ▸ nofun
  | some client =>
    rw [hget] at htalk
    obtain ⟨_, -, -, hfault⟩ := ht client (hdrivers _ _ hget)
    exact hfault f (Prod.mk.inj htalk).1

/-- A conversation that leaves its client as it is leaves all. -/
theorem clients_of_still {α : Type} {c : Connection} {t : Talk α} {result : Except Fault α}
    {clients : Clients} (hstill : ∀ client, (t.run.run client).2 = client)
    (htalk : s.converse c t = (result, clients)) : clients = s.clients := by
  unfold converse Clients.talk at htalk
  cases hget : s.clients.get? c.client with
  | none =>
    rw [hget] at htalk
    exact (Prod.mk.inj htalk).2.symm
  | some client =>
    rw [hget] at htalk
    obtain ⟨hlt, hentry⟩ := List.getElem?_eq_some_iff.1 hget
    have hsame : s.clients.all.set c.client (t.run.run client).2 = s.clients.all := by
      rw [hstill client, ← hentry, List.set_getElem_self]
    exact (Prod.mk.inj htalk).2.symm.trans (congrArg Clients.mk hsame)

theorem converse_of_opens {c : Connection} {client : Client} {ctx : Execution.Context}
    {payload : List Char} (hclient : s.clients.get? c.client = some client)
    (hopens : ∃ statement ∈ Sql.splitStatements payload, Sql.opensTransaction statement = true) :
    s.converse c (Execution.run ctx payload) = (.error .transactionsUnsupported, s.clients) := by
  have hrun : ∀ other, (Execution.run ctx payload).run.run other =
      (.error .transactionsUnsupported, other) := Execution.run_of_opensTransaction hopens
  have hfault : (s.converse c (Execution.run ctx payload)).1 =
      ((Execution.run ctx payload).run.run client).1 := by
    unfold converse Clients.talk
    rw [hclient]
    rfl
  refine Prod.ext (hfault.trans (congrArg Prod.fst (hrun client))) ?_
  exact clients_of_still (fun other => congrArg Prod.snd (hrun other)) rfl

/-! ## What a refusal leaves -/

/-- With its connection selected, a command is refused only for a statement that opens a transaction, and
by then it has saved its SQL and done nothing else. -/
theorem Finishes.of_refused {notices : List String} {result : Except Fault Reply} {s' : Session}
    (hdrivers : s.clients.RefuseNothing) (hfinishes : Finishes s p notices result s')
    (hrefused : result = .error .transactionsUnsupported) :
    ∃ snippets, s.saved p = .ok snippets ∧ s' = { s with snippets } ∧
      ∃ statement ∈ Sql.splitStatements p.sql.toList, Sql.opensTransaction statement = true := by
  cases hfinishes with
  | notPersistable _ hjob => exact absurd (Except.error.inj hrefused) (ne_of_persisted_error hjob)
  | persistStranded => cases hrefused
  | persists _ _ _ htalk =>
    obtain rfl := Execution.map_eq_error_iff.1 hrefused
    exact absurd rfl (ne_of_converse_error hdrivers (Persist.proper_writeFrame (fun _ h => h) _ _ _ _)
      htalk)
  | idle => cases hrefused
  | notSaved _ hsaved => exact absurd (Except.error.inj hrefused) (ne_of_saved_error hsaved)
  | skips => cases hrefused
  | stranded => cases hrefused
  | @fails _ _ snippets hsaved c _ f clients htalk =>
    obtain rfl := eq_of_explain (Except.error.inj hrefused)
    -- Had no statement opened a transaction, the fault would be one of the driver.
    have hopens : ∃ statement ∈ Sql.splitStatements p.sql.toList,
        Sql.opensTransaction statement = true := by
      by_contra hnone
      have hkept : ∀ statement ∈ Sql.splitStatements p.sql.toList,
          Sql.opensTransaction statement = false := by simpa using hnone
      exact ne_of_converse_error hdrivers
        (Execution.proper_run (fun _ h => h) _ (Or.inr hkept)) htalk rfl
    have hstill : clients = s.clients := by
      refine clients_of_still (fun client => ?_) htalk
      rw [Execution.run_of_opensTransaction hopens]
    subst hstill
    exact ⟨snippets, hsaved, rfl, hopens⟩
  | succeeds => cases hrefused

/-- A client that is opened to be selected does not refuse transactions either. -/
theorem Selects.refuseNothing {d : Registry.Desk} (hdrivers : s.clients.RefuseNothing)
    (hselects : Selects s p d) : d.clients.RefuseNothing :=
  hselects.forall_driver (fun _ _ _ hopened => hopened.refusesNothing) hdrivers

/-- A command that is refused has done nothing, or selected its connection and saved its SQL, which opens
a transaction. -/
theorem Course.of_refused {result : Except Fault Reply} {s' : Session}
    (hdrivers : s.clients.RefuseNothing) (hcourse : Course s p result s')
    (hrefused : result = .error .transactionsUnsupported) :
    s' = s ∨ ∃ notices d snippets, s.selection p = .ok (notices, d) ∧ s.saved p = .ok snippets ∧
      s' = { s.withDesk d with snippets } ∧
      ∃ statement ∈ Sql.splitStatements p.sql.toList, Sql.opensTransaction statement = true := by
  cases hcourse with
  | interacts => exact Or.inl rfl
  | lists => exact Or.inl rfl
  | closes => cases hrefused
  | notClosed => exact Or.inl rfl
  | notSelected => exact Or.inl rfl
  | @selected hplain notices d hselect _ _ hfinishes =>
    have hafter := (selects_of_selection hselect).refuseNothing hdrivers
    obtain ⟨snippets, hsaved, rfl, hopens⟩ := hfinishes.of_refused hafter hrefused
    exact Or.inr ⟨notices, d, snippets, hselect, hsaved, rfl, hopens⟩

/-- What a refused command leaves.  Variables and settings are as they were and nothing has been called on
any client.  Either nothing has changed at all, or the command has selected its connection and saved its
SQL as one that goes on would have by then; so without a name to save under the snippets are as they were,
and so are the connections if it names none while one is open. -/
theorem execute_refused_leaves {header body : String} {s' : Session}
    (hdrivers : s.clients.RefuseNothing)
    (hrefused : (execute header body).run.run s = (.error .transactionsUnsupported, s')) :
    s'.scope = s.scope ∧ s'.config = s.config ∧
    (∀ id, s'.clients.callsOn id = s.clients.callsOn id) ∧
    (s' = s ∨ ∃ p notices d snippets, s.parse header body = .ok p ∧
      s.selection p = .ok (notices, d) ∧ s.saved p = .ok snippets ∧
      s' = { s.withDesk d with snippets } ∧
      (∃ statement ∈ Sql.splitStatements p.sql.toList, Sql.opensTransaction statement = true) ∧
      (p.args.saveAs = none → s'.snippets = s.snippets) ∧
      (p.connection = none → s.registry.connections ≠ [] →
        s'.registry = s.registry ∧ s'.clients = s.clients)) := by
  have hends : s' = s ∨ ∃ p, s.parse header body = .ok p ∧ ∃ notices d snippets,
      s.selection p = .ok (notices, d) ∧ s.saved p = .ok snippets ∧
      s' = { s.withDesk d with snippets } ∧
      ∃ statement ∈ Sql.splitStatements p.sql.toList, Sql.opensTransaction statement = true := by
    rcases execute_cases s header body with ⟨f, -, hunread⟩ | ⟨p, hparse, hcourse⟩
    · exact Or.inl (Prod.mk.inj (hrefused.symm.trans hunread)).2
    · rw [hrefused] at hcourse
      exact (hcourse.of_refused hdrivers rfl).imp_right fun hleft => ⟨p, hparse, hleft⟩
  rcases hends with rfl | ⟨p, hparse, notices, d, snippets, hselect, hsaved, rfl, hopens⟩
  · exact ⟨rfl, rfl, fun _ => rfl, Or.inl rfl⟩
  · have hselects := selects_of_selection hselect
    refine ⟨rfl, rfl, hselects.callsOn, Or.inr ⟨p, notices, d, snippets, hparse, hselect, hsaved, rfl,
      hopens, ?_, ?_⟩⟩
    · intro hnone
      rcases saved_eq_ok hsaved with hsame | ⟨name, hname, -⟩
      · exact hsame
      · rw [hnone] at hname
        cases hname
    · intro hnone hopen
      cases hselects with
      | named hnamed => rw [hnone] at hnamed; cases hnamed
      | stays => exact ⟨rfl, rfl⟩
      | default _ hempty => exact absurd hempty hopen

/-- A command that runs SQL which opens a transaction is refused with its connection selected and its SQL
saved. -/
theorem execute_of_opens {header body : String} {notices : List String} {d : Registry.Desk}
    {snippets : Snippets} {c : Connection} {client : Client}
    (hparse : s.parse header body = .ok p)
    (hplain : p.args.interact = [] ∧ p.args.connections = false ∧ p.args.closeKey = none)
    (hselect : s.selection p = .ok (notices, d)) (hrun : p.args.wantsPersist = false)
    (hgoes : p.args.noExecute = false) (hsaved : s.saved p = .ok snippets)
    (hcurrent : d.registry.currentConnection? = some c)
    (hclient : d.clients.get? c.client = some client)
    (hopens : ∃ statement ∈ Sql.splitStatements p.sql.toList,
      Sql.opensTransaction statement = true) :
    (execute header body).run.run s =
      (.error .transactionsUnsupported, { s.withDesk d with snippets }) := by
  have hsql : Text.isAllBlank p.sql.toList = false := by
    rw [Bool.eq_false_iff]
    intro hblank
    obtain ⟨statement, hmem, -⟩ := hopens
    rw [Sql.splitStatements_of_isAllBlank hblank] at hmem
    cases hmem
  have hsaves : (s.withDesk d).saved p = .ok snippets := hsaved
  have htalk : Session.converse { s.withDesk d with snippets } c (Execution.run
      (Session.executionContext { s.withDesk d with snippets } c) p.sql.toList) =
        (.error .transactionsUnsupported, d.clients) :=
    converse_of_opens (s := { s.withDesk d with snippets }) hclient hopens
  unfold execute
  rw [run_bind, run_get]
  dsimp only
  rw [hparse, run_bind, run_lift]
  dsimp only
  rw [run_runParsed_of_plain hplain, hselect]
  dsimp only
  unfold work
  rw [hrun, if_neg Bool.false_ne_true, hsql, if_neg Bool.false_ne_true, run_bind,
    run_saveSnippet hsql, hsaves]
  dsimp only
  rw [hgoes, if_neg Bool.false_ne_true,
    run_runSql_of_some (s := { s.withDesk d with snippets }) notices hcurrent, htalk]
  rfl

/-- A session without open connections in which a variable is bound to a client. -/
def oneBound : Session where
  clients := ⟨[(Mock.ofUrl "mock://sqlite").client]⟩
  scope := ⟨[("conn", .connection 0)]⟩

/-- A command on that client that is to be saved and opens a transaction, as it is read in that session. -/
def saveBegin : Command.Parsed where
  connection := some (.handle "conn")
  sql := "BEGIN"
  sqlOriginal := "BEGIN"
  resultVar := none
  returnsResult := false
  arguments := []
  args := { line := ["conn"], saveAs := some "x" }

theorem parse_oneBound : oneBound.parse "conn --save x" "BEGIN" = .ok saveBegin := by
  refine Command.parse_eq_ok_iff.2 ⟨{ sql := "BEGIN".toList }, ?_⟩
  constructor
  · rfl
  · decide +kernel
  · decide +kernel
  · decide +kernel
  all_goals rfl

theorem execute_oneBound :
    (execute "conn --save x" "BEGIN").run.run oneBound = (.error .transactionsUnsupported,
      { oneBound.withDesk (oneBound.desk.enter (.ofClient oneBound.clients 0 none)) with
        snippets := ⟨[⟨"x", "BEGIN", []⟩]⟩ }) := by
  have hsaved : oneBound.saved saveBegin = .ok ⟨[⟨"x", "BEGIN", []⟩]⟩ := by
    have hblank : ¬ Text.isAllBlank saveBegin.sql.toList = true := by decide +kernel
    unfold saved
    rw [if_neg hblank]
    exact Snippets.store_eq_ok_iff.2 ⟨by decide, nofun, Snippets.not_needs_nil _ _, rfl⟩
  exact execute_of_opens parse_oneBound ⟨rfl, rfl, rfl⟩ rfl rfl rfl hsaved rfl rfl
    (by decide +kernel)

theorem refuseNothing_oneBound : oneBound.clients.RefuseNothing := by
  intro id client hget
  cases id with
  | zero =>
    obtain rfl := Option.some.inj hget
    exact Mock.refusesNothing _
  | succ n => cases hget

theorem execute_refused_leaves_oneBound :
    oneBound.clients.RefuseNothing ∧
      ((execute "conn --save x" "BEGIN").run.run oneBound).1 = .error .transactionsUnsupported ∧
      ∀ id, ((execute "conn --save x" "BEGIN").run.run oneBound).2.clients.callsOn id =
        oneBound.clients.callsOn id := by
  obtain ⟨-, -, hcalls, -⟩ := execute_refused_leaves refuseNothing_oneBound execute_oneBound
  refine ⟨refuseNothing_oneBound, ?_, ?_⟩
  · rw [execute_oneBound]
  · rw [execute_oneBound]
    exact hcalls

/-- The refused command has left a snippet and an open connection behind. -/
theorem refused_command_leaves_snippet :
    ((execute "conn --save x" "BEGIN").run.run oneBound).1 = .error .transactionsUnsupported ∧
      oneBound.snippets.names = [] ∧
      ((execute "conn --save x" "BEGIN").run.run oneBound).2.snippets.names = ["x"] ∧
      oneBound.registry.current = none ∧
      ((execute "conn --save x" "BEGIN").run.run oneBound).2.registry.current =
        some "mock://sqlite" := by
  rw [execute_oneBound]
  decide +kernel

end Session
end SqlCells
