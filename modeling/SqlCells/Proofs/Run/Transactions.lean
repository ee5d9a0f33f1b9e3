import SqlCells.Proofs.Sql.Openers
import SqlCells.Proofs.Database.Talk
import SqlCells.Proofs.Run.Calls

/-!
# Explicit transactions in a run

A run passes on the statements of its payload and the queries that answer backslash commands, and
nothing else.  It refuses a payload as a whole when the plain-text inspection finds that one of its
statements opens a transaction.
-/

namespace SqlCells

open Effects Talk

namespace MetaCommand

theorem select_listRelations (types : List String) (pattern : Option (List Char)) :
    "SELECT ".toList <+: listRelations types pattern := by
  have hstart : "SELECT ".toList <+:
      "SELECT table_schema AS \"Schema\", table_name AS \"Name\", ".toList := by decide +kernel
  unfold listRelations
  simp only [String.toList_append, List.append_assoc]
  exact hstart.trans (List.prefix_append _ _)

theorem select_describeRelation (name : List Char) : "SELECT ".toList <+: describeRelation name := by
  have hstart : "SELECT ".toList <+:
      "SELECT column_name AS \"Column\", data_type AS \"Type\", ".toList := by decide +kernel
  unfold describeRelation
  simp only [String.toList_append, List.append_assoc]
  exact hstart.trans (List.prefix_append _ _)

theorem select_listSchemas : "SELECT ".toList <+: listSchemas := by
  have hstart : "SELECT ".toList <+:
      "SELECT schema_name AS \"Name\", schema_owner AS \"Owner\" ".toList := by decide +kernel
  unfold listSchemas
  simp only [String.toList_append, List.append_assoc]
  exact hstart.trans (List.prefix_append _ _)

theorem select_listDatabases : "SELECT ".toList <+: listDatabases := by
  have hstart : "SELECT ".toList <+: "SELECT datname AS \"Name\", ".toList := by decide +kernel
  unfold listDatabases
  simp only [String.toList_append, List.append_assoc]
  exact hstart.trans (List.prefix_append _ _)

/-- The queries that answer backslash commands start with `SELECT`. -/
theorem select_of_translate {command sql : List Char} (hsql : translate command = .ok sql) :
    "SELECT ".toList <+: sql := by
  unfold translate at hsql
  dsimp only at hsql
  split at hsql
  case h_5 | h_6 =>
    split at hsql
    · rw [← Except.ok.inj hsql]
      exact select_listRelations _ _
    · rw [← Except.ok.inj hsql]
      exact select_describeRelation _
  case h_7 | h_8 =>
    rw [← Except.ok.inj hsql]
    exact select_listSchemas
  case h_9 | h_10 | h_11 =>
    rw [← Except.ok.inj hsql]
    exact select_listDatabases
  case h_12 => cases hsql
  all_goals
    rw [← Except.ok.inj hsql]
    exact select_listRelations _ _

/-- No query that answers a backslash command opens a transaction. -/
theorem not_opens_of_translate {command sql : List Char} (hsql : translate command = .ok sql) :
    Sql.opens sql = false := by
  obtain ⟨more, rfl⟩ := select_of_translate hsql
  have hscan : Sql.scan 'S' ("ELECT ".toList ++ more) =
      .ok (.word (String.ofList "SELECT".toList) none, 5) := rfl
  have hhead : Sql.headWord? ("SELECT ".toList ++ more) = some ("SELECT".toList, ' ' :: more) := by
    change Sql.headWord? ('S' :: ("ELECT ".toList ++ more)) = _
    rw [Sql.headWord?_of_token hscan rfl]
    rfl
  unfold Sql.opens
  rw [hhead]
  rfl

end MetaCommand

namespace Execution

variable {ctx : Context} {ss : List (List Char)}

/-- A call that passes on one of the given statements, or nothing that opens a transaction. -/
def Passes (ss : List (List Char)) : Call → Prop
  | .execute sql _ | .rawExecute sql => sql.toList ∈ ss ∨ Sql.opens sql.toList = false
  | _ => True

theorem emits_decideCommit (settings : Settings) (p : Progress) :
    Emits (Passes ss) (decideCommit settings p) := by
  unfold decideCommit
  split
  · exact .pure _
  · refine .bind .dialect fun dialect => ?_
    split
    · exact .pure _
    · split
      · refine .bind (.attempt (.call fun _ => trivial)) fun switched => .pure _
      · exact .pure _

theorem emits_commitAfter (settings : Settings) (p : Progress) :
    Emits (Passes ss) (commitAfter settings p) := by
  unfold commitAfter
  refine .bind .dialect fun dialect => ?_
  split
  · refine .bind (.attempt (.call fun _ => trivial)) fun committed => ?_
    split <;> exact .pure _
  · exact .pure _

theorem emits_metaCommand (statement : List Char) : Emits (Passes ss) (MetaCommand.run statement) := by
  unfold MetaCommand.run
  refine .bind_lift fun sql hsql => .bind (.call fun _ => ?_) fun result => ?_
  · exact Or.inr (by simpa using MetaCommand.not_opens_of_translate hsql)
  · split
    · exact .bind (.throw _) fun _ => .pure _
    · exact .pure _

theorem emits_runStatement {statement : List Char} (hstatement : statement ∈ ss) (p : Progress) :
    Emits (Passes ss) (runStatement ctx p statement) := by
  unfold runStatement
  refine .bind .dialect fun dialect => ?_
  split
  · split
    · exact .bind (emits_metaCommand statement) fun result => .pure _
    · exact .throw _
  · refine .bind (emits_decideCommit _ p) fun p => .bind (.call fun _ => ?_) fun result =>
      .bind (emits_commitAfter _ p) fun p => .pure _
    exact Or.inl (by simpa using hstatement)

theorem emits_runStatements (p : Progress) (statements : List (List Char))
    (hstatements : ∀ s ∈ statements, s ∈ ss) :
    Emits (Passes ss) (runStatements ctx p statements) := by
  induction statements generalizing p with
  | nil => exact .pure p
  | cons s rest ih =>
    exact .bind (emits_runStatement (hstatements s List.mem_cons_self) p) fun p =>
      ih p fun t ht => hstatements t (List.mem_cons_of_mem _ ht)

theorem emits_runRaw (statements : List (List Char)) (hstatements : ∀ s ∈ statements, s ∈ ss) :
    Emits (Passes ss) (runRaw statements) := by
  induction statements with
  | nil => exact .pure _
  | cons s rest ih =>
    refine .bind (.call fun _ => ?_) fun _ => ih fun t ht => hstatements t (List.mem_cons_of_mem _ ht)
    exact Or.inl (by simpa using hstatements s List.mem_cons_self)

theorem emits_runNative (statements : List (List Char)) :
    Emits (Passes statements) (runNative statements) := by
  unfold runNative
  refine .bind (.call fun _ => trivial) fun _ => .bind (.attempt (.bind ?_ fun _ => ?_)) fun outcome =>
    .bind (.attempt (.call fun _ => trivial)) fun closed => ?_
  · exact emits_runRaw statements fun _ hs => hs
  · exact .call fun _ => trivial
  · exact .bind (.lift _) fun frame => .bind (.lift _) fun _ => .pure _

/-- A run passes on nothing but statements of its payload and queries that open no transaction. -/
theorem emits_run (payload : List Char) :
    Emits (Passes (Sql.splitStatements payload)) (run ctx payload) := by
  rcases run_cases ctx payload with ⟨-, hrun⟩ | hrun | hrun
  · rw [hrun]
    exact .throw _
  · rw [hrun]
    exact .pure _
  · rw [hrun]
    refine .bind .dialect fun dialect => ?_
    split
    · exact emits_runNative _
    · exact .bind (emits_runStatements _ _ fun _ hs => hs) fun p => .pure _

/-- A payload with a statement that is found to open a transaction is refused before any call. -/
theorem adds_of_opensTransaction {payload : List Char}
    (hrefused : ∃ s ∈ Sql.splitStatements payload, Sql.opensTransaction s = true) (c : Client) :
    (run ctx payload).adds c = [] := by
  have hstill : ((run ctx payload).run.run c).2 = c := by
    rw [run_of_opensTransaction hrefused]
  exact adds_eq (by rw [hstill, List.append_nil])

/-! ## A run that is not refused -/

/-- A client that accepts every statement, in a dialect without backslash commands or frames of its
own. -/
structure Accepting (c : Client) : Prop where
  execute : ∀ calls sql limit, (c.driver.execute calls sql limit).isOk = true
  noMeta : c.dialect.caps.metaCommands = false
  noFrames : c.dialect.caps.nativeFrames = false

/-- What was called before does not matter to it. -/
theorem Accepting.with_calls {c : Client} (hc : Accepting c) (calls : List Call) :
    Accepting { c with calls } :=
  ⟨hc.execute, hc.noMeta, hc.noFrames⟩

theorem run_dialect (c : Client) : Talk.dialect.run.run c = (.ok c.dialect, c) :=
  rfl

theorem run_execute_of_accepting {c : Client} (hc : Accepting c) (sql : String) (limit : Option Nat) :
    ∃ raw, (Talk.execute sql limit).run.run c =
      (.ok raw, { c with calls := c.calls ++ [.execute sql limit] }) := by
  have hok := hc.execute c.calls sql limit
  have hrun : (Talk.execute sql limit).run.run c =
      (c.driver.execute c.calls sql limit, { c with calls := c.calls ++ [.execute sql limit] }) := rfl
  cases hanswer : c.driver.execute c.calls sql limit with
  | error f =>
    rw [hanswer] at hok
    cases hok
  | ok raw => exact ⟨raw, by rw [hrun, hanswer]⟩

theorem run_decideCommit {settings : Settings} (hmanual : settings.autocommit = false) (p : Progress)
    (c : Client) : ∃ p', (decideCommit settings p).run.run c = (.ok p', c) := by
  unfold decideCommit
  split
  · exact ⟨p, rfl⟩
  · rw [run_bind, run_dialect]
    dsimp only
    split
    · exact ⟨_, rfl⟩
    · rw [hmanual]
      exact ⟨_, rfl⟩

theorem run_commitAfter {settings : Settings} (hmanual : settings.autocommit = false) (p : Progress)
    (c : Client) : (commitAfter settings p).run.run c = (.ok p, c) := by
  unfold commitAfter
  rw [run_bind, run_dialect]
  dsimp only
  rw [hmanual]
  rfl

/-- Without autocommit, running a statement on an accepting client is one call. -/
theorem run_runStatement {c : Client} (hc : Accepting c) (hmanual : ctx.settings.autocommit = false)
    (p : Progress) (statement : List Char) :
    ∃ p', (runStatement ctx p statement).run.run c = (.ok p', { c with
      calls := c.calls ++ [.execute (String.ofList statement) ctx.settings.fetchLimit] }) := by
  obtain ⟨decided, hdecide⟩ := run_decideCommit hmanual p c
  obtain ⟨raw, hexecute⟩ :=
    run_execute_of_accepting hc (String.ofList statement) ctx.settings.fetchLimit
  unfold runStatement
  rw [run_bind, run_dialect]
  dsimp only
  rw [hc.noMeta, Bool.and_false, if_neg Bool.false_ne_true, run_bind, hdecide]
  dsimp only
  rw [run_bind, hexecute]
  dsimp only
  rw [run_bind, run_commitAfter hmanual]
  exact ⟨_, rfl⟩

theorem run_runStatements {c : Client} (hc : Accepting c) (hmanual : ctx.settings.autocommit = false)
    (p : Progress) (statements : List (List Char)) :
    ∃ p', (runStatements ctx p statements).run.run c = (.ok p', { c with
      calls := c.calls ++
        statements.map fun s => .execute (String.ofList s) ctx.settings.fetchLimit }) := by
  induction statements generalizing p c with
  | nil => exact ⟨p, by rw [List.map_nil, List.append_nil]; rfl⟩
  | cons s rest ih =>
    obtain ⟨middle, hfirst⟩ := run_runStatement hc hmanual p s
    obtain ⟨last, hrest⟩ := ih (hc.with_calls _) middle
    refine ⟨last, ?_⟩
    rw [runStatements, run_bind, hfirst]
    dsimp only
    rw [hrest]
    simp

/-- On an accepting client and without autocommit, a payload that is not refused is passed on statement
by statement. -/
theorem adds_of_accepting {payload : List Char} {c : Client} (hc : Accepting c)
    (hmanual : ctx.settings.autocommit = false)
    (hkept : ∀ s ∈ Sql.splitStatements payload, Sql.opensTransaction s = false) :
    (run ctx payload).adds c = (Sql.splitStatements payload).map fun s =>
      .execute (String.ofList s) ctx.settings.fetchLimit := by
  obtain ⟨p, hrun⟩ := run_runStatements hc hmanual {} (Sql.splitStatements payload)
  refine adds_eq ?_
  by_cases hempty : Sql.splitStatements payload = []
  · rw [run_of_no_statements hempty, hempty, List.map_nil, List.append_nil]
  · rw [run_of_kept hkept hempty, hc.noFrames, Bool.and_false, if_neg Bool.false_ne_true, run_bind, hrun]
    rfl

/-- A client of no particular dialect that answers whatever it is asked. -/
theorem accepting_mock : Accepting (Mock.ofDialect (Dialect.ofName "" none)).client where
  execute := by
    intro calls sql limit
    change ((Mock.answer _ sql).map _).isOk = true
    unfold Mock.answer
    have hnone : (Mock.ofDialect (Dialect.ofName "" none)).response? sql = none := rfl
    rw [hnone]
    dsimp only
    split <;> rfl
  noMeta := by decide
  noFrames := by decide

/-- A payload that is not refused has all its statements passed to some client. -/
theorem exists_sent {payload : List Char}
    (hkept : ∀ s ∈ Sql.splitStatements payload, Sql.opensTransaction s = false) :
    ∃ (ctx : Context) (c : Client), ∀ s ∈ Sql.splitStatements payload,
      String.ofList s ∈ (run ctx payload).sent c := by
  refine ⟨{ settings := { autocommit := false }, name := "", hasMeta := false },
    (Mock.ofDialect (Dialect.ofName "" none)).client, ?_⟩
  intro s hs
  unfold sent
  rw [adds_of_accepting accepting_mock rfl hkept]
  apply List.mem_append_left
  simp only [Call.executed, List.mem_filterMap, List.mem_map]
  exact ⟨_, ⟨s, hs, rfl⟩, rfl⟩

/-! ## Which transactions are kept from clients -/

/-- No statement of a payload that opens a transaction, as the lexer reads it, is passed to any client
exactly if the payload has none or is refused.  With no comment in front of it that nests, such a
statement has its payload refused exactly if its keywords are spelled in ASCII letters, end at a blank or
sign that ends keywords, and have only blanks between them. -/
theorem keeps_transactions_iff (payload : List Char) :
    ((∀ (ctx : Context) (c : Client), ∀ sql ∈ (run ctx payload).sent c,
        Sql.opens sql.toList = false) ↔
      (∃ s ∈ Sql.splitStatements payload, Sql.opensTransaction s = true) ∨
        ∀ s ∈ Sql.splitStatements payload, Sql.opens s = false) ∧
    ∀ s ∈ Sql.splitStatements payload, Sql.opens s = true → Sql.nestsInFront s = false →
      (Sql.opensTransaction s = true ↔
        Sql.SpellsBegin (Sql.skipTrivia s) ∨ Sql.SpellsStart (Sql.skipTrivia s)) := by
  refine ⟨⟨?_, ?_⟩, fun s _ => Sql.opensTransaction_iff_spelled⟩
  · intro hkeeps
    by_cases hrefused : ∃ s ∈ Sql.splitStatements payload, Sql.opensTransaction s = true
    · exact Or.inl hrefused
    · have hkept : ∀ s ∈ Sql.splitStatements payload, Sql.opensTransaction s = false := by
        simpa using hrefused
      obtain ⟨ctx, c, hsent⟩ := exists_sent hkept
      refine Or.inr fun s hs => ?_
      simpa using hkeeps ctx c _ (hsent s hs)
  · rintro (hrefused | hnone) ctx c sql hsql
    · unfold sent at hsql
      rw [adds_of_opensTransaction hrefused] at hsql
      cases hsql
    · have hpasses : sql.toList ∈ Sql.splitStatements payload ∨ Sql.opens sql.toList = false := by
        rcases mem_sent hsql with ⟨limit, hcall⟩ | hcall
        · exact (emits_run payload).adds c _ hcall
        · exact (emits_run payload).adds c _ hcall
      rcases hpasses with hmem | hopens
      · exact hnone _ hmem
      · exact hopens

/-- A comment behind the keyword hides it: the statement is passed to the client. -/
theorem begin_with_comment_sent :
    (Sql.lex "BEGIN/**/;".toList).isOk = true ∧ Sql.opens "BEGIN/**/;".toList = true ∧
      (run { settings := {}, name := "", hasMeta := true } "BEGIN/**/;".toList).sent
        (Mock.ofUrl "mock://sqlite").client = ["BEGIN/**/;"] := by
  refine ⟨?_, ?_, ?_⟩ <;> decide +kernel

end Execution
end SqlCells
