import SqlCells.Proofs.Effects
import SqlCells.Proofs.Lists
import SqlCells.Proofs.Sql.Statement
import SqlCells.Database.Mock
import SqlCells.Run.Execution

/-!
# The calls of a run

A run handles the statements of its payload in order, up to the first that fails.  This module accounts
for every call on the client: each statement is listed with the calls made for it and what it came to.
What is done for a statement is said in terms of the statements handled before it; the decision that a
run makes at its first statement and remembers does not occur in it.
-/

namespace SqlCells

open Effects

/-- The client after more calls. -/
def Client.after (c : Client) (more : List Call) : Client :=
  { c with calls := c.calls ++ more }

theorem Client.after_nil (c : Client) : c.after [] = c := by
  simp [Client.after]

@[simp]
theorem Client.after_after (c : Client) (first second : List Call) :
    (c.after first).after second = c.after (first ++ second) := by
  simp [Client.after, List.append_assoc]

namespace Execution

/-! ## Statements handled -/

/-- A statement that was handled: the calls made for it, and what it came to. -/
structure Handled where
  statement : List Char
  calls : List Call
  result : Except Fault RawResult

/-- The calls made for some statements. -/
def callsOf (handled : List Handled) : List Call :=
  handled.flatMap Handled.calls

/-- Whether a statement goes to the handler of backslash commands. -/
def Handled.isCommand (d : Dialect) (h : Handled) : Bool :=
  Sql.isMetaCommand h.statement && d.caps.metaCommands

section

variable (ctx : Context) (c : Client) (before : List Handled)

/-- Whether a run switches autocommit on. -/
def switches : Bool :=
  ctx.settings.autocommit && !c.dialect.caps.disablesAutocommit

/-- What is called in front of a statement that is no command: autocommit is switched on before the first
such statement. -/
def switchCalls : List Call :=
  if switches ctx c && before.all (Handled.isCommand c.dialect) then
    [.setAutocommit true]
  else []

/-- Whether the driver could not switch autocommit on, when the commands in front had been handled. -/
def switchFails : Bool :=
  let commands := before.takeWhile (Handled.isCommand c.dialect)
  !(c.driver.setAutocommit (c.after (callsOf commands)).calls true).isOk

/-- Whether a statement that is no command is committed by hand. -/
def commitsByHand : Bool :=
  switches ctx c && !c.dialect.caps.rejectsCommit && switchFails c before

/-- What is called once a statement has been run: a commit, if it succeeded and is committed by hand. -/
def commitCalls (executed : List Call) (result : Except Fault RawResult) : List Call :=
  if result.isOk && commitsByHand ctx c before then
    [.commit (c.driver.commit (c.after executed).calls).isOk]
  else []

/-- What a run does for a statement, when it has handled those before. -/
structure Handles (h : Handled) : Prop where
  /-- A command goes to the handler, which makes at most one query of its own. -/
  answered : h.isCommand c.dialect = true → ctx.hasMeta = true →
    (MetaCommand.run h.statement).run.run (c.after (callsOf before)) =
        (h.result, c.after (callsOf before ++ h.calls)) ∧
      (h.calls = [] ∨ ∃ sql, h.calls = [.execute sql none])
  /-- Without a handler a command fails. -/
  unanswered : h.isCommand c.dialect = true → ctx.hasMeta = false →
    h.calls = [] ∧ h.result = .error .metaCommandsUnavailable
  /-- Any other statement is passed on as it is, once. -/
  passed : h.isCommand c.dialect = false →
    let log := callsOf before ++ switchCalls ctx c before
    let executed := .execute (String.ofList h.statement) ctx.settings.fetchLimit
    h.result = c.driver.execute (c.after log).calls (String.ofList h.statement)
        ctx.settings.fetchLimit ∧
      h.calls = switchCalls ctx c before ++
        executed :: commitCalls ctx c before (log ++ [executed]) h.result

/-- An account of some statements: those that are handled when others were handled before. -/
structure Account (statements : List (List Char)) (handled : List Handled) : Prop where
  inOrder : handled.map Handled.statement <+: statements
  complete : (∀ h ∈ handled, h.result.isOk = true) → handled.map Handled.statement = statements
  untilFailure : ∀ front h behind, handled = front ++ h :: behind → h.result.isOk = false →
    behind = []
  handles : ∀ front h behind, handled = front ++ h :: behind →
    Handles ctx c (before ++ front) h

end

variable {ctx : Context} {c : Client} {before : List Handled}

theorem callsOf_append_singleton (before : List Handled) (h : Handled) :
    callsOf (before ++ [h]) = callsOf before ++ h.calls := by
  simp [callsOf]

namespace Account

theorem nil : Account ctx c before [] [] where
  inOrder := List.prefix_rfl
  complete := fun _ => rfl
  untilFailure := by simp
  handles := by simp

/-- A statement that fails is the last. -/
theorem failed {h : Handled} (hhandles : Handles ctx c before h) (hfails : h.result.isOk = false)
    (rest : List (List Char)) : Account ctx c before (h.statement :: rest) [h] where
  inOrder := ⟨rest, rfl⟩
  complete := by
    intro hok
    have hcontra := hok h List.mem_cons_self
    rw [hfails] at hcontra
    cases hcontra
  untilFailure := by
    intro front g behind hsplit _
    cases front with
    | nil => exact (List.cons.inj hsplit).2.symm
    | cons => simp at hsplit
  handles := by
    intro front g behind hsplit
    cases front with
    | nil =>
      obtain ⟨rfl, -⟩ := List.cons.inj hsplit
      rwa [List.append_nil]
    | cons => simp at hsplit

/-- A statement that succeeds is followed by an account of the rest. -/
theorem cons {h : Handled} (hhandles : Handles ctx c before h) (hok : h.result.isOk = true)
    {rest : List (List Char)} {more : List Handled}
    (hmore : Account ctx c (before ++ [h]) rest more) :
    Account ctx c before (h.statement :: rest) (h :: more) where
  inOrder := by
    rw [List.map_cons]
    exact (List.prefix_cons_inj _).2 hmore.inOrder
  complete := by
    intro hall
    have hrest := hmore.complete fun g hg => hall g (List.mem_cons_of_mem h hg)
    rw [List.map_cons, hrest]
  untilFailure := by
    intro front g behind hsplit hfails
    cases front with
    | nil =>
      obtain ⟨rfl, -⟩ := List.cons.inj hsplit
      rw [hok] at hfails
      cases hfails
    | cons first front =>
      obtain ⟨-, hsplit⟩ := List.cons.inj hsplit
      exact hmore.untilFailure front g behind hsplit hfails
  handles := by
    intro front g behind hsplit
    cases front with
    | nil =>
      obtain ⟨rfl, -⟩ := List.cons.inj hsplit
      rwa [List.append_nil]
    | cons first front =>
      obtain ⟨rfl, htail⟩ : h = first ∧ more = front ++ g :: behind := List.cons.inj hsplit
      have hrest := hmore.handles front g behind htail
      rwa [List.append_assoc] at hrest

end Account

/-! ## The decision about commits -/

/-- What a run has decided about commits when it has handled some statements: nothing as long as they all
were commands. -/
def decided (ctx : Context) (c : Client) (before : List Handled) : Option Bool :=
  if before.all (Handled.isCommand c.dialect) then none
  else some (switches ctx c && switchFails c before)

theorem decided_of_all (hall : before.all (Handled.isCommand c.dialect) = true) :
    decided ctx c before = none := by
  unfold decided
  rw [if_pos hall]

theorem decided_of_not_all (hall : before.all (Handled.isCommand c.dialect) = false) :
    decided ctx c before = some (switches ctx c && switchFails c before) := by
  unfold decided
  rw [hall]
  rfl

/-- Commands decide nothing. -/
theorem decided_append_command {h : Handled} (hcommand : h.isCommand c.dialect = true) :
    decided ctx c (before ++ [h]) = decided ctx c before := by
  have hall : (before ++ [h]).all (Handled.isCommand c.dialect) =
      before.all (Handled.isCommand c.dialect) := by
    simp [hcommand]
  cases hbefore : before.all (Handled.isCommand c.dialect) with
  | true => rw [decided_of_all (hall.trans hbefore), decided_of_all hbefore]
  | false =>
    rw [decided_of_not_all (hall.trans hbefore), decided_of_not_all hbefore]
    unfold switchFails
    rw [takeWhile_append_singleton (Or.inl hbefore)]

/-- The first other statement decides, and those after it keep to that. -/
theorem decided_append_passed {h : Handled} (hpassed : h.isCommand c.dialect = false) :
    decided ctx c (before ++ [h]) = some (switches ctx c && switchFails c before) := by
  have hall : (before ++ [h]).all (Handled.isCommand c.dialect) = false := by
    simp [hpassed]
  rw [decided_of_not_all hall]
  unfold switchFails
  rw [takeWhile_append_singleton (Or.inr hpassed)]

/-- The commands in front are all of the statements as long as nothing is decided. -/
theorem switchFails_of_all (hall : before.all (Handled.isCommand c.dialect) = true) :
    switchFails c before = !(c.driver.setAutocommit (c.after (callsOf before)).calls true).isOk := by
  have hwhole : before.takeWhile (Handled.isCommand c.dialect) = before := by
    rw [List.takeWhile_eq_self_iff]
    exact List.all_eq_true.1 hall
  unfold switchFails
  rw [hwhole]

/-! ## Steps of a run -/

/-- The first decision about commits: the call that switches autocommit is made if it is due. -/
theorem run_decideCommit_first (settings : Settings) {p : Progress} (hnone : p.manualCommit = none)
    (c : Client) :
    let due := settings.autocommit && !c.dialect.caps.disablesAutocommit
    ∃ p', (decideCommit settings p).run.run c =
        (.ok p', c.after (if due then [.setAutocommit true] else [])) ∧
      p'.manualCommit = some (due && !(c.driver.setAutocommit c.calls true).isOk) := by
  intro due
  unfold decideCommit
  rw [hnone, if_neg (by simp), run_bind]
  change ∃ p', (if c.dialect.caps.disablesAutocommit = true then _ else _ : Talk Progress).run.run c = _ ∧ _
  by_cases hdisables : c.dialect.caps.disablesAutocommit = true
  · have hdue : due = false := by simp [due, hdisables]
    rw [if_pos hdisables, hdue, if_neg Bool.false_ne_true, Client.after_nil]
    exact ⟨_, rfl, rfl⟩
  · rw [if_neg hdisables]
    by_cases hauto : settings.autocommit = true
    · have hdue : due = true := by simp [due, hdisables, hauto]
      rw [if_pos hauto, hdue, if_pos rfl]
      exact ⟨_, rfl, rfl⟩
    · have hdue : due = false := by simp [due, hauto]
      rw [if_neg hauto, hdue, if_neg Bool.false_ne_true, Client.after_nil]
      exact ⟨_, rfl, rfl⟩

/-- Deciding about commits makes the call that switches autocommit, if it is due. -/
theorem run_decideCommit_after {p : Progress} (hp : p.manualCommit = decided ctx c before) :
    ∃ p', (decideCommit ctx.settings p).run.run (c.after (callsOf before)) =
        (.ok p', c.after (callsOf before ++ switchCalls ctx c before)) ∧
      p'.manualCommit = some (switches ctx c && switchFails c before) := by
  cases hall : before.all (Handled.isCommand c.dialect) with
  | false =>
    have hsome : p.manualCommit = some (switches ctx c && switchFails c before) :=
      hp.trans (decided_of_not_all hall)
    have hcalls : switchCalls ctx c before = [] := by simp [switchCalls, hall]
    refine ⟨p, ?_, hsome⟩
    unfold decideCommit
    rw [hsome, hcalls, List.append_nil]
    rfl
  | true =>
    have hnone : p.manualCommit = none := hp.trans (decided_of_all hall)
    obtain ⟨p', hrun, hdecision⟩ :=
      run_decideCommit_first ctx.settings hnone (c.after (callsOf before))
    refine ⟨p', ?_, ?_⟩
    · rw [hrun, Client.after_after]
      unfold switchCalls
      rw [hall, Bool.and_true]
      rfl
    · rw [hdecision, switchFails_of_all hall]
      rfl

/-- What is done after a statement that succeeded is a commit, if that was decided. -/
theorem run_commitAfter_of_decided (settings : Settings) {p : Progress} {byHand : Bool}
    (hdecided : p.manualCommit = some byHand) (c : Client) :
    let due := settings.autocommit && !c.dialect.caps.rejectsCommit && byHand
    ∃ p', (commitAfter settings p).run.run c =
        (.ok p', c.after (if due then [.commit (c.driver.commit c.calls).isOk] else [])) ∧
      p'.manualCommit = some byHand := by
  intro due
  unfold commitAfter
  rw [run_bind]
  change ∃ p', (if (settings.autocommit && !c.dialect.caps.rejectsCommit &&
    p.manualCommit == some true) = true then _ else _ : Talk Progress).run.run c = _ ∧ _
  have hcondition : (settings.autocommit && !c.dialect.caps.rejectsCommit &&
      p.manualCommit == some true) = due := by
    rw [hdecided]
    cases byHand <;> simp [due]
  rw [hcondition]
  by_cases hdue : due = true
  · have hattempt : (Talk.attempt Talk.commit).run.run c =
        (.ok (c.driver.commit c.calls), c.after [.commit (c.driver.commit c.calls).isOk]) := rfl
    rw [if_pos hdue, if_pos hdue, run_bind, hattempt]
    dsimp only
    -- A commit that fails is only reported.
    cases c.driver.commit c.calls with
    | ok _ => exact ⟨p, rfl, hdecided⟩
    | error f => exact ⟨{ p with notices := p.notices ++ [commitUnsupported] }, rfl, hdecided⟩
  · rw [if_neg hdue, if_neg hdue, Client.after_nil]
    exact ⟨p, rfl, hdecided⟩

/-- What is called after a statement that succeeded is what the account says. -/
theorem run_commitAfter_after {p : Progress}
    (hp : p.manualCommit = some (switches ctx c && switchFails c before)) (log : List Call)
    {result : Except Fault RawResult} (hok : result.isOk = true) :
    ∃ p', (commitAfter ctx.settings p).run.run (c.after log) =
        (.ok p', c.after (log ++ commitCalls ctx c before log result)) ∧
      p'.manualCommit = some (switches ctx c && switchFails c before) := by
  obtain ⟨p', hrun, hp'⟩ := run_commitAfter_of_decided ctx.settings hp (c.after log)
  have hdue : (ctx.settings.autocommit && !(c.after log).dialect.caps.rejectsCommit &&
      (switches ctx c && switchFails c before)) = commitsByHand ctx c before := by
    change (ctx.settings.autocommit && !c.dialect.caps.rejectsCommit &&
      (switches ctx c && switchFails c before)) = _
    unfold commitsByHand switches
    cases ctx.settings.autocommit <;> cases c.dialect.caps.disablesAutocommit <;> simp
  refine ⟨p', ?_, hp'⟩
  rw [hrun, Client.after_after, hdue]
  unfold commitCalls
  rw [hok, Bool.true_and]
  rfl

/-- Answering a command makes at most one query, for all of its rows. -/
theorem run_metaCommand_after (command : List Char) (c : Client) :
    ∃ calls, ((MetaCommand.run command).run.run c).2 = c.after calls ∧
      (calls = [] ∨ ∃ sql, calls = [.execute sql none]) := by
  unfold MetaCommand.run
  rw [run_bind, run_lift]
  cases MetaCommand.translate command with
  | error f => exact ⟨[], (Client.after_nil c).symm, Or.inl rfl⟩
  | ok sql =>
    refine ⟨[.execute (String.ofList sql) none], ?_, Or.inr ⟨_, rfl⟩⟩
    dsimp only
    rw [run_bind]
    have hexecute : (Talk.execute (String.ofList sql) none).run.run c =
        (c.driver.execute c.calls (String.ofList sql) none,
          c.after [.execute (String.ofList sql) none]) := rfl
    rw [hexecute]
    cases c.driver.execute c.calls (String.ofList sql) none with
    | error f => rfl
    | ok raw =>
      dsimp only
      split <;> rfl

/-- A step of a run: a statement is handled as the account says, and the run goes on with its answer and
in step with what has been decided. -/
def Steps (ctx : Context) (c : Client) (before : List Handled) (p : Progress) (s : List Char) : Prop :=
  ∃ (h : Handled) (p' : Progress), Handles ctx c before h ∧ h.statement = s ∧
    (runStatement ctx p s).run.run (c.after (callsOf before)) =
      (h.result.map fun _ => p', c.after (callsOf (before ++ [h]))) ∧
    p'.manualCommit = decided ctx c (before ++ [h]) ∧
    ∀ raw, h.result = .ok raw → p'.last = some raw

/-- A command leaves all calls to the handler. -/
theorem run_runStatement_command (ctx : Context) (c : Client) (p : Progress) {s : List Char}
    (hcommand : (Sql.isMetaCommand s && c.dialect.caps.metaCommands) = true) :
    (runStatement ctx p s).run.run c =
      ((if ctx.hasMeta then do
          let result ← MetaCommand.run s
          return { p with last := some result }
        else throw .metaCommandsUnavailable : Talk Progress)).run.run c := by
  unfold runStatement
  rw [run_bind]
  change (if (Sql.isMetaCommand s && c.dialect.caps.metaCommands) = true then _ else _ :
    Talk Progress).run.run c = _
  rw [if_pos hcommand]

theorem steps_command {p : Progress} (hp : p.manualCommit = decided ctx c before) {s : List Char}
    (hcommand : (Sql.isMetaCommand s && c.dialect.caps.metaCommands) = true) :
    Steps ctx c before p s := by
  have hopen := run_runStatement_command ctx (c.after (callsOf before)) p hcommand
  cases hmeta : ctx.hasMeta with
  | false =>
    let h : Handled := ⟨s, [], .error .metaCommandsUnavailable⟩
    have hstep : h.isCommand c.dialect = true := hcommand
    have hhandles : Handles ctx c before h :=
      { answered := fun _ hhandler => absurd (hmeta.symm.trans hhandler) Bool.false_ne_true
        unanswered := fun _ _ => ⟨rfl, rfl⟩
        passed := fun hpassed => absurd (hpassed.symm.trans hstep) Bool.false_ne_true }
    refine ⟨h, p, hhandles, rfl, ?_, hp.trans (decided_append_command hstep).symm, nofun⟩
    rw [hopen, hmeta, callsOf_append_singleton, List.append_nil]
    rfl
  | true =>
    obtain ⟨calls, hcalls, honly⟩ := run_metaCommand_after s (c.after (callsOf before))
    rcases hrun : (MetaCommand.run s).run.run (c.after (callsOf before)) with ⟨result, left⟩
    rw [hrun, Client.after_after] at hcalls
    change left = c.after (callsOf before ++ calls) at hcalls
    let h : Handled := ⟨s, calls, result⟩
    have hstep : h.isCommand c.dialect = true := hcommand
    have hhandles : Handles ctx c before h :=
      { answered := fun _ _ => ⟨by rw [hrun, hcalls], honly⟩
        unanswered := fun _ hnone => absurd (hnone.symm.trans hmeta) Bool.false_ne_true
        passed := fun hpassed => absurd (hpassed.symm.trans hstep) Bool.false_ne_true }
    refine ⟨h, { p with last := some (result.toOption.getD {}) }, hhandles, rfl, ?_,
      hp.trans (decided_append_command hstep).symm, ?_⟩
    · rw [hopen, hmeta, if_pos rfl, run_bind, hrun, callsOf_append_singleton, hcalls]
      cases result with
      | ok raw => rfl
      | error f => rfl
    · intro raw hraw
      change result = .ok raw at hraw
      rw [hraw]
      rfl

/-- Any other statement is passed on between the decision about commits and a commit. -/
theorem run_runStatement_passed (ctx : Context) (c : Client) (p : Progress) {s : List Char}
    (hpassed : (Sql.isMetaCommand s && c.dialect.caps.metaCommands) = false) :
    (runStatement ctx p s).run.run c =
      (do
        let p ← decideCommit ctx.settings p
        let result ← Talk.execute (String.ofList s) ctx.settings.fetchLimit
        let p ← commitAfter ctx.settings p
        let notices :=
          if ctx.settings.feedback && !result.returnsRows then [rowcount result.affected] else []
        return { p with notices := p.notices ++ notices, last := some result } :
        Talk Progress).run.run c := by
  unfold runStatement
  rw [run_bind]
  change (if (Sql.isMetaCommand s && c.dialect.caps.metaCommands) = true then _ else _ :
    Talk Progress).run.run c = _
  rw [hpassed, if_neg Bool.false_ne_true]

theorem run_execute (c : Client) (sql : String) (limit : Option Nat) :
    (Talk.execute sql limit).run.run c =
      (c.driver.execute c.calls sql limit, c.after [.execute sql limit]) :=
  rfl

theorem steps_passed {p : Progress} (hp : p.manualCommit = decided ctx c before) {s : List Char}
    (hpassed : (Sql.isMetaCommand s && c.dialect.caps.metaCommands) = false) :
    Steps ctx c before p s := by
  have hopen := run_runStatement_passed ctx (c.after (callsOf before)) p hpassed
  obtain ⟨p₁, hdecide, hp₁⟩ := run_decideCommit_after hp
  -- What is handled: autocommit is switched on if it has to be, the statement is run, and a commit follows.
  let log := callsOf before ++ switchCalls ctx c before
  let executed : Call := .execute (String.ofList s) ctx.settings.fetchLimit
  let result := c.driver.execute (c.after log).calls (String.ofList s) ctx.settings.fetchLimit
  let h : Handled := ⟨s, switchCalls ctx c before ++
    executed :: commitCalls ctx c before (log ++ [executed]) result, result⟩
  have hstep : h.isCommand c.dialect = false := hpassed
  have hhandles : Handles ctx c before h :=
    { answered := fun hcommand => absurd (hstep.symm.trans hcommand) Bool.false_ne_true
      unanswered := fun hcommand => absurd (hstep.symm.trans hcommand) Bool.false_ne_true
      passed := fun _ => ⟨rfl, rfl⟩ }
  have hcalls : callsOf (before ++ [h]) =
      log ++ [executed] ++ commitCalls ctx c before (log ++ [executed]) result := by
    rw [callsOf_append_singleton]
    simp [h, log]
  have hdecided : decided ctx c (before ++ [h]) = some (switches ctx c && switchFails c before) :=
    decided_append_passed hstep
  have hexecute : (Talk.execute (String.ofList s) ctx.settings.fetchLimit).run.run (c.after log) =
      (result, c.after (log ++ [executed])) := by
    rw [run_execute, Client.after_after]
    rfl
  cases hresult : result with
  | error f =>
    have hnothing : commitCalls ctx c before (log ++ [executed]) result = [] := by
      simp [commitCalls, hresult, Except.isOk, Except.toBool]
    refine ⟨h, p₁, hhandles, rfl, ?_, hp₁.trans hdecided.symm, ?_⟩
    · rw [hopen, run_bind, hdecide]
      dsimp only
      rw [run_bind, hexecute, hcalls, hnothing, List.append_nil]
      change _ = (result.map _, _)
      rw [hresult]
      rfl
    · intro raw hraw
      cases hresult.symm.trans hraw
  | ok raw =>
    have hok : result.isOk = true := by rw [hresult]; rfl
    obtain ⟨p₂, hcommit, hp₂⟩ := run_commitAfter_after hp₁ (log ++ [executed]) hok
    refine ⟨h, { p₂ with
      notices := p₂.notices ++
        (if ctx.settings.feedback && !raw.returnsRows then [rowcount raw.affected] else []),
      last := some raw }, hhandles, rfl, ?_, hp₂.trans hdecided.symm, ?_⟩
    · change _ = (result.map _, _)
      rw [hopen, run_bind, hdecide]
      dsimp only
      rw [run_bind, hexecute, hcalls, hresult]
      dsimp only
      rw [hresult] at hcommit
      rw [run_bind, hcommit]
      rfl
    · intro raw' hraw'
      exact congrArg some (Except.ok.inj (hresult.symm.trans hraw'))

theorem steps {p : Progress} (hp : p.manualCommit = decided ctx c before) (s : List Char) :
    Steps ctx c before p s := by
  cases hkind : Sql.isMetaCommand s && c.dialect.caps.metaCommands with
  | true => exact steps_command hp hkind
  | false => exact steps_passed hp hkind

/-! ## Whole runs -/

/-- Running statements is accounted for, and fails with the fault of the statement that failed. -/
theorem run_runStatements_after (ctx : Context) (c : Client) (statements : List (List Char))
    (p : Progress) (before : List Handled) (hp : p.manualCommit = decided ctx c before) :
    ∃ handled, Account ctx c before statements handled ∧
      ((runStatements ctx p statements).run.run (c.after (callsOf before))).2 =
        c.after (callsOf (before ++ handled)) ∧
      ∀ f, ((runStatements ctx p statements).run.run (c.after (callsOf before))).1 = .error f ↔
        ∃ h ∈ handled, h.result = .error f := by
  -- Along the statements: what is known of the commit mode after one of them is what the next one needs.
  induction statements generalizing p before with
  | nil => exact ⟨[], .nil, by rw [List.append_nil]; rfl, fun f => ⟨nofun, by simp⟩⟩
  | cons s rest ih =>
    obtain ⟨h, p', hhandles, rfl, hrun, hp', -⟩ := steps hp s
    rw [runStatements, run_bind, hrun]
    cases hresult : h.result with
    | error f =>
      have hfails : h.result.isOk = false := by rw [hresult]; rfl
      refine ⟨[h], .failed hhandles hfails rest, rfl, ?_⟩
      intro g
      constructor
      · intro hg
        refine ⟨h, List.mem_singleton_self h, ?_⟩
        rw [hresult]
        exact congrArg Except.error (Except.error.inj hg)
      · rintro ⟨h', hmem, hg⟩
        rw [List.mem_singleton.1 hmem, hresult] at hg
        exact congrArg Except.error (Except.error.inj hg)
    | ok raw =>
      have hok : h.result.isOk = true := by rw [hresult]; rfl
      obtain ⟨more, haccount, hcalls, hfault⟩ := ih p' (before ++ [h]) hp'
      refine ⟨h :: more, .cons hhandles hok haccount, ?_, ?_⟩
      · rw [List.append_assoc] at hcalls
        exact hcalls
      · intro f
        refine (hfault f).trans ?_
        simp [hresult]

theorem autocommits_append (first second : List Call) :
    Call.autocommits (first ++ second) = Call.autocommits first ++ Call.autocommits second := by
  simp [Call.autocommits]

theorem autocommits_commitCalls (log : List Call) (result : Except Fault RawResult) :
    Call.autocommits (commitCalls ctx c before log result) = [] := by
  unfold commitCalls
  split <;> rfl

theorem autocommits_switchCalls :
    Call.autocommits (switchCalls ctx c before) =
      if switches ctx c && before.all (Handled.isCommand c.dialect) then [true] else [] := by
  unfold switchCalls
  split <;> rfl

/-- A statement has autocommit switched on for it exactly if it is the first that is no command. -/
theorem Handles.autocommits {h : Handled} (hhandles : Handles ctx c before h) :
    Call.autocommits h.calls =
      if switches ctx c && before.all (Handled.isCommand c.dialect) && !h.isCommand c.dialect then
        [true]
      else [] := by
  cases hkind : h.isCommand c.dialect with
  | true =>
    have hnone : Call.autocommits h.calls = [] := by
      cases hmeta : ctx.hasMeta with
      | false =>
        obtain ⟨hcalls, -⟩ := hhandles.unanswered hkind hmeta
        rw [hcalls]
        rfl
      | true =>
        obtain ⟨-, hcalls | ⟨sql, hcalls⟩⟩ := hhandles.answered hkind hmeta
        · rw [hcalls]
          rfl
        · rw [hcalls]
          rfl
    simp [hnone]
  | false =>
    obtain ⟨-, hcalls⟩ := hhandles.passed hkind
    have hbehind : ∀ limit log, Call.autocommits (.execute (String.ofList h.statement) limit ::
        commitCalls ctx c before log h.result) = [] := by
      intro limit log
      exact autocommits_commitCalls log h.result
    rw [hcalls, autocommits_append, autocommits_switchCalls, hbehind, List.append_nil]
    simp

/-- Autocommit is switched on at most once, in front of the first statement that is no command. -/
theorem autocommits_of_handles {handled before : List Handled}
    (hall : ∀ front h behind, handled = front ++ h :: behind → Handles ctx c (before ++ front) h) :
    Call.autocommits (callsOf handled) =
      if switches ctx c && before.all (Handled.isCommand c.dialect) &&
          !handled.all (Handled.isCommand c.dialect) then [true] else [] := by
  induction handled generalizing before with
  | nil => simp [callsOf, Call.autocommits]
  | cons h more ih =>
    have hfirst : Handles ctx c before h := by simpa using hall [] h more rfl
    have hmore : ∀ front g behind, more = front ++ g :: behind →
        Handles ctx c (before ++ [h] ++ front) g := by
      intro front g behind hsplit
      have hrest := hall (h :: front) g behind (by rw [hsplit]; rfl)
      rwa [List.append_assoc]
    have hcalls : callsOf (h :: more) = h.calls ++ callsOf more := rfl
    rw [hcalls, autocommits_append, hfirst.autocommits, ih hmore]
    -- Behind the first statement that is no command, the ones before are not all commands.
    cases hkind : h.isCommand c.dialect <;> simp [hkind]

/-! ## Payloads -/

/-- A payload with a statement that is found to open a transaction is refused and nothing is called. -/
theorem run_of_opensTransaction {payload : List Char}
    (hrefused : ∃ s ∈ Sql.splitStatements payload, Sql.opensTransaction s = true) (c : Client) :
    (run ctx payload).run.run c = (.error .transactionsUnsupported, c) := by
  obtain ⟨s, hs, hopens⟩ := hrefused
  have hany : (Sql.splitStatements payload).any Sql.opensTransaction = true :=
    List.any_eq_true.2 ⟨s, hs, hopens⟩
  have hne : ¬ (Sql.splitStatements payload).isEmpty = true := by
    simpa using List.ne_nil_of_mem hs
  have hblank : ¬ Text.isAllBlank payload = true := by
    intro hblank
    rw [Sql.splitStatements_of_isAllBlank hblank] at hs
    cases hs
  unfold run
  dsimp only
  rw [if_neg hblank, if_neg hne, if_pos hany]
  rfl

/-- A payload without statements is answered without a call. -/
theorem run_of_no_statements {payload : List Char} (hnone : Sql.splitStatements payload = [])
    (c : Client) : (run ctx payload).run.run c = (.ok ⟨.status ("Connected: " ++ ctx.name), []⟩, c) := by
  unfold run
  rw [hnone]
  split <;> rfl

/-- A payload with statements that is not refused is run on one of the two paths. -/
theorem run_eq_of_kept {payload : List Char}
    (hkept : ∀ s ∈ Sql.splitStatements payload, Sql.opensTransaction s = false)
    (hsome : Sql.splitStatements payload ≠ []) :
    run ctx payload = do
      let dialect ← Talk.dialect
      if ctx.settings.autoframe && dialect.caps.nativeFrames then
        runNative (Sql.splitStatements payload)
      else
        let p ← runStatements ctx {} (Sql.splitStatements payload)
        return ⟨outputOf ctx.settings (p.last.getD {}), p.notices⟩ := by
  -- Only a payload of blanks is answered before it is split, and it has no statements.
  have hblank : ¬ Text.isAllBlank payload = true := fun hblank =>
    hsome (Sql.splitStatements_of_isAllBlank hblank)
  have hne : ¬ (Sql.splitStatements payload).isEmpty = true := by simpa using hsome
  have hpass : ¬ (Sql.splitStatements payload).any Sql.opensTransaction = true := by
    simpa using hkept
  unfold run
  dsimp only
  rw [if_neg hblank, if_neg hne, if_neg hpass]

theorem run_of_kept {payload : List Char}
    (hkept : ∀ s ∈ Sql.splitStatements payload, Sql.opensTransaction s = false)
    (hsome : Sql.splitStatements payload ≠ []) (c : Client) :
    (run ctx payload).run.run c =
      (if ctx.settings.autoframe && c.dialect.caps.nativeFrames then
          runNative (Sql.splitStatements payload)
        else do
          let p ← runStatements ctx {} (Sql.splitStatements payload)
          return ⟨outputOf ctx.settings (p.last.getD {}), p.notices⟩ : Talk Execution).run.run c := by
  rw [run_eq_of_kept hkept hsome, run_bind]
  rfl

/-- A payload is refused, or answered as it has no statements, or run on one of the two paths. -/
theorem run_cases (ctx : Context) (payload : List Char) :
    ((∃ s ∈ Sql.splitStatements payload, Sql.opensTransaction s = true) ∧
      run ctx payload = throw .transactionsUnsupported) ∨
    run ctx payload = pure ⟨.status ("Connected: " ++ ctx.name), []⟩ ∨
    run ctx payload = do
      let dialect ← Talk.dialect
      if ctx.settings.autoframe && dialect.caps.nativeFrames then
        runNative (Sql.splitStatements payload)
      else
        let p ← runStatements ctx {} (Sql.splitStatements payload)
        return ⟨outputOf ctx.settings (p.last.getD {}), p.notices⟩ := by
  by_cases hrefused : ∃ s ∈ Sql.splitStatements payload, Sql.opensTransaction s = true
  · exact Or.inl ⟨hrefused, funext (run_of_opensTransaction hrefused)⟩
  · by_cases hnone : Sql.splitStatements payload = []
    · exact Or.inr (Or.inl (funext (run_of_no_statements hnone)))
    · exact Or.inr (Or.inr (run_eq_of_kept (by simpa using hrefused) hnone))

/-- On the plain path, a payload that is not refused comes to running its statements and making
something of the last answer. -/
theorem run_of_plain {payload : List Char}
    (hkept : ∀ s ∈ Sql.splitStatements payload, Sql.opensTransaction s = false)
    (hplain : (ctx.settings.autoframe && c.dialect.caps.nativeFrames) = false) :
    let ran := (runStatements ctx {} (Sql.splitStatements payload)).run.run c
    ∃ product, (run ctx payload).run.run c = (ran.1.map product, ran.2) := by
  intro ran
  by_cases hnone : Sql.splitStatements payload = []
  · refine ⟨fun _ => ⟨.status ("Connected: " ++ ctx.name), []⟩, ?_⟩
    have hran : ran = (.ok {}, c) := by
      simp only [ran, hnone]
      rfl
    rw [run_of_no_statements hnone, hran]
    rfl
  · refine ⟨fun p => ⟨outputOf ctx.settings (p.last.getD {}), p.notices⟩, ?_⟩
    rw [run_of_kept hkept hnone, hplain, if_neg Bool.false_ne_true, run_bind]
    rcases hran : ran with ⟨result, left⟩
    change (runStatements ctx {} (Sql.splitStatements payload)).run.run c = _ at hran
    rw [hran]
    cases result with
    | ok p => rfl
    | error f => rfl

theorem map_eq_error_iff {ε α β : Type} {x : Except ε α} {g : α → β} {e : ε} :
    x.map g = .error e ↔ x = .error e := by
  cases x <;> simp [Except.map]

/-- The calls of a run on the plain path, whatever the payload, the settings, the dialect and the driver.
A payload with a statement that is found to open a transaction is refused without a call.  Otherwise the
statements are handled in order up to the first that fails, whose fault is that of the run; and the calls
are those made for the statements handled, among them at most one that switches autocommit. -/
theorem run_accounted (ctx : Context) (payload : List Char) (c : Client) :
    ((∃ s ∈ Sql.splitStatements payload, Sql.opensTransaction s = true) →
      (run ctx payload).run.run c = (.error .transactionsUnsupported, c)) ∧
    ((∀ s ∈ Sql.splitStatements payload, Sql.opensTransaction s = false) →
      (ctx.settings.autoframe && c.dialect.caps.nativeFrames) = false →
      ∃ handled, Account ctx c [] (Sql.splitStatements payload) handled ∧
        ((run ctx payload).run.run c).2 = c.after (callsOf handled) ∧
        (∀ f, ((run ctx payload).run.run c).1 = .error f ↔ ∃ h ∈ handled, h.result = .error f) ∧
        Call.autocommits (callsOf handled) =
          if switches ctx c && !handled.all (Handled.isCommand c.dialect) then [true] else []) := by
  refine ⟨fun hrefused => run_of_opensTransaction hrefused c, ?_⟩
  intro hkept hplain
  obtain ⟨handled, haccount, hcalls, hfault⟩ :=
    run_runStatements_after ctx c (Sql.splitStatements payload) {} [] rfl
  have hstart : c.after (callsOf []) = c := Client.after_nil c
  rw [hstart] at hcalls hfault
  obtain ⟨product, hrun⟩ := run_of_plain hkept hplain
  refine ⟨handled, haccount, ?_, ?_, ?_⟩
  · rw [hrun]
    exact hcalls
  · intro f
    rw [hrun, map_eq_error_iff]
    exact hfault f
  · have honce := autocommits_of_handles haccount.handles
    rwa [List.all_nil, Bool.and_true] at honce

/-- A driver that cannot switch to autocommit, and a statement that it does not know: what succeeds is
committed, and nothing is called behind the failure. -/
example :
    let m : Mock := { Mock.ofUrl "mock://sqlite" with
      failAutocommit := true
      responses := [("fails", .error "no such statement")] }
    ((run { settings := {}, name := "", hasMeta := true }
        "create; fails; select 1".toList).run.run m.client).2.calls =
      [.setAutocommit true, .execute "create;" none, .commit true, .execute "fails;" none] := by
  decide +kernel

end Execution
end SqlCells
