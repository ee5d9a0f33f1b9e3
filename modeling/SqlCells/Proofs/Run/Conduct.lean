import SqlCells.Proofs.Database.Clients
import SqlCells.Proofs.Run.Native
import SqlCells.Run.Persist

/-!
# The conduct of conversations

Running SQL and writing a table are conversations with one client.  Neither closes it nor touches anything
of it but its log, and neither makes up a refusal of transactions: what they end in is what the driver
answers, or a fault of their own that is none.
-/

namespace SqlCells

open Effects

/-- Every fault that a driver answers with has a property. -/
structure Driver.Raises (Q : Fault → Prop) (d : Driver) : Prop where
  execute : ∀ calls sql limit f, d.execute calls sql limit = .error f → Q f
  openRaw : ∀ calls f, d.openRaw calls = .error f → Q f
  rawExecute : ∀ calls sql f, d.rawExecute calls sql = .error f → Q f
  rawFetch : ∀ calls f, d.rawFetch calls = .error f → Q f
  rawClose : ∀ calls f, d.rawClose calls = .error f → Q f

theorem Driver.raises_true (d : Driver) : d.Raises fun _ => True where
  execute _ _ _ _ _ := trivial
  openRaw _ _ _ := trivial
  rawExecute _ _ _ _ := trivial
  rawFetch _ _ _ := trivial
  rawClose _ _ _ := trivial

namespace Talk

variable {α β : Type} {Q : Fault → Prop}

/-- With a driver whose faults have a property, a conversation adds calls to the log of the client, none
of which closes it, leaves the rest of the client as it is, and ends in no fault without the property. -/
def Proper (Q : Fault → Prop) (t : Talk α) : Prop :=
  ∀ c, c.driver.Raises Q → ∃ added, (t.run.run c).2 = c.after added ∧ .close ∉ added ∧
    ∀ f, (t.run.run c).1 = .error f → Q f

theorem Proper.of_still {t : Talk α} (hstill : ∀ c, (t.run.run c).2 = c)
    (hfault : ∀ c f, (t.run.run c).1 = .error f → Q f) : Proper Q t :=
  fun c _ => ⟨[], by rw [hstill, Client.after_nil], List.not_mem_nil, hfault c⟩

theorem Proper.pure (a : α) : Proper Q (Pure.pure a : Talk α) := by
  refine .of_still (fun _ => rfl) ?_
  intro c f hf
  cases hf

theorem Proper.throw {f : Fault} (hf : Q f) : Proper Q (MonadExcept.throw f : Talk α) := by
  refine .of_still (fun _ => rfl) ?_
  intro c g hg
  obtain rfl := Except.error.inj hg
  exact hf

theorem Proper.lift {x : Except Fault α} (hx : ∀ f, x = .error f → Q f) :
    Proper Q (liftM x : Talk α) :=
  .of_still (fun _ => rfl) fun _ => hx

theorem Proper.dialect : Proper Q Talk.dialect := by
  refine .of_still (fun _ => rfl) ?_
  intro c f hf
  cases hf

theorem Proper.call {answer : Client → Except Fault α} {note : Except Fault α → Call}
    (hnote : ∀ result, note result ≠ .close)
    (hanswer : ∀ c, c.driver.Raises Q → ∀ f, answer c = .error f → Q f) :
    Proper Q (Talk.call answer note) := by
  intro c hdriver
  refine ⟨[note (answer c)], rfl, ?_, hanswer c hdriver⟩
  simpa using (hnote (answer c)).symm

theorem Proper.execute (sql : String) (limit : Option Nat) : Proper Q (Talk.execute sql limit) :=
  .call (fun _ => nofun) fun c hdriver f => hdriver.execute c.calls sql limit f

theorem Proper.bind {t : Talk α} {k : α → Talk β} (ht : Proper Q t) (hk : ∀ a, Proper Q (k a)) :
    Proper Q (t >>= k) := by
  intro c hdriver
  obtain ⟨added, hleft, hopen, hfault⟩ := ht c hdriver
  rw [run_bind]
  rcases hrun : t.run.run c with ⟨result, c'⟩
  rw [hrun] at hleft hfault
  dsimp only at hleft hfault
  subst hleft
  cases result with
  | error f =>
    refine ⟨added, rfl, hopen, ?_⟩
    intro g hg
    obtain rfl := Except.error.inj hg
    exact hfault f rfl
  | ok a =>
    obtain ⟨more, hmore, hstill, hfault'⟩ := hk a (c.after added) hdriver
    refine ⟨added ++ more, ?_, ?_, hfault'⟩
    · dsimp only
      rw [hmore, Client.after_after]
    · simpa using And.intro hopen hstill

/-- What is attempted may end in any fault, and what follows knows of it what is known of the attempt. -/
theorem Proper.attempt_bind {t : Talk α} {k : Except Fault α → Talk β} (ht : Proper Q t)
    (hk : ∀ result, (∀ f, result = .error f → Q f) → Proper Q (k result)) :
    Proper Q (Talk.attempt t >>= k) := by
  intro c hdriver
  obtain ⟨added, hleft, hopen, hfault⟩ := ht c hdriver
  have hattempt : (Talk.attempt t).run.run c = (.ok (t.run.run c).1, (t.run.run c).2) := rfl
  rw [run_bind, hattempt]
  dsimp only
  rw [hleft]
  obtain ⟨more, hmore, hstill, hfault'⟩ := hk _ hfault (c.after added) hdriver
  refine ⟨added ++ more, ?_, ?_, hfault'⟩
  · rw [hmore, Client.after_after]
  · simpa using And.intro hopen hstill

/-- What does not depend on the log of a client is as it was after a conversation. -/
theorem Proper.keeps {γ : Type} {t : Talk α} (ht : Proper (fun _ => True) t) {look : Client → γ}
    (hlook : ∀ c added, look (c.after added) = look c) (c : Client) :
    look (t.run.run c).2 = look c := by
  obtain ⟨added, hleft, -, -⟩ := ht c c.driver.raises_true
  rw [hleft, hlook]

/-- A conversation adds calls to the log of the client it is with and to no other. -/
theorem Proper.callsOn_talk {t : Talk α} (ht : Proper (fun _ => True) t) (cs : Clients)
    (id : ClientId) (otherwise : Except Fault α) :
    ∃ added, .close ∉ added ∧ ∀ other, (cs.talk id otherwise t).2.callsOn other =
      cs.callsOn other ++ if other = id then added else [] := by
  cases hget : cs.get? id with
  | none =>
    refine ⟨[], List.not_mem_nil, ?_⟩
    intro other
    unfold Clients.callsOn
    rw [Clients.get?_talk, hget]
    split
    · next hsame => rw [hsame, hget]; rfl
    · rw [List.append_nil]
  | some c =>
    obtain ⟨added, hleft, hopen, -⟩ := ht c c.driver.raises_true
    refine ⟨added, hopen, ?_⟩
    intro other
    unfold Clients.callsOn
    rw [Clients.get?_talk, hget]
    split
    · next hsame =>
      rw [hsame, hget, Option.map_some, hleft]
      rfl
    · rw [List.append_nil]

/-- A call whose answer is not asked for may end in any fault. -/
theorem Proper.attempt_call_bind {answer : Client → Except Fault α} {note : Except Fault α → Call}
    (hnote : ∀ result, note result ≠ .close) {k : Except Fault α → Talk β}
    (hk : ∀ result, Proper Q (k result)) :
    Proper Q (Talk.attempt (Talk.call answer note) >>= k) := by
  intro c hdriver
  obtain ⟨more, hmore, hstill, hfault⟩ := hk (answer c) (c.after [note (answer c)]) hdriver
  refine ⟨note (answer c) :: more, ?_, ?_, hfault⟩
  · exact hmore.trans (Client.after_after c _ _)
  · simpa using And.intro (hnote (answer c)).symm hstill

end Talk

open Talk

section

variable {Q : Fault → Prop}

/-! ## Running SQL -/

/-- Only a command that is not known has no query. -/
theorem MetaCommand.exists_of_translate_error {command : List Char} {f : Fault}
    (htranslate : translate command = .error f) : ∃ name, f = .unsupportedMetaCommand name := by
  unfold translate at htranslate
  dsimp only at htranslate
  split at htranslate
  case h_5 | h_6 => split at htranslate <;> cases htranslate
  case h_12 => exact ⟨_, (Except.error.inj htranslate).symm⟩
  all_goals cases htranslate

theorem MetaCommand.proper_run (hQ : ∀ f, f ≠ .transactionsUnsupported → Q f)
    (statement : List Char) : Proper Q (MetaCommand.run statement) := by
  unfold MetaCommand.run
  refine .bind (.lift ?_) fun sql => .bind (.execute _ _) fun result => ?_
  · intro f hf
    obtain ⟨name, rfl⟩ := exists_of_translate_error hf
    exact hQ _ nofun
  · split
    · exact .bind (.throw (hQ _ nofun)) fun _ => .pure _
    · exact .pure _

namespace Execution

variable {ctx : Context}

theorem proper_decideCommit (settings : Settings) (p : Progress) :
    Proper Q (decideCommit settings p) := by
  unfold decideCommit
  split
  · exact .pure _
  · refine .bind .dialect fun dialect => ?_
    split
    · exact .pure _
    · split
      · refine .attempt_call_bind ?_ fun switched => .pure _
        exact fun _ => nofun
      · exact .pure _

theorem proper_commitAfter (settings : Settings) (p : Progress) :
    Proper Q (commitAfter settings p) := by
  unfold commitAfter
  refine .bind .dialect fun dialect => ?_
  split
  · refine .attempt_call_bind ?_ fun committed => ?_
    · exact fun _ => nofun
    · split <;> exact .pure _
  · exact .pure _

theorem proper_runStatement (hQ : ∀ f, f ≠ .transactionsUnsupported → Q f) (p : Progress)
    (statement : List Char) : Proper Q (runStatement ctx p statement) := by
  unfold runStatement
  refine .bind .dialect fun dialect => ?_
  split
  · split
    · exact .bind (MetaCommand.proper_run hQ statement) fun result => .pure _
    · exact .throw (hQ _ nofun)
  · exact .bind (proper_decideCommit _ p) fun p => .bind (.execute _ _) fun result =>
      .bind (proper_commitAfter _ p) fun p => .pure _

theorem proper_runStatements (hQ : ∀ f, f ≠ .transactionsUnsupported → Q f)
    (statements : List (List Char)) (p : Progress) :
    Proper Q (runStatements ctx p statements) := by
  induction statements generalizing p with
  | nil => exact .pure p
  | cons s rest ih => exact .bind (proper_runStatement hQ p s) fun p => ih p

theorem proper_runRaw (statements : List (List Char)) : Proper Q (runRaw statements) := by
  induction statements with
  | nil => exact .pure _
  | cons s rest ih =>
    exact .bind (.call (fun _ => nofun) fun c hdriver f => hdriver.rawExecute _ _ f) fun _ => ih

theorem proper_runNative (statements : List (List Char)) : Proper Q (runNative statements) := by
  unfold runNative
  refine .bind (.call (fun _ => nofun) fun c hdriver f => hdriver.openRaw _ f) fun _ =>
    .attempt_bind (.bind (proper_runRaw statements) fun _ =>
      .call (fun _ => nofun) fun c hdriver f => hdriver.rawFetch _ f) fun outcome houtcome =>
    .attempt_bind (.call (fun _ => nofun) fun c hdriver f => hdriver.rawClose _ f) fun closed hclosed => ?_
  exact .bind (.lift houtcome) fun frame => .bind (.lift hclosed) fun _ => .pure _

/-- A run ends in no refusal but that of a payload with a statement found to open a transaction. -/
theorem proper_run (hQ : ∀ f, f ≠ .transactionsUnsupported → Q f) (payload : List Char)
    (hkept : Q .transactionsUnsupported ∨
      ∀ s ∈ Sql.splitStatements payload, Sql.opensTransaction s = false) :
    Proper Q (run ctx payload) := by
  rcases run_cases ctx payload with ⟨hopens, hrun⟩ | hrun | hrun
  · rw [hrun]
    refine .throw (hkept.resolve_right ?_)
    simpa using hopens
  · rw [hrun]
    exact .pure _
  · rw [hrun]
    refine .bind .dialect fun dialect => ?_
    split
    · exact proper_runNative _
    · exact .bind (proper_runStatements hQ _ _) fun p => .pure _

/-! ## Answers without statements -/

/-- A run that succeeds has had no statements, or has been conducted on a raw session, or answers with the
result of its last statement. -/
theorem of_run_ok {payload : List Char} {c c' : Client} {execution : Execution}
    (hrun : (run ctx payload).run.run c = (.ok execution, c')) :
    execution.output = .status ("Connected: " ++ ctx.name) ∨
    (runNative (Sql.splitStatements payload)).run.run c = (.ok execution, c') ∨
    ∃ raw, execution.output = outputOf ctx.settings raw := by
  rcases run_cases ctx payload with ⟨-, hrefused⟩ | hconnected | hpaths
  · rw [hrefused] at hrun
    cases hrun
  · rw [hconnected] at hrun
    cases hrun
    exact Or.inl rfl
  · rw [hpaths, run_bind] at hrun
    change (if _ then _ else _ : Talk Execution).run.run c = _ at hrun
    split at hrun
    · exact Or.inr (Or.inl hrun)
    · obtain ⟨p, _, -, hrun⟩ := of_run_bind_ok hrun
      cases hrun
      exact Or.inr (Or.inr ⟨_, rfl⟩)

/-- Only a payload without statements is answered by a status. -/
theorem status_of_run {payload : List Char} {c c' : Client} {execution : Execution} {text : String}
    (hrun : (run ctx payload).run.run c = (.ok execution, c'))
    (hstatus : execution.output = .status text) : text = "Connected: " ++ ctx.name := by
  rcases of_run_ok hrun with hconnected | hnative | ⟨raw, hplain⟩
  · exact Output.status.inj (hstatus.symm.trans hconnected)
  · obtain ⟨calls, f, -, hframe⟩ := fetched_of_runNative hnative
    rw [hframe] at hstatus
    cases hstatus
  · rw [hplain] at hstatus
    unfold outputOf at hstatus
    dsimp only at hstatus
    split at hstatus <;> cases hstatus

end Execution

/-! ## Writing a table -/

namespace Persist

theorem proper_runAll (statements : List (List Char)) : Proper Q (runAll statements) := by
  induction statements with
  | nil => exact .pure _
  | cons s rest ih => exact .bind (.execute _ _) fun _ => ih

theorem eq_tableExists_of_plan {d : Dialect} {table : String} {frame : Frame} {ifExists : IfExists}
    {index tableExists : Bool} {f : Fault}
    (hplan : plan d table frame ifExists index tableExists = .error f) : f = .tableExists table := by
  unfold plan at hplan
  dsimp only at hplan
  split at hplan
  · exact (Except.error.inj hplan).symm
  all_goals cases hplan

theorem proper_writeFrame (hQ : ∀ f, f ≠ .transactionsUnsupported → Q f) (table : String)
    (frame : Frame) (ifExists : IfExists) (index : Bool) :
    Proper Q (writeFrame table frame ifExists index) := by
  unfold writeFrame
  refine .bind .dialect fun dialect => .attempt_call_bind ?_ fun probed => .bind (.lift ?_)
    fun statements => .bind (proper_runAll statements) fun _ => ?_
  · exact fun _ => nofun
  · intro f hf
    rw [eq_tableExists_of_plan hf]
    exact hQ _ nofun
  · split
    · exact .pure _
    · refine .attempt_call_bind ?_ fun committed => ?_
      · exact fun _ => nofun
      · split <;> exact .pure _

end Persist

end

end SqlCells
