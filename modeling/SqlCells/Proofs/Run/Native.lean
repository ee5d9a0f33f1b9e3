import SqlCells.Proofs.Run.Calls

/-!
# Raw sessions

On the native path a payload is run on a raw session: it is opened, given the statements up to the first
that fails, asked for a frame if none did, and closed.  The order of the calls is not that of the faults:
the session is closed before anything is reported, and a fault of the statements or of the fetch is
reported before one of closing.  The drivers here are arbitrary, so each answer is said in terms of the
calls made before it.
-/

namespace SqlCells

open Effects

/-- A call that opens a raw session, uses it or closes it; no other call reaches the client itself. -/
def Call.onRawSession : Call → Bool
  | .openRaw | .rawExecute _ | .rawFetch | .rawClose => true
  | .execute _ _ | .setAutocommit _ | .commit _ | .close => false

namespace Execution

/-- The calls that send statements to a raw session. -/
def rawCalls (ss : List (List Char)) : List Call :=
  ss.map fun s => .rawExecute (String.ofList s)

section

variable (c : Client) (log : List Call)

/-- What the driver answers to a statement on a raw session, some calls having been made. -/
def rawAnswer (s : List Char) : Except Fault Unit :=
  c.driver.rawExecute (c.after log).calls (String.ofList s)

/-- Each of the statements is accepted when those before it have been sent. -/
def Accepts (ss : List (List Char)) : Prop :=
  ∀ front s behind, ss = front ++ s :: behind → rawAnswer c (log ++ rawCalls front) s = .ok ()

end

/-- How a raw session is conducted when it has been opened for some statements: those that are sent to
it, the calls made from opening to closing it, and what the run comes to. -/
inductive Conducts (c : Client) (ss : List (List Char)) :
    List (List Char) → List Call → Except Fault Execution → Prop where
  /-- The first statement that fails is the last one sent, and its fault is that of the run. -/
  | failed {front : List (List Char)} {s : List Char} {behind : List (List Char)} {f : Fault}
      (hsplit : ss = front ++ s :: behind) (hfront : Accepts c [.openRaw] front)
      (hfails : rawAnswer c ([.openRaw] ++ rawCalls front) s = .error f) :
      Conducts c ss (front ++ [s]) ([.openRaw] ++ rawCalls (front ++ [s]) ++ [.rawClose]) (.error f)
  /-- When no statement fails all are sent and the frame is fetched: it is the product of the run, unless
  fetching it fails, or else closing. -/
  | fetched (hall : Accepts c [.openRaw] ss) :
      Conducts c ss ss ([.openRaw] ++ rawCalls ss ++ [.rawFetch] ++ [.rawClose]) (do
        let frame ← c.driver.rawFetch (c.after ([.openRaw] ++ rawCalls ss)).calls
        c.driver.rawClose (c.after ([.openRaw] ++ rawCalls ss ++ [.rawFetch])).calls
        return ⟨.frame frame, []⟩)

variable {ctx : Context} {c : Client} {log : List Call}

theorem rawCalls_append (front behind : List (List Char)) :
    rawCalls (front ++ behind) = rawCalls front ++ rawCalls behind :=
  List.map_append

theorem accepts_nil : Accepts c log [] := by
  intro front s behind hsplit
  simp at hsplit

theorem accepts_cons {s : List Char} {rest : List (List Char)} (hfirst : rawAnswer c log s = .ok ())
    (hrest : Accepts c (log ++ rawCalls [s]) rest) : Accepts c log (s :: rest) := by
  intro front t behind hsplit
  cases front with
  | nil =>
    obtain ⟨rfl, -⟩ := List.cons.inj hsplit
    simpa [rawCalls] using hfirst
  | cons u front =>
    obtain ⟨rfl, htail⟩ : s = u ∧ rest = front ++ t :: behind := List.cons.inj hsplit
    have hlater := hrest front t behind htail
    rwa [List.append_assoc, ← rawCalls_append] at hlater

/-! ## Sending statements -/

theorem run_rawExecute (c : Client) (log : List Call) (s : List Char) :
    (Talk.rawExecute (String.ofList s)).run.run (c.after log) =
      (rawAnswer c log s, c.after (log ++ rawCalls [s])) := by
  rw [← Client.after_after]
  rfl

theorem run_rawFetch (c : Client) (log : List Call) :
    Talk.rawFetch.run.run (c.after log) =
      (c.driver.rawFetch (c.after log).calls, c.after (log ++ [.rawFetch])) := by
  rw [← Client.after_after]
  rfl

/-- Statements are sent up to the first that fails: all of them, or those before it and it. -/
theorem run_runRaw_after (c : Client) (ss : List (List Char)) (log : List Call) :
    (Accepts c log ss ∧ (runRaw ss).run.run (c.after log) = (.ok (), c.after (log ++ rawCalls ss))) ∨
    ∃ front s behind f, ss = front ++ s :: behind ∧ Accepts c log front ∧
      rawAnswer c (log ++ rawCalls front) s = .error f ∧
      (runRaw ss).run.run (c.after log) = (.error f, c.after (log ++ rawCalls (front ++ [s]))) := by
  induction ss generalizing log with
  | nil =>
    refine Or.inl ⟨accepts_nil, ?_⟩
    change (_, c.after log) = (_, c.after (log ++ []))
    rw [List.append_nil]
  | cons s rest ih =>
    have hstep := run_rawExecute c log s
    rw [runRaw, run_bind, hstep]
    cases hanswer : rawAnswer c log s with
    | error f =>
      -- A statement that fails has been sent all the same.
      refine Or.inr ⟨[], s, rest, f, rfl, accepts_nil, ?_, rfl⟩
      simpa [rawCalls] using hanswer
    | ok u =>
      have hcalls : ∀ more, log ++ rawCalls (s :: more) = log ++ rawCalls [s] ++ rawCalls more := by
        intro more
        rw [List.append_assoc, ← rawCalls_append]
        rfl
      dsimp only
      rcases ih (log ++ rawCalls [s]) with
        ⟨hrest, hrun⟩ | ⟨front, t, behind, f, rfl, hfront, hfails, hrun⟩
      · refine Or.inl ⟨accepts_cons hanswer hrest, ?_⟩
        rw [hrun, hcalls rest]
      · refine Or.inr ⟨s :: front, t, behind, f, rfl, accepts_cons hanswer hfront, ?_, ?_⟩
        · rw [hcalls]
          exact hfails
        · rw [hrun, List.cons_append, hcalls (front ++ [t])]

/-! ## The session as a whole -/

/-- A session that was opened is closed whatever the statements and the fetch have come to, and their
fault is reported before one of closing. -/
theorem run_runNative {c : Client} (hopen : c.driver.openRaw c.calls = .ok ()) {ss : List (List Char)}
    {outcome : Except Fault Frame} {log : List Call}
    (hrun : (do runRaw ss; Talk.rawFetch : Talk Frame).run.run (c.after [.openRaw]) =
      (outcome, c.after log)) :
    (runNative ss).run.run c =
      (do
        let frame ← outcome
        c.driver.rawClose (c.after log).calls
        return ⟨.frame frame, []⟩, c.after (log ++ [.rawClose])) := by
  have hopened : Talk.openRaw.run.run c = (.ok (), c.after [.openRaw]) := by
    change (c.driver.openRaw c.calls, _) = _
    rw [hopen]
    rfl
  have hattempt : (Talk.attempt (do runRaw ss; Talk.rawFetch)).run.run (c.after [.openRaw]) =
      (.ok outcome, c.after log) := by
    change (Except.ok (Prod.fst ((do runRaw ss; Talk.rawFetch : Talk Frame).run.run _)),
      Prod.snd ((do runRaw ss; Talk.rawFetch : Talk Frame).run.run _)) = _
    rw [hrun]
  have hclose : (Talk.attempt Talk.rawClose).run.run (c.after log) =
      (.ok (c.driver.rawClose (c.after log).calls), c.after (log ++ [.rawClose])) := by
    rw [← Client.after_after]
    rfl
  unfold runNative
  rw [run_bind, hopened]
  dsimp only
  rw [run_bind, hattempt]
  dsimp only
  rw [run_bind, hclose]
  cases outcome with
  | error f => rfl
  | ok frame =>
    change (do liftM (c.driver.rawClose (c.after log).calls); pure _ : Talk Execution).run.run _ = _
    cases c.driver.rawClose (c.after log).calls with
    | error f => rfl
    | ok u => rfl

theorem run_runNative_conducts {c : Client} (hopen : c.driver.openRaw c.calls = .ok ())
    (ss : List (List Char)) :
    ∃ sent added result, (runNative ss).run.run c = (result, c.after added) ∧
      Conducts c ss sent added result := by
  rcases run_runRaw_after c ss [.openRaw] with
    ⟨hall, hrun⟩ | ⟨front, s, behind, f, hsplit, hfront, hfails, hrun⟩
  · have hfetch : (do runRaw ss; Talk.rawFetch : Talk Frame).run.run (c.after [.openRaw]) =
        (c.driver.rawFetch (c.after ([.openRaw] ++ rawCalls ss)).calls,
          c.after ([.openRaw] ++ rawCalls ss ++ [.rawFetch])) := by
      rw [run_bind, hrun]
      exact run_rawFetch c _
    exact ⟨_, _, _, run_runNative hopen hfetch, .fetched hall⟩
  · have hstop : (do runRaw ss; Talk.rawFetch : Talk Frame).run.run (c.after [.openRaw]) =
        (.error f, c.after ([.openRaw] ++ rawCalls (front ++ [s]))) := by
      rw [run_bind, hrun]
    exact ⟨_, _, .error f, run_runNative hopen hstop, .failed hsplit hfront hfails⟩

namespace Conducts

variable {ss sent : List (List Char)} {added : List Call} {result : Except Fault Execution}

theorem sent_prefix (h : Conducts c ss sent added result) : sent <+: ss := by
  cases h with
  | @failed front s behind f hsplit _ _ =>
    refine ⟨behind, ?_⟩
    rw [hsplit, List.append_assoc]
    rfl
  | fetched _ => exact List.prefix_rfl

theorem closed_last (h : Conducts c ss sent added result) : added.getLast? = some .rawClose := by
  cases h with
  | failed _ _ _ => exact List.getLast?_concat
  | fetched _ => exact List.getLast?_concat

theorem closed_once (h : Conducts c ss sent added result) : Call.rawCloses added = 1 := by
  cases h with
  | failed _ _ _ => simp [Call.rawCloses, rawCalls]
  | fetched _ => simp [Call.rawCloses, rawCalls]

theorem rawExecuted_eq (h : Conducts c ss sent added result) :
    Call.rawExecuted added = sent.map String.ofList := by
  cases h with
  | failed _ _ _ => simp [Call.rawExecuted, rawCalls]
  | fetched _ => simp [Call.rawExecuted, rawCalls]

/-- From opening to closing, no call is made on the client itself. -/
theorem onRawSession (h : Conducts c ss sent added result) :
    added.all Call.onRawSession = true := by
  have hsent : ∀ ss, (rawCalls ss).all Call.onRawSession = true := by
    intro ss
    simp [rawCalls, Call.onRawSession]
  cases h with
  | failed _ _ _ => simp only [List.all_append, hsent]; rfl
  | fetched _ => simp only [List.all_append, hsent]; rfl

end Conducts

/-- A raw session that succeeds answers with the frame that was fetched. -/
theorem fetched_of_runNative {ss : List (List Char)} {c' : Client} {execution : Execution}
    (hrun : (runNative ss).run.run c = (.ok execution, c')) :
    ∃ calls f, c.driver.rawFetch calls = .ok f ∧ execution.output = .frame f := by
  have hopen : c.driver.openRaw c.calls = .ok () := by
    obtain ⟨_, _, hopened, -⟩ := of_run_bind_ok hrun
    exact (Prod.mk.inj hopened).1
  obtain ⟨sent, added, result, hran, hconducts⟩ := run_runNative_conducts hopen ss
  obtain ⟨hresult, -⟩ := Prod.mk.inj (hran.symm.trans hrun)
  cases hconducts with
  | failed _ _ _ => cases hresult
  | fetched _ =>
    obtain ⟨f, hfetch, hclosing⟩ := of_bind_eq_ok hresult
    obtain ⟨_, -, hreturn⟩ := of_bind_eq_ok hclosing
    cases hreturn
    exact ⟨_, f, hfetch, rfl⟩

/-! ## Payloads -/

/-- What the native path does with a payload, whatever the settings and the driver.  A payload with a
statement that is found to open a transaction is refused and no session is opened.  Otherwise, once the
session is open, the statements are sent to it in order up to the first that fails, whose fault is that
of the run; the session is closed once, by the last call; and no call is made on the client itself. -/
theorem run_closes_raw_session (ctx : Context) (payload : List Char) (c : Client) :
    ((∃ s ∈ Sql.splitStatements payload, Sql.opensTransaction s = true) →
      (run ctx payload).run.run c = (.error .transactionsUnsupported, c)) ∧
    (ctx.settings.autoframe = true → c.dialect.caps.nativeFrames = true →
      Sql.splitStatements payload ≠ [] →
      (∀ s ∈ Sql.splitStatements payload, Sql.opensTransaction s = false) →
      c.driver.openRaw c.calls = .ok () →
      ∃ sent added result, (run ctx payload).run.run c = (result, c.after added) ∧
        Conducts c (Sql.splitStatements payload) sent added result ∧
        sent <+: Sql.splitStatements payload ∧ Call.rawExecuted added = sent.map String.ofList ∧
        Call.rawCloses added = 1 ∧ added.getLast? = some .rawClose ∧
        ∀ call ∈ added, call.onRawSession = true) := by
  refine ⟨fun hrefused => run_of_opensTransaction hrefused c, ?_⟩
  intro hframe hnative hsome hkept hopen
  obtain ⟨sent, added, result, hrun, hconducts⟩ :=
    run_runNative_conducts hopen (Sql.splitStatements payload)
  refine ⟨sent, added, result, ?_, hconducts, hconducts.sent_prefix, hconducts.rawExecuted_eq,
    hconducts.closed_once, hconducts.closed_last, List.all_eq_true.1 hconducts.onRawSession⟩
  rw [run_of_kept hkept hsome, hframe, hnative]
  exact hrun

/-- Of three statements the second fails: the third is not sent, and the session is closed. -/
theorem run_closes_raw_session_failing :
    let m : Mock := { Mock.ofUrl "mock://duckdb" with responses := [("fails", .error "no such statement")] }
    let ctx : Context := { settings := { autoframe := true }, name := "", hasMeta := true }
    let payload := "create; fails; select 1".toList
    ctx.settings.autoframe = true ∧ m.client.dialect.caps.nativeFrames = true ∧
      Sql.splitStatements payload ≠ [] ∧
      (∀ s ∈ Sql.splitStatements payload, Sql.opensTransaction s = false) ∧
      m.client.driver.openRaw m.client.calls = .ok () ∧
      (∃ added, ((run ctx payload).run.run m.client).2 = m.client.after added ∧
        Call.rawCloses added = 1) ∧
      ((run ctx payload).run.run m.client).1 = .error (.driver "no such statement") ∧
      ((run ctx payload).run.run m.client).2.calls =
        [.openRaw, .rawExecute "create;", .rawExecute "fails;", .rawClose] := by
  intro m ctx payload
  have hsome : Sql.splitStatements payload ≠ [] := by decide +kernel
  have hkept : ∀ s ∈ Sql.splitStatements payload, Sql.opensTransaction s = false := by decide +kernel
  have hopen : m.client.driver.openRaw m.client.calls = .ok () := by decide +kernel
  obtain ⟨_, added, result, hrun, -, -, -, honce, -⟩ :=
    (run_closes_raw_session ctx payload m.client).2 rfl (by decide +kernel) hsome hkept hopen
  refine ⟨rfl, by decide +kernel, hsome, hkept, hopen, ⟨added, ?_, honce⟩, ?_, ?_⟩
  · rw [hrun]
  · decide +kernel
  · decide +kernel

end Execution
end SqlCells
