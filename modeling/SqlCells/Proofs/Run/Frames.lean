import SqlCells.Proofs.Data.ResultSet
import SqlCells.Proofs.Run.Native

/-!
# Frames on the native path and on the plain one

With frames asked for, a dialect that builds them itself runs a payload on a raw session and shows the
last answer as the driver reports it, past the result set and its limit.  Stand-ins with the same canned
answers serve to compare this with the plain path.
-/

namespace SqlCells

open Effects

namespace Mock

/-- What running some statements comes to: the last answer, or the first error. -/
def outcome (m : Mock) (last : RawResult) (ss : List (List Char)) : Except Fault RawResult :=
  ss.foldlM (fun _ s => m.rawAnswer (String.ofList s)) last

variable {m : Mock}

/-- A statement with a canned answer is answered alike on a raw session and without one. -/
theorem answer_eq_rawAnswer {sql : String} (hsome : (m.response? sql).isSome = true) :
    m.answer sql = m.rawAnswer sql := by
  obtain ⟨canned, hcanned⟩ := Option.isSome_iff_exists.1 hsome
  simp [answer, rawAnswer, hcanned]

/-- The outcome of statements depends on the canned answers only. -/
theorem outcome_congr {m' : Mock} (hresponses : m'.responses = m.responses) :
    m'.outcome = m.outcome := by
  have hanswer : m'.rawAnswer = m.rawAnswer := by
    funext sql
    simp [rawAnswer, response?, hresponses]
  funext last ss
  simp [outcome, hanswer]

theorem outcome_cons (last : RawResult) (s : List Char) (rest : List (List Char)) :
    m.outcome last (s :: rest) =
      (m.rawAnswer (String.ofList s)).bind fun raw => m.outcome raw rest := by
  unfold outcome
  rw [List.foldlM_cons]
  rfl

/-- The outcome of statements that are all answered by results is the last of them. -/
theorem outcome_of_getLast {ss : List (List Char)} {s : List Char} {raw : RawResult}
    (hall : ∀ t ∈ ss, ∃ raw, m.response? (String.ofList t) = some (.ok raw))
    (hlast : ss.getLast? = some s) (hraw : m.response? (String.ofList s) = some (.ok raw))
    (before : RawResult) : m.outcome before ss = .ok raw := by
  induction ss generalizing before with
  | nil => cases hlast
  | cons t rest ih =>
    obtain ⟨first, hfirst⟩ := hall t List.mem_cons_self
    have hanswer : m.rawAnswer (String.ofList t) = .ok first := by simp [rawAnswer, hfirst]
    rw [outcome_cons, hanswer]
    change m.outcome first rest = .ok raw
    cases rest with
    | nil =>
      obtain rfl : t = s := by simpa using hlast
      rw [hfirst] at hraw
      have hsame : first = raw := by simpa using hraw
      rw [hsame]
      rfl
    | cons u more =>
      refine ih (fun t ht => hall t (List.mem_cons_of_mem _ ht)) ?_ first
      rwa [List.getLast?_cons_cons] at hlast

/-- The outcome of statements one of which is answered by an error is an error. -/
theorem outcome_of_error {ss : List (List Char)} {s : List Char} {f : Fault} (hs : s ∈ ss)
    (herror : m.response? (String.ofList s) = some (.error f)) (before : RawResult) :
    ∃ f, m.outcome before ss = .error f := by
  induction ss generalizing before with
  | nil => cases hs
  | cons t rest ih =>
    rw [outcome_cons]
    cases hanswer : m.rawAnswer (String.ofList t) with
    | error g => exact ⟨g, rfl⟩
    | ok raw =>
      rcases List.mem_cons.1 hs with rfl | hs
      · have hcontra : m.rawAnswer (String.ofList s) = .error f := by simp [rawAnswer, herror]
        cases hcontra.symm.trans hanswer
      · exact ih hs raw

/-! ## Raw sessions -/

theorem held_rawExecute (calls : List Call) (sql : String) :
    m.held (calls ++ [.rawExecute sql]) =
      match m.rawAnswer sql with
      | .ok raw => raw
      | .error _ => m.held calls := by
  unfold held
  rw [List.foldl_append]
  rfl

theorem held_openRaw (calls : List Call) : m.held (calls ++ [.openRaw]) = {} := by
  unfold held
  rw [List.foldl_append]
  rfl

end Mock

namespace Execution

variable {m : Mock} {ctx : Context}

/-- A raw session holds the outcome of the statements run on it. -/
theorem run_runRaw_mock (ss : List (List Char)) (log : List Call) :
    ∃ more, (runRaw ss).run.run (m.client.after log) =
        ((m.outcome (m.held log) ss).map fun _ => (), m.client.after (log ++ more)) ∧
      ∀ raw, m.outcome (m.held log) ss = .ok raw → m.held (log ++ more) = raw := by
  induction ss generalizing log with
  | nil =>
    refine ⟨[], ?_, ?_⟩
    · rw [List.append_nil]
      rfl
    · intro raw hraw
      rw [List.append_nil]
      exact Except.ok.inj hraw
  | cons s rest ih =>
    let call : Call := .rawExecute (String.ofList s)
    have hstep : (Talk.rawExecute (String.ofList s)).run.run (m.client.after log) =
        ((m.rawAnswer (String.ofList s)).map fun _ => (), m.client.after (log ++ [call])) :=
      run_rawExecute m.client log s
    rw [Mock.outcome_cons, runRaw, run_bind, hstep]
    cases hanswer : m.rawAnswer (String.ofList s) with
    | error f =>
      refine ⟨[call], rfl, ?_⟩
      intro raw hraw
      cases hraw
    | ok raw =>
      have hheld : m.held (log ++ [call]) = raw := by
        rw [Mock.held_rawExecute, hanswer]
      obtain ⟨more, hrun, hlast⟩ := ih (log ++ [call])
      rw [hheld, List.append_assoc] at hrun
      rw [hheld, List.append_assoc] at hlast
      exact ⟨[call] ++ more, hrun, hlast⟩

/-- Running statements on a raw session and fetching makes a frame of the outcome. -/
theorem run_runRaw_fetch_mock (ss : List (List Char)) :
    ∃ log, (do runRaw ss; Talk.rawFetch : Talk Frame).run.run (m.client.after [.openRaw]) =
      ((m.outcome {} ss).map fun raw => Frame.ofRows raw.columns raw.rows, m.client.after log) := by
  obtain ⟨more, hrun, hheld⟩ := run_runRaw_mock (m := m) ss [.openRaw]
  have hfresh : m.held [.openRaw] = {} := Mock.held_openRaw []
  rw [hfresh] at hrun hheld
  rw [run_bind, hrun]
  cases houtcome : m.outcome {} ss with
  | error f => exact ⟨[.openRaw] ++ more, rfl⟩
  | ok raw =>
    refine ⟨[.openRaw] ++ more ++ [.rawFetch], ?_⟩
    rw [← Client.after_after]
    change (Except.ok (Frame.ofRows (m.held ([.openRaw] ++ more)).columns
      (m.held ([.openRaw] ++ more)).rows), _) = _
    rw [hheld raw houtcome]
    rfl

/-- The native path makes a frame of the last answer as the driver reports it. -/
theorem run_runNative_mock (hnative : m.dialect.caps.nativeFrames = true) (ss : List (List Char)) :
    ((runNative ss).run.run m.client).1 =
      (m.outcome {} ss).map fun raw => ⟨.frame (Frame.ofRows raw.columns raw.rows), []⟩ := by
  have hopen : m.client.driver.openRaw m.client.calls = .ok () := if_pos hnative
  obtain ⟨log, hrun⟩ := run_runRaw_fetch_mock (m := m) ss
  rw [run_runNative hopen hrun]
  -- Closing never fails.
  cases m.outcome {} ss with
  | error f => rfl
  | ok raw => rfl

/-- The plain path bounds the last answer. -/
theorem run_runStatements_mock (ctx : Context) (hmeta : m.dialect.caps.metaCommands = false) (ss : List (List Char))
    (hanswered : ∀ s ∈ ss, (m.response? (String.ofList s)).isSome = true) (p : Progress)
    (before : List Handled) (hp : p.manualCommit = decided ctx m.client before) (last : RawResult)
    (hlast : p.last.getD {} = last.truncate ctx.settings.fetchLimit) :
    ((runStatements ctx p ss).run.run (m.client.after (callsOf before))).1.map
        (fun p => p.last.getD {}) =
      (m.outcome last ss).map (RawResult.truncate ctx.settings.fetchLimit) := by
  induction ss generalizing p before last with
  | nil => exact congrArg Except.ok hlast
  | cons s rest ih =>
    obtain ⟨h, p', hhandles, rfl, hrun, hp', hlast'⟩ := steps hp s
    have hpassed : h.isCommand m.client.dialect = false := by
      change (_ && m.dialect.caps.metaCommands) = false
      rw [hmeta, Bool.and_false]
    have hresult : h.result = (m.rawAnswer (String.ofList h.statement)).map
        (RawResult.truncate ctx.settings.fetchLimit) := by
      rw [← Mock.answer_eq_rawAnswer (hanswered _ List.mem_cons_self)]
      exact (hhandles.passed hpassed).1
    rw [Mock.outcome_cons, runStatements, run_bind, hrun]
    cases hanswer : m.rawAnswer (String.ofList h.statement) with
    | error f =>
      rw [hresult, hanswer]
      rfl
    | ok raw =>
      rw [hanswer] at hresult
      have hnow : p'.last.getD {} = raw.truncate ctx.settings.fetchLimit := by
        rw [hlast' _ hresult]
        rfl
      rw [hresult]
      exact ih (fun t ht => hanswered t (List.mem_cons_of_mem _ ht)) p' (before ++ [h]) hp' raw hnow

/-! ## Both paths -/

/-- With frames asked for, what the native path produces of a payload that is not refused. -/
theorem run_native_mock {payload : List Char} (hframe : ctx.settings.autoframe = true)
    (hnative : m.dialect.caps.nativeFrames = true)
    (hkept : ∀ s ∈ Sql.splitStatements payload, Sql.opensTransaction s = false)
    (hsome : Sql.splitStatements payload ≠ []) :
    ((run ctx payload).run.run m.client).1.map Execution.output =
      (m.outcome {} (Sql.splitStatements payload)).map fun raw =>
        .frame (Frame.ofRows raw.columns raw.rows) := by
  have hpath : (ctx.settings.autoframe && m.client.dialect.caps.nativeFrames) = true := by
    change (_ && m.dialect.caps.nativeFrames) = true
    rw [hframe, hnative]
    rfl
  rw [run_of_kept hkept hsome, if_pos hpath, run_runNative_mock hnative]
  cases m.outcome {} (Sql.splitStatements payload) with
  | error f => rfl
  | ok raw => rfl

/-- With frames asked for, what the plain path produces of a payload that is not refused. -/
theorem run_plain_mock {payload : List Char} (hframe : ctx.settings.autoframe = true)
    (hplain : m.dialect.caps.nativeFrames = false) (hmeta : m.dialect.caps.metaCommands = false)
    (hanswered : ∀ s ∈ Sql.splitStatements payload, (m.response? (String.ofList s)).isSome = true)
    (hkept : ∀ s ∈ Sql.splitStatements payload, Sql.opensTransaction s = false)
    (hsome : Sql.splitStatements payload ≠ []) :
    ((run ctx payload).run.run m.client).1.map Execution.output =
      (m.outcome {} (Sql.splitStatements payload)).map fun raw =>
        .frame (ResultSet.ofRaw raw ctx.settings.fetchLimit).toFrame := by
  have hpath : ¬ (ctx.settings.autoframe && m.client.dialect.caps.nativeFrames) = true := by
    change ¬ (_ && m.dialect.caps.nativeFrames) = true
    rw [hplain, Bool.and_false]
    exact Bool.false_ne_true
  have hlast := run_runStatements_mock ctx hmeta (Sql.splitStatements payload) hanswered {} [] rfl {}
    (RawResult.truncate_empty _).symm
  have hstart : m.client.after (callsOf []) = m.client := Client.after_nil _
  rw [hstart] at hlast
  rw [run_of_kept hkept hsome, if_neg hpath, run_bind]
  rcases hrun : (runStatements ctx {} (Sql.splitStatements payload)).run.run m.client with
    ⟨result, left⟩
  rw [hrun] at hlast
  -- The limit was applied when the rows were fetched; the result set applies it once more.
  have hproduct : ∀ raw, outputOf ctx.settings (raw.truncate ctx.settings.fetchLimit) =
      .frame (ResultSet.ofRaw raw ctx.settings.fetchLimit).toFrame := by
    intro raw
    unfold outputOf ResultSet.ofRaw
    dsimp only
    rw [if_pos hframe, RawResult.truncate_truncate, RawResult.columns_truncate]
    rfl
  cases houtcome : m.outcome {} (Sql.splitStatements payload) with
  | error f =>
    rw [houtcome] at hlast
    cases result with
    | ok p => cases hlast
    | error g =>
      obtain rfl : g = f := Except.error.inj hlast
      rfl
  | ok raw =>
    rw [houtcome] at hlast
    cases result with
    | error g => cases hlast
    | ok p =>
      have hp : p.last.getD {} = raw.truncate ctx.settings.fetchLimit := Except.ok.inj hlast
      change Except.ok (outputOf ctx.settings (p.last.getD {})) = _
      rw [hp, hproduct]
      rfl

theorem output_of_no_statements {payload : List Char} (hnone : Sql.splitStatements payload = [])
    (c : Client) :
    ((run ctx payload).run.run c).1.map Execution.output = .ok (.status ("Connected: " ++ ctx.name)) := by
  rw [run_of_no_statements hnone]
  rfl

theorem output_of_opensTransaction {payload : List Char}
    (hrefused : ∃ s ∈ Sql.splitStatements payload, Sql.opensTransaction s = true) (c : Client) :
    ((run ctx payload).run.run c).1.map Execution.output = .error .transactionsUnsupported := by
  rw [run_of_opensTransaction hrefused]
  rfl

/-- The frame that the native path makes of a payload is the last answer as the driver reports it, the
one of the plain path has distinct names and no more rows than the limit allows: they are equal exactly
if the names were distinct and the rows within the limit.  Where a payload makes no frame, because it has
no statement, is refused or has a statement that the driver answers with an error, the paths agree. -/
theorem native_frame_eq_plain_iff (ctx : Context) (native plain : Mock) (payload : List Char)
    (hframe : ctx.settings.autoframe = true)
    (hnative : native.dialect.caps.nativeFrames = true)
    (hplain : plain.dialect.caps.nativeFrames = false)
    (hmeta : plain.dialect.caps.metaCommands = false)
    (hresponses : native.responses = plain.responses)
    (hanswered : ∀ s ∈ Sql.splitStatements payload,
      (plain.response? (String.ofList s)).isSome = true) :
    let fromNative := ((run ctx payload).run.run native.client).1.map Execution.output
    let fromPlain := ((run ctx payload).run.run plain.client).1.map Execution.output
    ((Sql.splitStatements payload = [] ∨
        (∃ s ∈ Sql.splitStatements payload, Sql.opensTransaction s = true) ∨
        ∃ s ∈ Sql.splitStatements payload, ∃ f,
          plain.response? (String.ofList s) = some (.error f)) →
      fromNative = fromPlain ∧ ∀ frame, fromPlain ≠ .ok (.frame frame)) ∧
    ∀ s raw, (∀ t ∈ Sql.splitStatements payload, Sql.opensTransaction t = false ∧
        ∃ raw, plain.response? (String.ofList t) = some (.ok raw)) →
      (Sql.splitStatements payload).getLast? = some s →
      plain.response? (String.ofList s) = some (.ok raw) →
      let names := distinctNames raw.columns
      let rows := (raw.truncate ctx.settings.fetchLimit).rows
      fromNative = .ok (.frame (Frame.ofRows raw.columns raw.rows)) ∧
      fromPlain = .ok (.frame (Frame.ofRows names rows)) ∧
      names.Nodup ∧ (∀ n, ctx.settings.fetchLimit = some n → rows.length ≤ n) ∧
      (fromNative = fromPlain ↔
        raw.columns.Nodup ∧
          (raw.columns = [] ∨ ∀ n, ctx.settings.fetchLimit = some n → raw.rows.length ≤ n)) := by
  intro fromNative fromPlain
  have houtcome : native.outcome {} (Sql.splitStatements payload) =
      plain.outcome {} (Sql.splitStatements payload) := by
    rw [Mock.outcome_congr hresponses]
  have hagree : ∀ out, fromNative = out → fromPlain = out → (∀ frame, out ≠ .ok (.frame frame)) →
      fromNative = fromPlain ∧ ∀ frame, fromPlain ≠ .ok (.frame frame) := by
    intro out hfromNative hfromPlain hout
    refine ⟨hfromNative.trans hfromPlain.symm, fun frame hsame => hout frame ?_⟩
    exact hfromPlain.symm.trans hsame
  constructor
  -- Without a frame both paths put out the same: a refusal, nothing, or the first error among the answers.
  · by_cases hopens : ∃ s ∈ Sql.splitStatements payload, Sql.opensTransaction s = true
    · intro _
      exact hagree _ (output_of_opensTransaction hopens _) (output_of_opensTransaction hopens _) nofun
    · rintro (hnone | hrefused | ⟨s, hs, f, herror⟩)
      · exact hagree _ (output_of_no_statements hnone _) (output_of_no_statements hnone _) nofun
      · exact absurd hrefused hopens
      · have hkept : ∀ t ∈ Sql.splitStatements payload, Sql.opensTransaction t = false := by
          simpa using hopens
        have hsome : Sql.splitStatements payload ≠ [] := List.ne_nil_of_mem hs
        obtain ⟨g, hg⟩ := Mock.outcome_of_error hs herror {}
        have hrunNative := run_native_mock hframe hnative hkept hsome
        rw [houtcome, hg] at hrunNative
        have hrunPlain := run_plain_mock hframe hplain hmeta hanswered hkept hsome
        rw [hg] at hrunPlain
        exact hagree (.error g) hrunNative hrunPlain nofun
  -- With one, both show the last answer, and the plain path names and cuts it as a result set.
  · intro s raw hall hlast hraw names rows
    have hkept : ∀ t ∈ Sql.splitStatements payload, Sql.opensTransaction t = false := fun t ht =>
      (hall t ht).1
    have hsome : Sql.splitStatements payload ≠ [] := by
      intro hnone
      rw [hnone] at hlast
      cases hlast
    have hok : plain.outcome {} (Sql.splitStatements payload) = .ok raw :=
      Mock.outcome_of_getLast (fun t ht => (hall t ht).2) hlast hraw {}
    have hfromNative : fromNative = .ok (.frame (Frame.ofRows raw.columns raw.rows)) := by
      have hrun := run_native_mock hframe hnative hkept hsome
      rw [houtcome, hok] at hrun
      exact hrun
    have hfromPlain : fromPlain = .ok (.frame (Frame.ofRows names rows)) := by
      have hrun := run_plain_mock hframe hplain hmeta hanswered hkept hsome
      rw [hok] at hrun
      exact hrun
    refine ⟨hfromNative, hfromPlain, nodup_distinctNames _,
      fun n hn => RawResult.length_rows_truncate raw hn, ?_⟩
    rw [hfromNative, hfromPlain, ← frame_eq_toFrame_iff]
    constructor
    · intro hsame
      exact Output.frame.inj (Except.ok.inj hsame)
    · intro hsame
      rw [hsame]
      rfl

/-- A stand-in that knows the answer to one query. -/
def knowing (url : String) (answer : RawResult) : Mock :=
  { Mock.ofUrl url with responses := [("SELECT * FROM t", .ok answer)] }

/-- What a payload of that query produces with frames asked for and at most one row. -/
def shown (m : Mock) : Except Fault Output :=
  ((run { settings := { autolimit := 1, autoframe := true }, name := "x", hasMeta := true }
    "SELECT * FROM t".toList).run.run m.client).1.map Execution.output

theorem native_frame_eq_plain_distinct :
    let answer := RawResult.ofRows ["a", "b"] [[.int 1, .int 2]]
    shown (knowing "mock://duckdb" answer) = shown (knowing "mock://sqlite" answer) := by
  intro answer
  have hsplit : Sql.splitStatements "SELECT * FROM t".toList = ["SELECT * FROM t".toList] := by
    decide +kernel
  have hresponse : (knowing "mock://sqlite" answer).response? "SELECT * FROM t" = some (.ok answer) := by
    decide +kernel
  have hiff := native_frame_eq_plain_iff
    { settings := { autolimit := 1, autoframe := true }, name := "x", hasMeta := true }
    (knowing "mock://duckdb" answer) (knowing "mock://sqlite" answer) "SELECT * FROM t".toList
    rfl (by decide +kernel) (by decide +kernel) (by decide +kernel) rfl (by decide +kernel)
  rw [hsplit] at hiff
  have hall : ∀ t ∈ ["SELECT * FROM t".toList], Sql.opensTransaction t = false ∧
      ∃ raw, (knowing "mock://sqlite" answer).response? (String.ofList t) = some (.ok raw) := by
    intro t ht
    rw [List.mem_singleton.1 ht]
    exact ⟨by decide +kernel, answer, hresponse⟩
  obtain ⟨-, -, -, -, hsame⟩ := hiff.2 "SELECT * FROM t".toList answer hall rfl hresponse
  refine hsame.2 ⟨by decide, Or.inr ?_⟩
  intro n hn
  have hone : n = 1 := (Option.some.inj hn).symm
  rw [hone]
  decide

/-- Names that repeat stay so on the native path, and it shows rows beyond the limit. -/
theorem native_frame_past_limit :
    let answer := RawResult.ofRows ["a", "a"] [[.int 1, .int 2], [.int 3, .int 4]]
    shown (knowing "mock://duckdb" answer) =
        .ok (.frame ⟨["a", "a"], [[.int 1, .int 3], [.int 2, .int 4]]⟩) ∧
      shown (knowing "mock://sqlite" answer) = .ok (.frame ⟨["a", "a_1"], [[.int 1], [.int 2]]⟩) := by
  decide +kernel

end Execution
end SqlCells
