import SqlCells.Proofs.Data.ResultSet
import SqlCells.Proofs.Run.Calls
import SqlCells.Run.Persist

/-!
# Writing a table

Writing a frame to a table sends a probe, what makes the table ready, and the inserts.  The statements are
sent in order up to the first that the client refuses; only the probe may fail.  A commit follows when all
were accepted.  The inserts hold the rows of the frame, each with its position, in batches.
-/

namespace SqlCells

namespace Persist

open Effects

/-! ## Batches -/

section Chunks

variable {α β : Type} {n : Nat} {xs : List α}

theorem flatten_chunks (hn : n ≠ 0) (xs : List α) : (chunks n xs).flatten = xs := by
  fun_induction chunks n xs with
  | case1 xs hstop =>
    rw [List.isEmpty_iff.1 (hstop.resolve_right hn)]
    rfl
  | case2 xs hmore ih => rw [List.flatten_cons, ih, List.take_append_drop]

/-- No piece is empty or longer than was asked for. -/
theorem length_of_mem_chunks {piece : List α} (hpiece : piece ∈ chunks n xs) :
    piece ≠ [] ∧ piece.length ≤ n := by
  fun_induction chunks n xs with
  | case1 => cases hpiece
  | case2 xs hmore ih =>
    rcases List.mem_cons.1 hpiece with rfl | hpiece
    · simp only [List.isEmpty_iff, not_or] at hmore
      exact ⟨by simp [hmore], List.length_take_le n xs⟩
    · exact ih hpiece

theorem chunks_map (g : α → β) (xs : List α) : chunks n (xs.map g) = (chunks n xs).map (List.map g) := by
  fun_induction chunks n xs with
  | case1 xs hstop => rw [chunks, dif_pos (by simpa using hstop)]; rfl
  | case2 xs hmore ih =>
    rw [chunks, dif_neg (by simpa using hmore), ← List.map_drop, ih, ← List.map_take]
    rfl

end Chunks

variable {d : Dialect} {table : String} {f : Frame} {ifExists : IfExists} {index : Bool}

/-- The insert for a batch of rows with their positions: the columns in parentheses, and then for each
row, in parentheses too, its position if there is an index and the literals of its cells. -/
def insertStatement (d : Dialect) (table : String) (names : List String) (index : Bool)
    (batch : List (Row × Nat)) : List Char :=
  let columns := (if index then [columnName d "index"] else []) ++ names.map (columnName d)
  let values (row : Row) (position : Nat) : List (List Char) :=
    (if index then [Text.decimal position] else []) ++ row.map (literal d)
  "INSERT INTO ".toList ++ table.toList ++ ' ' :: ('(' :: Text.joinWith [',', ' '] columns ++ [')']) ++
    " VALUES ".toList ++ Text.joinWith [',', ' '] (batch.map fun (row, position) =>
      '(' :: Text.joinWith [',', ' '] (values row position) ++ [')'])

theorem insertStatement_rowTuple (d : Dialect) (table : String) (names : List String) (index : Bool)
    (batch : List (Row × Nat)) :
    insertStatement d table names index batch = "INSERT INTO ".toList ++ table.toList ++ ' ' ::
      tuple ((if index then [columnName d "index"] else []) ++ names.map (columnName d)) ++
        " VALUES ".toList ++
        Text.joinWith [',', ' '] (batch.map fun (row, position) => rowTuple d index position row) :=
  rfl

/-- The batches of the inserts: the rows with their positions. -/
def batches (f : Frame) : List (List (Row × Nat)) :=
  chunks batchSize f.rows.zipIdx

theorem insertStatements_eq (d : Dialect) (table : String) (f : Frame) (index : Bool) :
    insertStatements d table f index = (batches f).map (insertStatement d table f.names index) := by
  unfold insertStatements batches
  dsimp only
  rw [List.mapIdx_eq_zipIdx_map, chunks_map, List.map_map]
  exact List.map_congr_left fun batch _ => (insertStatement_rowTuple d table f.names index batch).symm

/-! ## Statements in order -/

/-- The calls that statements are sent with. -/
def callsFor (statements : List (List Char)) : List Call :=
  statements.map fun s => .execute (String.ofList s) none

/-- A client's answer to a statement behind others. -/
def answer (c : Client) (before : List (List Char)) (s : List Char) : Except Fault RawResult :=
  c.driver.execute (c.after (callsFor before)).calls (String.ofList s) none

/-- A client accepts each of some statements behind those in front of it. -/
def Accepts (c : Client) (statements : List (List Char)) : Prop :=
  ∀ front s behind, statements = front ++ s :: behind → (answer c front s).isOk = true

/-- How far some statements are sent, and what it comes to: to the end if all are accepted, and otherwise
up to and with the first that is refused. -/
inductive Sends (c : Client) (statements : List (List Char)) :
    List (List Char) → Except Fault Unit → Prop
  | all (haccepts : Accepts c statements) : Sends c statements statements (.ok ())
  | refused {front behind : List (List Char)} {s : List Char} {fault : Fault}
      (hsplit : statements = front ++ s :: behind) (haccepts : Accepts c front)
      (hrefused : answer c front s = .error fault) :
      Sends c statements (front ++ [s]) (.error fault)

variable {c : Client} {statements sent : List (List Char)} {s : List Char}

theorem answer_after (front : List (List Char)) (t : List Char) :
    answer (c.after (callsFor [s])) front t = answer c (s :: front) t := by
  unfold answer
  rw [Client.after_after]
  rfl

theorem Accepts.cons (hs : (answer c [] s).isOk = true)
    (h : Accepts (c.after (callsFor [s])) statements) : Accepts c (s :: statements) := by
  intro front t behind hsplit
  cases front with
  | nil =>
    obtain ⟨rfl, -⟩ := List.cons.inj hsplit
    exact hs
  | cons first front =>
    obtain ⟨rfl, hmore⟩ := List.cons.inj hsplit
    rw [← answer_after]
    exact h front t behind hmore

theorem Sends.cons {result : Except Fault Unit} (hs : (answer c [] s).isOk = true)
    (h : Sends (c.after (callsFor [s])) statements sent result) :
    Sends c (s :: statements) (s :: sent) result := by
  cases h with
  | all haccepts => exact .all (haccepts.cons hs)
  | refused hsplit haccepts hrefused =>
    rw [answer_after] at hrefused
    exact .refused (by rw [hsplit, List.cons_append]) (haccepts.cons hs) hrefused

/-- Statements are sent in order, up to the first that is refused. -/
theorem run_runAll (statements : List (List Char)) (c : Client) :
    ∃ sent result, Sends c statements sent result ∧
      (runAll statements).run.run c = (result, c.after (callsFor sent)) := by
  induction statements generalizing c with
  | nil => exact ⟨[], .ok (), .all (by simp [Accepts]), by rw [callsFor, List.map_nil, c.after_nil]; rfl⟩
  | cons s rest ih =>
    rw [runAll, run_bind, Execution.run_execute]
    have hanswer : c.driver.execute c.calls (String.ofList s) none = answer c [] s := by
      rw [answer, callsFor, List.map_nil, c.after_nil]
    rw [hanswer]
    cases hs : answer c [] s with
    | error fault =>
      have hfirst : Sends c (s :: rest) ([] ++ [s]) (.error fault) := .refused rfl (by simp [Accepts]) hs
      exact ⟨_, _, hfirst, rfl⟩
    | ok raw =>
      obtain ⟨sent, result, hsends, hrun⟩ := ih (c.after (callsFor [s]))
      refine ⟨s :: sent, result, hsends.cons (by rw [hs]; rfl), ?_⟩
      rw [Client.after_after] at hrun
      exact hrun

/-! ## A run -/

/-- What makes the table ready: it is dropped if it is to be replaced, and created unless rows are
appended to it. -/
def setup (d : Dialect) (table : String) (f : Frame) (ifExists : IfExists) (index tableExists : Bool) :
    List (List Char) :=
  (if tableExists ∧ ifExists = .replace then ["DROP TABLE ".toList ++ table.toList] else []) ++
    if tableExists ∧ ifExists = .append then [] else [createTable d table f index]

theorem plan_eq {tableExists : Bool} (hallowed : ¬ (tableExists = true ∧ ifExists = .fail)) :
    plan d table f ifExists index tableExists =
      .ok (setup d table f ifExists index tableExists ++ insertStatements d table f index) := by
  cases tableExists <;> cases ifExists <;> first | rfl | exact absurd ⟨rfl, rfl⟩ hallowed

/-- What a run comes to on a client that some statements were sent to: a fault is the result as it is, and
otherwise a commit follows in dialects that take it.  A commit that fails is only reported. -/
def outcome (c : Client) (sent : List (List Char)) :
    Except Fault Unit → Except Fault (List String) × Client
  | .error fault => (.error fault, c.after (callsFor sent))
  | .ok () =>
    if c.dialect.caps.rejectsCommit then (.ok [], c.after (callsFor sent))
    else
      let accepted := (c.driver.commit (c.after (callsFor sent)).calls).isOk
      (.ok (if accepted then [] else [Execution.commitUnsupported]),
        c.after (callsFor sent ++ [.commit accepted]))

/-- What is left to do when statements were sent and accepted. -/
theorem run_commit (c : Client) (sent : List (List Char)) :
    (do
      if c.dialect.caps.rejectsCommit then return []
      match ← Talk.attempt Talk.commit with
      | .ok () => return []
      | .error _ => return [Execution.commitUnsupported] : Talk (List String)).run.run
        (c.after (callsFor sent)) = outcome c sent (.ok ()) := by
  have hcommit : (Talk.attempt Talk.commit).run.run (c.after (callsFor sent)) =
      (.ok (c.driver.commit (c.after (callsFor sent)).calls), c.after (callsFor sent ++
        [.commit (c.driver.commit (c.after (callsFor sent)).calls).isOk])) := by
    rw [← Client.after_after]
    rfl
  unfold outcome
  by_cases hrejects : c.dialect.caps.rejectsCommit = true
  · rw [if_pos hrejects, if_pos hrejects]
    rfl
  · rw [if_neg hrejects, if_neg hrejects, run_bind, hcommit]
    cases c.driver.commit (c.after (callsFor sent)).calls with
    | ok _ => rfl
    | error _ => rfl

/-- The probe tells a run whether the table exists.  A table that exists and may not is left alone, and
otherwise the statements are sent. -/
theorem run_writeFrame (table : String) (f : Frame) (ifExists : IfExists) (index : Bool) (c : Client) :
    let tableExists := (c.driver.execute c.calls (probe table) (some 0)).isOk
    let probed := c.after [.execute (probe table) (some 0)]
    let statements := setup c.dialect table f ifExists index tableExists ++
      insertStatements c.dialect table f index
    (tableExists = true ∧ ifExists = .fail →
      (writeFrame table f ifExists index).run.run c = (.error (.tableExists table), probed)) ∧
    (¬ (tableExists = true ∧ ifExists = .fail) →
      ∃ sent result, Sends probed statements sent result ∧
        (writeFrame table f ifExists index).run.run c = outcome probed sent result) := by
  intro tableExists probed statements
  have hprobe : (Talk.attempt (Talk.execute (probe table) (some 0))).run.run c =
      (.ok (c.driver.execute c.calls (probe table) (some 0)), probed) := rfl
  have hdialect : Talk.dialect.run.run c = (.ok c.dialect, c) := rfl
  unfold writeFrame
  -- First the dialect and the probe, which never end a run, and then the plan, which may.
  rw [run_bind, hdialect]
  dsimp only
  rw [run_bind, hprobe]
  dsimp only
  rw [run_bind, run_lift]
  refine ⟨?_, ?_⟩
  · rintro ⟨hexists, rfl⟩
    have hplan : plan c.dialect table f .fail index (c.driver.execute c.calls (probe table) (some 0)).isOk =
        .error (.tableExists table) := by
      change plan c.dialect table f .fail index tableExists = _
      rw [hexists]
      rfl
    rw [hplan]
  · intro hallowed
    rw [plan_eq hallowed]
    obtain ⟨sent, result, hsends, hrun⟩ := run_runAll statements probed
    refine ⟨sent, result, hsends, ?_⟩
    dsimp only
    rw [run_bind, hrun]
    cases result with
    | error fault => rfl
    | ok _ => exact run_commit probed sent

/-- What writing rows to a table sends, and what it comes to.  Whether the table exists is whether the
probe is answered.  A table that exists and may not is a usage error after the probe alone.  Otherwise the
table is dropped if it is there to be replaced, created unless it is there to be appended to, and filled:
the statements are sent up to the first that is refused, and a commit is tried once all are accepted.  The
inserts hold the rows of the frame in order, each once and with its position, in batches that are not empty
and have no more than five hundred rows. -/
theorem writeFrame_accounted (table : String) (names : List String) (rows : List Row)
    (ifExists : IfExists) (index : Bool) (c : Client) :
    let f := Frame.ofRows names rows
    let tableExists := (c.driver.execute c.calls (probe table) (some 0)).isOk
    let probed := c.after [.execute (probe table) (some 0)]
    let inserts := (batches f).map (insertStatement c.dialect table names index)
    (tableExists = true ∧ ifExists = .fail →
      (writeFrame table f ifExists index).run.run c = (.error (.tableExists table), probed) ∧
        (Fault.tableExists table).category = .usage) ∧
    (¬ (tableExists = true ∧ ifExists = .fail) →
      ∃ sent result,
        Sends probed (setup c.dialect table f ifExists index tableExists ++ inserts) sent result ∧
        (writeFrame table f ifExists index).run.run c = outcome probed sent result) ∧
    (batches f).flatten = f.rows.zipIdx ∧
    (∀ batch ∈ batches f, batch ≠ [] ∧ batch.length ≤ 500) ∧
    f.rows = if names = [] then [] else
      rows.map fun row => (List.range names.length).map fun i => row.getD i .null := by
  intro f tableExists probed inserts
  obtain ⟨hfail, hsend⟩ := run_writeFrame table f ifExists index c
  rw [insertStatements_eq] at hsend
  refine ⟨fun h => ⟨hfail h, rfl⟩, hsend, flatten_chunks (by decide) _, ?_, ?_⟩
  · exact fun batch hbatch => length_of_mem_chunks hbatch
  · split
    · next hnames =>
      subst hnames
      exact Frame.rows_ofRows_nil rows
    · next hnames => exact Frame.rows_ofRows hnames rows

end Persist
end SqlCells
