import SqlCells.Database.Connect
import SqlCells.Proofs.Run.Conduct

/-!
# Opened clients

Whatever the engines are, a client that is opened from a connection string reports the string with its
arguments exactly as its driver was given it.  No call has been made on it, and its driver is a stand-in or
stands around an engine, so what fails on it fails with a driver's message or for want of native frames.
-/

namespace SqlCells

open Effects

/-- A driver whose faults, whatever its calls, are never the refusal of a transaction. -/
abbrev Driver.RefusesNothing (d : Driver) : Prop :=
  d.Raises (· ≠ .transactionsUnsupported)

namespace Mock

/-- What fails on a stand-in fails with a driver's message. -/
theorem ne_of_response?_error {m : Mock} {sql : String} {f : Fault}
    (hresponse : m.response? sql = some (.error f)) : f ≠ .transactionsUnsupported := by
  obtain ⟨answer, -, hanswer⟩ := Option.map_eq_some_iff.1 hresponse
  cases answer with
  | ok raw => cases hanswer
  | error message =>
    obtain rfl := Except.error.inj hanswer
    exact nofun

theorem ne_of_answer_error {m : Mock} {sql : String} {f : Fault}
    (hanswer : m.answer sql = .error f) : f ≠ .transactionsUnsupported := by
  unfold answer at hanswer
  split at hanswer
  · next r hresponse => exact ne_of_response?_error (hanswer ▸ hresponse)
  · split at hanswer <;> cases hanswer

theorem ne_of_rawAnswer_error {m : Mock} {sql : String} {f : Fault}
    (hanswer : m.rawAnswer sql = .error f) : f ≠ .transactionsUnsupported := by
  unfold rawAnswer at hanswer
  cases hresponse : m.response? sql with
  | none =>
    rw [hresponse] at hanswer
    cases hanswer
  | some r =>
    rw [hresponse] at hanswer
    exact ne_of_response?_error (hresponse.trans (congrArg some hanswer))

theorem refusesNothing (m : Mock) : m.driver.RefusesNothing where
  execute calls sql limit f hf := ne_of_answer_error (Execution.map_eq_error_iff.1 hf)
  openRaw calls f hf := by
    dsimp only [driver] at hf
    split at hf
    · cases hf
    · obtain rfl := Except.error.inj hf
      exact nofun
  rawExecute calls sql f hf := ne_of_rawAnswer_error (Execution.map_eq_error_iff.1 hf)
  rawFetch calls f hf := by cases hf
  rawClose calls f hf := by cases hf

end Mock

namespace Engine

variable {e : Engine} {w : Wording} {calls : List Call} {sql : String} {limit : Option Nat}

/-- The rows among the pieces that are sent. -/
def sentRows (pieces : List Piece) : List Row :=
  pieces.filterMap fun
    | .row _ cells => some cells
    | _ => none

theorem rows_of_read {a b : Answer} {pieces : List Piece} (hread : a.read limit pieces = .ok b) :
    b.rows <+: a.rows ++ sentRows pieces ∧
      ∀ n ∈ limit, a.rows.length ≤ n → b.rows.length ≤ n := by
  -- Along the pieces; what has been read before carries over.
  induction pieces generalizing a with
  | nil =>
    obtain rfl := Except.ok.inj hread
    exact ⟨List.prefix_append _ _, fun n _ ha => ha⟩
  | cons piece rest ih =>
    cases piece with
    | done changed =>
      rw [Answer.read] at hread
      have hmore := ih hread
      exact hmore
    | failed f => cases hread
    | row columns cells =>
      rw [Answer.read] at hread
      dsimp only at hread
      split at hread
      · obtain rfl := Except.ok.inj hread
        exact ⟨List.prefix_append _ _, fun n _ ha => ha⟩
      · next hroom =>
        obtain ⟨hfirst, hmost⟩ := ih hread
        refine ⟨?_, fun n hn ha => hmost n hn ?_⟩
        · rwa [List.append_assoc] at hfirst
        · -- The limit is not reached yet, so there is room for one more.
          obtain rfl : limit = some n := hn
          have hless : a.rows.length < n := by simpa using hroom
          rw [List.length_append, List.length_singleton]
          exact hless

/-- What is fetched are the first rows that are sent, and no more than asked for. -/
theorem rows_of_execute {raw : RawResult} (hrun : e.execute w calls sql limit = .ok raw) :
    raw.rows <+: sentRows (e.send calls sql) ∧ ∀ n ∈ limit, raw.rows.length ≤ n := by
  unfold execute at hrun
  split at hrun
  · cases hrun
  · next a hread =>
    obtain rfl := Except.ok.inj hrun
    obtain ⟨hfirst, hmost⟩ := rows_of_read hread
    exact ⟨hfirst, fun n hn => hmost n hn (Nat.zero_le n)⟩

theorem refusesNothing (e : Engine) (w : Wording) (d : Dialect) : (e.driver w d).RefusesNothing where
  execute calls sql limit f hf := by
    dsimp only [driver, execute] at hf
    split at hf
    · obtain rfl := Except.error.inj hf
      exact nofun
    · cases hf
  openRaw calls f hf := Except.error.inj hf ▸ nofun
  rawExecute calls sql f hf := Except.error.inj hf ▸ nofun
  rawFetch calls f hf := Except.error.inj hf ▸ nofun
  rawClose calls f hf := by cases hf

end Engine

namespace Connect

/-- What is known of a client that has been opened. -/
structure Opened (arguments : Arguments) (url : String) (c : Client) : Prop where
  /-- It reports what it was opened from. -/
  url : applyArguments arguments url = .ok c.url
  calls : c.calls = []
  driver : (∃ (e : Engine) (w : Engine.Wording) (d : Dialect), c.driver = e.driver w d) ∨
    ∃ m : Mock, c.driver = m.driver

theorem Opened.refusesNothing {arguments : Arguments} {url : String} {c : Client}
    (hopened : Opened arguments url c) : c.driver.RefusesNothing := by
  rcases hopened.driver with ⟨e, w, d, hdriver⟩ | ⟨m, hdriver⟩
  · rw [hdriver]
    exact e.refusesNothing w d
  · rw [hdriver]
    exact m.refusesNothing

theorem openSqlite_eq_ok {engines : Engines} {url : String} {dialect : Dialect} {c : Client}
    (hopen : openSqlite engines url dialect = .ok c) :
    ∃ engine : Engine, c = { dialect, url, driver := engine.driver .sqlite dialect } := by
  unfold openSqlite at hopen
  dsimp only at hopen
  split at hopen
  · cases hopen
  · split at hopen
    · cases hopen
    · next engine _ => exact ⟨engine, (Except.ok.inj hopen).symm⟩

theorem openPostgres_eq_ok {engines : Engines} {url : String} {dialect : Dialect} {c : Client}
    (hopen : openPostgres engines url dialect = .ok c) :
    ∃ engine : Engine, c = { dialect, url, driver := engine.driver .postgres dialect } := by
  unfold openPostgres at hopen
  dsimp only at hopen
  split at hopen
  · next engine _ => exact ⟨engine, (Except.ok.inj hopen).symm⟩
  · cases hopen

theorem opened_of_openUrl {arguments : Arguments} {url : String} {engines : Engines} {c : Client}
    (hopen : openUrl url arguments engines = .ok c) : Opened arguments url c := by
  unfold openUrl at hopen
  split at hopen
  · cases hopen
  · dsimp only at hopen
    obtain ⟨full, hfull, hopen⟩ := of_bind_eq_ok hopen
    split at hopen
    · obtain ⟨engine, rfl⟩ := openSqlite_eq_ok hopen
      exact ⟨hfull, rfl, Or.inl ⟨engine, _, _, rfl⟩⟩
    · obtain ⟨engine, rfl⟩ := openPostgres_eq_ok hopen
      exact ⟨hfull, rfl, Or.inl ⟨engine, _, _, rfl⟩⟩
    · obtain ⟨engine, rfl⟩ := openPostgres_eq_ok hopen
      exact ⟨hfull, rfl, Or.inl ⟨engine, _, _, rfl⟩⟩
    · cases hopen
      exact ⟨hfull, rfl, Or.inr ⟨_, rfl⟩⟩
    · cases hopen

end Connect
end SqlCells
