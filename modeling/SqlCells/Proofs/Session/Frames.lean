import SqlCells.Proofs.Data.Pivot
import SqlCells.Proofs.Session.Bindings
import SqlCells.Proofs.Session.Passwords

/-!
# Frames of a session

A frame is built of the rows of a result, fetched by a driver, or made of one column that is written to a
table.  Each of these has a column for each name and columns of one length, and commands bind, show and
write frames without changing them.  So whatever commands have run, no look-up goes astray in a frame that
a session holds.
-/

namespace SqlCells

open Effects

/-- A driver that fetches only frames with a column for each name and columns of one length. -/
def Driver.FetchesRectangular (d : Driver) : Prop :=
  ∀ calls f, d.rawFetch calls = .ok f → f.Rectangular

theorem Mock.fetchesRectangular (m : Mock) : m.driver.FetchesRectangular := by
  intro calls f hfetch
  obtain rfl := Except.ok.inj hfetch
  exact Frame.rectangular_ofRows _ _

theorem Connect.Opened.fetchesRectangular {arguments : Connect.Arguments} {url : String} {c : Client}
    (hopened : Connect.Opened arguments url c) : c.driver.FetchesRectangular := by
  rcases hopened.driver with ⟨e, w, d, hdriver⟩ | ⟨m, hdriver⟩
  · rw [hdriver]
    intro calls f hfetch
    cases hfetch
  · rw [hdriver]
    exact m.fetchesRectangular

/-- Every client of a table has a driver that fetches rectangular frames. -/
def Clients.Framed (cs : Clients) : Prop :=
  ∀ id client, cs.get? id = some client → client.driver.FetchesRectangular

/-- Every frame that a name is bound to is rectangular. -/
def Variables.Framed (vs : Variables) : Prop :=
  ∀ name f, vs.get? name = some (.frame f) → f.Rectangular

/-- Talking to a client does not change its driver. -/
theorem Clients.Framed.talk {α : Type} {cs : Clients} (h : cs.Framed) {t : Talk α}
    (ht : ∀ c, (t.run.run c).2.driver = c.driver) (id : ClientId) (otherwise : Except Fault α) :
    (cs.talk id otherwise t).2.Framed := by
  intro other client hget
  rw [get?_talk] at hget
  split at hget
  · obtain ⟨before, hbefore, rfl⟩ := Option.map_eq_some_iff.1 hget
    rw [ht]
    exact h id before hbefore
  · exact h other client hget

theorem Variables.Framed.set {vs : Variables} (h : vs.Framed) (name : String) {b : Binding}
    (hb : ∀ f, b = .frame f → f.Rectangular) : (vs.set name b).Framed := by
  intro other f hget
  rw [get?_set] at hget
  split at hget
  · exact hb f (Option.some.inj hget)
  · exact h other f hget

theorem Variables.framed_empty : Variables.Framed {} := by
  intro name f hget
  cases hget

/-- A run that succeeds comes to a rectangular frame, whether the driver has fetched it or it is made of
the rows of the last statement. -/
theorem Execution.rectangular_of_run {ctx : Context} {payload : List Char} {c c' : Client}
    {execution : Execution} {f : Frame} (hdriver : c.driver.FetchesRectangular)
    (hrun : (run ctx payload).run.run c = (.ok execution, c'))
    (hframe : execution.output = .frame f) : f.Rectangular := by
  rcases of_run_ok hrun with hconnected | hnative | ⟨raw, hplain⟩
  · rw [hframe] at hconnected
    cases hconnected
  · obtain ⟨calls, fetched, hfetch, houtput⟩ := fetched_of_runNative hnative
    obtain rfl := Output.frame.inj (hframe.symm.trans houtput)
    exact hdriver calls f hfetch
  · rw [hframe] at hplain
    unfold outputOf at hplain
    dsimp only at hplain
    split at hplain
    · obtain rfl := Output.frame.inj hplain
      exact ResultSet.rectangular_toFrame _
    · cases hplain

namespace Session

variable {s : Session} {p : Command.Parsed}

/-- Every frame that a variable holds, and every frame that a client fetches, is rectangular. -/
structure Framed (s : Session) : Prop where
  bound : s.scope.Framed
  fetched : s.clients.Framed

/-- Every frame that a command shows is rectangular. -/
def ShowsFramed (result : Except Fault Reply) : Prop :=
  ∀ reply f, result = .ok reply → reply.outcome = .frame f → f.Rectangular

/-! ## What one command does with frames -/

theorem showsFramed_error (f : Fault) : ShowsFramed (.error f) := by
  intro reply f hreply
  cases hreply

theorem showsFramed_ok {outcome : Outcome} (houtcome : ∀ f, outcome = .frame f → f.Rectangular)
    (notices : List String) : ShowsFramed (.ok ⟨outcome, notices⟩) := by
  intro reply f hreply
  obtain rfl := Except.ok.inj hreply
  exact houtcome f

/-- A frame that is found for a name, to be written to a table, is a bound one, that of bound rows, or one
of a single column. -/
theorem rectangular_of_frameOf {scope : Variables} (hscope : scope.Framed) {name : String} {f : Frame}
    (hframe : frameOf scope name = .ok f) : f.Rectangular := by
  unfold frameOf at hframe
  split at hframe
  case h_2 rs _ =>
    obtain rfl := Except.ok.inj hframe
    exact rs.rectangular_toFrame
  case h_3 bound hget =>
    obtain rfl := Except.ok.inj hframe
    exact hscope name bound hget
  case h_4 values _ =>
    obtain rfl := Except.ok.inj hframe
    exact Frame.rectangular_single name values
  all_goals cases hframe

/-- The columns of a frame are bound as columns, so no frame is bound. -/
theorem framed_bindColumns {scope : Variables} (hscope : scope.Framed) (f : Frame) :
    (bindColumns scope f).Framed := by
  unfold bindColumns
  generalize f.names.zip f.columns = pairs
  induction pairs generalizing scope with
  | nil => exact hscope
  | cons pair rest ih => exact ih (hscope.set _ fun _ => nofun)

/-- What is bound and what is shown of an output is a frame only if the output is that frame. -/
theorem eq_frame_of_product {output : Output} {b : Binding} {shown : Outcome} {f g : Frame}
    (hproduct : product? output = some (b, shown, f)) :
    (b = .frame g → output = .frame g) ∧ (shown = .frame g → output = .frame g) := by
  cases output with
  | status text => cases hproduct
  | rows rs =>
    cases hproduct
    exact ⟨nofun, nofun⟩
  | frame f =>
    cases hproduct
    exact ⟨fun hsame => congrArg Output.frame (Binding.frame.inj hsame),
      fun hsame => congrArg Output.frame (Outcome.frame.inj hsame)⟩

theorem Routes.framed {settings : Settings} {scope scope' : Variables} {output : Output}
    {reply : Reply} (hroutes : Routes settings p scope output reply scope') (hscope : scope.Framed)
    (houtput : ∀ f, output = .frame f → f.Rectangular) :
    scope'.Framed ∧ ∀ f, reply.outcome = .frame f → f.Rectangular := by
  cases hroutes with
  | status => exact ⟨hscope, fun _ => nofun⟩
  | columns => exact ⟨framed_bindColumns hscope _, fun _ => nofun⟩
  | binds _ _ hproduct =>
    refine ⟨hscope.set _ fun f hb => houtput f ((eq_frame_of_product hproduct).1 hb), ?_⟩
    intro f hshown
    dsimp only at hshown
    split at hshown
    · exact houtput f ((eq_frame_of_product hproduct).2 hshown)
    · cases hshown
  | shows _ _ hproduct =>
    exact ⟨hscope, fun f hshown => houtput f ((eq_frame_of_product hproduct).2 hshown)⟩

theorem framed_converse {α : Type} (hclients : s.clients.Framed) {c : Connection} {t : Talk α}
    {result : Except Fault α} {clients : Clients} (ht : Talk.Proper (fun _ => True) t)
    (htalk : s.converse c t = (result, clients)) : clients.Framed := by
  obtain ⟨-, rfl⟩ := Prod.mk.inj htalk.symm
  exact hclients.talk (ht.keeps fun _ _ => rfl) c.client _

theorem Finishes.framed {notices : List String} {result : Except Fault Reply} {s' : Session}
    (hfinishes : Finishes s p notices result s') (h : s.Framed) :
    s'.Framed ∧ ShowsFramed result := by
  have hany : ∀ f, f ≠ Fault.transactionsUnsupported → True := fun _ _ => trivial
  cases hfinishes with
  | notPersistable => exact ⟨h, showsFramed_error _⟩
  | persistStranded => exact ⟨h, showsFramed_error _⟩
  | @persists _ _ _ _ _ _ result _ htalk =>
    refine ⟨⟨h.bound, framed_converse h.fetched (Persist.proper_writeFrame hany _ _ _ _) htalk⟩, ?_⟩
    cases result with
    | error f => exact showsFramed_error f
    | ok printed => exact showsFramed_ok (by nofun) _
  | idle => exact ⟨h, showsFramed_ok (by nofun) _⟩
  | notSaved => exact ⟨h, showsFramed_error _⟩
  | skips => exact ⟨⟨h.bound, h.fetched⟩, showsFramed_ok (by nofun) _⟩
  | stranded => exact ⟨⟨h.bound, h.fetched⟩, showsFramed_error _⟩
  | fails _ _ _ _ htalk =>
    have hclients := framed_converse h.fetched (Execution.proper_run hany _ (Or.inl trivial)) htalk
    exact ⟨⟨h.bound, hclients⟩, showsFramed_error _⟩
  | @succeeds _ _ _ _ c _ execution clients htalk reply scope hroutes =>
    -- The one way to end with a result, which the client has fetched or its rows make up.
    have hclients := framed_converse h.fetched (Execution.proper_run hany _ (Or.inl trivial)) htalk
    obtain ⟨client, _, hget, hrun, -⟩ := exists_of_converse htalk
    obtain ⟨hscope, hshown⟩ := hroutes.framed h.bound fun f hframe =>
      Execution.rectangular_of_run (h.fetched _ _ hget) hrun hframe
    exact ⟨⟨hscope, hclients⟩, showsFramed_ok hshown _⟩

theorem Course.framed {result : Except Fault Reply} {s' : Session} (hcourse : Course s p result s')
    (h : s.Framed) : s'.Framed ∧ ShowsFramed result := by
  cases hcourse with
  | interacts => exact ⟨h, showsFramed_error _⟩
  | lists => exact ⟨h, showsFramed_ok (by nofun) _⟩
  | closes _ _ hclose =>
    -- A client that is closed still has its driver.
    obtain ⟨c, -, -, rfl⟩ := Registry.exists_of_close hclose
    have hclosed := h.fetched.talk (t := Talk.close) (fun _ => rfl) c.client (.ok ())
    exact ⟨⟨h.bound, hclosed⟩, showsFramed_ok (by nofun) _⟩
  | notClosed => exact ⟨h, showsFramed_error _⟩
  | notSelected => exact ⟨h, showsFramed_error _⟩
  | @selected _ _ d hselect _ _ hfinishes =>
    have hopened := (selects_of_selection hselect).forall_driver
      (fun _ _ _ hopened => hopened.fetchesRectangular) h.fetched
    have hselected : (s.withDesk d).Framed := ⟨h.bound, hopened⟩
    exact hfinishes.framed hselected

/-- A command keeps frames rectangular, and shows no other. -/
theorem framed_execute (h : s.Framed) (header body : String) :
    ((execute header body).run.run s).2.Framed ∧
      ShowsFramed ((execute header body).run.run s).1 := by
  rcases execute_cases s header body with ⟨f, -, hrun⟩ | ⟨p, -, hcourse⟩
  · rw [hrun]
    exact ⟨h, showsFramed_error f⟩
  · exact hcourse.framed h

/-! ## Runs of commands -/

/-- A session that starts without variables and clients has no frames. -/
theorem framed_of_empty (hscope : s.scope = {}) (hclients : s.clients = {}) : s.Framed where
  bound := by
    rw [hscope]
    exact Variables.framed_empty
  fetched := by
    rw [hclients]
    intro id client hget
    cases hget

theorem framed_afterCommands (h : s.Framed) (commands : List (String × String)) :
    (s.afterCommands commands).Framed := by
  induction commands generalizing s with
  | nil => exact h
  | cons command rest ih => exact ih (framed_execute h command.1 command.2).1

/-- Frames hold the rows that they are made of.  There is a column for each name, with one value for each
row: its cell, or null where the row is short, and cells beyond the names are dropped.  With a column, the
rows come back once each and in order.  A frame with distinct names comes back from its result set, and the
keys and rows of a result set from its frame, the rows exactly if they are as wide as there are keys.  No
look-up goes astray in a frame of rows, a fetched one, one of a single column, or, after whatever commands
of a session that started with such frames only, any that is bound, found or shown. -/
theorem frames_hold_rows (names : List String) (rows : List Row) (raw : RawResult) (limit : Option Nat)
    (start : Session) (commands : List (String × String)) :
    let made := Frame.ofRows names rows
    let rs := ResultSet.ofRaw raw limit
    let s := start.afterCommands commands
    (made.names = names ∧ made.columns.length = names.length ∧
      (∀ column ∈ made.columns, column.length = rows.length) ∧
      ∀ (r : Nat) row, rows[r]? = some row →
        made.columns.map (fun column => column[r]?) = (Frame.fit names.length row).map some) ∧
    (names ≠ [] → made.rows = rows.map (Frame.fit names.length)) ∧
    (names.Nodup → (ResultSet.ofFrame made).toFrame = made) ∧
    (ResultSet.ofFrame rs.toFrame).keys = rs.keys ∧
    (rs.keys ≠ [] → ((ResultSet.ofFrame rs.toFrame).rows = rs.rows ↔
      ∀ row ∈ rs.rows, row.length = rs.keys.length)) ∧
    (made.Readable ∧ rs.toFrame.Readable ∧
      (∀ (m : Mock) calls f, m.driver.rawFetch calls = .ok f → f.Readable) ∧
      ∀ name values, Frame.Readable ⟨[name], [values]⟩) ∧
    (start.scope = {} → start.clients = {} → start.Framed) ∧
    (start.Framed →
      (∀ name f, s.scope.get? name = some (.frame f) → f.Readable) ∧
      (∀ name f, frameOf s.scope name = .ok f → f.Readable) ∧
      ∀ header body reply f, ((execute header body).run.run s).1 = .ok reply →
        reply.outcome = .frame f → f.Readable) := by
  dsimp only
  refine ⟨⟨rfl, Frame.length_columns_ofRows names rows, ?_, ?_⟩, ?_, ?_,
    ResultSet.keys_ofFrame_toFrame (nodup_distinctNames raw.columns), ResultSet.rows_ofFrame_toFrame_iff,
    ⟨?_, ?_, ?_, ?_⟩, framed_of_empty, ?_⟩
  · intro column hcolumn
    exact Frame.length_of_mem_columns_ofRows hcolumn
  · intro r row hrow
    exact Frame.map_getElem?_columns_ofRows hrow
  · intro hnames
    exact Frame.rows_ofRows_eq_map_fit hnames rows
  · intro hnodup
    exact ResultSet.toFrame_ofFrame hnodup rows
  · exact (Frame.rectangular_ofRows names rows).readable
  · exact (ResultSet.rectangular_toFrame _).readable
  · intro m calls f hfetch
    exact (m.fetchesRectangular calls f hfetch).readable
  · intro name values
    exact (Frame.rectangular_single name values).readable
  · intro hstart
    have hframed := framed_afterCommands hstart commands
    refine ⟨?_, ?_, ?_⟩
    · intro name f hget
      exact (hframed.bound name f hget).readable
    · intro name f hframe
      exact (rectangular_of_frameOf hframed.bound hframe).readable
    · intro header body reply f hreply hshown
      exact ((framed_execute hframed header body).2 reply f hreply hshown).readable

/-- A row that is too short for two names, and one that is too long. -/
def raggedRows : List Row :=
  [[.int 1], [.int 2, .null, .int 3]]

/-- A session with a stand-in that fetches frames, in which a variable holds the frame of those rows. -/
def oneFrame : Session where
  clients := ⟨[(Mock.ofUrl "mock://duckdb").client]⟩
  scope := (Variables.set {} "conn" (.connection 0)).set "ragged" (.frame (.ofRows ["a", "b"] raggedRows))

theorem framed_oneFrame : oneFrame.Framed where
  bound := by
    refine (Variables.framed_empty.set "conn" (by nofun)).set "ragged" ?_
    intro f hf
    obtain rfl := Binding.frame.inj hf
    exact Frame.rectangular_ofRows _ _
  fetched := by
    intro id client hget
    cases id with
    | zero =>
      obtain rfl := Option.some.inj hget
      exact Mock.fetchesRectangular _
    | succ n => cases hget

/-- The frame of ragged rows has all of them, each brought to its width, also when it is read where a
session holds it. -/
theorem frames_hold_rows_ragged :
    let raw := RawResult.ofRows ["a", "a"] [[.int 1, .int 2], [.int 3, .int 4]]
    let wide := ResultSet.ofRaw raw none
    (Frame.ofRows ["a", "b"] raggedRows).rows = [[.int 1, .null], [.int 2, .null]] ∧
      (ResultSet.ofFrame (.ofRows ["a", "b"] raggedRows)).toFrame = .ofRows ["a", "b"] raggedRows ∧
      (ResultSet.ofFrame wide.toFrame).rows = wide.rows ∧
      oneFrame.Framed ∧ (Frame.ofRows ["a", "b"] raggedRows).Readable ∧
      ∀ f, frameOf (oneFrame.afterCommands [("conn g <<", "SELECT 1")]).scope "g" = .ok f →
        f.Readable := by
  intro raw wide
  obtain ⟨-, hrows, hback, -, hwide, ⟨hmade, -⟩, -, hsession⟩ := frames_hold_rows ["a", "b"] raggedRows raw
    none oneFrame [("conn g <<", "SELECT 1")]
  have hkeys : wide.keys ≠ [] := by decide +kernel
  have hcells : ∀ row ∈ wide.rows, row.length = wide.keys.length := by decide +kernel
  refine ⟨?_, hback (by decide), (hwide hkeys).2 hcells, framed_oneFrame, hmade, ?_⟩
  · rw [hrows (by decide)]
    rfl
  · exact fun f hframe => (hsession framed_oneFrame).2.1 "g" f hframe

end Session
end SqlCells
