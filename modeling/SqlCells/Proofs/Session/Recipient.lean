import SqlCells.Proofs.Command.Assembly
import SqlCells.Proofs.Database.Opening
import SqlCells.Proofs.Registry.Displacement
import SqlCells.Proofs.Registry.Reuse
import SqlCells.Proofs.Session.Course

/-!
# The client that a command talks to

A command talks to one client at most, and which one that is can be told from the session before the
command: the client bound to the variable that it names, that of the registered connection it names, the
one that its connection string selects, or else the current one.  No other client hears of the command,
save the one whose connection it closes.
-/

namespace SqlCells

open Effects

namespace Registry

variable {target : Target} {options : OpenOptions} {d d' : Desk} {key : String}

/-- A selection opens one client at most and keeps the others. -/
theorem clients_of_select (hselect : select target options d = .ok (key, d')) :
    d'.clients = d.clients ∨ ∃ url client, Connect.Opened options.arguments url client ∧
      d'.clients = (d.clients.add client).2 := by
  cases target with
  | key name =>
    obtain ⟨-, rfl⟩ := select_key_eq_ok_iff.1 hselect
    exact Or.inl rfl
  | client id =>
    obtain ⟨-, rfl⟩ := select_client_eq_ok_iff.1 hselect
    exact Or.inl rfl
  | connectString url =>
    rcases select_connectString_eq_ok_iff.1 hselect with
      ⟨c, -, -, rfl⟩ | ⟨-, id, clients, hprovides, -, rfl⟩
    · exact Or.inl rfl
    · unfold Provides at hprovides
      split at hprovides
      · exact Or.inl hprovides.2
      · obtain ⟨client, hopen, hadd⟩ := hprovides
        exact Or.inr ⟨url, client, Connect.opened_of_openUrl hopen, (Prod.mk.inj hadd).2⟩

/-- What a selection has made current is the connection with the key that it gives. -/
theorem currentConnection?_of_select (hselect : select target options d = .ok (key, d')) :
    d'.registry.currentConnection? = d'.registry.find? key := by
  unfold currentConnection?
  rw [current_of_select hselect]
  rfl

/-- Closing a connection is a call on its client and on no other. -/
theorem callsOn_closeClient (clients : Clients) (c : Connection) :
    ∃ closed, (closed = [] ∨ closed = [.close]) ∧ ∀ id, (closeClient clients c).callsOn id =
      clients.callsOn id ++ if id = c.client then closed else [] := by
  cases hget : clients.get? c.client with
  | none =>
    refine ⟨[], Or.inl rfl, ?_⟩
    intro id
    unfold Clients.callsOn
    rw [get?_closeClient]
    split
    · next hsame => rw [hsame, hget]; rfl
    · rw [List.append_nil]
  | some client =>
    refine ⟨[.close], Or.inr rfl, ?_⟩
    intro id
    unfold Clients.callsOn
    rw [get?_closeClient]
    split
    · next hsame => rw [hsame, hget]; rfl
    · rw [List.append_nil]

end Registry

namespace Command

/-- A command names only keys of registered connections. -/
theorem key_mem_of_parse {ctx : Command.Context} {header body key : String} {p : Command.Parsed}
    (hparse : Command.parse ctx header body = .ok p) (hkey : p.connection = some (.key key)) :
    key ∈ ctx.knownKeys := by
  obtain ⟨parts, h⟩ := parse_eq_ok_iff.1 hparse
  have hchoose := h.connection
  rw [hkey] at hchoose
  unfold chooseConnection at hchoose
  split at hchoose
  · next ref hnamed =>
    -- It is the one word of the header that is a key.
    obtain rfl := Option.some.inj (Except.ok.inj hchoose)
    unfold namedConnection? at hnamed
    split at hnamed
    · split at hnamed
      · cases hnamed
      · split at hnamed
        · next hknown =>
          cases hnamed
          simpa using hknown
        · cases hnamed
    · cases hnamed
  · split at hchoose
    · cases hchoose
    · split at hchoose
      · obtain ⟨url, -, hurl⟩ := of_map_eq_ok hchoose
        cases hurl
      · cases hchoose

end Command

namespace Session

variable {s : Session} {p : Command.Parsed}

/-! ## Selecting -/

/-- How a command opens and registers a connection, once its creator is known. -/
def openOptions (s : Session) (p : Command.Parsed) (creator : Option ClientId) : OpenOptions where
  arguments := p.arguments
  aliasName := p.args.aliasName
  creator := creator
  engines := s.engines

/-- What a command can select. -/
inductive Selects (s : Session) (p : Command.Parsed) : Registry.Desk → Prop where
  /-- The connection that it names. -/
  | named {ref : Command.ConnectionRef} (hnamed : p.connection = some ref) {target : Target}
      (htarget : s.target ref = .ok target) {creator : Option ClientId}
      (hcreator : s.creator p.args = .ok creator) {key : String} {d : Registry.Desk}
      (hselect : Registry.select target (s.openOptions p creator) s.desk = .ok (key, d)) :
      Selects s p d
  /-- The current connection, if it has any. -/
  | stays (hnone : p.connection = none) (hopen : s.registry.connections ≠ []) :
      Selects s p s.desk
  | default (hnone : p.connection = none) (hempty : s.registry.connections = []) {url : String}
      (hurl : s.databaseUrl = some url) {creator : Option ClientId}
      (hcreator : s.creator p.args = .ok creator) {key : String} {d : Registry.Desk}
      (hselect : Registry.select (.connectString url) (s.openOptions p creator) s.desk =
        .ok (key, d)) :
      Selects s p d

theorem selects_of_selection {notices : List String} {d : Registry.Desk}
    (hselect : s.selection p = .ok (notices, d)) : Selects s p d := by
  unfold selection at hselect
  obtain ⟨creator, hcreator, hselect⟩ := of_bind_eq_ok hselect
  unfold changeConnection at hselect
  cases hconnection : p.connection with
  | some ref =>
    rw [hconnection] at hselect
    obtain ⟨target, htarget, hselect⟩ := of_bind_eq_ok hselect
    obtain ⟨⟨key, after⟩, hfound, hpair⟩ := of_bind_eq_ok hselect
    obtain ⟨-, rfl⟩ := Prod.mk.inj (Except.ok.inj hpair)
    exact .named hconnection htarget hcreator hfound
  | none =>
    rw [hconnection] at hselect
    obtain ⟨⟨listing, after⟩, hdefault, hpair⟩ := of_bind_eq_ok hselect
    obtain ⟨-, rfl⟩ := Prod.mk.inj (Except.ok.inj hpair)
    by_cases hempty : s.registry.connections = []
    · unfold Registry.selectDefault at hdefault
      rw [show s.desk.registry.connections = [] from hempty, if_neg (by simp)] at hdefault
      split at hdefault
      · next url hurl =>
        obtain ⟨⟨key, _⟩, hfound, hpair⟩ := of_map_eq_ok hdefault
        obtain ⟨-, rfl⟩ := Prod.mk.inj hpair
        exact .default hconnection hempty hurl hcreator hfound
      · cases hdefault
    · have hopen : s.desk.registry.connections ≠ [] := hempty
      rw [Registry.selectDefault_of_open hopen] at hdefault
      obtain ⟨-, rfl⟩ := Prod.mk.inj (Except.ok.inj hdefault)
      exact .stays hconnection hempty

theorem Selects.clients {d : Registry.Desk} (hselects : Selects s p d) :
    d.clients = s.clients ∨ ∃ url client, Connect.Opened p.arguments url client ∧
      d.clients = (s.clients.add client).2 := by
  cases hselects with
  | named _ _ _ hselect => exact Registry.clients_of_select hselect
  | stays => exact Or.inl rfl
  | default _ _ _ _ hselect => exact Registry.clients_of_select hselect

/-- What holds of the driver of every client, and of those that are opened, holds of the driver of every
client when a connection has been selected. -/
theorem Selects.forall_driver {P : Driver → Prop} {d : Registry.Desk}
    (hopened : ∀ arguments url client, Connect.Opened arguments url client → P client.driver)
    (hdrivers : ∀ id client, s.clients.get? id = some client → P client.driver)
    (hselects : Selects s p d) :
    ∀ id client, d.clients.get? id = some client → P client.driver := by
  rcases hselects.clients with hsame | ⟨url, opened, hopen, hadd⟩
  · rw [hsame]
    exact hdrivers
  · rw [hadd]
    intro id client hget
    rw [Clients.get?_add] at hget
    split at hget
    · obtain rfl := Option.some.inj hget
      exact hopened p.arguments url opened hopen
    · exact hdrivers id client hget

/-- Nothing is called on a client to select it. -/
theorem Selects.callsOn {d : Registry.Desk} (hselects : Selects s p d) (id : ClientId) :
    d.clients.callsOn id = s.clients.callsOn id := by
  rcases hselects.clients with hsame | ⟨url, client, hopened, hadd⟩
  · rw [hsame]
  · rw [hadd]
    exact Clients.callsOn_add s.clients hopened.calls id

/-! ## The client of a command -/

/-- The client that a command runs on, as the session tells before it runs: the client bound to the
variable that it names; that of the registered connection that it names; that of the connection which
selecting its connection string gives; or, if it names none, that of the current connection, and where no
connection is open the creator or one opened from the default URL. -/
def RunsOn (s : Session) (p : Command.Parsed) (id : ClientId) : Prop :=
  match p.connection with
  | some (.handle name) => s.scope.connection? name = some id
  | some (.key key) => ∃ c, s.registry.find? key = some c ∧ c.client = id
  | some (.connectString url) => ∃ creator key d c, s.creator p.args = .ok creator ∧
    Registry.select (.connectString url) (s.openOptions p creator) s.desk = .ok (key, d) ∧
    d.registry.find? key = some c ∧ c.client = id
  | none =>
    if s.registry.connections = [] then
      ∃ url creator clients, s.databaseUrl = some url ∧ s.creator p.args = .ok creator ∧
        Registry.Provides (s.openOptions p creator) url s.clients id clients
    else ∃ c, s.registry.currentConnection? = some c ∧ c.client = id

theorem provides_unique {options : OpenOptions} {url : String} {clients provided provided' : Clients}
    {id id' : ClientId} (hprovides : Registry.Provides options url clients id provided)
    (hprovides' : Registry.Provides options url clients id' provided') : id = id' := by
  unfold Registry.Provides at hprovides hprovides'
  split at hprovides
  · next creator hcreator =>
    rw [hcreator] at hprovides'
    exact hprovides.1.trans hprovides'.1.symm
  · next hcreator =>
    rw [hcreator] at hprovides'
    obtain ⟨client, -, hadd⟩ := hprovides
    obtain ⟨client', -, hadd'⟩ := hprovides'
    -- A client that is added gets the first number that is free, whichever client it is.
    exact (Prod.mk.inj hadd).1.trans (Prod.mk.inj hadd').1.symm

/-- A command runs on one client. -/
theorem RunsOn.unique {id id' : ClientId} (hruns : s.RunsOn p id) (hruns' : s.RunsOn p id') :
    id = id' := by
  unfold RunsOn at hruns hruns'
  split at hruns
  · next name hconnection =>
    rw [hconnection] at hruns'
    exact Option.some.inj (hruns.symm.trans hruns')
  · next key hconnection =>
    rw [hconnection] at hruns'
    obtain ⟨c, hfind, rfl⟩ := hruns
    obtain ⟨c', hfind', rfl⟩ := hruns'
    rw [hfind] at hfind'
    rw [Option.some.inj hfind']
  · next url hconnection =>
    rw [hconnection] at hruns'
    obtain ⟨creator, key, d, c, hcreator, hselect, hfind, rfl⟩ := hruns
    obtain ⟨creator', key', d', c', hcreator', hselect', hfind', rfl⟩ := hruns'
    obtain rfl := Except.ok.inj (hcreator.symm.trans hcreator')
    obtain ⟨rfl, rfl⟩ := Prod.mk.inj (Except.ok.inj (hselect.symm.trans hselect'))
    rw [Option.some.inj (hfind.symm.trans hfind')]
  · next hconnection =>
    rw [hconnection] at hruns'
    dsimp only at hruns'
    split at hruns
    · next hempty =>
      rw [if_pos hempty] at hruns'
      obtain ⟨url, creator, clients, hurl, hcreator, hprovides⟩ := hruns
      obtain ⟨url', creator', clients', hurl', hcreator', hprovides'⟩ := hruns'
      obtain rfl := Except.ok.inj (hcreator.symm.trans hcreator')
      obtain rfl := Option.some.inj (hurl.symm.trans hurl')
      exact provides_unique hprovides hprovides'
    · next hopen =>
      rw [if_neg hopen] at hruns'
      obtain ⟨c, hcurrent, rfl⟩ := hruns
      obtain ⟨c', hcurrent', rfl⟩ := hruns'
      rw [Option.some.inj (hcurrent.symm.trans hcurrent')]

theorem handle_eq_ok_iff {name : String} {id : ClientId} :
    s.handle name = .ok id ↔ s.scope.connection? name = some id := by
  unfold handle
  cases s.scope.connection? name with
  | none => simp
  | some bound => simp

/-- With no connection open, no key matches the default URL, so the current connection is of the client
that it provides. -/
theorem provides_of_select_empty {url key : String} {options : OpenOptions} {d d' : Registry.Desk}
    {c : Connection} (hempty : d.registry.connections = [])
    (hselect : Registry.select (.connectString url) options d = .ok (key, d'))
    (hcurrent : d'.registry.currentConnection? = some c) :
    ∃ clients, Registry.Provides options url d.clients c.client clients := by
  rcases Registry.select_connectString_eq_ok_iff.1 hselect with
    ⟨old, hrough, -, -⟩ | ⟨-, id, clients, hprovides, -, rfl⟩
  · have hmem : old ∈ d.registry.connections := List.mem_of_find?_eq_some hrough
    rw [hempty] at hmem
    cases hmem
  · rw [Registry.currentConnection?_enter] at hcurrent
    obtain rfl := Option.some.inj hcurrent
    exact ⟨clients, hprovides⟩

/-- The connection that a command has made current is of the client that it runs on. -/
theorem Selects.runsOn {header body : String} {d : Registry.Desk} {c : Connection}
    (hparse : s.parse header body = .ok p) (hselects : Selects s p d)
    (hcurrent : d.registry.currentConnection? = some c) : s.RunsOn p c.client := by
  unfold RunsOn
  cases hselects with
  | @named ref hnamed target htarget creator hcreator key d hselect =>
    rw [hnamed]
    cases ref with
    | handle name =>
      obtain ⟨id, hhandle, rfl⟩ := of_map_eq_ok htarget
      obtain ⟨-, rfl⟩ := Registry.select_client_eq_ok_iff.1 hselect
      rw [Registry.currentConnection?_enter] at hcurrent
      obtain rfl := Option.some.inj hcurrent
      exact handle_eq_ok_iff.1 hhandle
    | key name =>
      obtain rfl := Except.ok.inj htarget
      obtain ⟨hkey, rfl⟩ := Registry.select_key_eq_ok_iff.1 hselect
      -- A key that can be named is registered, so it stands for itself.
      have hmem : name ∈ s.registry.keys := Command.key_mem_of_parse hparse hnamed
      obtain ⟨old, hold, hname⟩ := List.mem_map.1 hmem
      have hregistered : (s.registry.find? name).isSome = true :=
        List.find?_isSome.2 ⟨old, hold, by simpa using hname⟩
      have hitself : s.registry.keyOf? name = some name := by
        unfold Registry.keyOf?
        rw [if_pos hregistered]
      obtain rfl := Option.some.inj (hitself.symm.trans hkey)
      exact ⟨c, hcurrent, rfl⟩
    | connectString url =>
      obtain rfl := Except.ok.inj htarget
      rw [Registry.currentConnection?_of_select hselect] at hcurrent
      exact ⟨creator, key, d, c, hcreator, hselect, hcurrent, rfl⟩
  | stays hnone hopen =>
    rw [hnone]
    dsimp only
    rw [if_neg hopen]
    exact ⟨c, hcurrent, rfl⟩
  | @default hnone hempty url hurl creator hcreator key d hselect =>
    rw [hnone]
    dsimp only
    rw [if_pos hempty]
    obtain ⟨clients, hprovides⟩ := provides_of_select_empty hempty hselect hcurrent
    exact ⟨url, creator, clients, hurl, hcreator, hprovides⟩

/-! ## The calls of a command -/

/-- A conversation about SQL or a table adds calls to the log of one client, none of which closes it. -/
theorem callsOn_of_converse {α : Type} {c : Connection} {t : Talk α} {result : Except Fault α}
    {clients : Clients} (ht : Talk.Proper (fun _ => True) t)
    (htalk : s.converse c t = (result, clients)) :
    ∃ added, .close ∉ added ∧ ∀ id, clients.callsOn id =
      s.clients.callsOn id ++ if id = c.client then added else [] := by
  obtain ⟨added, hopen, hlog⟩ := ht.callsOn_talk s.clients c.client (.error s.registry.noConnection)
  unfold converse at htalk
  rw [htalk] at hlog
  exact ⟨added, hopen, hlog⟩

/-- Only what is a status before it is bound is one after it. -/
theorem output_of_routes {settings : Settings} {scope scope' : Variables} {output : Output}
    {reply : Reply} {text : String} (hroutes : Routes settings p scope output reply scope')
    (hstatus : reply.outcome = .status text) : output = .status text := by
  have hresult : ∀ {b shown f}, product? output = some (b, shown, f) → shown ≠ .status text := by
    intro b shown f hproduct hshown
    subst hshown
    cases output <;> cases hproduct
  cases hroutes with
  | status hsame => exact hsame.trans (congrArg Output.status (Outcome.status.inj hstatus))
  | columns => cases hstatus
  | binds hwhole hname hproduct =>
    dsimp only at hstatus
    split at hstatus
    · exact absurd hstatus (hresult hproduct)
    · cases hstatus
  | shows hwhole hnone hproduct => exact absurd hstatus (hresult hproduct)

/-- The answer of a command that skips execution. -/
def Skipped (result : Except Fault Reply) : Prop :=
  ∃ notices, result = .ok ⟨.status "Skipping execution...", notices⟩

theorem not_skipped_error (f : Fault) : ¬ Skipped (.error f) := by
  rintro ⟨_, hskipped⟩
  cases hskipped

/-- No other status that commands answer starts like that of one that skips execution. -/
theorem not_skipped_of_status {outcome : Outcome} {notices : List String} {rest : String}
    (hstatus : outcome = .status ("Persisted " ++ rest) ∨
      outcome = .status ("Connected: " ++ rest)) : ¬ Skipped (.ok ⟨outcome, notices⟩) := by
  rintro ⟨_, hskipped⟩
  obtain ⟨rfl, -⟩ := Reply.mk.inj (Except.ok.inj hskipped)
  rcases hstatus with hstatus | hstatus
  · have hhead := congrArg (fun text : String => text.toList.head?) (Outcome.status.inj hstatus)
    simp at hhead
  · have hhead := congrArg (fun text : String => text.toList.head?) (Outcome.status.inj hstatus)
    simp at hhead

/-- A command that has its connection selected adds calls to the log of that connection's client at most,
none of which closes it, and none at all if it skips execution. -/
theorem Finishes.calls {notices : List String} {result : Except Fault Reply} {s' : Session}
    (hfinishes : Finishes s p notices result s') :
    (∀ id, s'.clients.callsOn id = s.clients.callsOn id) ∨
    ∃ c added, s.registry.currentConnection? = some c ∧ .close ∉ added ∧ ¬ Skipped result ∧
      ∀ id, s'.clients.callsOn id = s.clients.callsOn id ++ if id = c.client then added else [] := by
  -- Which faults a conversation ends in does not matter here.
  have hany : ∀ f, f ≠ Fault.transactionsUnsupported → True := fun _ _ => trivial
  cases hfinishes with
  | notPersistable => exact Or.inl fun _ => rfl
  | persistStranded => exact Or.inl fun _ => rfl
  | @persists _ table frame hjob c hcurrent result clients htalk =>
    obtain ⟨added, hopen, hlog⟩ := callsOn_of_converse (Persist.proper_writeFrame hany _ _ _ _) htalk
    refine Or.inr ⟨c, added, hcurrent, hopen, ?_, hlog⟩
    cases result with
    | error f => exact not_skipped_error f
    | ok printed => exact not_skipped_of_status (Or.inl rfl)
  | idle => exact Or.inl fun _ => rfl
  | notSaved => exact Or.inl fun _ => rfl
  | skips => exact Or.inl fun _ => rfl
  | stranded => exact Or.inl fun _ => rfl
  | @fails _ _ snippets _ c hcurrent f clients htalk =>
    obtain ⟨added, hopen, hlog⟩ :=
      callsOn_of_converse (Execution.proper_run hany _ (Or.inl trivial)) htalk
    exact Or.inr ⟨c, added, hcurrent, hopen, not_skipped_error _, hlog⟩
  | @succeeds _ _ snippets _ c hcurrent execution clients htalk reply scope hroutes =>
    obtain ⟨added, hopen, hlog⟩ :=
      callsOn_of_converse (Execution.proper_run hany _ (Or.inl trivial)) htalk
    refine Or.inr ⟨c, added, hcurrent, hopen, ?_, hlog⟩
    intro hskipped
    have hstatus : reply.outcome = .status "Skipping execution..." := by
      obtain ⟨_, hanswer⟩ := hskipped
      exact congrArg Reply.outcome (Except.ok.inj hanswer)
    -- A status that is left to show is that of a run without statements.
    obtain ⟨client, _, -, hrun, -⟩ := exists_of_converse htalk
    have htext := Execution.status_of_run hrun (output_of_routes hroutes hstatus)
    exact not_skipped_of_status (Or.inr (hstatus.trans (congrArg Outcome.status htext))) hskipped

/-- The result of a command that leaves before it runs anything: it has not been read, opens a session
of its own, lists or closes connections, has no connection selected, or skips execution. -/
def EndsEarly (s : Session) (header body : String) (result : Except Fault Reply) : Prop :=
  ∀ p, s.parse header body = .ok p →
    p.args.interact ≠ [] ∨ p.args.connections = true ∨ p.args.closeKey ≠ none ∨
    (∃ f, s.selection p = .error f) ∨ Skipped result

/-- What a command that has been read adds to the logs of clients: nothing, one call that closes a
connection, or calls on the client that it runs on. -/
theorem Course.calls {header body : String} {result : Except Fault Reply} {s' : Session}
    (hparse : s.parse header body = .ok p) (hcourse : Course s p result s') :
    (∀ id, s'.clients.callsOn id = s.clients.callsOn id) ∨
    (∃ name c closed, p.args.closeKey = some name ∧ s.registry.keyOf? name = some c.key ∧
      s.registry.find? c.key = some c ∧ (closed = [] ∨ closed = [.close]) ∧
      ∀ id, s'.clients.callsOn id =
        s.clients.callsOn id ++ if id = c.client then closed else []) ∨
    ∃ c : Connection, ∃ added, s.RunsOn p c.client ∧ .close ∉ added ∧
      ¬ s.EndsEarly header body result ∧
      ∀ id, s'.clients.callsOn id =
        s.clients.callsOn id ++ if id = c.client then added else [] := by
  cases hcourse with
  | interacts => exact Or.inl fun _ => rfl
  | lists => exact Or.inl fun _ => rfl
  | @closes _ name hask d hclose =>
    obtain ⟨c, hkey, hfind, rfl⟩ := Registry.exists_of_close hclose
    obtain ⟨closed, hclosed, hlog⟩ := Registry.callsOn_closeClient s.clients c
    exact Or.inr (Or.inl ⟨name, c, closed, hask, hkey, hfind, hclosed, hlog⟩)
  | notClosed => exact Or.inl fun _ => rfl
  | notSelected => exact Or.inl fun _ => rfl
  | @selected hplain notices d hselect _ _ hfinishes =>
    have hselects := selects_of_selection hselect
    -- Selecting adds no call, so the calls are those of what comes after it.
    rcases hfinishes.calls with hsame | ⟨c, added, hcurrent, hopen, hskipped, hlog⟩
    · exact Or.inl fun id => (hsame id).trans (hselects.callsOn id)
    · refine Or.inr (Or.inr ⟨c, added, hselects.runsOn hparse hcurrent, hopen, ?_, ?_⟩)
      · intro hends
        obtain ⟨hinteract, hconnections, hclose⟩ := hplain
        rcases hends p hparse with hask | hask | hask | ⟨f, hfails⟩ | hskips
        · exact hask hinteract
        · rw [hconnections] at hask
          cases hask
        · exact hask hclose
        · rw [hselect] at hfails
          cases hfails
        · exact hskipped hskips
      · intro id
        rw [hlog id]
        exact congrArg (· ++ _) (hselects.callsOn id)

/-- What there is to the calls of a command, given those on each client. -/
structure CallsOf (s : Session) (header body : String) (result : Except Fault Reply)
    (made : ClientId → List Call) : Prop where
  /-- All calls but that which closes a connection are on the one client that the command runs on. -/
  recipient : ∀ id, ∀ call ∈ made id, call ≠ .close →
    ∃ p, s.parse header body = .ok p ∧ ∀ other, s.RunsOn p other ↔ other = id
  /-- The call that closes is on the client of the connection to be closed, and is the only one. -/
  closing : ∀ id, .close ∈ made id → made id = [.close] ∧ ∃ p name c,
    s.parse header body = .ok p ∧ p.args.closeKey = some name ∧
    s.registry.keyOf? name = some c.key ∧ s.registry.find? c.key = some c ∧ c.client = id
  early : s.EndsEarly header body result → ∀ id, ∀ call ∈ made id, call = .close

variable {header body : String} {result : Except Fault Reply}

theorem callsOf_none : s.CallsOf header body result fun _ => [] where
  recipient _ _ hcall := by cases hcall
  closing _ hclose := by cases hclose
  early _ _ _ hcall := by cases hcall

theorem callsOf_closing {name : String} {c : Connection} {closed : List Call}
    (hparse : s.parse header body = .ok p) (hask : p.args.closeKey = some name)
    (hkey : s.registry.keyOf? name = some c.key) (hfind : s.registry.find? c.key = some c)
    (hclosed : closed = [] ∨ closed = [.close]) :
    s.CallsOf header body result fun id => if id = c.client then closed else [] := by
  have hclose : ∀ id, ∀ call ∈ (if id = c.client then closed else []),
      id = c.client ∧ closed = [.close] ∧ call = .close := by
    intro id call hcall
    split at hcall
    · next hsame =>
      rcases hclosed with rfl | rfl
      · cases hcall
      · exact ⟨hsame, rfl, List.mem_singleton.1 hcall⟩
    · cases hcall
  refine ⟨?_, ?_, fun _ id call hcall => (hclose id call hcall).2.2⟩
  · intro id call hcall hother
    exact absurd (hclose id call hcall).2.2 hother
  · intro id hcall
    obtain ⟨rfl, rfl, -⟩ := hclose id .close hcall
    exact ⟨if_pos rfl, p, name, c, hparse, hask, hkey, hfind, rfl⟩

theorem callsOf_running {id : ClientId} {added : List Call} (hparse : s.parse header body = .ok p)
    (hruns : s.RunsOn p id) (hopen : .close ∉ added) (hstays : ¬ s.EndsEarly header body result) :
    s.CallsOf header body result fun other => if other = id then added else [] := by
  refine ⟨?_, ?_, fun hends => absurd hends hstays⟩
  · intro other call hcall _
    split at hcall
    · next hsame =>
      subst hsame
      exact ⟨p, hparse, fun another => ⟨fun hruns' => hruns'.unique hruns, fun h => h ▸ hruns⟩⟩
    · cases hcall
  · intro other hclose
    split at hclose
    · exact absurd hclose hopen
    · cases hclose

/-- A command that has been read accounts for its calls, whichever course it takes. -/
theorem Course.exists_calls {s' : Session} (hparse : s.parse header body = .ok p)
    (hcourse : Course s p result s') : ∃ made : ClientId → List Call,
      (∀ id, s'.clients.callsOn id = s.clients.callsOn id ++ made id) ∧
      s.CallsOf header body result made := by
  rcases hcourse.calls hparse with hsame | ⟨name, c, closed, hask, hkey, hfind, hclosed, hlog⟩ |
    ⟨c, added, hruns, hopen, hstays, hlog⟩
  · exact ⟨fun _ => [], fun id => (hsame id).trans (List.append_nil _).symm, callsOf_none⟩
  · exact ⟨_, hlog, callsOf_closing hparse hask hkey hfind hclosed⟩
  · exact ⟨_, hlog, callsOf_running hparse hruns hopen hstays⟩

/-- The calls that a command adds to the logs of clients are all on one client, which is told by the
session before the command, or close the connection that it asks to close; a command that leaves early
makes no call but this one. -/
theorem execute_calls_one_client (s : Session) (header body : String) :
    let ran := (execute header body).run.run s
    ∃ made : ClientId → List Call,
      (∀ id, ran.2.clients.callsOn id = s.clients.callsOn id ++ made id) ∧
      s.CallsOf header body ran.1 made := by
  dsimp only
  rcases execute_cases s header body with ⟨f, -, hrun⟩ | ⟨p, hparse, hcourse⟩
  · rw [hrun]
    exact ⟨fun _ => [], fun id => (List.append_nil _).symm, callsOf_none⟩
  · exact hcourse.exists_calls hparse

end Session
end SqlCells
