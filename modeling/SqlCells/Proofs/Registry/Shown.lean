import SqlCells.Proofs.Database.Opening
import SqlCells.Proofs.Registry.Displacement
import SqlCells.Proofs.Registry.Reuse

/-!
# What open connections show

Keys, URLs and names of open connections, their listing and the current one can be seen by whoever runs
commands.  A connection shows the URL that its client reports, and a client reports what it was opened
from, the password with the rest.  So two runs of requests that differ in nothing but passwords show the
same exactly as long as they open the same.
-/

namespace SqlCells

open Effects

namespace Registry

/-! ## What is shown and what it goes by -/

/-- What can be seen of open connections. -/
structure Shown where
  keys : List String
  urls : List String
  names : List String
  listing : String
  /-- Key, URL and name of the current connection. -/
  current : Option (String × String × String)
  deriving DecidableEq, Repr

def shown (r : Registry) : Shown where
  keys := r.keys
  urls := r.connections.map Connection.url
  names := r.connections.map Connection.name
  listing := r.listing
  current := r.currentConnection?.map fun c => (c.key, c.url, c.name)

end Registry

/-- The URLs that clients report, by number. -/
def Clients.urls (cs : Clients) : List String :=
  cs.all.map Client.url

theorem Clients.url_eq_of_urls {cs cs' : Clients} (hurls : cs.urls = cs'.urls) (id : ClientId) :
    cs.url id = cs'.url id := by
  have hget : ∀ cs : Clients, cs.url id = ((cs.urls)[id]?).getD "" := by
    intro cs
    unfold Clients.url Clients.get? Clients.urls
    rw [List.getElem?_map]
    cases cs.all[id]? with
    | none => rfl
    | some c => rfl
  rw [hget, hget, hurls]

theorem Clients.add_eq_of_urls {cs cs' : Clients} (hurls : cs.urls = cs'.urls) {c c' : Client}
    (hurl : c.url = c'.url) :
    (cs.add c).1 = (cs'.add c').1 ∧ (cs.add c).2.urls = (cs'.add c').2.urls := by
  have hlength := congrArg List.length hurls
  unfold Clients.urls at hurls hlength
  rw [List.length_map, List.length_map] at hlength
  refine ⟨hlength, ?_⟩
  unfold Clients.urls Clients.add
  rw [List.map_append, List.map_append, hurls]
  simp [hurl]

/-- A conversation that keeps the URL of its client keeps those of all. -/
theorem Clients.urls_talk {α : Type} {t : Talk α} (ht : ∀ c, (t.run.run c).2.url = c.url)
    (cs : Clients) (id : ClientId) (otherwise : Except Fault α) :
    (cs.talk id otherwise t).2.urls = cs.urls := by
  unfold Clients.talk
  cases hget : cs.get? id with
  | none => rfl
  | some c =>
    obtain ⟨hlt, rfl⟩ := List.getElem?_eq_some_iff.1 hget
    change (cs.all.set id (t.run.run cs.all[id]).2).map Client.url = cs.all.map Client.url
    rw [List.map_set, ht, ← List.map_set, List.set_getElem_self]

namespace Registry

/-- Two desks with the same connections, whose clients report the same URLs. -/
structure Agree (d d' : Desk) : Prop where
  registry : d.registry = d'.registry
  urls : d.clients.urls = d'.clients.urls

theorem Agree.refl (d : Desk) : Agree d d :=
  ⟨rfl, rfl⟩

theorem Agree.trans {d d' d'' : Desk} (h : Agree d d') (h' : Agree d' d'') : Agree d d'' :=
  ⟨h.registry.trans h'.registry, h.urls.trans h'.urls⟩

/-- Desks that agree show the same. -/
theorem Agree.shown {d d' : Desk} (h : Agree d d') : d.registry.shown = d'.registry.shown := by
  rw [h.registry]

theorem Agree.enter {d d' : Desk} (h : Agree d d') (c : Connection) :
    Agree (d.enter c) (d'.enter c) := by
  refine ⟨?_, h.urls⟩
  unfold Desk.enter
  rw [h.registry]

theorem ofClient_eq {clients clients' : Clients} (hurls : clients.urls = clients'.urls)
    (id : ClientId) (aliasName : Option String) :
    Connection.ofClient clients id aliasName = Connection.ofClient clients' id aliasName := by
  unfold Connection.ofClient
  rw [Clients.url_eq_of_urls hurls]

theorem urls_closeClient (clients : Clients) (c : Connection) :
    (closeClient clients c).urls = clients.urls :=
  Clients.urls_talk (fun _ => rfl) clients c.client _

theorem urls_foldl_closeClient (connections : List Connection) (clients : Clients) :
    (connections.foldl closeClient clients).urls = clients.urls := by
  induction connections generalizing clients with
  | nil => rfl
  | cons c rest ih => exact (ih _).trans (urls_closeClient clients c)

/-! ## One request on desks that agree -/

/-- Two changes that give desks that agree, or fail alike. -/
inductive Parallel : Except Fault Desk → Except Fault Desk → Prop where
  | ok {d d' : Desk} (hagree : Agree d d') : Parallel (.ok d) (.ok d')
  | error (f : Fault) : Parallel (.error f) (.error f)

section Step

variable {r : Registry} {clients clients' : Clients}

theorem parallel_select (hurls : clients.urls = clients'.urls) (target : Target)
    (options : OpenOptions) :
    Parallel ((select target options ⟨r, clients⟩).map Prod.snd)
      ((select target options ⟨r, clients'⟩).map Prod.snd) := by
  have hagree : Agree ⟨r, clients⟩ ⟨r, clients'⟩ := ⟨rfl, hurls⟩
  have hregisters : ∀ id, Agree
      (Desk.enter ⟨r, clients⟩ (Connection.ofClient clients id options.aliasName))
      (Desk.enter ⟨r, clients'⟩ (Connection.ofClient clients' id options.aliasName)) := by
    intro id
    rw [ofClient_eq hurls]
    exact hagree.enter _
  unfold select
  cases target with
  | key name =>
    dsimp only
    cases r.keyOf? name with
    | none => exact .error _
    | some key => exact .ok ⟨rfl, hurls⟩
  | client id => exact .ok (hregisters id)
  | connectString url =>
    dsimp only
    cases r.roughMatch? url with
    | some c => exact .ok ⟨rfl, hurls⟩
    | none =>
      cases options.creator with
      | some id => exact .ok (hregisters id)
      | none =>
        dsimp only
        cases r.openClient url options with
        | error f => exact .error f
        | ok client =>
          -- The same client gets the same number in both tables.
          obtain ⟨hid, hadded⟩ := Clients.add_eq_of_urls hurls (c := client) rfl
          have hregistered : Agree ⟨r, (clients.add client).2⟩ ⟨r, (clients'.add client).2⟩ :=
            ⟨rfl, hadded⟩
          refine .ok ?_
          dsimp only
          rw [hid]
          unfold register
          rw [ofClient_eq hadded]
          exact hregistered.enter _

theorem parallel_selectDefault (hurls : clients.urls = clients'.urls) (showListing : Bool)
    (databaseUrl : Option String) (options : OpenOptions) :
    Parallel ((selectDefault showListing databaseUrl options ⟨r, clients⟩).map Prod.snd)
      ((selectDefault showListing databaseUrl options ⟨r, clients'⟩).map Prod.snd) := by
  unfold selectDefault
  dsimp only
  split
  · exact .ok ⟨rfl, hurls⟩
  · cases databaseUrl with
    | none => exact .error _
    | some url =>
      dsimp only
      have hparallel := parallel_select (r := r) hurls (.connectString url) options
      cases hleft : select (.connectString url) options ⟨r, clients⟩ <;>
        cases hright : select (.connectString url) options ⟨r, clients'⟩ <;>
        rw [hleft, hright] at hparallel
      · exact hparallel
      · cases hparallel
      · cases hparallel
      · exact hparallel

theorem parallel_close (hurls : clients.urls = clients'.urls) (name : String) :
    Parallel (close name ⟨r, clients⟩) (close name ⟨r, clients'⟩) := by
  unfold close
  dsimp only
  cases r.keyOf? name with
  | none => exact .error _
  | some key =>
    dsimp only
    refine .ok ⟨rfl, ?_⟩
    cases r.find? key with
    | none => exact hurls
    | some c => exact (urls_closeClient clients c).trans (hurls.trans (urls_closeClient clients' c).symm)

end Step

theorem Agree.parallel {d d' : Desk} (h : Agree d d') {x x' : Except Fault Desk} :
    Parallel x x' → Agree (match x with
      | .ok after => after
      | .error _ => d) (match x' with
      | .ok after => after
      | .error _ => d') := by
  intro hparallel
  cases hparallel with
  | ok hagree => exact hagree
  | error f => exact h

/-- Desks that agree still do after the same request. -/
theorem Agree.after {d d' : Desk} (h : Agree d d') (request : Request) :
    Agree (d.after request) (d'.after request) := by
  obtain ⟨r, clients⟩ := d
  obtain ⟨r', clients'⟩ := d'
  obtain ⟨rfl, hurls⟩ := h
  have hparallel : Parallel (request.perform ⟨r, clients⟩) (request.perform ⟨r, clients'⟩) := by
    cases request with
    | select target options => exact parallel_select hurls target options
    | selectDefault showListing databaseUrl options =>
      exact parallel_selectDefault hurls showListing databaseUrl options
    | close name => exact parallel_close hurls name
    | closeAll =>
      refine .ok ⟨rfl, ?_⟩
      exact (urls_foldl_closeClient _ clients).trans
        (hurls.trans (urls_foldl_closeClient _ clients').symm)
  have hbefore : Agree ⟨r, clients⟩ ⟨r, clients'⟩ := ⟨rfl, hurls⟩
  rw [after_eq, after_eq]
  exact hbefore.parallel hparallel

/-! ## Opened URLs -/

/-- What a connection string is opened as, the string with its arguments. Nothing is opened where a key
roughly matches the string or a creator is given, nor where opening fails. -/
def opens? (d : Desk) (url : String) (options : OpenOptions) : Option String :=
  if (d.registry.roughMatch? url).isSome || options.creator.isSome then none
  else if (Connect.openUrl url options.arguments options.engines).isOk then
    (Connect.applyArguments options.arguments url).toOption
  else none

/-- The URL that a request opens a connection with. -/
def Request.opens? (d : Desk) : Request → Option String
  | .select (.connectString url) options => Registry.opens? d url options
  | .selectDefault _ (some url) options =>
    if d.registry.connections.isEmpty then Registry.opens? d url options else none
  | _ => none

/-- The alias that a request asks for. -/
def Request.aliasName : Request → Option String
  | .select _ options => options.aliasName
  | .selectDefault _ _ options => options.aliasName
  | _ => none

/-- The connection of a client that is opened from a URL. -/
def openedConnection (d : Desk) (url : String) (aliasName : Option String) : Connection where
  key := aliasName.getD url
  name := displayName url
  url := url
  aliasName := aliasName
  client := d.clients.all.length

/-- The desk with a client more and its connection. -/
def Desk.withOpened (d : Desk) (client : Client) (aliasName : Option String) : Desk :=
  Desk.enter ⟨d.registry, (d.clients.add client).2⟩ (openedConnection d client.url aliasName)

theorem ofClient_add (d : Desk) (client : Client) (aliasName : Option String) :
    Connection.ofClient (d.clients.add client).2 (d.clients.add client).1 aliasName =
      openedConnection d client.url aliasName := by
  unfold Connection.ofClient
  rw [Clients.url_add]
  rfl

/-- A connection string that is opened is registered with a client of the URL it is opened as. -/
theorem select_of_opens? {d : Desk} {url full : String} {options : OpenOptions}
    (hopens : opens? d url options = some full) : ∃ client, client.url = full ∧
      (select (.connectString url) options d).map Prod.snd =
        .ok (d.withOpened client options.aliasName) := by
  unfold opens? at hopens
  split at hopens
  · cases hopens
  · next hfresh =>
    have hrough : d.registry.roughMatch? url = none := by
      cases hfound : d.registry.roughMatch? url with
      | none => rfl
      | some c => simp [hfound] at hfresh
    have hcreator : options.creator = none := by
      cases hgiven : options.creator with
      | none => rfl
      | some id => simp [hgiven] at hfresh
    cases hopen : Connect.openUrl url options.arguments options.engines with
    | error f =>
      rw [hopen] at hopens
      cases hopens
    | ok client =>
      have hok : (Except.ok client : Except Fault Client).isOk = true := rfl
      rw [hopen, if_pos hok, (Connect.opened_of_openUrl hopen).url] at hopens
      refine ⟨client, Option.some.inj hopens, ?_⟩
      have hprovides : Provides options url d.clients (d.clients.add client).1
          (d.clients.add client).2 := by
        unfold Provides
        rw [hcreator]
        exact ⟨client, hopen, rfl⟩
      rw [select_connectString_eq_ok_iff.2 (Or.inr ⟨hrough, _, _, hprovides, rfl, rfl⟩),
        ofClient_add]
      rfl

theorem after_of_opens? {d : Desk} {request : Request} {full : String}
    (hopens : request.opens? d = some full) : ∃ client, client.url = full ∧
      d.after request = d.withOpened client request.aliasName := by
  rw [after_eq]
  unfold Request.opens? at hopens
  split at hopens
  · next url options =>
    obtain ⟨client, hurl, hselect⟩ := select_of_opens? hopens
    refine ⟨client, hurl, ?_⟩
    unfold Request.perform
    dsimp only
    rw [hselect]
    rfl
  · next showListing url options =>
    split at hopens
    · next hempty =>
      obtain ⟨client, hurl, hselect⟩ := select_of_opens? hopens
      refine ⟨client, hurl, ?_⟩
      have hnone : ¬ (!d.registry.connections.isEmpty) = true := by simpa using hempty
      have hdefault : (selectDefault showListing (some url) options d).map Prod.snd =
          (select (.connectString url) options d).map Prod.snd := by
        unfold selectDefault
        rw [if_neg hnone]
        dsimp only
        cases select (.connectString url) options d with
        | ok selected => rfl
        | error f => rfl
      unfold Request.perform
      dsimp only
      rw [hdefault, hselect]
      rfl
    · cases hopens
  · cases hopens

theorem clients_of_not_opens {d d' : Desk} {url key : String} {options : OpenOptions}
    (hnone : opens? d url options = none)
    (hselect : select (.connectString url) options d = .ok (key, d')) : d'.clients = d.clients := by
  rcases select_connectString_eq_ok_iff.1 hselect with
    ⟨c, -, -, rfl⟩ | ⟨hrough, id, clients, hprovides, -, rfl⟩
  · rfl
  · unfold Provides at hprovides
    split at hprovides
    · exact hprovides.2
    · next hcreator =>
      obtain ⟨client, hopen, -⟩ := hprovides
      unfold opens? at hnone
      rw [hrough, hcreator, if_neg (by simp), hopen, (Connect.opened_of_openUrl hopen).url] at hnone
      cases hnone

/-- A request that opens nothing adds no client. -/
theorem urls_of_not_opens {d : Desk} {request : Request} (hnone : request.opens? d = none) :
    (d.after request).clients.urls = d.clients.urls := by
  rw [after_eq]
  split
  · next d' hperform =>
    cases request with
    | select target options =>
      obtain ⟨⟨key, _⟩, hselect, rfl⟩ := of_map_eq_ok hperform
      cases target with
      | key name =>
        obtain ⟨-, rfl⟩ := select_key_eq_ok_iff.1 hselect
        rfl
      | client id =>
        obtain ⟨-, rfl⟩ := select_client_eq_ok_iff.1 hselect
        rfl
      | connectString url => exact congrArg Clients.urls (clients_of_not_opens hnone hselect)
    | selectDefault showListing databaseUrl options =>
      obtain ⟨⟨listing, _⟩, hselect, rfl⟩ := of_map_eq_ok hperform
      unfold selectDefault at hselect
      split at hselect
      · cases hselect
        rfl
      · next hempty =>
        cases databaseUrl with
        | none => cases hselect
        | some url =>
          obtain ⟨⟨key, _⟩, hopen, hsame⟩ := of_map_eq_ok hselect
          obtain ⟨-, rfl⟩ := Prod.mk.inj hsame
          unfold Request.opens? at hnone
          dsimp only at hnone
          rw [if_pos (by simpa using hempty)] at hnone
          exact congrArg Clients.urls (clients_of_not_opens hnone hopen)
    | close name =>
      obtain ⟨c, -, -, rfl⟩ := exists_of_close hperform
      exact urls_closeClient d.clients c
    | closeAll =>
      cases hperform
      exact urls_foldl_closeClient _ d.clients
  · rfl

/-- What a request has opened is current, and shows the URL that it was opened with. -/
theorem currentConnection?_of_opens? {d : Desk} {request : Request} {full : String}
    (hopens : request.opens? d = some full) :
    (d.after request).registry.currentConnection? =
      some (openedConnection d full request.aliasName) := by
  obtain ⟨client, rfl, hafter⟩ := after_of_opens? hopens
  rw [hafter]
  exact currentConnection?_enter ⟨d.registry, (d.clients.add client).2⟩ _

/-- Requests that open the same URL under the same alias leave desks that agree. -/
theorem Agree.opened {d d' : Desk} (h : Agree d d') {request request' : Request} {full : String}
    (hopens : request.opens? d = some full) (hopens' : request'.opens? d' = some full)
    (halias : request.aliasName = request'.aliasName) :
    Agree (d.after request) (d'.after request') := by
  obtain ⟨client, rfl, hafter⟩ := after_of_opens? hopens
  obtain ⟨client', hurl, hafter'⟩ := after_of_opens? hopens'
  obtain ⟨hid, hadded⟩ := Clients.add_eq_of_urls h.urls hurl.symm
  -- Both clients get the same number, since the tables are equally long.
  have hconnection : openedConnection d client.url request.aliasName =
      openedConnection d' client'.url request'.aliasName := by
    unfold openedConnection
    rw [hurl, halias]
    congr 1
  have hopened : Agree ⟨d.registry, (d.clients.add client).2⟩
      ⟨d'.registry, (d'.clients.add client').2⟩ := ⟨h.registry, hadded⟩
  rw [hafter, hafter']
  unfold Desk.withOpened
  rw [hconnection]
  exact hopened.enter _

/-! ## Two runs -/

/-- What is shown before the first request and after each. -/
def shownAlong (d : Desk) : List Request → List Shown
  | [] => [d.registry.shown]
  | request :: rest => d.registry.shown :: shownAlong (d.after request) rest

/-- The URL that each request opens. -/
def opensAlong (d : Desk) : List Request → List (Option String)
  | [] => []
  | request :: rest => request.opens? d :: opensAlong (d.after request) rest

/-- The request with another connection string in the place of its own. -/
def Request.withUrl (url : String) : Request → Request
  | .select (.connectString _) options => .select (.connectString url) options
  | .selectDefault showListing (some _) options => .selectDefault showListing (some url) options
  | request => request

/-- Two runs that make the same requests, except that the URLs opened may have other passwords. -/
inductive Twins : Desk → Desk → List Request → List Request → Prop where
  | done (d d' : Desk) : Twins d d' [] []
  | same {d d' : Desk} (request : Request) {rest rest' : List Request}
      (hrest : Twins (d.after request) (d'.after request) rest rest') :
      Twins d d' (request :: rest) (request :: rest')
  | opens {d d' : Desk} {request : Request} {url full full' : String}
      (hopens : request.opens? d = some full) (hopens' : (request.withUrl url).opens? d' = some full')
      (hmask : Url.maskPassword full.toList = Url.maskPassword full'.toList)
      {rest rest' : List Request}
      (hrest : Twins (d.after request) (d'.after (request.withUrl url)) rest rest') :
      Twins d d' (request :: rest) (request.withUrl url :: rest')

theorem aliasName_withUrl (request : Request) (url : String) :
    (request.withUrl url).aliasName = request.aliasName := by
  unfold Request.withUrl
  split <;> rfl

theorem head?_shownAlong (d : Desk) (requests : List Request) :
    (shownAlong d requests).head? = some d.registry.shown := by
  cases requests with
  | nil => rfl
  | cons request rest => rfl

theorem opens?_eq_of_agree {d d' : Desk} (h : Agree d d') (request : Request) :
    request.opens? d = request.opens? d' := by
  unfold Request.opens? Registry.opens?
  rw [h.registry]

/-- Runs that differ in passwords only, from desks that agree, show the same throughout exactly if they
open the same throughout. -/
theorem Twins.shownAlong_eq_iff {d d' : Desk} {requests requests' : List Request}
    (htwins : Twins d d' requests requests') (h : Agree d d') :
    shownAlong d requests = shownAlong d' requests' ↔
      opensAlong d requests = opensAlong d' requests' := by
  -- Along the runs: as long as the same has been opened the desks agree, which carries the next step.
  induction htwins with
  | done d d' =>
    refine iff_of_true ?_ rfl
    exact congrArg (fun s => [s]) h.shown
  | @same d d' request rest rest' hrest ih =>
    have hrest := ih (h.after request)
    unfold shownAlong opensAlong
    rw [h.shown, opens?_eq_of_agree h request, List.cons_inj_right, List.cons_inj_right]
    exact hrest
  | @opens d d' request url full full' hopens hopens' hmask rest rest' hrest ih =>
    unfold shownAlong opensAlong
    rw [h.shown, List.cons_inj_right, hopens, hopens']
    constructor
    · intro hshown
      -- Each run shows the URL just opened as that of its current connection.
      have hhead := congrArg List.head? hshown
      rw [head?_shownAlong, head?_shownAlong] at hhead
      have hcurrent := congrArg Shown.current (Option.some.inj hhead)
      unfold shown at hcurrent
      rw [currentConnection?_of_opens? hopens, currentConnection?_of_opens? hopens'] at hcurrent
      have hfull : full = full' := (Prod.mk.inj (Prod.mk.inj (Option.some.inj hcurrent)).2).1
      subst hfull
      have hagree := h.opened hopens hopens' (aliasName_withUrl request url).symm
      rw [(ih hagree).1 hshown]
    · intro hsame
      obtain ⟨hfull, hrest⟩ := List.cons.inj hsame
      obtain rfl := Option.some.inj hfull
      have hagree := h.opened hopens hopens' (aliasName_withUrl request url).symm
      exact (ih hagree).2 hrest

end Registry
end SqlCells
