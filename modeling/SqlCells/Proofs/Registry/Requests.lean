import SqlCells.Proofs.Registry.Entries
import SqlCells.Proofs.Registry.InPlace

/-!
# Runs of requests

Everything that changes the open connections is a request: to select a connection or find one where none
was named, to close one, or to close all.  What a request can do is said once, as `Moves`: it makes an
open connection current, enters a client under its key and makes it current, or takes connections out
and closes them.  A request that fails changes nothing.  From this follows what holds after any requests:
every connection is found under its own key, the keys ascend, and the current key is one of them.
-/

namespace SqlCells
namespace Registry

open Effects

/-! ## Selecting -/

namespace Desk

/-- The desk with another connection current. -/
def switchTo (d : Desk) (key : String) : Desk :=
  { d with registry := { d.registry with current := some key } }

/-- The desk with one more connection, which is current. -/
def enter (d : Desk) (c : Connection) : Desk :=
  { d with registry := { d.registry.insert c with current := some c.key } }

end Desk

/-- The client that a connection string is registered with: the one given as its creator, or one that is
opened from it. -/
def Provides (options : OpenOptions) (url : String) (clients : Clients) (id : ClientId)
    (provided : Clients) : Prop :=
  match options.creator with
  | some creator => id = creator ∧ provided = clients
  | none => ∃ client, Connect.openUrl url options.arguments options.engines = .ok client ∧
      (id, provided) = clients.add client

section Select

variable {options : OpenOptions} {d d' : Desk} {key : String}

theorem select_key_eq_ok_iff {name : String} :
    select (.key name) options d = .ok (key, d') ↔
      d.registry.keyOf? name = some key ∧ d' = d.switchTo key := by
  unfold select
  cases hkey : d.registry.keyOf? name with
  | none => simp [hkey]
  | some found =>
    simp only [hkey, Except.ok.injEq, Prod.mk.injEq, Option.some.injEq]
    constructor
    · rintro ⟨rfl, rfl⟩
      exact ⟨rfl, rfl⟩
    · rintro ⟨rfl, rfl⟩
      exact ⟨rfl, rfl⟩

theorem select_client_eq_ok_iff {id : ClientId} :
    select (.client id) options d = .ok (key, d') ↔
      key = (Connection.ofClient d.clients id options.aliasName).key ∧
        d' = d.enter (Connection.ofClient d.clients id options.aliasName) := by
  constructor
  · intro hselect
    obtain ⟨rfl, rfl⟩ := Prod.mk.inj (Except.ok.inj hselect)
    exact ⟨rfl, rfl⟩
  · rintro ⟨rfl, rfl⟩
    rfl

theorem openClient_eq_ok_iff {r : Registry} {url : String} {client : Client} :
    r.openClient url options = .ok client ↔
      Connect.openUrl url options.arguments options.engines = .ok client := by
  unfold openClient
  cases hopen : Connect.openUrl url options.arguments options.engines with
  | ok c => rfl
  | error f =>
    dsimp only
    split
    · simp
    · simp

/-- A connection string makes the connection current that it roughly matches, and is registered as a
connection of its own only if there is none. -/
theorem select_connectString_eq_ok_iff {url : String} :
    select (.connectString url) options d = .ok (key, d') ↔
      (∃ c, d.registry.roughMatch? url = some c ∧ key = c.key ∧ d' = d.switchTo c.key) ∨
      (d.registry.roughMatch? url = none ∧ ∃ id clients,
        Provides options url d.clients id clients ∧
        key = (Connection.ofClient clients id options.aliasName).key ∧
        d' = Desk.enter ⟨d.registry, clients⟩
          (Connection.ofClient clients id options.aliasName)) := by
  unfold select Provides
  -- As the selection goes on: a rough match, then the creator, then the URL that is opened.
  cases hrough : d.registry.roughMatch? url with
  | some c =>
    simp only [hrough, Except.ok.injEq, Prod.mk.injEq, Option.some.injEq, reduceCtorEq, false_and,
      or_false]
    constructor
    · rintro ⟨rfl, rfl⟩
      exact ⟨c, rfl, rfl, rfl⟩
    · rintro ⟨_, rfl, rfl, rfl⟩
      exact ⟨rfl, rfl⟩
  | none =>
    cases hcreator : options.creator with
    | some creator =>
      simp only [hrough, Except.ok.injEq, Prod.mk.injEq, reduceCtorEq, false_and,
        exists_false, false_or, true_and]
      constructor
      · rintro ⟨rfl, rfl⟩
        exact ⟨creator, d.clients, ⟨rfl, rfl⟩, rfl, rfl⟩
      · rintro ⟨_, _, ⟨rfl, rfl⟩, rfl, rfl⟩
        exact ⟨rfl, rfl⟩
    | none =>
      cases hopen : d.registry.openClient url options with
      | error f =>
        have hfails : ∀ client, Connect.openUrl url options.arguments options.engines ≠ .ok client := by
          intro client hok
          rw [← openClient_eq_ok_iff (r := d.registry), hopen] at hok
          cases hok
        simp [hrough, hopen, hfails]
      | ok client =>
        have hok := openClient_eq_ok_iff.1 hopen
        simp only [hrough, hopen, hok, Except.ok.injEq, Prod.mk.injEq, reduceCtorEq,
          false_and, exists_false, false_or, true_and, exists_eq_left']
        constructor
        · rintro ⟨rfl, rfl⟩
          exact ⟨_, _, rfl, rfl, rfl⟩
        · rintro ⟨id, clients, hadd, rfl, rfl⟩
          obtain ⟨rfl, rfl⟩ := Prod.mk.inj hadd
          exact ⟨rfl, rfl⟩

end Select

/-! ## Requests -/

/-- A call that may change the open connections. -/
inductive Request where
  | select (target : Target) (options : OpenOptions)
  | selectDefault (showListing : Bool) (databaseUrl : Option String) (options : OpenOptions)
  | close (name : String)
  | closeAll

/-- What a request makes of the open connections. -/
def Request.perform (d : Desk) : Request → Except Fault Desk
  | .select target options => (Registry.select target options d).map Prod.snd
  | .selectDefault showListing databaseUrl options =>
    (Registry.selectDefault showListing databaseUrl options d).map Prod.snd
  | .close name => Registry.close name d
  | .closeAll => .ok (Registry.closeAll d)

/-- A request as a change in place. -/
def Request.inPlace : Request → Change Unit
  | .select target options => do
    let _ ← Change.select target options
    return ()
  | .selectDefault showListing databaseUrl options => do
    let _ ← Change.selectDefault showListing databaseUrl options
    return ()
  | .close name => Change.close name
  | .closeAll => Change.closeAll

/-- The open connections after a request, whether it succeeds or fails. -/
def Desk.after (d : Desk) (request : Request) : Desk :=
  (request.inPlace.run.run d).2

/-- The open connections after some requests, starting with none open. Clients may be known before, to
be registered when they are named. -/
def afterRequests (clients : Clients) (requests : List Request) : Desk :=
  requests.foldl Desk.after ⟨{}, clients⟩

/-- In place, a request that succeeds leaves the connections that it gives, and one that fails leaves
them as they were. -/
theorem run_inPlace (d : Desk) (request : Request) :
    request.inPlace.run.run d = match request.perform d with
      | .ok d' => (.ok (), d')
      | .error f => (.error f, d) := by
  unfold Request.inPlace Request.perform
  cases request with
  | select target options =>
    dsimp only
    rw [run_bind, Change.select_eq, Change.run_replacing]
    cases Registry.select target options d with
    | ok selected => rfl
    | error f => rfl
  | selectDefault showListing databaseUrl options =>
    dsimp only
    rw [run_bind, Change.selectDefault_eq, Change.run_replacing]
    cases Registry.selectDefault showListing databaseUrl options d with
    | ok found => rfl
    | error f => rfl
  | close name =>
    dsimp only
    rw [Change.close_eq, Change.run_replacing]
    cases Registry.close name d with
    | ok d' => rfl
    | error f => rfl
  | closeAll =>
    dsimp only
    rw [Change.closeAll_eq, Change.run_replacing]

theorem after_eq (d : Desk) (request : Request) :
    d.after request = match request.perform d with
      | .ok d' => d'
      | .error _ => d := by
  unfold Desk.after
  rw [run_inPlace]
  cases request.perform d with
  | ok d' => rfl
  | error f => rfl

theorem after_closeAll (d : Desk) : d.after .closeAll = closeAll d := by
  rw [after_eq]
  rfl

/-- The desk without the connection of a key, its client closed. -/
def Desk.closing (d : Desk) (c : Connection) : Desk where
  registry :=
    { connections := d.registry.connections.filter fun other => other.key != c.key
      current := if d.registry.current = some c.key then none else d.registry.current }
  clients := closeClient d.clients c

/-- What a request can make of the open connections. -/
inductive Moves (d : Desk) : Desk → Prop where
  | stays : Moves d d
  | switches (key : String) (hopen : (d.registry.find? key).isSome = true) :
      Moves d (d.switchTo key)
  /-- A client is entered that is known or has just been opened. -/
  | enters (id : ClientId) (clients : Clients) (aliasName : Option String)
      (hclients : clients = d.clients ∨ ∃ client, (id, clients) = d.clients.add client) :
      Moves d (Desk.enter ⟨d.registry, clients⟩ (Connection.ofClient clients id aliasName))
  | closes (c : Connection) (hfind : d.registry.find? c.key = some c) : Moves d (d.closing c)
  | closesAll : Moves d (closeAll d)

theorem moves_of_select {target : Target} {options : OpenOptions} {d d' : Desk} {key : String}
    (hselect : Registry.select target options d = .ok (key, d')) : Moves d d' := by
  cases target with
  | key name =>
    obtain ⟨hkey, rfl⟩ := select_key_eq_ok_iff.1 hselect
    exact .switches key (find?_of_keyOf? hkey)
  | client id =>
    obtain ⟨-, rfl⟩ := select_client_eq_ok_iff.1 hselect
    exact .enters id d.clients options.aliasName (Or.inl rfl)
  | connectString url =>
    rcases select_connectString_eq_ok_iff.1 hselect with
      ⟨c, hrough, -, rfl⟩ | ⟨-, id, clients, hprovides, -, rfl⟩
    · refine .switches c.key ?_
      have hmem : c ∈ d.registry.connections := List.mem_of_find?_eq_some hrough
      exact List.find?_isSome.2 ⟨c, hmem, by simp⟩
    · refine .enters id clients options.aliasName ?_
      unfold Provides at hprovides
      split at hprovides
      · exact Or.inl hprovides.2
      · obtain ⟨client, -, hadd⟩ := hprovides
        exact Or.inr ⟨client, hadd⟩

/-- While a connection is open, a request that names none only lists them. -/
theorem selectDefault_of_open {d : Desk} (hopen : d.registry.connections ≠ [])
    {showListing : Bool} {databaseUrl : Option String} {options : OpenOptions} :
    Registry.selectDefault showListing databaseUrl options d =
      .ok (if showListing then some d.registry.listing else none, d) := by
  have hnonempty : (!d.registry.connections.isEmpty) = true := by simpa using hopen
  unfold Registry.selectDefault
  rw [if_pos hnonempty]

theorem after_selectDefault_of_open {d : Desk} (hopen : d.registry.connections ≠ [])
    {showListing : Bool} {databaseUrl : Option String} {options : OpenOptions} :
    d.after (.selectDefault showListing databaseUrl options) = d := by
  rw [after_eq]
  unfold Request.perform
  dsimp only
  rw [selectDefault_of_open hopen]
  rfl

theorem moves_of_selectDefault {showListing : Bool} {databaseUrl listing : Option String}
    {options : OpenOptions} {d d' : Desk}
    (hselect : Registry.selectDefault showListing databaseUrl options d = .ok (listing, d')) :
    Moves d d' := by
  unfold Registry.selectDefault at hselect
  split at hselect
  · cases hselect
    exact .stays
  · split at hselect
    · obtain ⟨⟨key, _⟩, hopen, hsame⟩ := of_map_eq_ok hselect
      obtain ⟨-, rfl⟩ := Prod.mk.inj hsame
      exact moves_of_select hopen
    · cases hselect

/-- Closing takes out the connection that the name stands for and closes its client. -/
theorem exists_of_close {name : String} {d d' : Desk} (hclose : Registry.close name d = .ok d') :
    ∃ c, d.registry.keyOf? name = some c.key ∧ d.registry.find? c.key = some c ∧
      d' = d.closing c := by
  unfold Registry.close at hclose
  dsimp only at hclose
  cases hkey : d.registry.keyOf? name with
  | none =>
    rw [hkey] at hclose
    cases hclose
  | some key =>
    obtain ⟨c, hfind⟩ := Option.isSome_iff_exists.1 (find?_of_keyOf? hkey)
    obtain ⟨-, rfl⟩ := mem_of_find? hfind
    simp only [hkey, hfind] at hclose
    exact ⟨c, rfl, hfind, (Except.ok.inj hclose).symm⟩

theorem moves_after (d : Desk) (request : Request) : Moves d (d.after request) := by
  rw [after_eq]
  split
  · next d' hperform =>
    cases request with
    | select target options =>
      obtain ⟨⟨key, _⟩, hselect, rfl⟩ := of_map_eq_ok hperform
      exact moves_of_select hselect
    | selectDefault showListing databaseUrl options =>
      obtain ⟨⟨listing, _⟩, hselect, rfl⟩ := of_map_eq_ok hperform
      exact moves_of_selectDefault hselect
    | close name =>
      obtain ⟨c, -, hfind, rfl⟩ := exists_of_close hperform
      exact .closes c hfind
    | closeAll =>
      cases hperform
      exact .closesAll
  · exact .stays

/-! ## The invariant -/

/-- What holds of the open connections after any requests. -/
structure Orderly (r : Registry) : Prop where
  /-- The keys ascend, so each stands once. -/
  sorted : r.connections.Pairwise fun c c' => c.key < c'.key
  /-- A connection is kept under its alias if it has one, otherwise under its URL. -/
  keyed : ∀ c ∈ r.connections, c.key = c.aliasName.getD c.url
  /-- The current key is that of an open connection. -/
  present : ∀ key, r.current = some key → (r.find? key).isSome = true

theorem orderly_empty : Orderly {} where
  sorted := List.Pairwise.nil
  keyed := by
    intro c hc
    cases hc
  present := by
    intro key hkey
    cases hkey

theorem Orderly.enter {d : Desk} (h : d.registry.Orderly) {c : Connection}
    (hkey : c.key = c.aliasName.getD c.url) : (d.enter c).registry.Orderly where
  sorted := pairwise_insertSorted c h.sorted
  keyed := by
    intro x hx
    rcases eq_or_mem_of_mem_insertSorted hx with rfl | hx
    · exact hkey
    · exact h.keyed x hx
  present := by
    intro key hcurrent
    obtain rfl := Option.some.inj hcurrent
    change ((d.registry.insert c).find? c.key).isSome = true
    rw [find?_insert, if_pos rfl]
    rfl

theorem find?_closing {d : Desk} {c : Connection} {key : String} (hne : key ≠ c.key) :
    (d.closing c).registry.find? key = d.registry.find? key := by
  unfold Desk.closing find?
  rw [List.find?_filter]
  congr 1
  funext other
  by_cases hother : other.key = key
  · simp [hother, hne]
  · simp [hother]

theorem Orderly.closing {d : Desk} (h : d.registry.Orderly) (c : Connection) :
    (d.closing c).registry.Orderly where
  sorted := h.sorted.filter _
  keyed := fun x hx => h.keyed x (List.mem_of_mem_filter hx)
  present := by
    intro key hcurrent
    change (if d.registry.current = some c.key then none else d.registry.current) = some key
      at hcurrent
    split at hcurrent
    · cases hcurrent
    · next hother =>
      -- The current connection is another one, so it stays.
      have hne : key ≠ c.key := by
        rintro rfl
        exact hother hcurrent
      rw [find?_closing hne]
      exact h.present key hcurrent

theorem Orderly.moves {d d' : Desk} (h : d.registry.Orderly) (hmoves : Moves d d') :
    d'.registry.Orderly := by
  cases hmoves with
  | stays => exact h
  | switches key hopen =>
    refine ⟨h.sorted, h.keyed, ?_⟩
    intro key' hcurrent
    obtain rfl := Option.some.inj hcurrent
    exact hopen
  | enters id clients aliasName hclients =>
    exact Orderly.enter (d := ⟨d.registry, clients⟩) h rfl
  | closes c hfind => exact h.closing c
  | closesAll => exact orderly_empty

theorem orderly_afterRequests (clients : Clients) (requests : List Request) :
    (afterRequests clients requests).registry.Orderly := by
  have hrun : ∀ d : Desk, d.registry.Orderly →
      (requests.foldl Desk.after d).registry.Orderly := by
    induction requests with
    | nil => exact fun d h => h
    | cons request rest ih => exact fun d h => ih _ (h.moves (moves_after d request))
  exact hrun ⟨{}, clients⟩ orderly_empty

/-- The current connection is the one with the current key. -/
theorem Orderly.currentConnection {r : Registry} (h : r.Orderly) {key : String}
    (hcurrent : r.current = some key) : ∃ c, r.currentConnection? = some c ∧ c.key = key := by
  obtain ⟨c, hfind⟩ := Option.isSome_iff_exists.1 (h.present key hcurrent)
  refine ⟨c, ?_, (mem_of_find? hfind).2⟩
  unfold currentConnection?
  rw [hcurrent]
  exact hfind

theorem current_of_select {target : Target} {options : OpenOptions} {d d' : Desk} {key : String}
    (hselect : Registry.select target options d = .ok (key, d')) :
    d'.registry.current = some key := by
  cases target with
  | key name =>
    obtain ⟨-, rfl⟩ := select_key_eq_ok_iff.1 hselect
    rfl
  | client id =>
    obtain ⟨rfl, rfl⟩ := select_client_eq_ok_iff.1 hselect
    rfl
  | connectString url =>
    rcases select_connectString_eq_ok_iff.1 hselect with
      ⟨c, -, rfl, rfl⟩ | ⟨-, id, clients, -, rfl, rfl⟩
    · rfl
    · rfl

/-! ## The listing -/

/-- The line of a connection in the listing. -/
def line (r : Registry) (c : Connection) : String :=
  (if r.current = some c.key then "* " else "  ")
    ++ (match c.aliasName with
      | some a => " (" ++ a ++ ") " ++ c.url
      | none => " " ++ c.url)

/-- Whether a line starts with a star. -/
def isStarred (line : String) : Bool :=
  line.toList.head? == some '*'

theorem listing_eq (r : Registry) :
    r.listing = String.intercalate "\n" (r.connections.map r.line) :=
  rfl

/-- The line of the current connection is starred, and no other. -/
theorem isStarred_line (r : Registry) (c : Connection) :
    isStarred (r.line c) = true ↔ r.current = some c.key := by
  unfold isStarred line
  by_cases hcurrent : r.current = some c.key
  · simp [hcurrent]
  · simp [hcurrent]

/-- One line is starred if a connection is current, otherwise none. -/
theorem Orderly.length_starred {r : Registry} (h : r.Orderly) :
    ((r.connections.map r.line).filter isStarred).length = if r.current.isSome then 1 else 0 := by
  rw [List.filter_map, List.length_map]
  have htest : isStarred ∘ r.line = fun c => decide (r.current = some c.key) := by
    funext c
    rw [Bool.eq_iff_iff, decide_eq_true_iff]
    exact isStarred_line r c
  rw [htest]
  cases hcurrent : r.current with
  | none => simp
  | some key =>
    obtain ⟨c, hfind⟩ := Option.isSome_iff_exists.1 (h.present key hcurrent)
    obtain ⟨hmem, rfl⟩ := mem_of_find? hfind
    -- Lines are starred by key, and the current key stands once among the keys.
    have hcount : r.keys.count c.key = 1 :=
      List.count_eq_one_of_mem (nodup_keys h.sorted) (List.mem_map_of_mem hmem)
    rw [← hcount, keys, List.count, List.countP_map, List.countP_eq_length_filter]
    congr 2
    funext other
    rw [Bool.eq_iff_iff]
    simp only [Function.comp_apply, decide_eq_true_eq, beq_iff_eq, Option.some.injEq]
    exact eq_comm

/-! ## What holds after any requests -/

/-- Whatever has been requested, with success or without: every connection is found under its own key,
which is its alias if it has one and otherwise its URL; the current key is that of an open connection; a
selection that succeeds gives the key that is current from then on; the listing has one line for each
connection, in the order of keys, and stars that of the current connection and no other.  A request that
fails changes nothing, and neither does one that names no connection while any is open. -/
theorem afterRequests_orderly (clients : Clients) (requests : List Request) :
    let d := afterRequests clients requests
    let r := d.registry
    (∀ c ∈ r.connections, r.find? c.key = some c ∧ c.key = c.aliasName.getD c.url) ∧
    (∀ key, r.current = some key → ∃ c, r.currentConnection? = some c ∧ c.key = key) ∧
    (∀ target options key d', Registry.select target options d = .ok (key, d') →
      d'.registry.current = some key ∧
        ∃ c, d'.registry.currentConnection? = some c ∧ c.key = key) ∧
    (r.keys.Pairwise (· < ·) ∧
      r.listing = String.intercalate "\n" (r.connections.map r.line) ∧
      (∀ c ∈ r.connections, isStarred (r.line c) = true ↔ r.current = some c.key) ∧
      ((r.connections.map r.line).filter isStarred).length =
        if r.current.isSome then 1 else 0) ∧
    (∀ request f d', (Request.inPlace request).run.run d = (.error f, d') →
      Request.perform d request = .error f ∧ d' = d) ∧
    ∀ showListing databaseUrl options, r.connections ≠ [] →
      d.after (.selectDefault showListing databaseUrl options) = d := by
  intro d r
  have horderly : r.Orderly := orderly_afterRequests clients requests
  refine ⟨?_, fun key => horderly.currentConnection, ?_, ⟨?_, listing_eq r, ?_, ?_⟩, ?_, ?_⟩
  · intro c hc
    exact ⟨find?_of_mem horderly.sorted hc, horderly.keyed c hc⟩
  · intro target options key d' hselect
    have hcurrent := current_of_select hselect
    have hafter : d'.registry.Orderly := horderly.moves (moves_of_select hselect)
    exact ⟨hcurrent, hafter.currentConnection hcurrent⟩
  · unfold keys
    rw [List.pairwise_map]
    exact horderly.sorted
  · exact fun c _ => isStarred_line r c
  · exact horderly.length_starred
  · intro request f d' hfails
    rw [run_inPlace] at hfails
    cases hperform : request.perform d with
    | ok done =>
      rw [hperform] at hfails
      cases hfails
    | error g =>
      rw [hperform] at hfails
      cases hfails
      exact ⟨rfl, rfl⟩
  · intro showListing databaseUrl options hopen
    exact after_selectDefault_of_open hopen

end Registry
end SqlCells
