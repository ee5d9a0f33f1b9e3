import SqlCells.Database.Mock
import SqlCells.Proofs.Database.Clients
import SqlCells.Proofs.Registry.Requests

/-!
# Clients that are lost

A client that is taken out of the open connections should be closed.  Closing one connection and closing
all do that.  Selecting does not: a connection that is entered under a key puts the one that stood there
out of its place, and the client of that one is neither open nor closed from then on, not even when all
connections are closed in the end.  There is no other way to lose a client.
-/

namespace SqlCells
namespace Registry

/-! ## Closing clients -/

theorem get?_closeClient (clients : Clients) (c : Connection) (id : ClientId) :
    (closeClient clients c).get? id =
      if id = c.client then
        (clients.get? id).map fun client => { client with calls := client.calls ++ [.close] }
      else clients.get? id := by
  unfold closeClient
  rw [Clients.get?_talk]
  split
  · next hsame =>
    rw [hsame]
    rfl
  · rfl

/-- Closing connections leaves the clients of others alone. -/
theorem get?_foldl_closeClient {connections : List Connection} {id : ClientId}
    (hother : ∀ c ∈ connections, c.client ≠ id) (clients : Clients) :
    (connections.foldl closeClient clients).get? id = clients.get? id := by
  induction connections generalizing clients with
  | nil => rfl
  | cons c rest ih =>
    have hne : id ≠ c.client := Ne.symm (hother c List.mem_cons_self)
    rw [List.foldl_cons, ih fun x hx => hother x (List.mem_cons_of_mem _ hx),
      get?_closeClient, if_neg hne]

/-- A client that has been closed stays so while connections are closed. -/
theorem close_mem_foldl_closeClient {connections : List Connection} {clients : Clients}
    {id : ClientId} {client : Client}
    (hclosed : ∀ before, clients.get? id = some before → .close ∈ before.calls)
    (hget : (connections.foldl closeClient clients).get? id = some client) :
    .close ∈ client.calls := by
  induction connections generalizing clients with
  | nil => exact hclosed client hget
  | cons c rest ih =>
    refine ih ?_ hget
    intro middle hmiddle
    rw [get?_closeClient] at hmiddle
    split at hmiddle
    · obtain ⟨before, -, rfl⟩ := Option.map_eq_some_iff.1 hmiddle
      simp
    · exact hclosed middle hmiddle

theorem close_mem_of_mem {connections : List Connection} {clients : Clients} {id : ClientId}
    {client : Client} (hmem : ∃ c ∈ connections, c.client = id)
    (hget : (connections.foldl closeClient clients).get? id = some client) :
    .close ∈ client.calls := by
  induction connections generalizing clients with
  | nil =>
    obtain ⟨c, hc, -⟩ := hmem
    cases hc
  | cons c rest ih =>
    obtain ⟨x, hx, hclient⟩ := hmem
    rcases List.mem_cons.1 hx with rfl | hx
    · -- This one closes the client, which stays closed.
      have hclosed : ∀ before, (closeClient clients x).get? id = some before →
          .close ∈ before.calls := by
        intro before hbefore
        rw [get?_closeClient, if_pos hclient.symm] at hbefore
        obtain ⟨_, -, rfl⟩ := Option.map_eq_some_iff.1 hbefore
        simp
      exact close_mem_foldl_closeClient hclosed hget
    · exact ih ⟨x, hx, hclient⟩ hget

/-! ## Clients of a desk -/

namespace Desk

/-- A client stands behind an open connection. -/
def Registers (d : Desk) (id : ClientId) : Prop :=
  ∃ c ∈ d.registry.connections, c.client = id

instance (d : Desk) (id : ClientId) : Decidable (d.Registers id) :=
  inferInstanceAs (Decidable (∃ c ∈ _, _))

/-- A client stands behind no open connection and has never been closed. -/
def Stray (d : Desk) (id : ClientId) : Prop :=
  ∃ client, d.clients.get? id = some client ∧ .close ∉ client.calls ∧ ¬ d.Registers id

end Desk

/-- Where a connection of a client stood there is one of another client now. -/
def Displaces (d d' : Desk) (id : ClientId) : Prop :=
  ∃ c ∈ d.registry.connections, c.client = id ∧
    ∃ c' ∈ d'.registry.connections, c'.key = c.key ∧ c'.client ≠ id

/-- Some client stood behind an open connection at some time during the requests. -/
def EverRegistered (clients : Clients) (requests : List Request) (id : ClientId) : Prop :=
  ∃ earlier, earlier <+: requests ∧ (afterRequests clients earlier).Registers id

/-! ## One request -/

section Step

variable {d d' : Desk} {id : ClientId}

/-- A client that no open connection stands for is stray only if it was before: what has just been opened
is registered. -/
theorem stray_of_moves (hmoves : Moves d d') (hnot : ¬ d.Registers id) (hstray : d'.Stray id) :
    d.Stray id := by
  obtain ⟨client, hget, hopen, hout⟩ := hstray
  have hother : ∀ c ∈ d.registry.connections, c.client ≠ id := by
    intro c hc hclient
    exact hnot ⟨c, hc, hclient⟩
  refine ⟨client, ?_, hopen, hnot⟩
  cases hmoves with
  | stays => exact hget
  | switches key hfind => exact hget
  | enters new clients aliasName hclients =>
    rcases hclients with rfl | ⟨added, hadd⟩
    · exact hget
    · obtain ⟨rfl, rfl⟩ := Prod.mk.inj hadd
      change (d.clients.add added).2.get? id = some client at hget
      rw [Clients.get?_add] at hget
      split at hget
      · next hnew =>
        exact absurd ⟨_, mem_insertSorted_self _ _, hnew.symm⟩ hout
      · exact hget
  | closes c hfind =>
    change (closeClient d.clients c).get? id = some client at hget
    rw [get?_closeClient, if_neg (Ne.symm (hother c (mem_of_find? hfind).1))] at hget
    exact hget
  | closesAll =>
    change (d.registry.connections.foldl closeClient d.clients).get? id = some client at hget
    rwa [get?_foldl_closeClient hother] at hget

/-- A client that goes stray has been displaced: what is closed is not stray, and what only loses its
place as the current one stays registered. -/
theorem displaces_of_moves (horderly : d.registry.Orderly) (hmoves : Moves d d')
    (hregistered : d.Registers id) (hstray : d'.Stray id) : Displaces d d' id := by
  obtain ⟨client, hget, hopen, hout⟩ := hstray
  obtain ⟨x, hx, rfl⟩ := hregistered
  cases hmoves with
  | stays => exact absurd ⟨x, hx, rfl⟩ hout
  | switches key hfind => exact absurd ⟨x, hx, rfl⟩ hout
  | enters new clients aliasName hclients =>
    -- The entered connection takes the place of one with its key and of no other.
    by_cases hkey : x.key = (Connection.ofClient clients new aliasName).key
    · refine ⟨x, hx, rfl, _, mem_insertSorted_self _ _, hkey.symm, ?_⟩
      intro hsame
      exact hout ⟨_, mem_insertSorted_self _ _, hsame⟩
    · exact absurd ⟨x, mem_insertSorted_of_ne hx hkey, rfl⟩ hout
  | closes c hfind =>
    by_cases hkey : x.key = c.key
    · have hsame : x = c := by
        have hfound := find?_of_mem horderly.sorted hx
        rw [hkey, hfind] at hfound
        exact (Option.some.inj hfound).symm
      subst hsame
      change (closeClient d.clients x).get? x.client = some client at hget
      rw [get?_closeClient, if_pos rfl] at hget
      obtain ⟨_, -, rfl⟩ := Option.map_eq_some_iff.1 hget
      simp at hopen
    · have hstays : x ∈ (d.closing c).registry.connections :=
        List.mem_filter.2 ⟨hx, by simpa using hkey⟩
      exact absurd ⟨x, hstays, rfl⟩ hout
  | closesAll => exact absurd (close_mem_of_mem ⟨x, hx, rfl⟩ hget) hopen

/-- When all connections are closed, a client has been closed exactly if it was not stray. -/
theorem close_mem_closeAll_iff {client : Client}
    (hget : (closeAll d).clients.get? id = some client) :
    .close ∈ client.calls ↔ ¬ d.Stray id := by
  change (d.registry.connections.foldl closeClient d.clients).get? id = some client at hget
  by_cases hregistered : d.Registers id
  · have hclosed : .close ∈ client.calls := close_mem_of_mem hregistered hget
    simp [hclosed, Desk.Stray, hregistered]
  · have hother : ∀ c ∈ d.registry.connections, c.client ≠ id := fun c hc hclient =>
      hregistered ⟨c, hc, hclient⟩
    rw [get?_foldl_closeClient hother] at hget
    simp [Desk.Stray, hregistered, hget]

/-- Nothing is displaced where no connection is new. -/
theorem not_displaces_of_subset (horderly : d.registry.Orderly)
    (hsub : ∀ c ∈ d'.registry.connections, c ∈ d.registry.connections) : ¬ Displaces d d' id := by
  rintro ⟨c, hc, hclient, c', hc', hkey, hother⟩
  have hfound := find?_of_mem horderly.sorted (hsub c' hc')
  rw [hkey, find?_of_mem horderly.sorted hc] at hfound
  exact hother (Option.some.inj hfound ▸ hclient)

/-- Only a selection displaces a client. -/
theorem exists_select_of_displaces {request : Request} (horderly : d.registry.Orderly)
    (hdisplaces : Displaces d (d.after request) id) :
    ∃ target options, request = .select target options := by
  cases request with
  | select target options => exact ⟨target, options, rfl⟩
  | selectDefault showListing databaseUrl options =>
    have hopen : d.registry.connections ≠ [] := by
      obtain ⟨c, hc, -⟩ := hdisplaces
      exact List.ne_nil_of_mem hc
    rw [after_selectDefault_of_open hopen] at hdisplaces
    exact absurd hdisplaces (not_displaces_of_subset horderly fun _ hx => hx)
  | close name =>
    refine absurd hdisplaces (not_displaces_of_subset horderly ?_)
    intro x hx
    rw [after_eq] at hx
    split at hx
    · next d' hperform =>
      obtain ⟨c, -, -, rfl⟩ := exists_of_close hperform
      exact List.mem_of_mem_filter hx
    · exact hx
  | closeAll =>
    refine absurd hdisplaces (not_displaces_of_subset horderly ?_)
    intro x hx
    rw [after_closeAll] at hx
    cases hx

end Step

/-! ## Any requests -/

theorem afterRequests_append_singleton (clients : Clients) (requests : List Request)
    (request : Request) :
    afterRequests clients (requests ++ [request]) = (afterRequests clients requests).after request := by
  unfold afterRequests
  rw [List.foldl_append]
  rfl

/-- A stray client that was registered at some time was displaced by a selection and has been stray since.
That selection is the last request before which the client was registered. -/
theorem exists_displacement_of_stray {clients : Clients} {requests : List Request} {id : ClientId}
    (hever : EverRegistered clients requests id) (hstray : (afterRequests clients requests).Stray id) :
    ∃ before target options after, requests = before ++ .select target options :: after ∧
      Displaces (afterRequests clients before)
        (afterRequests clients (before ++ [.select target options])) id ∧
      ∀ later, later <+: after →
        (afterRequests clients (before ++ .select target options :: later)).Stray id := by
  -- From the end of the run: either the last request displaced the client, or it was stray before.
  induction requests using List.reverseRecOn with
  | nil =>
    obtain ⟨earlier, hearlier, hregistered⟩ := hever
    rw [List.prefix_nil.1 hearlier] at hregistered
    obtain ⟨_, -, -, hout⟩ := hstray
    exact absurd hregistered hout
  | append_singleton requests request ih =>
    have hstep := afterRequests_append_singleton clients requests request
    have hmoves := moves_after (afterRequests clients requests) request
    by_cases hregistered : (afterRequests clients requests).Registers id
    · have horderly := orderly_afterRequests clients requests
      have hdisplaces := displaces_of_moves horderly hmoves hregistered (hstep ▸ hstray)
      obtain ⟨target, options, rfl⟩ := exists_select_of_displaces horderly hdisplaces
      refine ⟨requests, target, options, [], rfl, hstep ▸ hdisplaces, ?_⟩
      intro later hlater
      rw [List.prefix_nil.1 hlater]
      exact hstray
    · have hbefore := stray_of_moves hmoves hregistered (hstep ▸ hstray)
      have heverBefore : EverRegistered clients requests id := by
        obtain ⟨earlier, hearlier, hthen⟩ := hever
        rcases List.prefix_concat_iff.1 hearlier with rfl | hearlier
        · obtain ⟨_, -, -, hout⟩ := hstray
          exact absurd hthen hout
        · exact ⟨earlier, hearlier, hthen⟩
      obtain ⟨before, target, options, after, rfl, hdisplaces, hsince⟩ := ih heverBefore hbefore
      refine ⟨before, target, options, after ++ [request], by simp, hdisplaces, ?_⟩
      intro later hlater
      rcases List.prefix_concat_iff.1 hlater with rfl | hlater
      · simpa using hstray
      · exact hsince later hlater

/-- After any requests, a client that was registered at some time is stray exactly if a selection put
another client in its place and it has been stray ever since.  When all connections are closed in the
end, the clients that have not been closed are those that were stray. -/
theorem afterRequests_stray_iff_displaced (clients : Clients) (requests : List Request)
    (id : ClientId) :
    let run := afterRequests clients
    (EverRegistered clients requests id ∧ (run requests).Stray id ↔
      ∃ before target options after, requests = before ++ .select target options :: after ∧
        Displaces (run before) (run (before ++ [.select target options])) id ∧
        ∀ later, later <+: after → (run (before ++ .select target options :: later)).Stray id) ∧
    ∀ client, (run (requests ++ [.closeAll])).clients.get? id = some client →
      (.close ∈ client.calls ↔ ¬ (run requests).Stray id) := by
  intro run
  refine ⟨⟨fun ⟨hever, hstray⟩ => exists_displacement_of_stray hever hstray, ?_⟩, ?_⟩
  · rintro ⟨before, target, options, after, rfl, ⟨c, hc, hclient, -⟩, hsince⟩
    exact ⟨⟨before, List.prefix_append _ _, c, hc, hclient⟩, hsince after List.prefix_rfl⟩
  · intro client hget
    have hstep : run (requests ++ [.closeAll]) = closeAll (run requests) :=
      (afterRequests_append_singleton clients requests .closeAll).trans (after_closeAll _)
    rw [hstep] at hget
    exact close_mem_closeAll_iff hget

/-- Two clients that are known before any connection is open. -/
def twoClients : Clients :=
  ⟨[(Mock.ofUrl "mock://sqlite/a").client, (Mock.ofUrl "mock://sqlite/b").client]⟩

/-- A client registered under an alias that is always the same. -/
def underOneAlias (id : ClientId) : Request :=
  .select (.client id) { aliasName := some "x" }

/-- Two clients are registered under one alias, and all connections are closed in the end: the first has
been registered, and no call has ever been made on it. -/
theorem displaced_client_never_closed :
    (afterRequests twoClients [underOneAlias 0]).Registers 0 ∧
      ¬ (afterRequests twoClients [underOneAlias 0, underOneAlias 1]).Registers 0 ∧
      ¬ (afterRequests twoClients [underOneAlias 0, underOneAlias 1, .closeAll]).Registers 0 ∧
      (afterRequests twoClients [underOneAlias 0, underOneAlias 1, .closeAll]).clients.all.map
        Client.calls = [[], [.close]] := by
  decide +kernel

end Registry
end SqlCells
