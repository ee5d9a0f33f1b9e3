import SqlCells.Proofs.Database.Clients
import SqlCells.Proofs.Registry.Requests
import SqlCells.Proofs.Text.Words

/-!
# Reused connections

A connection string need not be the URL of a connection to select it: it is enough that every piece of
it between at signs occurs in the key.  So the start of a longer URL selects the connection of that one,
and neither the string's own database nor the alias asked for comes into it.  Only where no open
connection roughly matches is the string what it says, and the connection is the creator's or one opened
from it.
-/

namespace SqlCells
namespace Registry

/-- Every piece of a text between at signs occurs in a key, case aside. -/
def RoughlyNames (sought key : String) : Prop :=
  ∀ piece ∈ Text.splitAt (· == '@') sought.toList, Text.lower piece <:+: Text.lower key.toList

instance (sought key : String) : Decidable (RoughlyNames sought key) :=
  inferInstanceAs (Decidable (∀ piece ∈ _, _ <:+: _))

theorem roughMatch?_eq_find? (r : Registry) (sought : String) :
    r.roughMatch? sought = r.connections.find? fun c => decide (RoughlyNames sought c.key) := by
  unfold roughMatch?
  dsimp only
  congr 1
  funext c
  rw [Bool.eq_iff_iff, decide_eq_true_iff]
  simp [RoughlyNames, Text.contains_iff]

theorem roughMatch?_eq_none_iff {r : Registry} {sought : String} :
    r.roughMatch? sought = none ↔ ∀ c ∈ r.connections, ¬ RoughlyNames sought c.key := by
  rw [roughMatch?_eq_find?]
  simp

/-- The connection that matches is the first whose key does. -/
theorem roughMatch?_eq_some_iff {r : Registry} {sought : String} {c : Connection} :
    r.roughMatch? sought = some c ↔ RoughlyNames sought c.key ∧ ∃ before after,
      r.connections = before ++ c :: after ∧ ∀ b ∈ before, ¬ RoughlyNames sought b.key := by
  rw [roughMatch?_eq_find?, List.find?_eq_some_iff_append]
  simp

/-- The first connection whose key matches is also the first with its key. -/
theorem find?_of_roughMatch? {r : Registry} {sought : String} {c : Connection}
    (hrough : r.roughMatch? sought = some c) : r.find? c.key = some c := by
  obtain ⟨hnames, before, after, hsplit, hbefore⟩ := roughMatch?_eq_some_iff.1 hrough
  unfold find?
  rw [List.find?_eq_some_iff_append]
  refine ⟨by simp, before, after, hsplit, ?_⟩
  intro b hb
  have hne : b.key ≠ c.key := fun hsame => hbefore b hb (hsame ▸ hnames)
  simpa using hne

theorem currentConnection?_enter (d : Desk) (c : Connection) :
    (d.enter c).registry.currentConnection? = some c := by
  change (d.registry.insert c).find? c.key = some c
  rw [find?_insert, if_pos rfl]

/-- What a connection string makes current.  Where no key roughly matches it, that is a connection of the
creator if one is given and otherwise of a client opened from the string, with the URL that this client
reports and under the alias asked for.  Where a key does, it is the first such connection, whatever its
URL: it only becomes current, and alias, creator and arguments are passed over. -/
theorem select_connectString_current {url key : String} {options : OpenOptions} {d d' : Desk}
    (hselect : select (.connectString url) options d = .ok (key, d')) :
    ∃ c, d'.registry.currentConnection? = some c ∧ c.key = key ∧
      ((∀ b ∈ d.registry.connections, ¬ RoughlyNames url b.key) →
        c.aliasName = options.aliasName ∧ c.key = options.aliasName.getD c.url ∧
        d' = Desk.enter ⟨d.registry, d'.clients⟩ c ∧
        match options.creator with
        | some creator =>
          c.client = creator ∧ c.url = d.clients.url creator ∧ d'.clients = d.clients
        | none => ∃ client, Connect.openUrl url options.arguments options.engines = .ok client ∧
          c.url = client.url ∧ (c.client, d'.clients) = d.clients.add client) ∧
      ∀ before b after, d.registry.connections = before ++ b :: after →
        RoughlyNames url b.key → (∀ a ∈ before, ¬ RoughlyNames url a.key) →
        c = b ∧ d' = d.switchTo b.key := by
  rcases select_connectString_eq_ok_iff.1 hselect with
    ⟨c, hrough, rfl, rfl⟩ | ⟨hnone, id, clients, hprovides, rfl, rfl⟩
  -- A key roughly matches, or none does.
  · refine ⟨c, find?_of_roughMatch? hrough, rfl, ?_, ?_⟩
    · intro hdistinct
      rw [roughMatch?_eq_none_iff.2 hdistinct] at hrough
      cases hrough
    · intro before b after hsplit hnames hbefore
      have hfirst : d.registry.roughMatch? url = some b :=
        roughMatch?_eq_some_iff.2 ⟨hnames, before, after, hsplit, hbefore⟩
      rw [hrough] at hfirst
      obtain rfl := Option.some.inj hfirst
      exact ⟨rfl, rfl⟩
  · refine ⟨Connection.ofClient clients id options.aliasName,
      currentConnection?_enter ⟨d.registry, clients⟩ _, rfl, ?_, ?_⟩
    · intro _
      refine ⟨rfl, rfl, rfl, ?_⟩
      unfold Provides at hprovides
      cases hcreator : options.creator with
      | some creator =>
        rw [hcreator] at hprovides
        obtain ⟨rfl, rfl⟩ := hprovides
        exact ⟨rfl, rfl, rfl⟩
      | none =>
        rw [hcreator] at hprovides
        obtain ⟨client, hopen, hadd⟩ := hprovides
        obtain ⟨rfl, rfl⟩ := Prod.mk.inj hadd
        exact ⟨client, hopen, Clients.url_add d.clients client, rfl⟩
    · intro before b after hsplit hnames _
      have hmem : b ∈ d.registry.connections :=
        hsplit ▸ List.mem_append_right _ List.mem_cons_self
      exact absurd hnames (roughMatch?_eq_none_iff.1 hnone b hmem)

/-- One open connection. -/
def tenOpen : Desk :=
  afterRequests {} [.select (.connectString "mock://sqlite/db10") {}]

theorem select_connectString_current_fresh :
    ∃ key d' c, select (.connectString "mock://sqlite/db2") { aliasName := some "two" } tenOpen =
        .ok (key, d') ∧
      (∀ b ∈ tenOpen.registry.connections, ¬ RoughlyNames "mock://sqlite/db2" b.key) ∧
      d'.registry.currentConnection? = some c ∧ c.key = "two" ∧ c.url = "mock://sqlite/db2" := by
  have hdistinct : ∀ b ∈ tenOpen.registry.connections,
      ¬ RoughlyNames "mock://sqlite/db2" b.key := by decide +kernel
  have hok : (select (.connectString "mock://sqlite/db2") { aliasName := some "two" }
      tenOpen).isOk = true := by decide +kernel
  cases hselect : select (.connectString "mock://sqlite/db2") { aliasName := some "two" } tenOpen with
  | error f =>
    rw [hselect] at hok
    cases hok
  | ok selected =>
    obtain ⟨c, hcurrent, -, hfresh, -⟩ := select_connectString_current hselect
    obtain ⟨-, hkey, -, client, hopen, hurl, -⟩ := hfresh hdistinct
    have hreports : (Connect.openUrl "mock://sqlite/db2" []).map Client.url =
        .ok "mock://sqlite/db2" := by decide +kernel
    rw [hopen] at hreports
    exact ⟨selected.1, selected.2, c, rfl, hdistinct, hcurrent, hkey,
      hurl.trans (Except.ok.inj hreports)⟩

/-- The start of an open connection's URL selects that connection, and the alias asked for is not given,
although a client opened from the string would report the string. -/
theorem start_of_url_reused :
    ((select (.connectString "mock://sqlite/db1") { aliasName := some "one" } tenOpen).map
      fun (key, d) => (key, d.registry.currentConnection?.map Connection.url)) =
        .ok ("mock://sqlite/db10", some "mock://sqlite/db10") ∧
      (Connect.openUrl "mock://sqlite/db1" []).map Client.url = .ok "mock://sqlite/db1" := by
  decide +kernel

end Registry
end SqlCells
