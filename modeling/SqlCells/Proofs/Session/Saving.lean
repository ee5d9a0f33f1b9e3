import SqlCells.Proofs.Session.Bindings

/-!
# Saving snippets in a session

The snippets of a session change in one place: a command with SQL of its own may save it, on top of the
names it was itself rendered on while it was read.  Since it was read in the light of the same snippets,
everything those names need is saved by then, and it stays saved, because no command removes a snippet.
So whatever has been saved in a session can be rendered from then on, on every connection.
-/

namespace SqlCells

open Effects

namespace Snippets

open Relation

/-! ## Snippets that read from saved ones only -/

/-- Everything that a saved snippet reads from is saved. -/
def Closed (s : Snippets) : Prop :=
  ∀ e ∈ s.entries, ∀ d ∈ e.dependencies, s.contains d = true

theorem closed_empty : Closed {} := by
  intro e he
  cases he

theorem contains_insert (s : Snippets) (e : Snippet) (name : String) :
    (s.insert e).contains name = true ↔ name = e.name ∨ s.contains name = true := by
  unfold contains
  rw [find?_insert]
  by_cases hname : name = e.name
  · simp [hname]
  · simp [hname]

/-- Closed snippets need nothing that is not saved. -/
theorem Closed.contains_of_needs {s : Snippets} {names : List String} {name : String}
    (hclosed : s.Closed) (hsaved : ∀ n ∈ names, s.contains n = true) (hneeds : s.Needs names name) :
    s.contains name = true := by
  obtain ⟨root, hroot, hlead⟩ := hneeds
  -- Along the way from a saved root every name is saved: a name without a snippet has no way on.
  induction hlead with
  | refl => exact hsaved root hroot
  | @tail middle next _ hstep ih =>
    obtain ⟨e, hfind⟩ := Option.isSome_iff_exists.1 ih
    have hread : next ∈ e.dependencies := by
      rw [← reads_of_find? hfind]
      exact hstep
    exact hclosed e (mem_of_find? hfind).1 next hread

/-- Saving on top of saved names keeps the snippets closed. -/
theorem Closed.store {s s' : Snippets} {name body : String} {dependencies : List String}
    (hclosed : s.Closed) (hsaved : ∀ d ∈ dependencies, s.contains d = true)
    (hstore : s.store name body dependencies = .ok s') : s'.Closed := by
  obtain ⟨-, -, -, rfl⟩ := store_eq_ok_iff.1 hstore
  intro e he d hd
  rw [contains_insert]
  right
  rcases mem_entries_insert he with rfl | hold
  · exact hsaved d hd
  · exact hclosed e hold d hd

/-- Saving keeps what was saved. -/
theorem contains_of_store {s s' : Snippets} {name body other : String} {dependencies : List String}
    (hstore : s.store name body dependencies = .ok s') (hsaved : s.contains other = true) :
    s'.contains other = true := by
  obtain ⟨-, -, -, rfl⟩ := store_eq_ok_iff.1 hstore
  rw [contains_insert]
  exact Or.inr hsaved

/-- Every snippet among sound and closed ones can be rendered, however names are quoted. -/
theorem Sound.renderSnippet_of_closed {s : Snippets} (hsound : s.Sound) (hclosed : s.Closed)
    {name : String} (hsaved : s.contains name = true) (q : NameQuoting) :
    ∃ text, s.renderSnippet name q = .ok text := by
  cases hrender : s.renderSnippet name q with
  | ok text => exact ⟨text, rfl⟩
  | error f =>
    exfalso
    -- A refusal would name something needed that is not saved.
    obtain ⟨needed, hneeds, hmissing⟩ := hsound.missing_of_renderSnippet hrender
    have hneeded : s.contains needed = true := by
      refine hclosed.contains_of_needs ?_ hneeds
      simpa using hsaved
    have habsent := hmissing.1
    rw [hneeded] at habsent
    contradiction

/-- Rendering succeeds only on top of saved names. -/
theorem Sound.contains_of_render {s : Snippets} (hsound : s.Sound) {query text : String}
    {names : List String} {q : NameQuoting} (hrender : s.render query names q = .ok text) :
    ∀ name ∈ names, s.contains name = true := by
  intro name hname
  exact (hsound.renders_iff query q).1 ⟨text, hrender⟩ name (needs_of_mem hname)

end Snippets

namespace Session

/-! ## Commands -/

/-- A command leaves the snippets as they are, or it saves its own SQL under the name it gives, on top
of the names it was read with. This holds of failed commands too. -/
theorem snippets_execute (header body : String) (s : Session) :
    ((execute header body).run.run s).2.snippets = s.snippets ∨
      ∃ p name, s.parse header body = .ok p ∧ p.args.saveAs = some name ∧
        s.snippets.store name p.sqlOriginal p.args.withSnippets =
          .ok ((execute header body).run.run s).2.snippets := by
  rcases execute_cases s header body with ⟨f, -, hrun⟩ | ⟨p, hparse, hcourse⟩
  · rw [hrun]
    exact Or.inl rfl
  · rcases hcourse.leaves.snippets with hsame | ⟨name, hname, -, hstore⟩
    · exact Or.inl hsame
    · exact Or.inr ⟨p, name, hparse, hname, hstore⟩

/-! ## Sessions -/

/-- What happens to a session: a command is run, or everything but the snippets is changed from
outside. -/
inductive Event where
  | command (header body : String)
  | change (other : Session)

/-- The session after an event. A command that fails leaves what it changed before. -/
def after (s : Session) : Event → Session
  | .command header body => ((execute header body).run.run s).2
  | .change other => { other with snippets := s.snippets }

/-- A session after some events, starting with no snippet saved. -/
def afterEvents (start : Session) (events : List Event) : Session :=
  events.foldl after { start with snippets := {} }

/-- What holds of the snippets of every session. -/
structure Orderly (s : Session) : Prop where
  sound : s.snippets.Sound
  closed : s.snippets.Closed

/-- The names that a command is rendered on while it is read are saved. -/
theorem contains_of_parse {s : Session} (hsound : s.snippets.Sound) {header body : String}
    {p : Command.Parsed} (hparse : s.parse header body = .ok p) :
    ∀ name ∈ p.args.withSnippets, s.snippets.contains name = true := by
  by_cases hwith : p.args.withSnippets = []
  · simp [hwith]
  · exact hsound.contains_of_render (Command.render_of_parse hparse hwith)

theorem Orderly.after {s : Session} (h : s.Orderly) (event : Event) : (s.after event).Orderly := by
  cases event with
  | change other => exact ⟨h.sound, h.closed⟩
  | command header body =>
    rcases snippets_execute header body s with hsame | ⟨p, name, hparse, -, hstore⟩
    · constructor
      · simpa only [Session.after, hsame] using h.sound
      · simpa only [Session.after, hsame] using h.closed
    · exact ⟨h.sound.store hstore, h.closed.store (contains_of_parse h.sound hparse) hstore⟩

theorem orderly_afterEvents (start : Session) (events : List Event) :
    (afterEvents start events).Orderly := by
  have hrun : ∀ s : Session, s.Orderly → (events.foldl Session.after s).Orderly := by
    induction events with
    | nil => exact fun s h => h
    | cons event rest ih => exact fun s h => ih _ (h.after event)
  exact hrun _ ⟨Snippets.sound_empty, Snippets.closed_empty⟩

/-- Nothing that happens to a session takes a snippet away. -/
theorem contains_after {s : Session} {name : String} (hsaved : s.snippets.contains name = true)
    (event : Event) : (s.after event).snippets.contains name = true := by
  cases event with
  | change other => exact hsaved
  | command header body =>
    rcases snippets_execute header body s with hsame | ⟨p, saved, -, -, hstore⟩
    · simpa only [Session.after, hsame] using hsaved
    · exact Snippets.contains_of_store hstore hsaved

theorem contains_afterEvents_append {start : Session} {events : List Event} {name : String}
    (hsaved : (afterEvents start events).snippets.contains name = true) (more : List Event) :
    (afterEvents start (events ++ more)).snippets.contains name = true := by
  unfold afterEvents at hsaved ⊢
  rw [List.foldl_append]
  revert hsaved
  generalize events.foldl Session.after { start with snippets := {} } = s
  intro hsaved
  induction more generalizing s with
  | nil => exact hsaved
  | cons event rest ih => exact ih _ (contains_after hsaved event)

/-- Whatever commands have been run on a session, with success or without, everything that a saved
snippet reads from is saved, so that each of them can be rendered, as every connection quotes it and on
the one that is current; and so it stays, whatever happens later. -/
theorem afterEvents_renders (start : Session) (events : List Event) :
    let s := afterEvents start events
    (∀ e ∈ s.snippets.entries, ∀ d ∈ e.dependencies, s.snippets.contains d = true) ∧
    ∀ name, s.snippets.contains name = true →
      (∀ q, ∃ text, s.snippets.renderSnippet name q = .ok text) ∧
      (∃ text, s.render name = .ok text) ∧
      ∀ more, let later := afterEvents start (events ++ more)
        later.snippets.contains name = true ∧ ∃ text, later.render name = .ok text := by
  intro s
  have horderly : s.Orderly := orderly_afterEvents start events
  refine ⟨horderly.closed, ?_⟩
  intro name hsaved
  have hrenders := horderly.sound.renderSnippet_of_closed horderly.closed hsaved
  refine ⟨hrenders, hrenders _, ?_⟩
  intro more later
  have hlater : later.Orderly := orderly_afterEvents start (events ++ more)
  have hstays : later.snippets.contains name = true := contains_afterEvents_append hsaved more
  exact ⟨hstays, hlater.sound.renderSnippet_of_closed hlater.closed hstays _⟩

end Session
end SqlCells
