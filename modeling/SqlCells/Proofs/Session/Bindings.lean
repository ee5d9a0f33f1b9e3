import SqlCells.Proofs.Session.Course

/-!
# What a command leaves behind

Of what commands share, a command changes three things only: the connections, the snippets and the
variables.  The snippets change at most by one snippet saved, which stays saved also when the command
fails later on.  The variables change last: a command that fails leaves them as they were, and one that
succeeds assigns the variable that takes its result, or those named like the columns of the result.
-/

namespace SqlCells

open Effects

namespace Variables

theorem lookup_rebind (bindings : List (String × Binding)) (name other : String) (b : Binding) :
    (bindings.map fun (n, old) => if n = name then (n, b) else (n, old)).lookup other =
      if other = name then (bindings.lookup other).map fun _ => b else bindings.lookup other := by
  induction bindings with
  | nil => simp
  | cons entry rest ih =>
    obtain ⟨n, old⟩ := entry
    have hkey : (if n = name then (n, b) else (n, old)) = (n, if n = name then b else old) := by
      split <;> rfl
    rw [List.map_cons]
    dsimp only
    rw [hkey, List.lookup_cons, List.lookup_cons, ih]
    by_cases hfirst : other = n
    · subst hfirst
      by_cases hname : other = name
      · simp [hname]
      · simp [hname]
    · have hmiss : (other == n) = false := by simpa using hfirst
      rw [hmiss]

/-- A name that is set has the new binding, and any other the one it had. -/
theorem get?_set (vs : Variables) (name other : String) (b : Binding) :
    (vs.set name b).get? other = if other = name then some b else vs.get? other := by
  unfold set
  -- A name that is bound keeps its place, and any other goes to the end.
  by_cases hbound : vs.contains name = true
  · rw [if_pos hbound]
    change (vs.bindings.map _).lookup other = _
    rw [lookup_rebind]
    split
    · next hsame =>
      subst hsame
      obtain ⟨old, hold⟩ := Option.isSome_iff_exists.1 hbound
      change (vs.get? other).map _ = _
      rw [hold]
      rfl
    · rfl
  · rw [if_neg hbound]
    change (vs.bindings ++ [(name, b)]).lookup other = _
    have hfree : vs.get? name = none := by
      simpa [contains] using hbound
    rw [List.lookup_append]
    change (vs.get? other).or _ = _
    by_cases hsame : other = name
    · subst hsame
      rw [hfree, if_pos rfl]
      simp
    · have hmiss : (other == name) = false := by simpa using hsame
      rw [if_neg hsame, List.lookup_cons, hmiss]
      simp

end Variables

namespace Session

variable {s : Session} {p : Command.Parsed}

/-- Binding the columns of a frame leaves all other names alone. -/
theorem get?_bindColumns {f : Frame} {name : String} (hother : name ∉ f.names) (scope : Variables) :
    (bindColumns scope f).get? name = scope.get? name := by
  unfold bindColumns
  have hpairs : ∀ pair ∈ f.names.zip f.columns, name ≠ pair.1 := by
    intro pair hpair hsame
    exact hother (hsame ▸ (List.of_mem_zip hpair).1)
  generalize f.names.zip f.columns = pairs at hpairs
  -- Column by column, whatever the variables are by then.
  induction pairs generalizing scope with
  | nil => rfl
  | cons pair rest ih =>
    rw [List.foldl_cons, ih _ fun more hmore => hpairs more (List.mem_cons_of_mem _ hmore),
      Variables.get?_set, if_neg (hpairs pair List.mem_cons_self)]

/-- The variables that an output is bound to: with the result split, those named like its columns,
otherwise the one that takes the result; none if there is no result. -/
def assigned (settings : Settings) (p : Command.Parsed) (output : Output) : List String :=
  match product? output with
  | none => []
  | some (_, _, f) => if settings.columnLocalVars then f.names else p.resultVar.toList

theorem Routes.get?_of_not_mem {settings : Settings} {scope scope' : Variables} {output : Output}
    {reply : Reply} (hroutes : Routes settings p scope output reply scope') {name : String}
    (hother : name ∉ assigned settings p output) : scope'.get? name = scope.get? name := by
  unfold assigned at hother
  cases hroutes with
  | status => rfl
  | columns hsplit hproduct =>
    rw [hproduct] at hother
    dsimp only at hother
    rw [if_pos hsplit] at hother
    exact get?_bindColumns hother scope
  | binds hwhole hname hproduct =>
    rw [hproduct] at hother
    dsimp only at hother
    rw [hwhole, if_neg Bool.false_ne_true, hname] at hother
    rw [Variables.get?_set, if_neg (by simpa using hother)]
  | shows => rfl

theorem saved_eq_ok {snippets : Snippets} (hsaved : s.saved p = .ok snippets) :
    snippets = s.snippets ∨ ∃ name, p.args.saveAs = some name ∧
      Text.isAllBlank p.sql.toList = false ∧
      s.snippets.store name p.sqlOriginal p.args.withSnippets = .ok snippets := by
  unfold saved at hsaved
  split at hsaved
  · exact Or.inl (Except.ok.inj hsaved).symm
  · next hsql =>
    cases hname : p.args.saveAs with
    | none =>
      rw [hname] at hsaved
      exact Or.inl (Except.ok.inj hsaved).symm
    | some name =>
      rw [hname] at hsaved
      exact Or.inr ⟨name, rfl, by simpa using hsql, hsaved⟩

/-! ## Frames of commands -/

/-- How a command that succeeds binds its result: it has a connection selected, its SQL is run on the
client of the connection that is current then, and what this run puts out is bound and shown.  Only the
variables that this output is bound to change, and of the clients only the one that ran. -/
inductive Binds (s : Session) (p : Command.Parsed) : Reply → Session → Prop
  | run {notices : List String} {d : Registry.Desk} (hselect : s.selection p = .ok (notices, d))
      {c : Connection} (hcurrent : d.registry.currentConnection? = some c)
      {client after : Client} (hget : d.clients.get? c.client = some client)
      {execution : Execution}
      (hrun : (Execution.run ((s.withDesk d).executionContext c) p.sql.toList).run.run client =
        (.ok execution, after))
      {shown : Reply} {s' : Session}
      (hroutes : Routes s.config.settings p s.scope execution.output shown s'.scope)
      (hothers : ∀ name, name ∉ assigned s.config.settings p execution.output →
        s'.scope.get? name = s.scope.get? name)
      (hregistry : s'.registry = d.registry)
      (hclients : s'.clients = ⟨d.clients.all.set c.client after⟩) :
      Binds s p ⟨shown.outcome, notices ++ execution.notices ++ shown.notices⟩ s'

/-- What a command that has been read leaves of a session beside its connections, given how it ends. -/
structure Leaves (s : Session) (p : Command.Parsed) (result : Except Fault Reply) (s' : Session) :
    Prop where
  settings : s'.config = s.config ∧ s'.env = s.env ∧ s'.files = s.files ∧
    s'.databaseUrl = s.databaseUrl ∧ s'.engines = s.engines
  /-- The snippets are as they were, or the command's SQL is saved under the name that it asks for. -/
  snippets : s'.snippets = s.snippets ∨ ∃ name, p.args.saveAs = some name ∧
    Text.isAllBlank p.sql.toList = false ∧
    s.snippets.store name p.sqlOriginal p.args.withSnippets = .ok s'.snippets
  failure : ∀ f, result = .error f → s'.scope = s.scope
  /-- The variables are as they were, or the command's own result is bound. -/
  success : ∀ reply, result = .ok reply → s'.scope = s.scope ∨ s.Binds p reply s'

/-- A command that only makes calls leaves everything but the connections, whatever its result. -/
theorem leaves_connections (s : Session) (p : Command.Parsed) (result : Except Fault Reply)
    (d : Registry.Desk) : s.Leaves p result (s.withDesk d) where
  settings := ⟨rfl, rfl, rfl, rfl, rfl⟩
  snippets := Or.inl rfl
  failure _ _ := rfl
  success _ _ := Or.inl rfl

/-- One that saves its SQL leaves the variables. -/
theorem leaves_saved {result : Except Fault Reply} {snippets : Snippets}
    (hsaved : s.saved p = .ok snippets) (d : Registry.Desk) :
    s.Leaves p result { s.withDesk d with snippets } where
  settings := ⟨rfl, rfl, rfl, rfl, rfl⟩
  snippets := saved_eq_ok hsaved
  failure _ _ := rfl
  success _ _ := Or.inl rfl

theorem Finishes.leaves {d : Registry.Desk} {notices : List String} {result : Except Fault Reply}
    {s' : Session} (hselect : s.selection p = .ok (notices, d))
    (hfinishes : Finishes (s.withDesk d) p notices result s') : s.Leaves p result s' := by
  cases hfinishes with
  | notPersistable => exact leaves_connections s p _ d
  | persistStranded => exact leaves_connections s p _ d
  | @persists _ _ _ _ _ _ _ clients => exact leaves_connections s p _ ⟨d.registry, clients⟩
  | idle => exact leaves_connections s p _ d
  | notSaved => exact leaves_connections s p _ d
  | skips _ _ hsaved => exact leaves_saved (s := s) hsaved d
  | stranded _ _ hsaved => exact leaves_saved (s := s) hsaved d
  | @fails _ _ _ hsaved _ _ _ clients => exact leaves_saved (s := s) hsaved ⟨d.registry, clients⟩
  | succeeds _ _ hsaved hcurrent htalk hroutes =>
    -- The one way to end that binds anything.
    obtain ⟨client, after, hget, hrun, hclients⟩ := exists_of_converse htalk
    refine ⟨⟨rfl, rfl, rfl, rfl, rfl⟩, saved_eq_ok (s := s) hsaved, ?_, ?_⟩
    · intro f hfails
      cases hfails
    · intro answer hanswer
      obtain rfl := Except.ok.inj hanswer
      exact Or.inr (.run hselect hcurrent hget hrun hroutes
        (fun name hother => hroutes.get?_of_not_mem hother) rfl hclients)

theorem Course.leaves {result : Except Fault Reply} {s' : Session}
    (hcourse : Course s p result s') : s.Leaves p result s' := by
  cases hcourse with
  | interacts => exact leaves_connections s p _ s.desk
  | lists => exact leaves_connections s p _ s.desk
  | @closes _ _ _ d => exact leaves_connections s p _ d
  | notClosed => exact leaves_connections s p _ s.desk
  | notSelected => exact leaves_connections s p _ s.desk
  | selected _ hselect hfinishes => exact hfinishes.leaves hselect

/-- Whatever a command does, the settings stay; the snippets stay or gain the one that the command saves;
and the variables stay if it fails, and otherwise change at most at the names that its result is bound
to. -/
theorem execute_leaves (s : Session) (header body : String) :
    let ran := (execute header body).run.run s
    (∃ f, s.parse header body = .error f ∧ ran = (.error f, s)) ∨
    ∃ p, s.parse header body = .ok p ∧ s.Leaves p ran.1 ran.2 := by
  dsimp only
  rcases execute_cases s header body with hunread | ⟨p, hparse, hcourse⟩
  · exact Or.inl hunread
  · exact Or.inr ⟨p, hparse, hcourse.leaves⟩

end Session
end SqlCells
