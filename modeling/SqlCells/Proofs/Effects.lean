/-!
# Steps that may fail and keep what they changed

Commands and conversations are steps over a state that end in a value or a fault and keep the state in
either case.  These are the equations by which a run of such a step is taken apart.
-/

namespace SqlCells
namespace Effects

variable {ε σ α β : Type}

theorem run_get (s : σ) : (get : ExceptT ε (StateM σ) σ).run.run s = (.ok s, s) :=
  rfl

theorem run_lift (x : Except ε α) (s : σ) :
    (liftM x : ExceptT ε (StateM σ) α).run.run s = (x, s) :=
  rfl

/-- A step whose faults are reworded. -/
theorem run_tryCatch_throw (x : ExceptT ε (StateM σ) α) (reword : ε → ε) (s : σ) :
    (tryCatch x fun e => throw (reword e)).run.run s =
      ((x.run.run s).1.mapError reword, (x.run.run s).2) := by
  change (match (x.run.run s).1 with
    | .ok a => (pure (.ok a) : StateM σ (Except ε α))
    | .error e => (throw (reword e) : ExceptT ε (StateM σ) α).run).run (x.run.run s).2 = _
  rcases x.run.run s with ⟨result, t⟩
  cases result with
  | ok a => rfl
  | error e => rfl

theorem run_bind (x : ExceptT ε (StateM σ) α) (k : α → ExceptT ε (StateM σ) β) (s : σ) :
    (x >>= k).run.run s = match x.run.run s with
      | (.ok a, t) => (k a).run.run t
      | (.error e, t) => (.error e, t) := by
  change (ExceptT.bindCont k (x.run.run s).1).run (x.run.run s).2 = _
  rcases x.run.run s with ⟨result, t⟩
  cases result with
  | ok a => rfl
  | error e => rfl

/-- Without a state, what follows a value goes on with it. -/
theorem ok_bind (a : α) (k : α → Except ε β) : (Except.ok a >>= k) = k a :=
  rfl

/-- A run of two steps that succeeds is a run of the first that succeeds and one of the second. -/
theorem of_run_bind_ok {x : ExceptT ε (StateM σ) α} {k : α → ExceptT ε (StateM σ) β} {s t : σ}
    {b : β} (hrun : (x >>= k).run.run s = (.ok b, t)) :
    ∃ a middle, x.run.run s = (.ok a, middle) ∧ (k a).run.run middle = (.ok b, t) := by
  rw [run_bind] at hrun
  rcases hx : x.run.run s with ⟨result, middle⟩
  rw [hx] at hrun
  cases result with
  | ok a => exact ⟨a, middle, rfl, hrun⟩
  | error e => cases hrun

/-- Two steps without a state succeed when each does. -/
theorem of_bind_eq_ok {x : Except ε α} {k : α → Except ε β} {b : β} (hbind : x >>= k = .ok b) :
    ∃ a, x = .ok a ∧ k a = .ok b := by
  cases x with
  | ok a => exact ⟨a, rfl, hbind⟩
  | error e => cases hbind

theorem of_map_eq_ok {x : Except ε α} {g : α → β} {b : β} (hmap : x.map g = .ok b) :
    ∃ a, x = .ok a ∧ g a = b := by
  cases x with
  | ok a => exact ⟨a, rfl, Except.ok.inj hmap⟩
  | error e => cases hmap

end Effects
end SqlCells
