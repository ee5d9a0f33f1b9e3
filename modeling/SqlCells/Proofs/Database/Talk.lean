import SqlCells.Proofs.Effects
import SqlCells.Database.Client

/-!
# Calls of a conversation

A conversation never takes back a call: what it leaves is what was there and the calls it adds.  That
all added calls have some property is proved along the conversation, step by step.
-/

namespace SqlCells
namespace Talk

open Effects

variable {α β : Type} {P : Call → Prop}

/-- The calls that a conversation adds to those made on a client before. -/
def adds (t : Talk α) (c : Client) : List Call :=
  (t.run.run c).2.calls.drop c.calls.length

/-- The statements that a conversation passes to a client, directly or on a raw session. -/
def sent (t : Talk α) (c : Client) : List String :=
  Call.executed (t.adds c) ++ Call.rawExecuted (t.adds c)

/-- Every run of a conversation leaves the calls made before, and only calls with a property after
them. -/
def Emits (P : Call → Prop) (t : Talk α) : Prop :=
  ∀ c, ∃ added, (t.run.run c).2.calls = c.calls ++ added ∧ ∀ call ∈ added, P call

theorem adds_eq {t : Talk α} {c : Client} {added : List Call}
    (hcalls : (t.run.run c).2.calls = c.calls ++ added) : t.adds c = added := by
  unfold adds
  rw [hcalls, List.drop_left]

theorem mem_sent {t : Talk α} {c : Client} {sql : String} (hsql : sql ∈ t.sent c) :
    (∃ limit, .execute sql limit ∈ t.adds c) ∨ .rawExecute sql ∈ t.adds c := by
  unfold sent Call.executed Call.rawExecuted at hsql
  rcases List.mem_append.1 hsql with hsql | hsql
  · obtain ⟨call, hcall, hread⟩ := List.mem_filterMap.1 hsql
    split at hread <;> cases hread
    exact Or.inl ⟨_, hcall⟩
  · obtain ⟨call, hcall, hread⟩ := List.mem_filterMap.1 hsql
    split at hread <;> cases hread
    exact Or.inr hcall

theorem Emits.adds {t : Talk α} (ht : Emits P t) (c : Client) : ∀ call ∈ t.adds c, P call := by
  obtain ⟨added, hcalls, hadded⟩ := ht c
  rwa [adds_eq hcalls]

/-- A step that makes no call. -/
theorem Emits.of_still {t : Talk α} (hstill : ∀ c, (t.run.run c).2 = c) : Emits P t := by
  intro c
  exact ⟨[], by rw [hstill, List.append_nil], by simp⟩

theorem Emits.pure (a : α) : Emits P (Pure.pure a : Talk α) :=
  .of_still fun _ => rfl

theorem Emits.throw (f : Fault) : Emits P (MonadExcept.throw f : Talk α) :=
  .of_still fun _ => rfl

theorem Emits.lift (x : Except Fault α) : Emits P (liftM x : Talk α) :=
  .of_still fun _ => rfl

theorem Emits.dialect : Emits P Talk.dialect :=
  .of_still fun _ => rfl

theorem Emits.call {answer : Client → Except Fault α} {note : Except Fault α → Call}
    (hnote : ∀ result, P (note result)) : Emits P (Talk.call answer note) := by
  intro c
  refine ⟨[note (answer c)], rfl, ?_⟩
  intro call hcall
  rw [List.mem_singleton.1 hcall]
  exact hnote _

theorem Emits.attempt {t : Talk α} (ht : Emits P t) : Emits P (Talk.attempt t) := by
  intro c
  exact ht c

/-- What holds of the calls of two steps holds of those of one after the other, also when the first
fails. -/
theorem Emits.bind {t : Talk α} {k : α → Talk β} (ht : Emits P t) (hk : ∀ a, Emits P (k a)) :
    Emits P (t >>= k) := by
  intro c
  obtain ⟨added, hcalls, hadded⟩ := ht c
  rw [run_bind]
  rcases hrun : t.run.run c with ⟨result, c'⟩
  rw [hrun] at hcalls
  cases result with
  | error f => exact ⟨added, hcalls, hadded⟩
  | ok a =>
    obtain ⟨more, hmore, hP⟩ := hk a c'
    refine ⟨added ++ more, ?_, ?_⟩
    · dsimp only at hcalls ⊢
      rw [hmore, hcalls, List.append_assoc]
    · intro call hcall
      rcases List.mem_append.1 hcall with hcall | hcall
      · exact hadded call hcall
      · exact hP call hcall

theorem Emits.bind_lift {x : Except Fault α} {k : α → Talk β} (hk : ∀ a, x = .ok a → Emits P (k a)) :
    Emits P (liftM x >>= k) := by
  cases x with
  | error f => exact .of_still fun _ => rfl
  | ok a =>
    intro c
    exact hk a rfl c

end Talk
end SqlCells
