import SqlCells.Command.Args

/-!
# What headers ask for

A header is read item by item.  Each item asks for one thing, a flag that is still without its value together
with the word behind it, or else it is refused.  So the items in front of others are read the same whatever
stands behind them, unless a flag at their end takes its value from there.
-/

namespace SqlCells
namespace Command

variable {args : Args} {item : Item} {items rest after more : List Item} {request : Request} {f : Fault}

/-- One thing that a header asks for. -/
inductive Request where
  | word (text : List Char)
  | turnOn (s : Switch)
  | assign (s : Setting) (value : List Char)

/-- The arguments with what is asked for. -/
def Args.obey (args : Args) : Request → Args
  | .word text => args.addWord text
  | .turnOn s => args.turnOn s
  | .assign s value => args.assign value s

/-- What an item asks for and the items behind it that are left, `rest` being those behind the item. -/
def nextRequest (item : Item) (rest : List Item) : Except Fault (Request × List Item) :=
  match item.mark? with
  | .error f => .error f
  | .ok none => .ok (.word (item.asWord.getD []), rest)
  | .ok (some mark) =>
    match mark.flag, mark.attached with
    | .switch _, some _ => .error (.valueUnexpected mark.shown)
    | .switch s, none => .ok (.turnOn s, rest)
    | .setting s, some value => .ok (.assign s (unquote value), rest)
    | .setting s, none =>
      match rest with
      | .word value :: rest => .ok (.assign s (unquote value), rest)
      | _ => .error (.valueMissing mark.shown)

theorem read_cons (args : Args) (item : Item) (rest : List Item) :
    args.read (item :: rest) = nextRequest item rest >>= fun next => (args.obey next.1).read next.2 := by
  rw [Args.read.eq_def]
  unfold nextRequest
  dsimp only
  cases item.mark? with
  | error f => rfl
  | ok mark? =>
    cases mark? with
    | none => rfl
    | some mark =>
      obtain ⟨flag, shown, attached⟩ := mark
      cases flag with
      | switch s => cases attached <;> rfl
      | setting s =>
        cases attached with
        | some value => rfl
        | none =>
          cases rest with
          | nil => rfl
          | cons next rest => cases next <;> rfl

theorem read_eq_of_nextRequest (hnext : nextRequest item rest = .ok (request, after)) (args : Args) :
    args.read (item :: rest) = (args.obey request).read after := by
  rw [read_cons, hnext]
  rfl

theorem read_eq_of_refused (hnext : nextRequest item rest = .error f) (args : Args) :
    args.read (item :: rest) = .error f := by
  rw [read_cons, hnext]
  rfl

theorem suffix_of_nextRequest (hnext : nextRequest item rest = .ok (request, after)) : after <:+ rest := by
  unfold nextRequest at hnext
  split at hnext
  · cases hnext
  · cases hnext
    exact List.suffix_refl _
  · split at hnext
    · cases hnext
    · cases hnext
      exact List.suffix_refl _
    · cases hnext
      exact List.suffix_refl _
    · split at hnext
      · cases hnext
        exact List.suffix_cons _ _
      · cases hnext

/-- An item is refused if it is a flag that does not exist, or if its value is missing or not expected. -/
theorem of_nextRequest_eq_error (hnext : nextRequest item rest = .error f) :
    item.mark? = .error f ∨ ∃ shown, f = .valueUnexpected shown ∨ f = .valueMissing shown := by
  unfold nextRequest at hnext
  split at hnext
  · next hmark =>
    cases hnext
    exact Or.inl hmark
  · cases hnext
  · next mark hmark =>
    refine Or.inr ⟨mark.shown, ?_⟩
    split at hnext
    · exact Or.inl (Except.error.inj hnext).symm
    · cases hnext
    · cases hnext
    · split at hnext
      · cases hnext
      · exact Or.inr (Except.error.inj hnext).symm

/-- What stands behind some items changes nothing for the first of them, unless it starts with a word. -/
theorem nextRequest_append (hmore : ∀ value later, more ≠ .word value :: later) (item : Item) (rest : List Item) :
    nextRequest item (rest ++ more) = (nextRequest item rest).map fun next => (next.1, next.2 ++ more) := by
  unfold nextRequest
  cases item.mark? with
  | error f => rfl
  | ok mark? =>
    cases mark? with
    | none => rfl
    | some mark =>
      obtain ⟨flag, shown, attached⟩ := mark
      cases flag with
      | switch s => cases attached <;> rfl
      | setting s =>
        cases attached with
        | some value => rfl
        | none =>
          cases rest with
          | nil =>
            cases more with
            | nil => rfl
            | cons next later =>
              cases next with
              | word value => exact absurd rfl (hmore value later)
              | long name value => rfl
              | short letter value => rfl
          | cons next rest => cases next <;> rfl

/-- A reading goes on with what the first item leaves, so what holds of all that is left holds of it. -/
theorem items_induction {motive : List Item → Prop} (nil : motive [])
    (refused : ∀ {item rest f}, nextRequest item rest = .error f → motive (item :: rest))
    (asks : ∀ {item rest request after}, nextRequest item rest = .ok (request, after) → motive after →
      motive (item :: rest)) (items : List Item) : motive items := by
  induction hlength : items.length using Nat.strongRecOn generalizing items with
  | ind n ih =>
    subst hlength
    cases items with
    | nil => exact nil
    | cons item rest =>
      cases hnext : nextRequest item rest with
      | error f => exact refused hnext
      | ok next =>
        have hshorter : next.2.length ≤ rest.length := (suffix_of_nextRequest hnext).length_le
        exact asks hnext (ih next.2.length (Nat.lt_succ_of_le hshorter) next.2 rfl)

/-- Items are read before those behind them. -/
theorem read_append (hmore : ∀ value later, more ≠ .word value :: later) (args : Args) (items : List Item) :
    args.read (items ++ more) = args.read items >>= (·.read more) := by
  induction items using items_induction generalizing args with
  | nil => rfl
  | @refused item rest f hnext =>
    have hfirst := nextRequest_append hmore item rest
    rw [hnext] at hfirst
    rw [List.cons_append, read_eq_of_refused hfirst, read_eq_of_refused hnext]
    rfl
  | @asks item rest request after hnext ih =>
    have hfirst := nextRequest_append hmore item rest
    rw [hnext] at hfirst
    rw [List.cons_append, read_eq_of_nextRequest hfirst, read_eq_of_nextRequest hnext, ih]

/-- Reading refuses an item that is no flag, or a value that is missing or not expected. -/
theorem of_read_eq_error (hread : args.read items = .error f) :
    (∃ item ∈ items, item.mark? = .error f) ∨ ∃ shown, f = .valueUnexpected shown ∨ f = .valueMissing shown := by
  induction items using items_induction generalizing args with
  | nil => cases hread
  | @refused item rest f' hnext =>
    rw [read_eq_of_refused hnext] at hread
    cases hread
    exact (of_nextRequest_eq_error hnext).imp_left fun hmark => ⟨item, List.mem_cons_self, hmark⟩
  | @asks item rest request after hnext ih =>
    rw [read_eq_of_nextRequest hnext] at hread
    refine (ih hread).imp_left fun ⟨other, hother, hmark⟩ => ⟨other, ?_, hmark⟩
    exact List.mem_cons_of_mem item ((suffix_of_nextRequest hnext).subset hother)

end Command
end SqlCells
