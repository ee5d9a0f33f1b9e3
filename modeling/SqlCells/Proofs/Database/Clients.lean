import SqlCells.Database.Client

/-!
# Tables of clients

A client that is added gets the first number that is free; one that is talked to keeps its own.  No
client with another number is touched by either.
-/

namespace SqlCells
namespace Clients

theorem get?_add (cs : Clients) (c : Client) (id : ClientId) :
    (cs.add c).2.get? id = if id = (cs.add c).1 then some c else cs.get? id := by
  change (cs.all ++ [c])[id]? = if id = cs.all.length then some c else cs.all[id]?
  by_cases hsame : id = cs.all.length
  · rw [if_pos hsame, hsame, List.getElem?_concat_length]
  · rw [if_neg hsame]
    rcases Nat.lt_or_gt_of_ne hsame with hlt | hgt
    · exact List.getElem?_append_left hlt
    · have hbeyond : (cs.all ++ [c]).length ≤ id := by
        rw [List.length_append]
        exact hgt
      rw [List.getElem?_eq_none hbeyond, List.getElem?_eq_none (Nat.le_of_lt hgt)]

/-- An added client reports its own URL. -/
theorem url_add (cs : Clients) (c : Client) : (cs.add c).2.url (cs.add c).1 = c.url := by
  unfold url
  rw [get?_add, if_pos rfl]

theorem get?_talk {α : Type} (cs : Clients) (id other : ClientId) (otherwise : Except Fault α)
    (t : Talk α) :
    (cs.talk id otherwise t).2.get? other =
      if other = id then (cs.get? id).map fun c => (t.run.run c).2 else cs.get? other := by
  unfold talk
  cases hget : cs.get? id with
  | none =>
    dsimp only
    split
    · next hsame => rw [hsame, hget]; rfl
    · rfl
  | some c =>
    have hlt : id < cs.all.length := (List.getElem?_eq_some_iff.1 hget).1
    change (cs.all.set id (t.run.run c).2)[other]? = _
    rw [List.getElem?_set]
    by_cases hsame : id = other
    · rw [if_pos hsame, if_pos hsame.symm, if_pos (hsame ▸ hlt)]
      rfl
    · rw [if_neg hsame, if_neg (Ne.symm hsame)]
      rfl

/-! ## Calls by client -/

/-- The calls made on the client with a number; none where there is no such client. -/
def callsOn (cs : Clients) (id : ClientId) : List Call :=
  ((cs.get? id).map Client.calls).getD []

/-- A client that comes without calls adds none. -/
theorem callsOn_add (cs : Clients) {c : Client} (hc : c.calls = []) (id : ClientId) :
    (cs.add c).2.callsOn id = cs.callsOn id := by
  unfold callsOn
  rw [get?_add]
  split
  · next hnew =>
    have hfree : cs.get? id = none := by
      rw [hnew]
      exact List.getElem?_eq_none (Nat.le_refl cs.all.length)
    rw [hfree]
    exact hc
  · rfl

end Clients
end SqlCells
