import SqlCells.Database.Dialect
import SqlCells.Text.Distance
import SqlCells.Fault

/-!
# Snippets

Named pieces of SQL that read from one another.  A snippet is saved only if it cannot reach itself
through what it reads from; a query on top of snippets is prefixed with a chain that defines each of
them once, after everything it reads from.
-/

namespace SqlCells

/-- A named piece of SQL and the names of the snippets it reads from. -/
structure Snippet where
  name : String
  body : String
  dependencies : List String
  deriving DecidableEq, Repr

/-- Saved snippets in the order in which their names were first saved. -/
structure Snippets where
  entries : List Snippet := []
  deriving DecidableEq, Repr

namespace Snippets

/-- The snippet saved under a name. -/
def find? (s : Snippets) (name : String) : Option Snippet :=
  s.entries.find? fun e => e.name == name

/-- The names saved. -/
def names (s : Snippets) : List String :=
  s.entries.map Snippet.name

/-- Whether a name is saved. -/
def contains (s : Snippets) (name : String) : Bool :=
  (s.find? name).isSome

/-- What a saved name reads from; nothing for a name that is not saved. -/
def reads (s : Snippets) (name : String) : List String :=
  match s.find? name with
  | some e => e.dependencies
  | none => []

/-- Puts a snippet in the place of the one with its name, or at the end. -/
def insert (s : Snippets) (e : Snippet) : Snippets :=
  if s.contains e.name then ⟨s.entries.map fun old => if old.name = e.name then e else old⟩
  else ⟨s.entries ++ [e]⟩

/-- The number of saved snippets whose name is not in a list. -/
def unseen (s : Snippets) (seen : List String) : Nat :=
  (s.entries.filter fun e => !seen.contains e.name).length

/-- A snippet that is found is among the entries and has the name sought. -/
theorem mem_of_find? {s : Snippets} {name : String} {e : Snippet} (h : s.find? name = some e) :
    e ∈ s.entries ∧ e.name = name :=
  ⟨List.mem_of_find?_eq_some h, by simpa using List.find?_some h⟩

/-- Fewer entries satisfy a stronger test when one of them fails it. -/
theorem length_filter_lt {α : Type} {p q : α → Bool} {l : List α} {a : α} (ha : a ∈ l)
    (hp : p a = true) (hq : q a = false) (hqp : ∀ x, q x = true → p x = true) :
    (l.filter q).length < (l.filter p).length := by
  induction l with
  | nil => cases ha
  | cons x rest ih =>
    have hle : (rest.filter q).length ≤ (rest.filter p).length := by
      have h : rest.filter q = (rest.filter p).filter q := by
        rw [List.filter_filter]
        congr 1
        funext y
        cases hy : q y <;> simp [hqp y, hy]
      rw [h]
      exact List.length_filter_le _ _
    rcases List.mem_cons.1 ha with rfl | hrest
    · simp [hp, hq]
      omega
    · have := ih hrest
      cases hx : q x with
      | true => simp [hx, hqp x hx]; omega
      | false =>
        cases hx' : p x <;> simp [hx, hx'] <;> omega

/-- Seeing a saved name for the first time leaves fewer unseen. -/
theorem unseen_lt {s : Snippets} {seen seen' : List String} {name : String} {e : Snippet}
    (hfind : s.find? name = some e) (hnew : name ∉ seen) (hin : name ∈ seen')
    (hsub : ∀ n ∈ seen, n ∈ seen') : s.unseen seen' < s.unseen seen := by
  obtain ⟨hmem, hname⟩ := mem_of_find? hfind
  refine length_filter_lt hmem ?_ ?_ ?_
  · simpa [hname] using hnew
  · simpa [hname] using hin
  · intro x hx
    simp only [List.contains_eq_mem, Bool.not_eq_true', decide_eq_false_iff_not] at hx ⊢
    exact fun h => hx (hsub _ h)

/-- Seeing more leaves no more unseen. -/
theorem unseen_le {s : Snippets} {seen seen' : List String} (hsub : ∀ n ∈ seen, n ∈ seen') :
    s.unseen seen' ≤ s.unseen seen := by
  unfold unseen
  have h : (s.entries.filter fun e => !seen'.contains e.name) =
      (s.entries.filter fun e => !seen.contains e.name).filter
        fun e => !seen'.contains e.name := by
    rw [List.filter_filter]
    congr 1
    funext y
    simp only [List.contains_eq_mem]
    by_cases hy : y.name ∈ seen
    · simp [hy, hsub _ hy]
    · simp [hy]
  rw [h]
  exact List.length_filter_le _ _

/-- Whether a walk along what is read from, starting with the names on the stack, comes to the
target. Names already visited are passed over. -/
def walk (s : Snippets) (target : String) (visited : List String) : List String → Bool
  | [] => false
  | name :: stack =>
    if name = target then true
    else if _hv : visited.contains name = true then s.walk target visited stack
    else
      match _hf : s.find? name with
      | none => s.walk target (name :: visited) stack
      | some e => s.walk target (name :: visited) (e.dependencies ++ stack)
termination_by stack => (s.unseen visited, stack.length)
decreasing_by
  · exact Prod.Lex.right _ (by simp)
  · have hle : s.unseen (name :: visited) ≤ s.unseen visited :=
      unseen_le fun n hn => List.mem_cons_of_mem _ hn
    rcases Nat.lt_or_eq_of_le hle with hlt | heq
    · exact Prod.Lex.left _ _ hlt
    · rw [heq]; exact Prod.Lex.right _ (by simp)
  · exact Prod.Lex.left _ _ (unseen_lt _hf (by simpa using _hv) List.mem_cons_self
      fun n hn => List.mem_cons_of_mem _ hn)

/-- Whether something in a list of names is, or reads from in any number of steps, the target. -/
def reaches (s : Snippets) (start : List String) (target : String) : Bool :=
  s.walk target [] start

/-- Whether a name holds a hyphen. -/
def hasHyphen (name : String) : Bool :=
  name.toList.contains '-'

/-- Refuses names with hyphens. -/
def checkDependencies (names : List String) : Except Fault Unit :=
  if names.any hasHyphen then .error (.hyphenInDependencies names) else .ok ()

/-- Saves a snippet, in place of one with its name. -/
def store (s : Snippets) (name body : String) (dependencies : List String) :
    Except Fault Snippets :=
  if hasHyphen name then .error .hyphenInSavedName
  else
    match checkDependencies dependencies with
    | .error f => .error f
    | .ok () =>
      if dependencies.contains name then .error (.selfDependency name)
      else if s.reaches dependencies name then .error (.circularSave name)
      else .ok (s.insert ⟨name, body, dependencies⟩)

/-- The snippet saved under a name; a name that is not saved is refused with the name most like it,
or with all names. -/
def get (s : Snippets) (name : String) : Except Fault Snippet :=
  if s.entries.isEmpty then .error .noSnippets
  else
    match s.find? name with
    | some e => .ok e
    | none =>
      let close := Text.closest name.toList (s.names.map String.toList)
      .error (.unknownSnippet name (close.map String.ofList) s.names)

/-- Removes a snippet and gives it back. -/
def remove (s : Snippets) (name : String) : Except Fault (Snippet × Snippets) :=
  match s.get name with
  | .error f => .error f
  | .ok e => .ok (e, ⟨s.entries.filter fun old => old.name != name⟩)

/-- A name at the end of a list, unless it is there already. -/
def appendNew (names : List String) (name : String) : List String :=
  if names.contains name then names else names ++ [name]

/-- Only a saved name is looked up with success. -/
theorem find?_of_get {s : Snippets} {name : String} {e : Snippet} (h : s.get name = .ok e) :
    s.find? name = some e := by
  unfold get at h
  split at h
  · cases h
  · split at h
    · next hf => cases h; exact hf
    · cases h

/-- Adds to `ordered` everything that the given names read from and then each name itself; `path`
holds the names on the way here, to which no way may lead back. -/
def collect (s : Snippets) (path ordered : List String) :
    List String → Except Fault (List String)
  | [] => .ok ordered
  | name :: rest =>
    if _hp : path.contains name = true then .error (.circularChain (path ++ [name]))
    else
      match _hg : s.get name with
      | .error f => .error f
      | .ok e =>
        match s.collect (path ++ [name]) ordered e.dependencies with
        | .error f => .error f
        | .ok ordered => s.collect path (appendNew ordered name) rest
termination_by names => (s.unseen path, names.length)
decreasing_by
  · exact Prod.Lex.left _ _ (unseen_lt (find?_of_get _hg) (by simpa using _hp) (by simp)
      fun n hn => List.mem_append_left _ hn)
  · exact Prod.Lex.right _ (by simp)

/-- Adds to `ordered` what each of the given names reads from, but not the names themselves. -/
def collectRoots (s : Snippets) (ordered : List String) :
    List String → Except Fault (List String)
  | [] => .ok ordered
  | name :: rest =>
    match s.get name with
    | .error f => .error f
    | .ok e =>
      match s.collect [name] ordered e.dependencies with
      | .error f => .error f
      | .ok ordered => s.collectRoots ordered rest

/-- Every snippet needed to define the given names, each once and after all it reads from: first what
the names read from, then the names that are still missing. -/
def resolve (s : Snippets) (names : List String) : Except Fault (List String) :=
  match s.collectRoots [] names with
  | .error f => .error f
  | .ok ordered => .ok (names.foldl appendNew ordered)

/-- The definition of one snippet in a chain. -/
def definition (s : Snippets) (q : NameQuoting) (name : String) : Except Fault (List Char) :=
  match s.get name with
  | .error f => .error f
  | .ok e => .ok (q.quote name.toList ++ " AS (".toList ++ e.body.toList ++ [')'])

/-- A query behind the chain that defines what it reads from. Without dependencies it is unchanged. -/
def render (s : Snippets) (query : String) (dependencies : List String) (q : NameQuoting) :
    Except Fault String :=
  match checkDependencies dependencies with
  | .error f => .error f
  | .ok () =>
    if dependencies.isEmpty then .ok query
    else
      match s.resolve dependencies with
      | .error f => .error f
      | .ok ordered =>
        match ordered.mapM (s.definition q) with
        | .error f => .error f
        | .ok definitions =>
          .ok (String.ofList ("WITH ".toList ++ Text.joinWith [',', ' '] definitions ++ ' ' ::
            query.toList))

/-- A saved snippet behind the chain that defines what it reads from. -/
def renderSnippet (s : Snippets) (name : String) (q : NameQuoting) : Except Fault String :=
  match s.get name with
  | .error f => .error f
  | .ok e => s.render e.body e.dependencies q

end Snippets
end SqlCells
