import SqlCells.Database.Connect
import SqlCells.Proofs.Url.Reading

/-!
# Arguments in connection strings

Arguments are added to a connection string as parameters of its query, and are read back behind those it
had; everything else stays as it is.  A URL whose path has no structure is put together anew from its scheme
and its path alone: the parameters it had are lost, and its path is read once more.
-/

namespace SqlCells
namespace Url

variable {scheme path : List Char} {u : Url}

/-! ## Paths without structure -/

/-- The path that is read when a path without structure is put behind three slashes: without blanks at its
end, and with its dots resolved. -/
def behindSlashes (path : List Char) : List Char :=
  hierarchicalPath .plain ('/' :: Text.dropTailWhile (fun c => decide (c.toNat ≤ 0x20)) path)

/-- A path stays as it is behind the slashes exactly if nothing in it is to be escaped or resolved. -/
theorem behindSlashes_eq_iff : behindSlashes path = '/' :: path ↔ Settled .plain path := by
  constructor
  · intro h
    rcases hierarchicalPath_cases .plain ('/' :: Text.dropTailWhile (fun c => decide (c.toNat ≤ 0x20)) path) with
      hroot | ⟨-, hnil, -⟩
    · have hsettled : Settled .plain (behindSlashes path) := hroot.settled
      rw [h] at hsettled
      exact Settled.slash_cons.1 hsettled
    · cases hnil
  · intro h
    have hblank : ∀ c ∈ path, decide (c.toNat ≤ 0x20) = false := fun c hc =>
      decide_eq_false (Nat.not_le.2 ((h.kept c hc).printable (by decide)))
    have htrim : Text.dropTailWhile (fun c => decide (c.toNat ≤ 0x20)) (path ++ []) = path :=
      Text.dropTailWhile_append hblank (by simp)
    rw [List.append_nil] at htrim
    unfold behindSlashes
    rw [htrim]
    exact (hierarchicalPath_eq_self_iff (by decide)).2 (Settled.slash_cons.2 h)

/-- Of a path behind the slashes, the blanks at its end are dropped. -/
theorem clean_behindSlashes (hscheme : IsScheme scheme) (hpath : ∀ c ∈ path, 0x20 ≤ c.toNat) :
    clean (scheme ++ [':', '/', '/', '/'] ++ path) = scheme ++ ':' :: '/' :: '/' :: '/' ::
      Text.dropTailWhile (fun c => decide (c.toNat ≤ 0x20)) path := by
  have hfront : ∀ c ∈ scheme ++ [':', '/', '/'] ++ ['/'], 0x20 < c.toNat := by
    have hslashes : ∀ c ∈ [':', '/', '/'] ++ ['/'], 0x20 < c.toNat := by decide
    intro c hc
    rw [List.append_assoc] at hc
    rcases List.mem_append.1 hc with hc | hc
    · exact printable_of_isSchemePart (hscheme.part c hc).1
    · exact hslashes c hc
  simpa using clean_append_cons hfront hpath

/-- Nothing but the path is read behind the three slashes. -/
theorem parse_behindSlashes (hscheme : IsScheme scheme) (hk : schemeKind scheme = .plain)
    (hpath : ∀ c ∈ path, IsKept ['?', '#'] c) :
    parse (scheme ++ [':', '/', '/', '/'] ++ path) =
      .ok ⟨scheme, true, [], none, .none, none, behindSlashes path, none, none⟩ := by
  have hinside : ∀ c ∈ '/' :: Text.dropTailWhile (fun c => decide (c.toNat ≤ 0x20)) path, c ≠ '?' ∧ c ≠ '#' := by
    obtain ⟨tail, htail, -⟩ := Text.exists_append_of_dropTailWhile (fun c => decide (c.toNat ≤ 0x20)) path
    intro c hc
    rcases List.mem_cons.1 hc with rfl | hc
    · decide
    · have hkept := (hpath c (htail ▸ List.mem_append_left tail hc)).2.2
      simpa using hkept
  have htake := takePath_append hinside none none
  rw [queryText, optionalPart, optionalPart, List.append_nil, List.append_nil] at htake
  unfold parse
  rw [clean_behindSlashes hscheme fun c hc => (hpath c hc).1, takeScheme?_append hscheme]
  dsimp only
  rw [hk]
  -- Between the slashes there is neither a user nor a host nor a port.
  have hbare : ∀ t, afterSlashes .plain scheme ('/' :: t) =
      .ok ⟨scheme, true, [], none, .none, none, hierarchicalPath .plain (takePath ('/' :: t)).1,
        (takeQuery .plain (takePath ('/' :: t)).2).1, (takeQuery .plain (takePath ('/' :: t)).2).2⟩ := fun t => rfl
  show afterSlashes .plain scheme ('/' :: Text.dropTailWhile _ path) = _
  rw [hbare, htake]
  rfl

end Url

namespace Connect

open Url

variable {arguments : Arguments} {url : String} {u : Url}

/-! ## Arguments as parameters -/

/-- The arguments as parameters. -/
def argumentPairs (arguments : Arguments) : List (List Char × List Char) :=
  arguments.map fun (key, value) => (key.toList, argumentText value)

/-- The URL that arguments are added to: another one if the path has no structure. -/
def structured (u : Url) : Url :=
  if u.isOpaque then ⟨u.scheme, true, [], none, .none, none, behindSlashes u.path, none, none⟩ else u

theorem isOpaque_structured (u : Url) : (structured u).isOpaque = false := by
  unfold structured
  split
  · rfl
  · next hstructured => simpa using hstructured

/-- A path without structure is the path of a scheme that is not special. -/
theorem of_isOpaque (hu : u.IsRead) (hflat : u.isOpaque = true) :
    schemeKind u.scheme = .plain ∧ (∀ c ∈ u.path, IsKept ['?', '#'] c) ∧ u.host = .none ∧ u.username = [] ∧
      u.password = none ∧ u.port = none := by
  simp only [isOpaque, Bool.and_eq_true, Bool.not_eq_true', bne_iff_ne] at hflat
  obtain ⟨hauthority, hhead⟩ := hflat
  have hhost := hu.authority hauthority
  obtain ⟨husername, hpassword, hport⟩ := hu.alone (Or.inl hhost)
  obtain ⟨hk, hkept⟩ := (hauthority ▸ hu.path).of_head?_ne hhead
  exact ⟨hk, hkept, hhost, husername, hpassword, hport⟩

theorem parse_structured (hu : u.IsRead) :
    (if u.isOpaque then parse (u.scheme ++ [':', '/', '/', '/'] ++ u.path) else .ok u) = .ok (structured u) := by
  unfold structured
  split
  · next hflat =>
    obtain ⟨hk, hkept, -⟩ := of_isOpaque hu hflat
    exact parse_behindSlashes hu.scheme hk hkept
  · rfl

theorem isRead_structured (hu : u.IsRead) : (structured u).IsRead := by
  have hparse := parse_structured hu
  split at hparse
  · exact isRead_of_parse hparse
  · exact Except.ok.inj hparse ▸ hu

theorem applyArguments_eq (hne : arguments ≠ []) (hparse : parse url.toList = .ok u) :
    applyArguments arguments url =
      .ok (String.ofList ((structured u).addPairs (argumentPairs arguments)).text) := by
  unfold applyArguments
  rw [if_neg (by simpa using hne), hparse]
  dsimp only
  rw [parse_structured (isRead_of_parse hparse)]
  rfl

/-- Arguments can be added to every URL, and the URL that results is read with its parts and with the
arguments as parameters behind its own.  Where the path has no structure, the parameters and the fragment are
lost and the path is read anew; so nothing is lost exactly if there were none and nothing in the path changes. -/
theorem applyArguments_read_back (hne : arguments ≠ []) (hparse : parse url.toList = .ok u) :
    ∃ t v, applyArguments arguments url = .ok t ∧ parse t.toList = .ok v ∧
      v.scheme = u.scheme ∧ v.username = u.username ∧ v.password = u.password ∧ v.host = u.host ∧
      v.port = u.port ∧
      v.path = (if u.isOpaque then behindSlashes u.path else u.path) ∧
      v.queryPairs = (if u.isOpaque then [] else u.queryPairs) ++ argumentPairs arguments ∧
      v.fragment = (if u.isOpaque then none else u.fragment) ∧
      (v.path = (if u.isOpaque then '/' :: u.path else u.path) ∧
          v.queryPairs = u.queryPairs ++ argumentPairs arguments ↔
        (u.isOpaque = true → Settled .plain u.path ∧ u.queryPairs = [])) := by
  have hu := isRead_of_parse hparse
  have hread := (isRead_structured hu).addPairs (argumentPairs arguments)
  have hflat : ((structured u).addPairs (argumentPairs arguments)).isOpaque = false := isOpaque_structured u
  have hpairs := queryPairs_addPairs (structured u) (argumentPairs arguments)
  refine ⟨_, (structured u).addPairs (argumentPairs arguments), applyArguments_eq hne hparse, ?_, ?_⟩
  · rw [String.toList_ofList]
    exact hread.parse_text hflat
  · rw [hpairs]
    cases hcase : u.isOpaque with
    | false =>
      have hsame : structured u = u := by
        unfold structured
        rw [hcase]
        rfl
      rw [hsame]
      exact ⟨rfl, rfl, rfl, rfl, rfl, rfl, rfl, rfl, fun _ => nofun, fun _ => ⟨rfl, rfl⟩⟩
    | true =>
      obtain ⟨-, -, hhost, husername, hpassword, hport⟩ := of_isOpaque hu hcase
      have hnew : structured u = ⟨u.scheme, true, [], none, .none, none, behindSlashes u.path, none, none⟩ := by
        unfold structured
        rw [hcase]
        rfl
      have hnone : (structured u).queryPairs = [] := by
        rw [hnew]
        rfl
      rw [hnone, hnew]
      refine ⟨rfl, husername.symm, hpassword.symm, hhost.symm, hport.symm, rfl, rfl, rfl, ?_⟩
      show behindSlashes u.path = '/' :: u.path ∧ [] ++ _ = u.queryPairs ++ _ ↔ (true = true → _)
      rw [behindSlashes_eq_iff, List.append_left_inj]
      exact ⟨fun h _ => ⟨h.1, h.2.symm⟩, fun h => ⟨(h rfl).1, (h rfl).2.symm⟩⟩

/-- A URL whose parts are all there, with a parameter that an argument repeats. -/
theorem applyArguments_read_back_postgres :
    ∃ t v, applyArguments [("a", .string "b&c=d"), ("n", .bool true)]
        "postgres://me:pw@[::1]:5433/db?a=1#top" = .ok t ∧ parse t.toList = .ok v ∧
      v.username = "me".toList ∧ v.host = .address6 [0, 0, 0, 0, 0, 0, 0, 1] ∧ v.path = "/db".toList ∧
      v.queryPairs = [("a".toList, "1".toList), ("a".toList, "b&c=d".toList), ("n".toList, "true".toList)] := by
  have hparse : parse "postgres://me:pw@[::1]:5433/db?a=1#top".toList =
      .ok ⟨"postgres".toList, true, "me".toList, some "pw".toList, .address6 [0, 0, 0, 0, 0, 0, 0, 1], some 5433,
        "/db".toList, some "a=1".toList, some "top".toList⟩ := by
    decide +kernel
  have hpairs : queryPairs ⟨"postgres".toList, true, "me".toList, some "pw".toList,
      .address6 [0, 0, 0, 0, 0, 0, 0, 1], some 5433, "/db".toList, some "a=1".toList, some "top".toList⟩ =
      [("a".toList, "1".toList)] := by
    decide +kernel
  have hne : ([("a", .string "b&c=d"), ("n", .bool true)] : Arguments) ≠ [] := List.cons_ne_nil _ _
  obtain ⟨t, v, happly, hread, -, husername, -, hhost, -, hpath, hquery, -⟩ := applyArguments_read_back hne hparse
  refine ⟨t, v, happly, hread, husername, hhost, hpath, ?_⟩
  rw [hquery, if_neg (by decide), hpairs]
  decide +kernel

theorem parameters_lost :
    (parse "sqlite::memory:?cache=shared".toList).map queryPairs = .ok [("cache".toList, "shared".toList)] ∧
      applyArguments [("mode", .string "ro")] "sqlite::memory:?cache=shared" = .ok "sqlite:///:memory:?mode=ro" ∧
      (parse "sqlite:///:memory:?mode=ro".toList).map queryPairs = .ok [("mode".toList, "ro".toList)] := by
  decide +kernel

end Connect
end SqlCells
