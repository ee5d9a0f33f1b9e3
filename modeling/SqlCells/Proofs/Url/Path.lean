import SqlCells.Proofs.Url.Escape
import SqlCells.Url.Parser

/-!
# Paths read back

A path that was read has no segments of dots left, and none of its characters is escaped or cut at.  Such a
path is read onto any other as it is; so a path is read as itself exactly if it is one of them.
-/

namespace SqlCells
namespace Url

/-- Whether a path has nothing left to escape, no other slashes and no segments that stand for
directories. -/
structure Settled (k : SchemeKind) (path : List Char) : Prop where
  kept : ∀ c ∈ path, IsKept pathSet c
  backslash : k.takesBackslash = true → '\\' ∉ path
  dots : ∀ segment ∈ Text.splitAt (· == '/') path, isSingleDot segment = false ∧ isDoubleDot segment = false

variable {k : SchemeKind} {path segment s : List Char}

theorem keepsEscapes_pathSet : KeepsEscapes pathSet := by
  decide

/-! ## Directories -/

/-- Whether a path is empty or ends with a slash. -/
def IsDirectory (path : List Char) : Prop :=
  path = [] ∨ ∃ before, path = before ++ ['/']

theorem Settled.slash_append {rest : List Char} :
    Settled k (path ++ '/' :: rest) ↔ Settled k path ∧ Settled k rest := by
  constructor
  · rintro ⟨hkept, hbackslash, hdots⟩
    rw [Text.splitAt_append_self] at hdots
    refine ⟨⟨fun c hc => hkept c (by simp [hc]), fun hk hmem => hbackslash hk (by simp [hmem]),
      fun t ht => hdots t (by simp [ht])⟩, ⟨fun c hc => hkept c (by simp [hc]),
      fun hk hmem => hbackslash hk (by simp [hmem]), fun t ht => hdots t (by simp [ht])⟩⟩
  · rintro ⟨hpath, hrest⟩
    refine ⟨?_, ?_, ?_⟩
    · intro c hc
      rcases List.mem_append.1 hc with hc | hc
      · exact hpath.kept c hc
      · rcases List.mem_cons.1 hc with rfl | hc
        · decide
        · exact hrest.kept c hc
    · intro hk
      simp [hpath.backslash hk, hrest.backslash hk]
    · intro t ht
      rw [Text.splitAt_append_self] at ht
      rcases List.mem_append.1 ht with ht | ht
      · exact hpath.dots t ht
      · exact hrest.dots t ht

theorem Settled.nil (k : SchemeKind) : Settled k [] :=
  ⟨nofun, fun _ => nofun, by decide⟩

theorem Settled.slash_cons : Settled k ('/' :: path) ↔ Settled k path := by
  have happend : Settled k ([] ++ '/' :: path) ↔ Settled k [] ∧ Settled k path := Settled.slash_append
  exact happend.trans (and_iff_right (.nil k))

/-- What a directory holds is settled before the directory. -/
theorem Settled.of_append {tail : List Char} (hpath : Settled k (path ++ tail)) (hdir : IsDirectory path) :
    Settled k path := by
  rcases hdir with rfl | ⟨before, rfl⟩
  · exact .nil k
  · rw [List.append_assoc, List.singleton_append, Settled.slash_append] at hpath
    exact Settled.slash_append.2 ⟨hpath.1, .nil k⟩

/-- What precedes the last segment is a directory that the path starts with, the root if the path has one. -/
theorem exists_append_dropLastSegment (path : List Char) :
    ∃ tail, path = dropLastSegment path ++ tail ∧ IsDirectory (dropLastSegment path) ∧
      ('/' ∈ path → '/' ∈ dropLastSegment path) := by
  obtain ⟨tail, htail, hall⟩ := Text.exists_append_of_dropTailWhile (· != '/') path
  refine ⟨tail, htail, ?_, fun hmem => ?_⟩
  · unfold dropLastSegment Text.dropTailWhile
    cases hrev : path.reverse.dropWhile (· != '/') with
    | nil => exact Or.inl rfl
    | cons c rest =>
      have hhead := List.head_dropWhile_not (· != '/') (l := path.reverse) (by rw [hrev]; nofun)
      simp only [hrev, List.head_cons, bne_eq_false_iff_eq] at hhead
      exact Or.inr ⟨rest.reverse, by rw [hhead, List.reverse_cons]⟩
  · rw [htail] at hmem
    rcases List.mem_append.1 hmem with hmem | hmem
    · exact hmem
    · exact absurd (hall '/' hmem) (by decide)

/-- So is the directory above. -/
theorem exists_append_parentPath (path : List Char) :
    ∃ tail, path = parentPath path ++ tail ∧ IsDirectory (parentPath path) ∧
      ('/' ∈ path → '/' ∈ parentPath path) := by
  unfold parentPath
  dsimp only
  split
  · next before hbefore =>
    have hpath := Text.dropSuffix?_eq_some_iff.1 hbefore
    split
    · next hslash =>
      obtain ⟨tail, htail, hdir, hroot⟩ := exists_append_dropLastSegment before
      refine ⟨tail ++ ['/'], ?_, hdir, fun _ => hroot (by simpa using hslash)⟩
      rw [← List.append_assoc, ← htail, hpath]
    · exact exists_append_dropLastSegment path
  · exact exists_append_dropLastSegment path

/-! ## Reading a path -/

/-- A path that nothing is to be done to and that starts with the root. -/
structure IsRooted (k : SchemeKind) (path : List Char) : Prop where
  settled : Settled k path
  head : path.head? = some '/'

theorem head?_of_append {tail : List Char} (hpath : (path ++ tail).head? = some '/') (hslash : '/' ∈ path) :
    path.head? = some '/' := by
  cases path with
  | nil => cases hslash
  | cons c path => exact hpath

theorem IsRooted.parentPath (hpath : IsRooted k path) : IsRooted k (parentPath path) := by
  obtain ⟨tail, htail, hdir, hroot⟩ := exists_append_parentPath path
  have hsettled := hpath.settled
  have hhead := hpath.head
  rw [htail] at hsettled hhead
  exact ⟨hsettled.of_append hdir, head?_of_append hhead (hroot (List.mem_of_mem_head? hpath.head))⟩

/-- A rooted path is made a directory. -/
theorem IsRooted.append_slash (hpath : IsRooted k path) :
    IsRooted k (path ++ ['/']) ∧ IsDirectory (path ++ ['/']) := by
  refine ⟨⟨Settled.slash_append.2 ⟨hpath.settled, .nil k⟩, ?_⟩, Or.inr ⟨path, rfl⟩⟩
  rw [List.head?_append, hpath.head]
  rfl

theorem IsRooted.closed (hpath : IsRooted k path) :
    IsRooted k (if path.getLast? = some '/' then path else path ++ ['/']) ∧
      IsDirectory (if path.getLast? = some '/' then path else path ++ ['/']) := by
  split
  · next hlast => exact ⟨hpath, Or.inr (List.getLast?_eq_some_iff.1 hlast)⟩
  · exact hpath.append_slash

/-- A directory ends with a slash, so that a segment stands for itself behind it. -/
theorem IsRooted.append (hpath : IsRooted k path) (hdir : IsDirectory path) (hsegment : Settled k segment) :
    IsRooted k (path ++ segment) := by
  obtain ⟨before, rfl⟩ : ∃ before, path = before ++ ['/'] := by
    rcases hdir with rfl | hdir
    · cases hpath.head
    · exact hdir
  refine ⟨?_, ?_⟩
  · rw [List.append_assoc, List.singleton_append]
    exact Settled.slash_append.2 ⟨(Settled.slash_append.1 hpath.settled).1, hsegment⟩
  · rw [List.head?_append, hpath.head]
    rfl

/-- One more segment leaves a rooted directory a rooted path, and a directory if a slash ends it. -/
theorem IsRooted.addSegment (hpath : IsRooted k path) (hdir : IsDirectory path)
    (hkept : ∀ c ∈ segment, IsKept pathSet c ∧ c ≠ '/' ∧ (k.takesBackslash = true → c ≠ '\\'))
    (slash : Bool) :
    IsRooted k (addSegment path segment slash) ∧
      (slash = true → IsDirectory (Url.addSegment path segment slash)) := by
  unfold Url.addSegment
  dsimp only
  split
  · cases slash with
    | true => exact ⟨hpath.parentPath.closed.1, fun _ => hpath.parentPath.closed.2⟩
    | false => exact ⟨hpath.parentPath, nofun⟩
  · next hdouble =>
    split
    · exact ⟨hpath.closed.1, fun _ => hpath.closed.2⟩
    · next hsingle =>
      have hsegment : Settled k segment := by
        refine ⟨fun c hc => (hkept c hc).1, fun hk hmem => (hkept _ hmem).2.2 hk rfl, ?_⟩
        rw [Text.splitAt_of_not_mem fun hmem => (hkept _ hmem).2.1 rfl, List.forall_mem_singleton]
        exact ⟨by simpa using hsingle, by simpa using hdouble⟩
      have hall := hpath.append hdir hsegment
      cases slash with
      | true => exact ⟨hall.append_slash.1, fun _ => hall.append_slash.2⟩
      | false => simpa using hall

/-- Whatever is read onto a rooted directory, a rooted path results. -/
theorem IsRooted.pathFrom (hpath : IsRooted k path) (hdir : IsDirectory path)
    (hsegment : ∀ c ∈ segment, c ≠ '/' ∧ (k.takesBackslash = true → c ≠ '\\')) (s : List Char) :
    IsRooted k (pathFrom k path segment s) := by
  have hescaped : ∀ segment : List Char, (∀ c ∈ segment, c ≠ '/' ∧ (k.takesBackslash = true → c ≠ '\\')) →
      ∀ c ∈ escape pathSet segment, IsKept pathSet c ∧ c ≠ '/' ∧ (k.takesBackslash = true → c ≠ '\\') := by
    intro segment hsegment c hc
    refine ⟨isKept_of_mem_escape keepsEscapes_pathSet hc, ?_⟩
    rcases mem_of_mem_escape hc with hmem | hmem
    · exact hsegment c hmem
    · constructor
      · rintro rfl
        exact absurd hmem (by decide)
      · rintro - rfl
        exact absurd hmem (by decide)
  induction s generalizing path segment with
  | nil => exact (hpath.addSegment hdir (hescaped segment hsegment) false).1
  | cons c rest ih =>
    rw [Url.pathFrom]
    split
    · obtain ⟨hnext, hnextDir⟩ := hpath.addSegment hdir (hescaped segment hsegment) true
      exact ih hnext (hnextDir rfl) (by simp)
    · next hc =>
      refine ih hpath hdir fun d hd => ?_
      rcases List.mem_append.1 hd with hd | hd
      · exact hsegment d hd
      · rw [List.mem_singleton.1 hd]
        exact ⟨fun hslash => hc (Or.inl hslash), fun hk hback => hc (Or.inr ⟨hk, hback⟩)⟩

theorem isRooted_root (k : SchemeKind) : IsRooted k ['/'] :=
  ⟨Settled.slash_cons.2 (.nil k), rfl⟩

theorem isRooted_pathFrom (k : SchemeKind) (s : List Char) : IsRooted k (pathFrom k ['/'] [] s) :=
  (isRooted_root k).pathFrom (Or.inr ⟨[], rfl⟩) (by simp) s

/-- A settled path is read onto any other as it is. -/
theorem pathFrom_settled (path : List Char) (hs : Settled k (segment ++ s))
    (hsegment : '/' ∉ segment) : pathFrom k path segment s = path ++ segment ++ s := by
  have hadd : ∀ (path segment : List Char) (slash : Bool), Settled k segment → '/' ∉ segment →
      addSegment path (escape pathSet segment) slash = path ++ segment ++ (if slash then ['/'] else []) := by
    intro path segment slash hsettled hslash
    have hdots := hsettled.dots segment (by
      rw [Text.splitAt_of_not_mem hslash]
      exact List.mem_singleton_self segment)
    unfold addSegment
    rw [escape_of_kept hsettled.kept]
    simp [hdots]
  induction s generalizing path segment with
  | nil =>
    rw [List.append_nil] at hs ⊢
    rw [pathFrom]
    simpa using hadd path segment false hs hsegment
  | cons c rest ih =>
    rw [pathFrom]
    split
    · next hc =>
      obtain rfl : c = '/' := by
        rcases hc with hc | ⟨hk, rfl⟩
        · exact hc
        · exact absurd (by simp) (hs.backslash hk)
      obtain ⟨hfirst, hrest⟩ := Settled.slash_append.1 hs
      have hnext : Settled k ([] ++ rest) := hrest
      rw [hadd path segment true hfirst hsegment, ih _ hnext List.not_mem_nil]
      simp
    · next hc =>
      have hnext : Settled k (segment ++ [c] ++ rest) := by
        rwa [List.append_assoc, List.singleton_append]
      rw [ih path hnext (by simpa [hsegment] using fun h => hc (Or.inl h.symm))]
      simp

/-! ## Paths of URLs -/

/-- The path behind an authority is empty or rooted, and rooted unless the scheme leaves the path out. -/
theorem hierarchicalPath_cases (k : SchemeKind) (s : List Char) :
    IsRooted k (hierarchicalPath k s) ∨ (k = .plain ∧ s = [] ∧ hierarchicalPath k s = []) := by
  have hroot : ∀ rest, Url.pathFrom .plain [] [] ('/' :: rest) = Url.pathFrom .plain ['/'] [] rest :=
    fun rest => rfl
  unfold hierarchicalPath
  split
  · split
    · exact Or.inr ⟨rfl, rfl, rfl⟩
    · rw [hroot]
      exact Or.inl (isRooted_pathFrom _ _)
    · exact Or.inl (isRooted_pathFrom _ _)
  · split <;> exact Or.inl (isRooted_pathFrom _ _)

/-- A path is read as itself exactly if it is settled. -/
theorem hierarchicalPath_eq_self_iff {rest : List Char} (hk : k ≠ .file) :
    hierarchicalPath k ('/' :: rest) = '/' :: rest ↔ Settled k ('/' :: rest) := by
  have hroot : hierarchicalPath k ('/' :: rest) = Url.pathFrom k ['/'] [] rest := by
    cases k with
    | file => exact absurd rfl hk
    | special => rfl
    | plain => rfl
  rw [hroot]
  constructor
  · intro h
    rw [← h]
    exact (isRooted_pathFrom k rest).settled
  · intro h
    have hrest : Settled k ([] ++ rest) := Settled.slash_cons.1 h
    rw [pathFrom_settled ['/'] hrest List.not_mem_nil]
    rfl

end Url
end SqlCells
