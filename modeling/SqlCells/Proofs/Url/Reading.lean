import SqlCells.Proofs.Effects
import SqlCells.Proofs.Url.Parts

/-!
# URLs read back

The parts of a URL that was read are settled: nothing is left in them to escape, to drop or to cut at.  The
text of such parts is cut between them and nowhere else, so it is read as the same URL again.
-/

namespace SqlCells
namespace Url

open Effects

variable {k : SchemeKind} {scheme s rest : List Char} {host : Host} {port : Option Nat} {u : Url}

/-! ## What is read -/

/-- Paths as they are read: rooted, left out behind an authority, or without structure. -/
inductive IsPath : SchemeKind → (hasAuthority : Bool) → List Char → Prop
  | rooted {k : SchemeKind} {hasAuthority : Bool} {path : List Char} (hroot : IsRooted k path)
      (hplain : hasAuthority = false → k = .plain)
      (hfile : k = .file → ∀ c ∈ path.tail.head?, c ≠ '/') : IsPath k hasAuthority path
  | empty : IsPath .plain true []
  | unstructured {path : List Char} (hkept : ∀ c ∈ path, IsKept ['?', '#'] c) (hhead : path.head? ≠ some '/') :
      IsPath .plain false path

/-- The parts of a URL that was read. -/
structure IsRead (u : Url) : Prop where
  scheme : IsScheme u.scheme
  userinfo : IsUserinfo u.username u.password
  host : u.host.IsRead (schemeKind u.scheme)
  port : IsPort u.scheme u.port
  /-- User name, password and port belong to a host, and file URLs have none of them. -/
  alone : u.host = .none ∨ schemeKind u.scheme = .file → u.username = [] ∧ u.password = none ∧ u.port = none
  authority : u.hasAuthority = false → u.host = .none
  path : IsPath (schemeKind u.scheme) u.hasAuthority u.path
  query : IsQuery (schemeKind u.scheme) u.query u.fragment

theorem of_readPort (h : readPort host scheme s = .ok (port, rest)) :
    IsPort scheme port ∧ (host = .none → port = none) := by
  unfold readPort at h
  split at h
  · split at h
    · cases h
    · next hsome => exact ⟨isPort_of_takePort h, fun hnone => absurd hnone hsome⟩
  · obtain ⟨rfl, -⟩ := Prod.mk.inj (Except.ok.inj h)
    exact ⟨nofun, fun _ => rfl⟩

theorem isRead_of_readHost (hfile : k ≠ .file) (h : readHost k s = .ok host) : host.IsRead k := by
  unfold readHost at h
  split at h
  · next hk => exact hk ▸ isRead_of_opaqueHost h
  · next hk => exact isRead_of_specialHost hk h fun hk => absurd hk hfile

theorem isPath_hierarchicalPath (hfile : k ≠ .file) (s : List Char) : IsPath k true (hierarchicalPath k s) := by
  rcases hierarchicalPath_cases k s with hroot | ⟨rfl, -, hnil⟩
  · exact .rooted hroot nofun fun hk => absurd hk hfile
  · rw [hnil]
    exact .empty

theorem isRead_of_afterSlashes (hscheme : IsScheme scheme) (hk : schemeKind scheme = k) (hfile : k ≠ .file)
    (h : afterSlashes k scheme s = .ok u) : u.IsRead := by
  unfold afterSlashes at h
  obtain ⟨info, hinfo, h⟩ := of_bind_eq_ok h
  dsimp only at h
  split at h
  · cases h
  obtain ⟨host, hhost, h⟩ := of_bind_eq_ok h
  obtain ⟨⟨port, rest⟩, hport, h⟩ := of_bind_eq_ok h
  dsimp only at h
  split at h
  · cases h
  next hgiven =>
  obtain rfl := Except.ok.inj h
  obtain ⟨huserinfo, hnotGiven⟩ := isUserinfo_of_takeUserinfo hinfo
  obtain ⟨hisPort, hportAlone⟩ := of_readPort hport
  refine ⟨hscheme, huserinfo, ?_, hisPort, ?_, nofun, ?_, ?_⟩
  · rw [hk]
    exact isRead_of_readHost hfile hhost
  · rintro (hnone | hkind)
    · obtain ⟨husername, hpassword⟩ := hnotGiven (by simpa using fun h => hgiven ⟨hnone, h⟩)
      exact ⟨husername, hpassword, hportAlone hnone⟩
    · exact absurd (hk.symm.trans hkind) hfile
  · rw [hk]
    exact isPath_hierarchicalPath hfile _
  · rw [hk]
    exact isQuery_takeQuery k _

theorem isRead_of_takeFileHost (h : takeFileHost s = .ok (host, rest)) : host.IsRead .file := by
  unfold takeFileHost at h
  dsimp only at h
  split at h
  · split at h
    · split at h
      · obtain ⟨rfl, -⟩ := Prod.mk.inj (Except.ok.inj h)
        exact .none (by decide)
      · obtain ⟨read, hread, h⟩ := of_bind_eq_ok h
        obtain ⟨rfl, -⟩ := Prod.mk.inj (Except.ok.inj h)
        split
        · exact .none (by decide)
        · next hlocal => exact isRead_of_specialHost (by decide) hread fun _ => hlocal
    · obtain ⟨rfl, -⟩ := Prod.mk.inj (Except.ok.inj h)
      exact .none (by decide)
  · obtain ⟨rfl, -⟩ := Prod.mk.inj (Except.ok.inj h)
    exact .none (by decide)

/-- The path of a file URL starts with one slash. -/
theorem isPath_filePath (s : List Char) : IsPath .file true (filePath s) := by
  have hdrop : ∀ path : List Char, Settled .file path → Settled .file (path.dropWhile (· == '/')) := by
    intro path hpath
    induction path with
    | nil => exact hpath
    | cons c path ih =>
      by_cases hc : c = '/'
      · subst hc
        exact ih (Settled.slash_cons.1 hpath)
      · rwa [List.dropWhile_cons_of_neg (by simpa using hc)]
  refine .rooted ⟨Settled.slash_cons.2 (hdrop _ (isRooted_pathFrom .file s).settled), rfl⟩ nofun fun _ c hc => ?_
  have hhead := List.head?_dropWhile_not (· == '/') (Url.pathFrom .file ['/'] [] s)
  have hc : ((Url.pathFrom .file ['/'] [] s).dropWhile (· == '/')).head? = some c := hc
  rw [hc] at hhead
  simpa using hhead

theorem schemeKind_file : schemeKind "file".toList = .file := by
  decide

theorem isRead_of_afterFile (h : afterFile s = .ok u) : u.IsRead := by
  unfold afterFile at h
  obtain ⟨⟨host, rest⟩, hhost, h⟩ := of_bind_eq_ok h
  dsimp only at h
  obtain rfl := Except.ok.inj h
  have hscheme : IsScheme "file".toList := ⟨⟨'f', ['i', 'l', 'e'], rfl, rfl⟩, by decide⟩
  refine ⟨hscheme, ⟨nofun, nofun⟩, ?_, nofun, fun _ => ⟨rfl, rfl, rfl⟩, nofun, ?_, ?_⟩
  · rw [schemeKind_file]
    exact isRead_of_takeFileHost hhost
  · rw [schemeKind_file]
    exact isPath_filePath _
  · rw [schemeKind_file]
    exact isQuery_takeQuery .file _

/-- What an escaped text starts with, other than escapes, the text starts with. -/
theorem head?_of_escape {set : List Char} {c : Char} (hc : c ≠ '%') (h : (escape set s).head? = some c) :
    s.head? = some c := by
  cases s with
  | nil => cases h
  | cons d s =>
    obtain ⟨b, bytes, hbytes, -⟩ := Utf8.head_of_encode d []
    rw [escape, List.flatMap_cons] at h
    split at h
    · rw [percentChar, hbytes] at h
      exact absurd (Option.some.inj h).symm hc
    · exact h

/-- A path without structure keeps the signs of query and fragment out. -/
theorem isPath_afterPlain (s : List Char) : IsPath .plain false (afterPlain scheme s).path := by
  have hinside : ∀ c ∈ (takePath s).1, c ≠ '?' ∧ c ≠ '#' := by
    intro c hc
    simpa using List.all_eq_true.1 List.all_takeWhile c hc
  unfold afterPlain
  dsimp only
  split
  · next rest hpath =>
    rw [hpath]
    exact .rooted (isRooted_pathFrom .plain rest) (fun _ => rfl) (by rintro ⟨⟩)
  · next hslash =>
    refine .unstructured (fun c hc => ?_) fun hhead => ?_
    · obtain ⟨hlow, hhigh, -⟩ := isKept_of_mem_escape (by decide) hc
      refine ⟨hlow, hhigh, ?_⟩
      simp only [List.mem_cons, List.not_mem_nil, or_false]
      rcases mem_of_mem_escape hc with hmem | hmem
      · simpa using hinside c hmem
      · rintro (rfl | rfl) <;> exact absurd hmem (by decide)
    · obtain ⟨rest, hrest⟩ := List.head?_eq_some_iff.1 (head?_of_escape (by decide) hhead)
      exact hslash rest hrest

theorem isRead_afterPlain (hscheme : IsScheme scheme) (hk : schemeKind scheme = .plain) (s : List Char) :
    (afterPlain scheme s).IsRead := by
  have hkind : schemeKind (afterPlain scheme s).scheme = .plain := hk
  refine ⟨hscheme, ⟨nofun, nofun⟩, .none (by rw [hkind]; decide), nofun, fun _ => ⟨rfl, rfl, rfl⟩, fun _ => rfl,
    ?_, ?_⟩
  · rw [hkind]
    exact isPath_afterPlain s
  · rw [hkind]
    exact isQuery_takeQuery .plain _

/-- Every URL that is read has such parts. -/
theorem isRead_of_parse (h : parse s = .ok u) : u.IsRead := by
  unfold parse at h
  split at h
  · cases h
  · next scheme rest htake =>
    have hscheme := isScheme_of_takeScheme? htake
    split at h
    · exact isRead_of_afterFile h
    · next hk => exact isRead_of_afterSlashes hscheme hk (by decide) h
    · next hk =>
      split at h
      · exact isRead_of_afterSlashes hscheme hk (by decide) h
      · obtain rfl := Except.ok.inj h
        exact isRead_afterPlain hscheme hk _

/-! ## Paths in texts -/

section Path

variable {path : List Char} {hasAuthority : Bool}

/-- No path holds the signs of query and fragment. -/
theorem IsPath.inside (h : IsPath k hasAuthority path) : ∀ c ∈ path, c ≠ '?' ∧ c ≠ '#' := by
  intro c hc
  have hset : ∀ set : List Char, '?' ∈ set → '#' ∈ set → IsKept set c → c ≠ '?' ∧ c ≠ '#' := by
    rintro set hquestion hhash ⟨-, -, hset⟩
    exact ⟨fun h => hset (h ▸ hquestion), fun h => hset (h ▸ hhash)⟩
  cases h with
  | rooted hroot => exact hset pathSet (by decide) (by decide) (hroot.settled.kept c hc)
  | empty => cases hc
  | unstructured hkept => exact hset _ (by decide) (by decide) (hkept c hc)

/-- Behind an authority stands the path, or what follows it. -/
theorem IsPath.endsAuthority (h : IsPath k true path) (hrest : EndsAuthority k rest) :
    EndsAuthority k (path ++ rest) := by
  cases h with
  | rooted hroot =>
    intro c hc
    rw [List.head?_append, hroot.head] at hc
    obtain rfl := Option.some.inj hc
    cases k <;> rfl
  | empty => exact hrest

theorem IsPath.hierarchicalPath_eq (hfile : k ≠ .file) (h : IsPath k true path) :
    hierarchicalPath k path = path := by
  cases h with
  | rooted hroot =>
    obtain ⟨more, rfl⟩ := List.head?_eq_some_iff.1 hroot.head
    exact (hierarchicalPath_eq_self_iff hfile).2 hroot.settled
  | empty => rfl

theorem IsPath.filePath_eq (h : IsPath .file hasAuthority path) : filePath path = path := by
  cases h with
  | rooted hroot hplain hfile =>
    obtain ⟨more, rfl⟩ := List.head?_eq_some_iff.1 hroot.head
    have hmore : Settled .file ([] ++ '/' :: more) := hroot.settled
    have hdrop : (['/'] ++ [] ++ '/' :: more).dropWhile (· == '/') = more := by
      have hhead := hfile rfl
      cases more with
      | nil => rfl
      | cons c more => simpa using hhead c rfl
    unfold filePath
    rw [pathFrom_settled ['/'] hmore List.not_mem_nil, hdrop]

theorem IsPath.hasAuthority_eq (hk : k ≠ .plain) (h : IsPath k hasAuthority path) : hasAuthority = true := by
  cases h with
  | rooted hroot hplain =>
    cases hasAuthority with
    | true => rfl
    | false => exact absurd (hplain rfl) hk
  | empty => rfl
  | unstructured => exact absurd rfl hk

theorem IsPath.printable (h : IsPath k hasAuthority path) (hstructured : hasAuthority = false → path.head? = some '/')
    {c : Char} (hc : c ∈ path) : 0x20 < c.toNat := by
  cases h with
  | rooted hroot => exact (hroot.settled.kept c hc).printable (by decide)
  | empty => cases hc
  | unstructured hkept hhead => exact absurd (hstructured rfl) hhead

/-- A path without an authority that has structure is rooted. -/
theorem IsPath.isRooted (h : IsPath k hasAuthority path) (hhead : path.head? = some '/') : IsRooted k path := by
  cases h with
  | rooted hroot => exact hroot
  | empty => cases hhead
  | unstructured hkept hnone => exact absurd hhead hnone

theorem IsPath.of_head?_ne (h : IsPath k false path) (hhead : path.head? ≠ some '/') :
    k = .plain ∧ ∀ c ∈ path, IsKept ['?', '#'] c := by
  cases h with
  | rooted hroot => exact absurd hroot.head hhead
  | unstructured hkept => exact ⟨rfl, hkept⟩

/-- A rooted path behind a scheme. -/
theorem afterPlain_append {more : List Char} (hinside : ∀ c ∈ '/' :: more, c ≠ '?' ∧ c ≠ '#')
    {query fragment : Option (List Char)} (hquery : IsQuery .plain query fragment) :
    afterPlain scheme ('/' :: more ++ queryText query fragment) =
      ⟨scheme, false, [], none, .none, none, pathFrom .plain ['/'] [] more, query, fragment⟩ := by
  unfold afterPlain
  rw [takePath_append hinside]
  dsimp only
  rw [takeQuery_queryText hquery]
  rfl

/-- What stands in front of a path that starts with two slashes is left out again. -/
theorem pathFrom_dotted (more : List Char) :
    pathFrom .plain ['/'] [] ('.' :: '/' :: more) = pathFrom .plain ['/'] [] more := by
  have hdot : addSegment ['/'] (escape pathSet ['.']) true = ['/'] := by decide
  show pathFrom .plain (addSegment ['/'] (escape pathSet ['.']) true) [] more = _
  rw [hdot]

/-- A rooted path is read back, also if it starts with the two slashes that announce an authority. -/
theorem afterPlain_path (hroot : IsRooted .plain path) {query fragment : Option (List Char)}
    (hquery : IsQuery .plain query fragment)
    (hs : s = (if Text.startsWith path ['/', '/'] then ['/', '.'] else []) ++ (path ++ queryText query fragment)) :
    (match s with
      | '/' :: '/' :: rest => afterSlashes .plain scheme rest
      | _ => .ok (afterPlain scheme s)) =
    .ok ⟨scheme, false, [], none, .none, none, path, query, fragment⟩ := by
  subst hs
  have hpath : IsPath .plain false path := .rooted hroot (fun _ => rfl) nofun
  have hinside := hpath.inside
  obtain ⟨more, rfl⟩ := List.head?_eq_some_iff.1 hroot.head
  have hmore : Settled .plain ([] ++ more) := Settled.slash_cons.1 hroot.settled
  by_cases hdouble : Text.startsWith ('/' :: more) ['/', '/'] = true
  · have hdotted : ∀ c ∈ '/' :: '.' :: '/' :: more, c ≠ '?' ∧ c ≠ '#' := by
      intro c hc
      rcases List.mem_cons.1 hc with rfl | hc
      · decide
      · rcases List.mem_cons.1 hc with rfl | hc
        · decide
        · exact hinside c hc
    rw [if_pos hdouble]
    show Except.ok (afterPlain scheme ('/' :: ('.' :: '/' :: more) ++ queryText query fragment)) = _
    rw [afterPlain_append hdotted hquery, pathFrom_dotted, pathFrom_settled ['/'] hmore List.not_mem_nil]
    rfl
  · rw [if_neg hdouble, List.nil_append]
    split
    · next rest heq =>
      have hrest : more ++ queryText query fragment = '/' :: rest := (List.cons.inj heq).2
      cases more with
      | nil =>
        have hhead := head?_queryText query fragment '/' (by rw [← List.nil_append (queryText query fragment), hrest]; rfl)
        exact absurd hhead (by decide)
      | cons c more =>
        obtain ⟨rfl, -⟩ := List.cons.inj hrest
        exact absurd rfl hdouble
    · rw [afterPlain_append hinside hquery, pathFrom_settled ['/'] hmore List.not_mem_nil]
      rfl

end Path

/-! ## Texts -/

/-- The host as it stands in the text, empty without one. -/
def hostText (u : Url) : List Char :=
  u.host.text?.getD []

/-- The port as it stands in the text, with its colon. -/
def portText (u : Url) : List Char :=
  match u.port with
  | some n => ':' :: Text.decimal n
  | none => []

/-- The text from the path on. -/
def pathText (u : Url) : List Char :=
  u.path ++ queryText u.query u.fragment

theorem text_eq (u : Url) : u.text = u.scheme ++ ':' :: (u.authorityText ++ u.pathText) := by
  simp [text, pathText, queryText]

theorem authorityText_append (hauthority : u.hasAuthority = true) :
    u.authorityText ++ rest = '/' :: '/' :: (u.userinfoText ++ ((u.hostText ++ u.portText) ++ rest)) := by
  unfold authorityText hostText portText
  rw [if_pos hauthority]
  cases u.port <;> simp

theorem isHostChar_of_mem_portText {c : Char} (hc : c ∈ u.portText) : IsHostChar c := by
  unfold portText at hc
  split at hc
  · rcases List.mem_cons.1 hc with rfl | hc
    · decide
    · exact (isBareChar_of_isDigit (isDigit_of_mem_toDigits hc)).1
  · cases hc

theorem endsAuthority_queryText (k : SchemeKind) (query fragment : Option (List Char)) :
    EndsAuthority k (queryText query fragment) := by
  intro c hc
  rcases head?_queryText query fragment c hc with rfl | rfl <;> cases k <;> rfl

namespace IsRead

theorem text?_eq_none_iff (h : Host) : h.text? = none ↔ h = .none := by
  cases h <;> simp [Host.text?]

theorem isHostChar_of_mem_hostText (hu : u.IsRead) {c : Char} (hc : c ∈ u.hostText) : IsHostChar c := by
  unfold hostText at hc
  cases ht : u.host.text? with
  | none =>
    rw [ht] at hc
    cases hc
  | some t =>
    rw [ht] at hc
    exact (hu.host.text ht).2.2.1 c hc

/-- Special schemes have a host. -/
theorem host_ne_none (hu : u.IsRead) (hk : schemeKind u.scheme = .special) : u.host ≠ .none := by
  intro hnone
  have hread := hu.host
  rw [hnone, hk] at hread
  cases hread with
  | none hspecial => exact absurd rfl hspecial

/-- A host is read back from its text, and no host from none. -/
theorem readHost_hostText (hu : u.IsRead) (hhost : u.host = .none → schemeKind u.scheme = .plain) :
    readHost (schemeKind u.scheme) u.hostText = .ok u.host ∧ (u.host ≠ .none → u.hostText ≠ []) := by
  unfold hostText
  cases ht : u.host.text? with
  | none =>
    have hnone := (text?_eq_none_iff u.host).1 ht
    rw [hhost hnone, hnone]
    exact ⟨rfl, fun h => absurd rfl h⟩
  | some t =>
    obtain ⟨hread, hne, -⟩ := hu.host.text ht
    exact ⟨hread, fun _ => hne⟩

/-- The host ends where the port or the path begins. -/
theorem hostLength_hostText (hu : u.IsRead) (hrest : EndsAuthority (schemeKind u.scheme) rest) :
    hostLength (schemeKind u.scheme) false (u.hostText ++ (u.portText ++ rest)) = u.hostText.length := by
  have hport : hostLength (schemeKind u.scheme) false (u.portText ++ rest) = 0 := by
    unfold portText
    split
    · simp [hostLength]
    · cases rest with
      | nil => rfl
      | cons c rest =>
        rw [List.nil_append, hostLength, hrest c rfl]
        rfl
  unfold hostText
  cases ht : u.host.text? with
  | none => exact hport
  | some t =>
    obtain ⟨-, -, -, hlength⟩ := hu.host.text ht
    show hostLength _ false (t ++ (u.portText ++ rest)) = t.length
    rw [hlength, hport]
    rfl

theorem readPort_portText (hu : u.IsRead) (hrest : EndsAuthority (schemeKind u.scheme) rest) :
    readPort u.host u.scheme (u.portText ++ rest) = .ok (u.port, rest) := by
  unfold portText
  cases hport : u.port with
  | none =>
    unfold readPort
    rw [List.nil_append]
    split
    · have hcolon := hrest ':' rfl
      cases hk : schemeKind u.scheme <;> rw [hk] at hcolon <;> cases hcolon
    · rfl
  | some n =>
    have hhost : u.host ≠ .none := by
      intro hnone
      rw [(hu.alone (Or.inl hnone)).2.2] at hport
      cases hport
    show (if u.host = .none then _ else takePort u.scheme (Text.decimal n ++ rest)) = _
    rw [if_neg hhost, takePort_append (hport ▸ hu.port) hrest]

/-- What follows the two slashes is read back. -/
theorem afterSlashes_text (hu : u.IsRead) (hauthority : u.hasAuthority = true)
    (hfile : schemeKind u.scheme ≠ .file) :
    afterSlashes (schemeKind u.scheme) u.scheme
      (u.userinfoText ++ ((u.hostText ++ u.portText) ++ u.pathText)) = .ok u := by
  have hpath : IsPath (schemeKind u.scheme) true u.path := hauthority ▸ hu.path
  have hrest : EndsAuthority (schemeKind u.scheme) u.pathText :=
    hpath.endsAuthority (endsAuthority_queryText _ u.query u.fragment)
  have hchars : ∀ c ∈ u.hostText ++ u.portText, endsAuthority (schemeKind u.scheme) c = false ∧ c ≠ '@' := by
    intro c hc
    have hchar : IsHostChar c := by
      rcases List.mem_append.1 hc with hc | hc
      · exact hu.isHostChar_of_mem_hostText hc
      · exact isHostChar_of_mem_portText hc
    refine ⟨hchar.endsAuthority _, ?_⟩
    rintro rfl
    exact hchar.2.2 (by decide)
  have hhostless : u.host = .none → schemeKind u.scheme = .plain := by
    intro hnone
    cases hk : schemeKind u.scheme with
    | plain => rfl
    | file => exact absurd hk hfile
    | special => exact absurd hnone (hu.host_ne_none hk)
  obtain ⟨hreadHost, hne⟩ := hu.readHost_hostText hhostless
  have hspecial : ¬ (schemeKind u.scheme = .special ∧ u.hostText.isEmpty = true) := by
    rintro ⟨hk, hempty⟩
    exact hne (hu.host_ne_none hk) (List.isEmpty_iff.1 hempty)
  have hgiven : ¬ (u.host = .none ∧ (!u.username.isEmpty || u.password.isSome) = true) := by
    rintro ⟨hnone, hgiven⟩
    obtain ⟨husername, hpassword, -⟩ := hu.alone (Or.inl hnone)
    rw [husername, hpassword] at hgiven
    cases hgiven
  unfold afterSlashes
  rw [takeUserinfo_userinfoText hchars hrest hu.userinfo]
  show (if _ ∧ _ then _ else _) = _
  dsimp only
  rw [List.append_assoc, hu.hostLength_hostText hrest, List.take_left, List.drop_left, if_neg hspecial, hreadHost]
  show (readPort _ _ _ >>= _) = _
  rw [hu.readPort_portText hrest]
  show (if _ ∧ _ then _ else _) = _
  rw [if_neg hgiven]
  unfold pathText
  rw [takePath_append hpath.inside]
  dsimp only
  rw [takeQuery_queryText hu.query, hpath.hierarchicalPath_eq hfile, ← hauthority]

theorem host_ne_localhost {h : Host} (hread : h.IsRead .file) : h ≠ .name "localhost".toList := by
  rintro rfl
  cases hread with
  | domain hk hs hlocal => exact hlocal rfl rfl

/-- The host of a file URL is read up to its path. -/
theorem takeFileHost_hostText (hu : u.IsRead) (hfile : schemeKind u.scheme = .file) (hrest : EndsAuthority .file rest) :
    takeFileHost ('/' :: '/' :: (u.hostText ++ rest)) = .ok (u.host, rest) := by
  have hread : u.host.IsRead .file := hfile ▸ hu.host
  have htake := takeWhile_authority (fun c hc => (hu.isHostChar_of_mem_hostText hc).endsAuthority .file) hrest
  show (if ((u.hostText ++ rest).takeWhile fun c => !endsAuthority .file c).isEmpty then _ else _) = _
  rw [htake]
  unfold hostText
  cases ht : u.host.text? with
  | none =>
    rw [(text?_eq_none_iff u.host).1 ht]
    rfl
  | some t =>
    obtain ⟨hspecial, hne, -⟩ := hread.text ht
    have hspecial : specialHost t = .ok u.host := hspecial
    show (if t.isEmpty then _ else _) = _
    rw [List.isEmpty_eq_false_iff.2 hne]
    show (specialHost t >>= _) = _
    rw [hspecial]
    show Except.ok (if u.host = .name "localhost".toList then _ else _, (t ++ rest).drop t.length) = _
    rw [if_neg (host_ne_localhost hread), List.drop_left]

/-- What follows the scheme of a file URL is read back. -/
theorem afterFile_text (hu : u.IsRead) (hfile : schemeKind u.scheme = .file) :
    afterFile (u.authorityText ++ u.pathText) = .ok u := by
  have hauthority : u.hasAuthority = true := hu.path.hasAuthority_eq (by rw [hfile]; decide)
  have hpath : IsPath .file true u.path := by
    have hpath := hu.path
    rwa [hauthority, hfile] at hpath
  have hrest : EndsAuthority .file u.pathText := hpath.endsAuthority (endsAuthority_queryText _ u.query u.fragment)
  have hquery : IsQuery .file u.query u.fragment := hfile ▸ hu.query
  obtain ⟨husername, hpassword, hport⟩ := hu.alone (Or.inr hfile)
  have hscheme : u.scheme = "file".toList := by
    have hkind := hfile
    unfold schemeKind at hkind
    split at hkind
    · next heq => rw [← heq, String.toList_ofList]
    all_goals cases hkind
  have htext : u.authorityText ++ u.pathText = '/' :: '/' :: (u.hostText ++ u.pathText) := by
    rw [authorityText_append hauthority]
    simp [userinfoText, portText, husername, hpassword, hport]
  have htake : takePath u.pathText = (u.path, queryText u.query u.fragment) := takePath_append hpath.inside _ _
  unfold afterFile
  rw [htext, hu.takeFileHost_hostText hfile hrest]
  dsimp only [bind, Except.bind]
  rw [htake]
  dsimp only
  rw [takeQuery_queryText hquery, hpath.filePath_eq, ← hauthority, ← hscheme, ← husername, ← hpassword, ← hport]

/-! ## Reading the text of a URL -/

/-- User name and password hold nothing that ends the authority. -/
theorem of_mem_userinfoText (hu : u.IsRead) {c : Char} (hc : c ∈ u.userinfoText) :
    0x20 < c.toNat ∧ ∀ k, endsAuthority k c = false := by
  have hkept : IsKept userinfoSet c → 0x20 < c.toNat ∧ ∀ k, endsAuthority k c = false := fun hkept =>
    ⟨hkept.printable (by decide), fun k => not_endsAuthority_of_isKept hkept⟩
  have hcolon : 0x20 < ':'.toNat ∧ ∀ k, endsAuthority k ':' = false := ⟨by decide, fun k => by cases k <;> rfl⟩
  have hat : 0x20 < '@'.toNat ∧ ∀ k, endsAuthority k '@' = false := ⟨by decide, fun k => by cases k <;> rfl⟩
  unfold userinfoText at hc
  split at hc
  · cases hc
  · rcases List.mem_append.1 hc with hc | hc
    · exact hkept (hu.userinfo.username c hc)
    · exact List.mem_singleton.1 hc ▸ hat
  · next password hpassword =>
    rcases List.mem_append.1 hc with hc | hc
    · rcases List.mem_append.1 hc with hc | hc
      · exact hkept (hu.userinfo.username c hc)
      · rcases List.mem_cons.1 hc with rfl | hc
        · exact hcolon
        · exact hkept ((hu.userinfo.password password hpassword).2 c hc)
    · exact List.mem_singleton.1 hc ▸ hat

theorem printable_of_mem_authorityText (hu : u.IsRead) {c : Char} (hc : c ∈ u.authorityText) : 0x20 < c.toNat := by
  cases hauthority : u.hasAuthority with
  | true =>
    rw [← List.append_nil u.authorityText, authorityText_append hauthority, List.append_nil] at hc
    rcases List.mem_cons.1 hc with rfl | hc
    · decide
    rcases List.mem_cons.1 hc with rfl | hc
    · decide
    rcases List.mem_append.1 hc with hc | hc
    · exact (hu.of_mem_userinfoText hc).1
    rcases List.mem_append.1 hc with hc | hc
    · exact (hu.isHostChar_of_mem_hostText hc).1
    · exact (isHostChar_of_mem_portText hc).1
  | false =>
    unfold authorityText at hc
    rw [hauthority, if_neg Bool.false_ne_true] at hc
    split at hc
    · revert c
      decide
    · cases hc

theorem printable_of_mem_pathText (hu : u.IsRead) (hstructured : u.isOpaque = false) {c : Char}
    (hc : c ∈ u.pathText) : 0x20 < c.toNat := by
  rcases List.mem_append.1 hc with hc | hc
  · refine hu.path.printable (fun hauthority => ?_) hc
    simpa [isOpaque, hauthority] using hstructured
  · rcases List.mem_append.1 hc with hc | hc
    · cases hquery : u.query with
      | none =>
        rw [hquery] at hc
        cases hc
      | some q =>
        rw [hquery] at hc
        rcases List.mem_cons.1 hc with rfl | hc
        · decide
        · refine (hu.query.query q hquery c hc).printable ?_
          cases schemeKind u.scheme <;> decide
    · cases hfragment : u.fragment with
      | none =>
        rw [hfragment] at hc
        cases hc
      | some f =>
        rw [hfragment] at hc
        rcases List.mem_cons.1 hc with rfl | hc
        · decide
        · exact (hu.query.fragment f hfragment c hc).printable (by decide)

/-- There is nothing to drop from the text of a URL. -/
theorem clean_text (hu : u.IsRead) (hstructured : u.isOpaque = false) : clean u.text = u.text := by
  refine clean_of_printable fun c hc => ?_
  rw [text_eq] at hc
  rcases List.mem_append.1 hc with hc | hc
  · exact printable_of_isSchemePart (hu.scheme.part c hc).1
  rcases List.mem_cons.1 hc with rfl | hc
  · decide
  rcases List.mem_append.1 hc with hc | hc
  · exact hu.printable_of_mem_authorityText hc
  · exact hu.printable_of_mem_pathText hstructured hc

/-- The slashes in front of a host end where it begins. -/
theorem dropWhile_slashes (hu : u.IsRead) (hk : schemeKind u.scheme = .special) (rest : List Char) :
    (u.userinfoText ++ ((u.hostText ++ u.portText) ++ rest)).dropWhile (fun c => c == '/' || c == '\\') =
      u.userinfoText ++ ((u.hostText ++ u.portText) ++ rest) := by
  have hhost := hu.host_ne_none hk
  have hne : u.userinfoText ++ u.hostText ≠ [] := by
    intro hnil
    exact (hu.readHost_hostText fun hnone => absurd hnone hhost).2 hhost (List.append_eq_nil_iff.1 hnil).2
  have hends : ∀ c ∈ u.userinfoText ++ u.hostText, endsAuthority .special c = false := by
    intro c hc
    rcases List.mem_append.1 hc with hc | hc
    · exact (hu.of_mem_userinfoText hc).2 _
    · exact (hu.isHostChar_of_mem_hostText hc).endsAuthority _
  have hassoc : u.userinfoText ++ ((u.hostText ++ u.portText) ++ rest) =
      (u.userinfoText ++ u.hostText) ++ (u.portText ++ rest) := by simp
  rw [hassoc]
  obtain ⟨c, more, hcons⟩ := List.exists_cons_of_ne_nil hne
  rw [hcons] at hends ⊢
  have hc := hends c List.mem_cons_self
  simp only [endsAuthority, Bool.or_eq_false_iff] at hc
  rw [List.cons_append, List.dropWhile_cons_of_neg]
  have hback : (c == '\\') = false := hc.2
  rw [hc.1.1.1, hback]
  exact Bool.false_ne_true

/-- The text of a URL that was read is read as that URL, unless its path has no structure. -/
theorem parse_text (hu : u.IsRead) (hstructured : u.isOpaque = false) : parse u.text = .ok u := by
  unfold parse
  rw [hu.clean_text hstructured, text_eq, takeScheme?_append hu.scheme]
  dsimp only
  cases hk : schemeKind u.scheme with
  | file => exact hu.afterFile_text hk
  | special =>
    have hauthority : u.hasAuthority = true := hu.path.hasAuthority_eq (by rw [hk]; decide)
    have hslashes := hu.afterSlashes_text hauthority (by rw [hk]; decide)
    rw [hk] at hslashes
    rw [authorityText_append hauthority]
    show afterSlashes .special u.scheme
      ((u.userinfoText ++ ((u.hostText ++ u.portText) ++ u.pathText)).dropWhile fun c => c == '/' || c == '\\') = _
    rw [hu.dropWhile_slashes hk, hslashes]
  | plain =>
    cases hauthority : u.hasAuthority with
    | true =>
      have hslashes := hu.afterSlashes_text hauthority (by rw [hk]; decide)
      rw [authorityText_append hauthority]
      rwa [hk] at hslashes
    | false =>
      have hhead : u.path.head? = some '/' := by simpa [isOpaque, hauthority] using hstructured
      have hpath : IsPath .plain false u.path := by
        have hpath := hu.path
        rwa [hauthority, hk] at hpath
      have hquery : IsQuery .plain u.query u.fragment := hk ▸ hu.query
      have htext : u.authorityText = if Text.startsWith u.path ['/', '/'] then ['/', '.'] else [] := by
        unfold authorityText
        rw [hauthority]
        rfl
      have hhost := hu.authority hauthority
      obtain ⟨husername, hpassword, hport⟩ := hu.alone (Or.inl hhost)
      have heta : (⟨u.scheme, u.hasAuthority, u.username, u.password, u.host, u.port, u.path, u.query,
          u.fragment⟩ : Url) = u := rfl
      rw [hauthority, husername, hpassword, hhost, hport] at heta
      unfold pathText
      rw [htext]
      exact (afterPlain_path (hpath.isRooted hhead) hquery rfl).trans (congrArg Except.ok heta)

theorem isKept_of_mem_formPair (k : SchemeKind) (pair : List Char × List Char) {c : Char}
    (hc : c ∈ formPair pair.1 pair.2) : IsKept (querySetOf k) c := by
  have hset : ∀ d ∈ querySetOf k, d ∈ specialQuerySet := by cases k <;> decide
  have hform : ∀ s : List Char, c ∈ formEncode s → IsKept (querySetOf k) c := fun s hc =>
    (isFormChar_of_mem_formEncode hc).isKept.1.mono hset
  rcases List.mem_append.1 hc with hc | hc
  · exact hform _ hc
  · rcases List.mem_cons.1 hc with rfl | hc
    · cases k <;> decide
    · exact hform _ hc

/-- Parameters that are added to a URL need no escapes. -/
theorem addPairs (hu : u.IsRead) (pairs : List (List Char × List Char)) : (u.addPairs pairs).IsRead := by
  refine ⟨hu.scheme, hu.userinfo, hu.host, hu.port, hu.alone, hu.authority, hu.path, ⟨?_, hu.query.fragment⟩⟩
  intro q hq c hc
  obtain rfl := Option.some.inj hq
  rcases Text.of_mem_joinWith hc with hc | ⟨part, hpart, hc⟩
  · obtain rfl := List.mem_singleton.1 hc
    show IsKept (querySetOf (schemeKind u.scheme)) '&'
    cases schemeKind u.scheme <;> decide
  · have hadded : part ∈ pairs.map (fun pair => formPair pair.1 pair.2) →
        IsKept (querySetOf (schemeKind u.scheme)) c := by
      intro hmem
      obtain ⟨pair, -, rfl⟩ := List.mem_map.1 hmem
      exact isKept_of_mem_formPair _ pair hc
    cases hquery : u.query with
    | none =>
      rw [hquery] at hpart
      exact hadded hpart
    | some query =>
      rw [hquery] at hpart
      dsimp only at hpart
      split at hpart
      · exact hadded hpart
      · rcases List.mem_cons.1 hpart with rfl | hpart
        · exact hu.query.query part hquery c hc
        · exact hadded hpart

end IsRead

end Url
end SqlCells
