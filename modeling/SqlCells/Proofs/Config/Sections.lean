import SqlCells.Config
import SqlCells.Proofs.Url.Reading

/-!
# Sections read back

The parts of a section are put into a URL as they are, and are taken from a URL with the escapes they have
there.  So a section is read back from its URL exactly if its scheme is in lower case and nothing in its user
name, its password and its database is escaped, cut at or resolved when the URL is read.
-/

namespace SqlCells
namespace Section

open Effects Url

variable {s : Section} {driver name : String}

/-- A section of parts: a scheme that is not special, a host name and perhaps more. -/
structure OfParts (s : Section) (driver name : String) : Prop where
  url : s.url = none
  drivername : s.drivername = some driver
  scheme : IsScheme (driver.toList.map Char.toLower)
  plain : schemeKind (driver.toList.map Char.toLower) = .plain
  host : s.host = some name
  isName : IsPlainName name.toList
  port : ∀ n ∈ s.port, n < UInt16.size
  username : s.username ≠ some ""
  password : s.password ≠ some ""
  database : s.database ≠ some ""
  user : s.password.isSome = true → s.username.isSome = true

/-- Whether nothing is changed in the parts of a section when its URL is read. -/
structure Stays (s : Section) : Prop where
  lower : ∀ d ∈ s.drivername, ∀ c ∈ d.toList, c.toLower = c
  username : ∀ t ∈ s.username, ∀ c ∈ t.toList, IsKept userinfoSet c
  password : ∀ t ∈ s.password, ∀ c ∈ t.toList, IsKept userinfoSet c
  database : ∀ t ∈ s.database, Settled .plain t.toList

/-- The URL that the parts of a section are put together to. -/
def urlOf (s : Section) (driver name : String) : Url :=
  ⟨driver.toList, true, (s.username.getD "").toList, s.password.map String.toList, .name name.toList, s.port,
    (s.database.map fun database => '/' :: database.toList).getD [], none, none⟩

theorem toList_ne_nil {t : String} (ht : t ≠ "") : t.toList ≠ [] := fun hnil => ht (String.toList_eq_nil_iff.1 hnil)

/-- What is read of a part that may be left out. -/
theorem nonEmpty_eq_some_iff {part : List Char} {t : String} :
    (if part.isEmpty then none else some (String.ofList part)) = some t ↔ part = t.toList ∧ t ≠ "" := by
  constructor
  · intro h
    split at h
    · cases h
    · next hne =>
      obtain rfl := Option.some.inj h
      refine ⟨String.toList_ofList.symm, fun hempty => hne ?_⟩
      rw [← String.toList_ofList (l := part), hempty]
      rfl
  · rintro ⟨rfl, ht⟩
    rw [if_neg (by simpa using ht), String.ofList_toList]

/-- A section of parts is put together to the text of its URL. -/
theorem toUrl_eq (hs : s.OfParts driver name) : s.toUrl = .ok (String.ofList (s.urlOf driver name).text) := by
  have hjoined : ∀ {user port database : String} {userText portText databaseText : List Char},
      user.toList = userText → port.toList = portText → database.toList = databaseText →
      (driver ++ "://" ++ user ++ (name ++ port) ++ database).toList =
        driver.toList ++ ':' :: '/' :: '/' :: (userText ++ ((name.toList ++ portText) ++ databaseText)) := by
    rintro user port database - - - rfl rfl rfl
    simp
  have hpath : (s.urlOf driver name).pathText = (s.urlOf driver name).path := List.append_nil _
  unfold toUrl
  rw [hs.url, hs.drivername, hs.host]
  refine congrArg Except.ok (String.toList_inj.1 ?_)
  rw [String.toList_ofList, text_eq, authorityText_append rfl, hpath]
  refine hjoined ?_ ?_ ?_
  · unfold userinfoText urlOf
    cases husername : s.username with
    | none =>
      cases hpassword : s.password with
      | none => rfl
      | some password =>
        have huser := hs.user
        rw [husername, hpassword] at huser
        cases huser rfl
    | some username =>
      have hne : username.toList ≠ [] := toList_ne_nil fun hempty => hs.username (hempty ▸ husername)
      obtain ⟨c, rest, hcons⟩ := List.exists_cons_of_ne_nil hne
      cases s.password <;> simp [hcons]
  · unfold portText urlOf
    cases s.port <;> simp [Text.decimal]
  · unfold urlOf
    cases s.database <;> simp

/-- Such a URL is one that is read if nothing in its parts is changed. -/
theorem isRead_urlOf (hs : s.OfParts driver name) (hstays : s.Stays) : (s.urlOf driver name).IsRead := by
  have hdriver : driver.toList.map Char.toLower = driver.toList :=
    (List.map_congr_left (hstays.lower driver hs.drivername)).trans (List.map_id _)
  have hscheme : IsScheme driver.toList := hdriver ▸ hs.scheme
  have hplain : schemeKind driver.toList = .plain := hdriver ▸ hs.plain
  have hkind : schemeKind (s.urlOf driver name).scheme = .plain := hplain
  refine ⟨hscheme, ⟨?_, ?_⟩, ?_, ?_, ?_, nofun, ?_, ⟨nofun, nofun⟩⟩
  · intro c hc
    unfold urlOf at hc
    cases husername : s.username with
    | none =>
      rw [husername] at hc
      cases hc
    | some username =>
      rw [husername] at hc
      exact hstays.username username husername c hc
  · intro p hp
    obtain ⟨password, hpassword, rfl⟩ := Option.map_eq_some_iff.1 hp
    exact ⟨toList_ne_nil fun hempty => hs.password (hempty ▸ hpassword), hstays.password password hpassword⟩
  · rw [hkind]
    exact .named hs.isName
  · intro n hn
    refine ⟨Nat.le_of_lt_succ (hs.port n hn), ?_⟩
    rw [defaultPort?_of_plain hkind]
    nofun
  · rintro (hnone | hfile)
    · cases hnone
    · rw [hkind] at hfile
      cases hfile
  · rw [hkind]
    unfold urlOf
    cases hdatabase : s.database with
    | none => exact .empty
    | some database =>
      exact .rooted ⟨Settled.slash_cons.2 (hstays.database database hdatabase), rfl⟩ nofun nofun

/-- A section that nothing is changed in is read back. -/
theorem ofUrl_of_stays (hs : s.OfParts driver name) (hstays : s.Stays) :
    ofUrl (String.ofList (s.urlOf driver name).text) = .ok s := by
  have hparse := (isRead_urlOf hs hstays).parse_text rfl
  unfold ofUrl
  rw [String.toList_ofList, hparse]
  refine congrArg Except.ok ?_
  have hhost : (urlOf s driver name).host.text? = some name.toList := rfl
  have husername : (if (urlOf s driver name).username.isEmpty then none
      else some (String.ofList (urlOf s driver name).username)) = s.username := by
    unfold urlOf
    cases h : s.username with
    | none => rfl
    | some username => exact nonEmpty_eq_some_iff.2 ⟨rfl, fun hempty => hs.username (hempty ▸ h)⟩
  have hpassword : (urlOf s driver name).password.map String.ofList = s.password := by
    unfold urlOf
    cases s.password <;> simp
  have hdatabase : ((Text.dropPrefix? ['/'] (urlOf s driver name).path).bind fun path =>
      if path.isEmpty then none else some (String.ofList path)) = s.database := by
    unfold urlOf
    cases h : s.database with
    | none => rfl
    | some database => exact nonEmpty_eq_some_iff.2 ⟨rfl, fun hempty => hs.database (hempty ▸ h)⟩
  dsimp only
  rw [hhost, husername, hpassword, hdatabase]
  obtain ⟨url, drivername, host, port, database, username, password⟩ := s
  obtain rfl : url = none := hs.url
  obtain rfl : drivername = some driver := hs.drivername
  obtain rfl : host = some name := hs.host
  simp [urlOf]

/-- A section that is read back is one that nothing is changed in. -/
theorem stays_of_ofUrl (hs : s.OfParts driver name) {text : String} (hread : ofUrl text = .ok s) : s.Stays := by
  unfold ofUrl at hread
  split at hread
  · cases hread
  next u hparse =>
  have hu := isRead_of_parse hparse
  have hread := Except.ok.inj hread
  have hdriver : u.scheme = driver.toList := by
    have hdriver := (congrArg Section.drivername hread).trans hs.drivername
    rw [← Option.some.inj hdriver, String.toList_ofList]
  have hlower : ∀ c ∈ driver.toList, c.toLower = c := fun c hc => (hu.scheme.part c (hdriver ▸ hc)).2
  have hplain : schemeKind u.scheme = .plain := by
    rw [hdriver, ← hs.plain, (List.map_congr_left hlower).trans (List.map_id _)]
  refine ⟨?_, ?_, ?_, ?_⟩
  · intro d hd
    obtain rfl := Option.some.inj (hd.symm.trans hs.drivername)
    exact hlower
  · intro t ht
    obtain ⟨husername, -⟩ := nonEmpty_eq_some_iff.1 ((congrArg Section.username hread).trans ht)
    exact husername ▸ hu.userinfo.username
  · intro t ht
    obtain ⟨p, hp, rfl⟩ := Option.map_eq_some_iff.1 ((congrArg Section.password hread).trans ht)
    rw [String.toList_ofList]
    exact (hu.userinfo.password p hp).2
  · intro t ht
    obtain ⟨path, hpath, hpart⟩ := Option.bind_eq_some_iff.1 ((congrArg Section.database hread).trans ht)
    obtain ⟨rfl, -⟩ := nonEmpty_eq_some_iff.1 hpart
    have hslash : u.path = '/' :: t.toList := Text.dropPrefix?_eq_some_iff.1 hpath
    have hpath := hu.path
    rw [hslash, hplain] at hpath
    exact Settled.slash_cons.1 (hpath.isRooted rfl).settled

/-- A section of parts always has a URL, and it is read back from that URL exactly if its scheme is in lower
case and nothing in its user name, its password and its database is escaped, cut at or resolved. -/
theorem ofUrl_toUrl_iff (hs : s.OfParts driver name) :
    ∃ text, s.toUrl = .ok text ∧ (ofUrl text = .ok s ↔ s.Stays) :=
  ⟨_, toUrl_eq hs, stays_of_ofUrl hs, ofUrl_of_stays hs⟩

theorem ofUrl_toUrl_postgres :
    ∃ text, toUrl ⟨none, some "postgres", some "db.example", some 5432, some "main", some "me", some "a%40b"⟩ =
        .ok text ∧
      ofUrl text =
        .ok ⟨none, some "postgres", some "db.example", some 5432, some "main", some "me", some "a%40b"⟩ := by
  have hscheme : IsScheme ("postgres".toList.map Char.toLower) := ⟨⟨'p', _, rfl, rfl⟩, by decide⟩
  have hname : IsPlainName "db.example".toList := ⟨by decide, by decide, by decide⟩
  have hs : OfParts ⟨none, some "postgres", some "db.example", some 5432, some "main", some "me", some "a%40b"⟩
      "postgres" "db.example" :=
    ⟨rfl, rfl, hscheme, by decide, rfl, hname, by decide, by decide, by decide, by decide, fun _ => rfl⟩
  obtain ⟨text, htext, hiff⟩ := ofUrl_toUrl_iff hs
  have hdatabase : Settled .plain "main".toList := ⟨by decide, by decide, by decide⟩
  exact ⟨text, htext, hiff.2 ⟨by decide, by decide, by decide, by rintro t ⟨⟩; exact hdatabase⟩⟩

/-- A slash in a password ends the authority, so the user name is read as the host. -/
theorem password_read_as_port :
    toUrl ⟨none, some "postgres", some "h", none, some "d", some "u", some "1/w"⟩ =
        .ok "postgres://u:1/w@h/d" ∧
      ofUrl "postgres://u:1/w@h/d" =
        .ok ⟨none, some "postgres", some "u", some 1, some "w@h/d", none, none⟩ := by
  decide +kernel

end Section
end SqlCells
