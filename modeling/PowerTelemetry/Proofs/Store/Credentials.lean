import PowerTelemetry.Proofs.Search.Pieces
import PowerTelemetry.Store.Connection
/-!
# Whose credentials count

A URL supplies a user name or a password in its authority or by a parameter of
its query, and a parameter counts more (`Url.suppliedUser?`,
`Url.suppliedPassword?`).  The settings are there for what it does not supply.

Whether they are used is decided by `urlCredentials`, which reads the text of the
URL a second time and looks at the authority only.  `urlCredentials_eq` says that
it finds the authority that the URL has, if the URL is written in full
(`Url.IsPlain`).  What a query supplies it does not see, so a user of the settings
comes before one in the query.  `DatabaseSettings.connection_credentials` says who
connects, and when that is who the URL supplies.
-/

namespace PowerTelemetry

/-! ## What a URL supplies -/

namespace Url

/-- The value of a parameter: of several with one name the last counts. -/
def parameter? (u : Url) (name : String) : Option String :=
  u.parameters.reverse.lookup name

/-- The user name that a URL supplies. -/
def suppliedUser? (u : Url) : Option String :=
  u.parameter? "user" <|>
    if u.username.isEmpty then none else Percent.decodeText? u.username

/-- The password that a URL supplies. -/
def suppliedPassword? (u : Url) : Option String :=
  u.parameter? "password" <|> u.password.bind Percent.decodeText?

end Url

namespace ConnectionOptions

variable {o o' : ConnectionOptions}

/-- A parameter sets the user or the password just when it is called so. -/
theorem setParameter?_eq_some {name value : String} (h : o.setParameter? name value = some o') :
    o'.user = (if name = "user" then value else o.user) ∧
      o'.password = (if name = "password" then some value else o.password) := by
  unfold setParameter? at h
  split at h
  case h_3 | h_9 =>
    obtain ⟨n, -, rfl⟩ := Option.map_eq_some_iff.1 h
    simp
  case h_10 huser hpassword _ _ _ =>
    cases h
    rw [if_neg huser, if_neg hpassword]
    exact ⟨rfl, rfl⟩
  -- what is left is called otherwise, and at most its value is checked
  all_goals grind

theorem lookup_singleton (name : String) (p : String × String) :
    [p].lookup name = if p.1 = name then some p.2 else none := by
  obtain ⟨n, value⟩ := p
  by_cases h : n = name
  · simp [h]
  · have hn : (name == n) = false := by simpa using Ne.symm h
    simp [List.lookup_cons, h, hn]

/-- Of all parameters the last one with a name counts. -/
theorem foldlM_setParameter? {parameters : List (String × String)}
    (h : parameters.foldlM (fun o p => o.setParameter? p.1 p.2) o = some o') :
    o'.user = (parameters.reverse.lookup "user").getD o.user ∧
      o'.password = (parameters.reverse.lookup "password" <|> o.password) := by
  induction parameters generalizing o with
  | nil =>
    cases h
    exact ⟨rfl, rfl⟩
  | cons p parameters ih =>
    rw [List.foldlM_cons] at h
    obtain ⟨first, hfirst, hrest⟩ := Option.bind_eq_some_iff.1 h
    obtain ⟨huser, hpassword⟩ := setParameter?_eq_some hfirst
    obtain ⟨iuser, ipassword⟩ := ih hrest
    rw [List.reverse_cons, List.lookup_append, List.lookup_append, iuser, ipassword, huser,
      hpassword]
    constructor
    · cases parameters.reverse.lookup "user" with
      | some value => rfl
      | none => by_cases hp : p.1 = "user" <;> simp [hp, lookup_singleton]
    · cases parameters.reverse.lookup "password" with
      | some value => rfl
      | none => by_cases hp : p.1 = "password" <;> simp [hp, lookup_singleton]

theorem ofParts?_eq_some {systemUser : String} {u : Url} (h : ofParts? systemUser u = some o) :
    o.user = (if u.username.isEmpty then none else Percent.decodeText? u.username).getD systemUser ∧
      o.password = u.password.bind Percent.decodeText? := by
  have user {user : String} (hu : Percent.decodeText? u.username = some user) :
      (if u.username.isEmpty then systemUser else user) =
        (if u.username.isEmpty then none else Percent.decodeText? u.username).getD systemUser := by
    by_cases hn : u.username.isEmpty <;> simp [hn, hu]
  simp only [ofParts?, bind, pure, standard] at h
  cases hp : u.password <;> cases hh : u.host <;>
    simp only [hp, hh, Option.bind_eq_some_iff, Option.map_eq_some_iff, Option.some.injEq] at h
  case none.none | none.some =>
    obtain ⟨host, -, name, hname, -, rfl, rfl⟩ := h
    exact ⟨user hname, rfl⟩
  case some.none | some.some =>
    obtain ⟨host, -, name, hname, -, ⟨password, hpassword, rfl⟩, rfl⟩ := h
    exact ⟨user hname, hpassword.symm⟩

/-- The options have what the URL supplies. -/
theorem ofUrl?_eq_some {systemUser : String} {u : Url} (h : ofUrl? systemUser u = some o) :
    o.user = u.suppliedUser?.getD systemUser ∧ o.password = u.suppliedPassword? := by
  obtain ⟨parts, hparts, hfold⟩ := Option.bind_eq_some_iff.1 h
  obtain ⟨huser, hpassword⟩ := ofParts?_eq_some hparts
  obtain ⟨fuser, fpassword⟩ := foldlM_setParameter? hfold
  rw [fuser, fpassword, huser, hpassword]
  refine ⟨?_, rfl⟩
  rw [Url.suppliedUser?, Url.parameter?]
  cases u.parameters.reverse.lookup "user" with
  | some value => rfl
  | none => rfl

end ConnectionOptions

/-! ## The authority read twice -/

namespace Url

/-- The text of a URL that is written in full: a scheme, which is not one of the
web, two slashes, and an authority without a number sign.  All of it counts. -/
structure IsPlain (text : String) (scheme after : List Char) : Prop where
  text_eq : text.toList = scheme ++ "://".toList ++ after
  colon : ':' ∉ scheme
  notWeb : usualPort? (String.ofList (scheme.map Char.toLower)) = none
  trimmed : trimmed text.toList = text.toList
  numberSign : '#' ∉ after.takeWhile fun c => c != '/' && c != '?'

/-- Without a number sign an authority ends where `urlCredentials` ends it. -/
theorem takeWhile_endsAuthority {cs : List Char}
    (h : '#' ∉ cs.takeWhile fun c => c != '/' && c != '?') :
    cs.takeWhile (!endsAuthority ·) = cs.takeWhile fun c => c != '/' && c != '?' := by
  induction cs with
  | nil => rfl
  | cons c cs ih =>
    by_cases hc : (c != '/' && c != '?') = true
    · rw [List.takeWhile_cons, if_pos hc] at h
      obtain ⟨hne, hcs⟩ := List.ne_and_not_mem_of_not_mem_cons h
      have hend : (!endsAuthority c) = true := by
        simp_all [endsAuthority, Ne.symm hne]
      rw [List.takeWhile_cons, if_pos hend, List.takeWhile_cons, if_pos hc, ih hcs]
    · have hend : ¬ (!endsAuthority c) = true := by
        simp_all [endsAuthority]
      rw [List.takeWhile_cons, if_neg hend, List.takeWhile_cons, if_neg hc]

/-- Who asks, in an authority. -/
def asking (cs : List Char) : List Char × Option (List Char) :=
  userInfo ((Search.cutAtLast? '@' cs).getD ([], cs)).1

theorem ofAuthority?_eq_some {scheme : String} {cs after : List Char} {u : Url}
    (h : ofAuthority? scheme cs after = some u) : (u.username, u.password) = asking cs := by
  simp only [ofAuthority?, bind, Option.bind_eq_some_iff] at h
  obtain ⟨host, -, port, -, h⟩ := h
  split at h
  · cases h
    rfl
  · -- without a host there is a URL only if nobody asks
    split at h
    · cases h
    next hnobody =>
      split at h
      · cases h
      cases h
      simp only [Bool.or_eq_true, not_or] at hnobody
      obtain ⟨⟨-, hname⟩, hpassword⟩ := hnobody
      have hname : (asking cs).1 = [] := by simpa [asking] using hname
      have hpassword : (asking cs).2 = none := by simpa [asking] using hpassword
      rw [Prod.ext_iff]
      exact ⟨hname.symm, hpassword.symm⟩

/-- The text of a URL that is written in full has the authority that the URL has. -/
theorem urlCredentials_eq {text : String} {scheme after : List Char} {u : Url}
    (h : IsPlain text scheme after) (hu : ofText? text = some u) :
    urlCredentials text = (!u.username.isEmpty, u.password.isSome) := by
  have hcut : Search.cutAt? ':' text.toList = some (scheme, '/' :: '/' :: after) := by
    rw [h.text_eq, List.append_assoc]
    exact Search.cutAt?_append h.colon _
  have hscan : Search.indexOf? "://".toList text.toList = some scheme.length := by
    rw [h.text_eq]
    exact Search.indexOf?_append h.colon _ _
  have hasked : (u.username, u.password) = asking (after.takeWhile (!endsAuthority ·)) := by
    simp only [ofText?, h.trimmed, scheme?, hcut, bind, Option.bind_some] at hu
    split at hu
    · simp only [pure, Option.bind_some, h.notWeb, Option.isSome_none, Bool.false_eq_true,
        if_false] at hu
      exact ofAuthority?_eq_some hu
    · cases hu
  rw [takeWhile_endsAuthority h.numberSign, Prod.ext_iff] at hasked
  have hrest : text.toList.drop (scheme.length + 3) = after := by
    rw [h.text_eq]
    exact List.drop_left' (by simp)
  obtain ⟨husername, hpassword⟩ := hasked
  simp only at husername hpassword
  rw [husername, hpassword]
  simp only [urlCredentials, hscan, hrest, asking, userInfo]
  cases Search.cutAtLast? '@' (after.takeWhile fun c => c != '/' && c != '?') with
  | none => rfl
  | some r =>
    simp only [Option.getD_some]
    cases Search.cutAt? ':' r.1 with
    | none => rfl
    | some s =>
      obtain ⟨name, password⟩ := s
      cases password <;> rfl

end Url

/-! ## Who connects -/

theorem DatabaseSettings.connection?_eq {systemUser : String} {d : DatabaseSettings} {u : Url}
    {o : ConnectionOptions} (hu : Url.ofText? d.url = some u)
    (ho : ConnectionOptions.ofUrl? systemUser u = some o) :
    d.connection? systemUser = some { o with
      user := (if (urlCredentials d.url).1 then u.suppliedUser?
        else d.user <|> u.suppliedUser?).getD systemUser
      password := if (urlCredentials d.url).2 then u.suppliedPassword?
        else d.password <|> u.suppliedPassword? } := by
  obtain ⟨huser, hpassword⟩ := ConnectionOptions.ofUrl?_eq_some ho
  have hfill : (if (urlCredentials d.url).1 then u.suppliedUser?
      else d.user <|> u.suppliedUser?).getD systemUser =
        if (urlCredentials d.url).1 then o.user else d.user.getD o.user := by
    rw [huser]
    split
    · rfl
    · cases d.user <;> rfl
  rw [hfill, ← hpassword, connection?, hu]
  simp only [bind, Option.bind_some, ho]
  rfl

/-- Who connects, and with which password.  What the settings name comes before
what the query supplies, if the scan of the text finds none in the authority;
for a URL that is written in full it finds what is there.  So what the URL
supplies wins, and what it leaves out is filled in, unless the settings name
another one than the query does. -/
theorem DatabaseSettings.connection_credentials {systemUser : String} {d : DatabaseSettings}
    {u : Url} {o : ConnectionOptions} (hu : Url.ofText? d.url = some u)
    (ho : ConnectionOptions.ofUrl? systemUser u = some o) :
    ∃ c, d.connection? systemUser = some c ∧
      c.host = o.host ∧ c.port = o.port ∧ c.database = o.database ∧
      c.user = (if (urlCredentials d.url).1 then u.suppliedUser?
        else d.user <|> u.suppliedUser?).getD systemUser ∧
      c.password = (if (urlCredentials d.url).2 then u.suppliedPassword?
        else d.password <|> u.suppliedPassword?) ∧
      (c.user = (u.suppliedUser? <|> d.user).getD systemUser ↔
        if (urlCredentials d.url).1 then
          u.suppliedUser? = none → d.user.getD systemUser = systemUser
        else ∀ name ∈ u.suppliedUser?, d.user.getD name = name) ∧
      (c.password = (u.suppliedPassword? <|> d.password) ↔
        if (urlCredentials d.url).2 then u.suppliedPassword? = none → d.password = none
        else ∀ password ∈ u.suppliedPassword?, d.password.getD password = password) ∧
      ∀ scheme after, Url.IsPlain d.url scheme after →
        urlCredentials d.url = (!u.username.isEmpty, u.password.isSome) := by
  refine ⟨_, connection?_eq hu ho, rfl, rfl, rfl, rfl, rfl, ?user, ?password,
    fun _ _ h => Url.urlCredentials_eq h hu⟩
  -- what is found, what is supplied and what is set decide between them
  case user =>
    cases (urlCredentials d.url).1 <;> cases u.suppliedUser? <;> cases d.user <;> simp [eq_comm]
  case password =>
    cases (urlCredentials d.url).2 <;> cases u.suppliedPassword? <;> cases d.password <;> simp [eq_comm]

/-- Settings for a URL with a user name in its authority. -/
def DatabaseSettings.owned : DatabaseSettings :=
  { (default : DatabaseSettings) with
    url := "postgres://owner@db/eco", user := some "ingest", password := some "pw" }

/-- The URL's user and the settings' password. -/
theorem DatabaseSettings.connection_credentials_owned :
    ∃ u o c, Url.ofText? owned.url = some u ∧ ConnectionOptions.ofUrl? "root" u = some o ∧
      Url.IsPlain owned.url "postgres".toList "owner@db/eco".toList ∧
      owned.connection? "root" = some c ∧ c.user = "owner" ∧ c.password = some "pw" := by
  let u : Url := ⟨"postgres", "owner".toList, none, some "db", none, "/eco".toList, []⟩
  let o : ConnectionOptions := ⟨"owner", none, "db", 5432, some "eco"⟩
  have hu : Url.ofText? owned.url = some u := by decide +kernel
  have ho : ConnectionOptions.ofUrl? "root" u = some o := by decide +kernel
  have plain : Url.IsPlain owned.url "postgres".toList "owner@db/eco".toList :=
    ⟨by decide +kernel, by decide +kernel, by decide +kernel, by decide +kernel, by decide +kernel⟩
  obtain ⟨c, hc, -, -, -, huser, hpassword, -, -, hplain⟩ := connection_credentials hu ho
  rw [hplain _ _ plain] at huser hpassword
  exact ⟨u, o, c, hu, ho, plain, hc, huser.trans (by decide +kernel),
    hpassword.trans (by decide +kernel)⟩

/-- Settings for a URL with a user name and a password in its query. -/
def DatabaseSettings.queried : DatabaseSettings :=
  { (default : DatabaseSettings) with
    url := "postgres://db/eco?user=owner&password=secret"
    user := some "ingest"
    password := some "pw" }

/-- What the query supplies loses against the settings. -/
theorem DatabaseSettings.not_supplied_queried :
    (Url.ofText? queried.url).map (fun u => (u.suppliedUser?, u.suppliedPassword?)) =
        some (some "owner", some "secret") ∧
      ((Url.ofText? queried.url).bind (ConnectionOptions.ofUrl? "root")).map
        (fun o => (o.user, o.password)) = some ("owner", some "secret") ∧
      (queried.connection? "root").map (fun c => (c.user, c.password)) =
        some ("ingest", some "pw") := by
  decide +kernel

end PowerTelemetry
