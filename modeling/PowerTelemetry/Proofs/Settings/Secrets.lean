import PowerTelemetry.Proofs.Settings.Placeholders
import PowerTelemetry.Proofs.Settings.Rules
import PowerTelemetry.Proofs.Yaml.Fields
/-!
# Secrets from the environment

A text may set a password to the value of a variable, on a line of its own between double quotes
(`SecretText`).  The value is put into the text before it is read as YAML.

* Documents that differ in a password (`passwords`) give settings that differ at most in the
  passwords of the broker and of the database (`Settings.rel_ofDocument?`).  Overrides and rules
  keep it so.
* The texts with two values for the variable have such documents, if both values are read as some
  text between double quotes (`exists_ofText`).

So where the line is the broker's, the value is its password, and nothing else depends on it
(`ofText_assign_secret`).  Values that mean more than their characters between double quotes may
end the password, and then change other settings (`not_ofText_assign_anyValue`).
-/

namespace PowerTelemetry

open Yaml Yaml.Variation

/-! ## Passwords in documents -/

/-- The texts of two passwords. -/
def passwords (a b : String) : Yaml.Variation :=
  ⟨"password", a, b⟩

/-- The broker with a password. -/
def BrokerSettings.withPassword (s : BrokerSettings) (p : Option String) : BrokerSettings :=
  { s with password := p }

/-- The database with a password. -/
def DatabaseSettings.withPassword (s : DatabaseSettings) (p : Option String) : DatabaseSettings :=
  { s with password := p }

variable {a b : String} {d e : Yaml.Document} {node node' : Yaml.Node}

theorem passwords_ne {name : String} (h : (name == "password") = false) :
    name ≠ (passwords a b).name := by
  simpa [passwords] using h

theorem BrokerSettings.rel_ofNode? (h : (passwords a b).Documents d e)
    (hnode : (passwords a b).Same node node') :
    Option.Rel (fun s s' => ∃ p, (passwords a b).Texts s.password p ∧ s' = s.withPassword p)
      (BrokerSettings.ofNode? d node) (BrokerSettings.ofNode? e node') := by
  refine rel_bind (h.record? _ hnode) fun fields fields' hfields => ?_
  refine rel_bind_eq (hfields.field? (passwords_ne rfl) _ h.flag?) fun enabled => ?_
  refine rel_bind_eq (hfields.required? (passwords_ne rfl) h.text?) fun host => ?_
  refine rel_bind_eq (hfields.required? (passwords_ne rfl) h.uint16?) fun port => ?_
  refine rel_bind_eq (hfields.field? (passwords_ne rfl) _ (h.optional? h.text?)) fun username => ?_
  refine rel_bind (hfields.optionalText? h _) fun password password' hpassword => ?_
  refine rel_bind_eq (hfields.field? (passwords_ne rfl) _ (h.optional? h.uint64?)) fun alive => ?_
  refine rel_bind_eq (hfields.field? (passwords_ne rfl) _ (h.optional? h.flag?)) fun clean => ?_
  refine rel_bind_eq (hfields.field? (passwords_ne rfl) _ h.text?) fun topic => ?_
  refine rel_bind_eq (hfields.field? (passwords_ne rfl) _ h.uint8?) fun quality => ?_
  exact .some ⟨password', hpassword, rfl⟩

theorem DatabaseSettings.rel_ofNode? (h : (passwords a b).Documents d e)
    (hnode : (passwords a b).Same node node') :
    Option.Rel (fun s s' => ∃ p, (passwords a b).Texts s.password p ∧ s' = s.withPassword p)
      (DatabaseSettings.ofNode? d node) (DatabaseSettings.ofNode? e node') := by
  refine rel_bind (h.record? _ hnode) fun fields fields' hfields => ?_
  refine rel_bind_eq (hfields.required? (passwords_ne rfl) h.text?) fun url => ?_
  refine rel_bind_eq (hfields.field? (passwords_ne rfl) _ (h.optional? h.text?)) fun user => ?_
  refine rel_bind (hfields.optionalText? h _) fun password password' hpassword => ?_
  refine rel_bind_eq (hfields.field? (passwords_ne rfl) _ h.text?) fun lead => ?_
  refine rel_bind_eq (hfields.field? (passwords_ne rfl) _ (h.optional? h.text?)) fun shared => ?_
  refine rel_bind_eq (hfields.field? (passwords_ne rfl) _ h.uint64?) fun capacity => ?_
  refine rel_bind_eq (hfields.field? (passwords_ne rfl) _ h.uint32?) fun connections => ?_
  exact .some ⟨password', hpassword, rfl⟩

theorem CloudSettings.ofNode?_eq (h : (passwords a b).Documents d e)
    (hnode : (passwords a b).Same node node') :
    CloudSettings.ofNode? e node' = CloudSettings.ofNode? d node := by
  refine eq_of_rel (rel_bind (h.record? _ hnode) fun fields fields' hfields => ?_)
  refine rel_bind_eq (hfields.field? (passwords_ne rfl) _ h.text?) fun base => ?_
  refine rel_bind_eq (hfields.field? (passwords_ne rfl) _ h.text?) fun access => ?_
  refine rel_bind_eq (hfields.field? (passwords_ne rfl) _ h.text?) fun secret => ?_
  refine rel_bind_eq (hfields.field? (passwords_ne rfl) _ (h.list? h.text?)) fun devices => ?_
  exact .some rfl

theorem PollingSettings.ofNode?_eq (h : (passwords a b).Documents d e)
    (hnode : (passwords a b).Same node node') :
    PollingSettings.ofNode? e node' = PollingSettings.ofNode? d node := by
  refine eq_of_rel (rel_bind (h.record? _ hnode) fun fields fields' hfields => ?_)
  refine rel_bind_eq (hfields.field? (passwords_ne rfl) _ h.flag?) fun enabled => ?_
  refine rel_bind_eq (hfields.field? (passwords_ne rfl) _ h.uint64?) fun interval => ?_
  exact .some rfl

theorem ThrottleSettings.ofNode?_eq (h : (passwords a b).Documents d e)
    (hnode : (passwords a b).Same node node') :
    ThrottleSettings.ofNode? e node' = ThrottleSettings.ofNode? d node := by
  refine eq_of_rel (rel_bind (h.record? _ hnode) fun fields fields' hfields => ?_)
  refine rel_bind_eq (hfields.field? (passwords_ne rfl) _ h.flag?) fun enabled => ?_
  refine rel_bind_eq (hfields.field? (passwords_ne rfl) _ h.flag?) fun dry => ?_
  refine rel_bind_eq (hfields.field? (passwords_ne rfl) _ h.uint64?) fun interval => ?_
  refine rel_bind_eq (hfields.field? (passwords_ne rfl) _ h.text?) fun inverter => ?_
  refine rel_bind_eq (hfields.field? (passwords_ne rfl) _ h.text?) fun battery => ?_
  refine rel_bind_eq (hfields.field? (passwords_ne rfl) _ h.int64?) fun base => ?_
  refine rel_bind_eq (hfields.field? (passwords_ne rfl) _ h.int64?) fun most => ?_
  refine rel_bind_eq (hfields.field? (passwords_ne rfl) _ h.int64?) fun margin => ?_
  refine rel_bind_eq (hfields.field? (passwords_ne rfl) _ h.uint64?) fun window => ?_
  refine rel_bind_eq (hfields.field? (passwords_ne rfl) _ h.text?) fun energy => ?_
  refine rel_bind_eq (hfields.field? (passwords_ne rfl) _ (h.optional? h.text?)) fun inverters => ?_
  refine rel_bind_eq (hfields.field? (passwords_ne rfl) _ (h.optional? h.text?)) fun batteries => ?_
  exact .some rfl

theorem ReportSettings.ofNode?_eq (h : (passwords a b).Documents d e)
    (hnode : (passwords a b).Same node node') :
    ReportSettings.ofNode? e node' = ReportSettings.ofNode? d node := by
  refine eq_of_rel (rel_bind (h.record? _ hnode) fun fields fields' hfields => ?_)
  exact rel_bind_eq (hfields.field? (passwords_ne rfl) _ h.uint64?) fun interval => .some rfl

/-- Settings with other passwords of the broker and of the database. -/
def Settings.withPasswords (s : Settings) (p q : Option String) : Settings :=
  { s with broker := s.broker.withPassword p, database := s.database.withPassword q }

/-- Settings that are the same but for the passwords of the broker and of the database, each of
which is the same or one text and the other. -/
def Settings.Differing (a b : String) (s s' : Settings) : Prop :=
  ∃ p q, (passwords a b).Texts s.broker.password p ∧ (passwords a b).Texts s.database.password q ∧
    s' = s.withPasswords p q

theorem Settings.rel_ofDocument? (h : (passwords a b).Documents d e) :
    Option.Rel (Settings.Differing a b) (Settings.ofDocument? d) (Settings.ofDocument? e) := by
  refine rel_bind (h.rootRecord? _) fun sections sections' hsections => ?_
  refine rel_bind (hsections.rel_required? (passwords_ne rfl) (BrokerSettings.rel_ofNode? h))
    fun broker broker' hbroker => ?_
  refine rel_bind (hsections.rel_required? (passwords_ne rfl) (DatabaseSettings.rel_ofNode? h))
    fun database database' hdatabase => ?_
  refine rel_bind_eq (hsections.field? (passwords_ne rfl) _ (CloudSettings.ofNode?_eq h)) fun cloud => ?_
  refine rel_bind_eq (hsections.field? (passwords_ne rfl) _ (PollingSettings.ofNode?_eq h))
    fun polling => ?_
  refine rel_bind_eq (hsections.field? (passwords_ne rfl) _ (ThrottleSettings.ofNode?_eq h))
    fun throttle => ?_
  refine rel_bind_eq (hsections.field? (passwords_ne rfl) _ (ReportSettings.ofNode?_eq h))
    fun reports => ?_
  obtain ⟨p, hp, rfl⟩ := hbroker
  obtain ⟨q, hq, rfl⟩ := hdatabase
  exact .some ⟨p, q, hp, hq, rfl⟩

/-! ## Overrides and rules -/

theorem Settings.broken?_withPasswords (s : Settings) (p q : Option String) :
    (s.withPasswords p q).broken? = s.broken? := by
  have hholds : (fun r => !Rule.holds (s.withPasswords p q) r) = fun r => !Rule.holds s r := by
    funext r
    cases r <;> rfl
  rw [broken?, broken?, hholds]

/-- Passwords that are missing are filled in. -/
theorem Settings.override_withPasswords (env : Environment) (s : Settings) (p q : Option String) :
    (s.withPasswords p q).override env =
      (s.override env).withPasswords (p <|> env "ECOFLOW_PASSWORD") (q <|> env "ECOFLOW_DB_PASS") :=
  rfl

theorem Settings.Differing.broker {s s' : Settings} (h : Settings.Differing a b s s') :
    (passwords a b).Texts s.broker.password s'.broker.password := by
  obtain ⟨p, q, hp, -, rfl⟩ := h
  exact hp

theorem Settings.Differing.database {s s' : Settings} (h : Settings.Differing a b s s') :
    (passwords a b).Texts s.database.password s'.database.password := by
  obtain ⟨p, q, -, hq, rfl⟩ := h
  exact hq

theorem Settings.Differing.override {s s' : Settings} (h : Settings.Differing a b s s') (env : Environment) :
    Settings.Differing a b (s.override env) (s'.override env) := by
  obtain ⟨p, q, hp, hq, rfl⟩ := h
  exact ⟨_, _, hp.orElse _, hq.orElse _, Settings.override_withPasswords env s p q⟩

theorem Settings.Differing.broken? {s s' : Settings} (h : Settings.Differing a b s s') : s'.broken? = s.broken? := by
  obtain ⟨p, q, -, -, rfl⟩ := h
  exact Settings.broken?_withPasswords s p q

theorem Settings.override_congr {env env' : Environment}
    (h : ∀ name ∈ Environment.overriding, env' name = env name) (s : Settings) :
    s.override env' = s.override env := by
  obtain ⟨hurl, hother, huser, hpass, hlead, haccess, hsecret, hbroker, hpassword, -⟩ := by
    simpa only [Environment.overriding, List.forall_mem_cons] using h
  simp only [Settings.override, BrokerSettings.override, DatabaseSettings.override,
    CloudSettings.override, hurl, hother, huser, hpass, hlead, haccess, hsecret, hbroker, hpassword]

/-! ## Texts with a secret -/

/-- The environment with a value for a variable. -/
def Environment.assign (env : Environment) (name value : String) : Environment :=
  fun other => if other = name then some value else env other

open Placeholder

/-- The name of the entry. -/
def passwordName : List Char :=
  ['p', 'a', 's', 's', 'w', 'o', 'r', 'd']

/-- How a password is set to the value of a variable. -/
def secretLine (secret : String) : List Piece :=
  (passwordName ++ [':', ' ', '"']).map .literal ++ [.named .round secret.toList, .literal '"']

/-- A text with a line that sets a password to the value of a variable, which occurs nowhere else. -/
structure SecretText where
  front : List Piece
  secret : String
  back : List Piece
  wellFormed : WellFormed [] (front ++ secretLine secret ++ back) := by decide +kernel
  front_names : ∀ p ∈ front, p.name? ≠ some secret := by decide +kernel
  back_names : ∀ p ∈ back, p.name? ≠ some secret := by decide +kernel

namespace SecretText

variable (t : SecretText)

/-- How the text is written. -/
def text : String :=
  String.ofList (written (t.front ++ secretLine t.secret ++ t.back))

/-- With a value for its variable, the line is an entry that stands alone. -/
def OnOwnLine (env : Environment) (value : String) : Prop :=
  Yaml.OwnLine (t.front.flatMap (Piece.copied env)) passwordName value.toList
    (t.back.flatMap (Piece.copied env))

variable {t} {env : Environment} {value : String}

theorem copied_assign {p : Piece} {name : String} (h : p.name? ≠ some name) (env : Environment)
    (value : String) : p.copied (env.assign name value) = p.copied env := by
  cases p with
  | named b other =>
    have hne : String.ofList other ≠ name := fun heq => h (congrArg some heq)
    simp [Piece.copied, Environment.assign, hne]
  | _ => rfl

theorem unset?_assign {p : Piece} {name : String} (h : p.name? ≠ some name) (env : Environment)
    (value : String) : p.unset? (env.assign name value) = p.unset? env := by
  cases p with
  | named b other =>
    have hne : String.ofList other ≠ name := fun heq => h (congrArg some heq)
    simp [Piece.unset?, Piece.name?, Environment.assign, Option.filter, hne]
  | _ => rfl

theorem copied_secretLine (name : String) (env : Environment) (value : String) (after : List Char) :
    (secretLine name).flatMap (Piece.copied (env.assign name value)) ++ after =
      Yaml.entry passwordName value.toList after := by
  have hliterals (l : List Char) :
      (l.map Piece.literal).flatMap (Piece.copied (env.assign name value)) = l := by
    rw [List.flatMap_map]
    exact List.flatMap_singleton' l
  rw [secretLine, List.flatMap_append, hliterals]
  simp [Piece.copied, Environment.assign, Yaml.entry]

theorem unset?_secretLine (name : String) (env : Environment) (value : String) :
    (secretLine name).findSome? (Piece.unset? (env.assign name value)) = none := by
  rw [secretLine, List.findSome?_append, List.findSome?_map]
  have hliterals : (Piece.unset? (env.assign name value)) ∘ Piece.literal = fun _ => none := rfl
  simp [hliterals, Piece.unset?, Piece.name?, Environment.assign, Option.filter]

/-- The text with its placeholders replaced. -/
theorem expand_text (t : SecretText) (env : Environment) (value : String) :
    expand (env.assign t.secret value) t.text.toList =
      match (t.front ++ t.back).findSome? (Piece.unset? env) with
      | some name => .error (.undefined name)
      | none => .ok (t.front.flatMap (Piece.copied env) ++
          Yaml.entry passwordName value.toList (t.back.flatMap (Piece.copied env))) := by
  have hcopied {pieces : List Piece} (h : ∀ p ∈ pieces, p.name? ≠ some t.secret) :
      pieces.flatMap (Piece.copied (env.assign t.secret value)) =
        pieces.flatMap (Piece.copied env) :=
    List.flatMap_congr fun p hp => copied_assign (h p hp) env value
  have hunset {pieces : List Piece} (h : ∀ p ∈ pieces, p.name? ≠ some t.secret) :
      pieces.findSome? (Piece.unset? (env.assign t.secret value)) =
        pieces.findSome? (Piece.unset? env) := by
    induction pieces with
    | nil => rfl
    | cons p pieces ih =>
      simp only [List.forall_mem_cons] at h
      rw [List.findSome?_cons, List.findSome?_cons, unset?_assign h.1, ih h.2]
  have hfound : (t.front ++ secretLine t.secret ++ t.back).findSome?
      (Piece.unset? (env.assign t.secret value)) =
        (t.front ++ t.back).findSome? (Piece.unset? env) := by
    simp only [List.findSome?_append, unset?_secretLine, hunset t.front_names, hunset t.back_names,
      Option.or_none]
  have hexpansion : (t.front ++ secretLine t.secret ++ t.back).flatMap
      (Piece.copied (env.assign t.secret value)) =
        t.front.flatMap (Piece.copied env) ++
          Yaml.entry passwordName value.toList (t.back.flatMap (Piece.copied env)) := by
    simp only [List.flatMap_append, List.append_assoc, hcopied t.front_names, hcopied t.back_names,
      copied_secretLine]
  rw [text, String.toList_ofList, expand_written t.wellFormed]
  cases hset : (t.front ++ t.back).findSome? (Piece.unset? env) with
  | some name => simp only [hfound.trans hset]
  | none => simp only [hfound.trans hset, hexpansion]

theorem ofList_passwordName : String.ofList passwordName = "password" :=
  rfl

theorem isName_passwordName : Yaml.IsName passwordName :=
  ⟨by decide, List.all_eq_true.mp (by decide), by decide⟩

/-- Texts whose documents differ in one password are both accepted, with settings that differ at
most in the passwords. -/
theorem exists_ofExpanded {text text' : String} {env env' : Environment} {s : Settings}
    (hdocument : ∀ d, Yaml.Document.ofText? text = some d →
      ∃ e, Yaml.Document.ofText? text' = some e ∧ (passwords a b).Documents d e)
    (henv : ∀ name ∈ Environment.overriding, env' name = env name)
    (haccepted : Settings.ofExpanded env text = .ok s) :
    ∃ s', Settings.ofExpanded env' text' = .ok s' ∧ Settings.Differing a b s s' := by
  rw [Settings.ofExpanded] at haccepted
  split at haccepted
  · rename_i raw hraw
    obtain ⟨d, hd, hraw⟩ := Option.bind_eq_some_iff.mp hraw
    obtain ⟨rfl, hrules⟩ := Settings.eq_of_checked haccepted
    obtain ⟨e, he, hdocuments⟩ := hdocument d hd
    have hrel := Settings.rel_ofDocument? hdocuments
    rw [hraw] at hrel
    generalize hfound : Settings.ofDocument? e = found at hrel
    cases hrel with
    | @some _ raw' hdiffering =>
      have hoverride := hdiffering.override env
      refine ⟨raw'.override env, ?_, hoverride⟩
      rw [Settings.ofExpanded, he, Option.bind_some, hfound]
      dsimp only
      rw [Settings.override_congr henv, Settings.checked, hoverride.broken?, hrules]
  · cases haccepted

/-- Whether a text with a secret is accepted does not depend on the secret, if it is read as some
text.  The settings differ at most in the passwords. -/
theorem exists_ofText {x tx v tv : String} {s : Settings} (hline : t.OnOwnLine env x)
    (hsecret : t.secret ∉ Environment.overriding) (hx : Yaml.ReadsAs x.toList tx.toList)
    (hv : Yaml.ReadsAs v.toList tv.toList)
    (haccepted : Settings.ofText (env.assign t.secret x) t.text = .ok s) :
    ∃ s', Settings.ofText (env.assign t.secret v) t.text = .ok s' ∧ Settings.Differing tx tv s s' := by
  rw [Settings.ofText, expand_text] at haccepted ⊢
  cases hset : (t.front ++ t.back).findSome? (Piece.unset? env) with
  | some name =>
    simp only [hset] at haccepted
    cases haccepted
  | none =>
    simp only [hset] at haccepted ⊢
    refine exists_ofExpanded (fun d hd => ?_) (fun name hname => ?_) haccepted
    · have hdocument := Yaml.exists_ofText?_entry isName_passwordName hline hx hv hd
      rwa [ofList_passwordName, String.ofList_toList, String.ofList_toList] at hdocument
    · have hne : name ≠ t.secret := fun heq => hsecret (heq ▸ hname)
      simp [Environment.assign, hne]

/-- The value of the variable arrives as it is read between double quotes: a value without quotes,
backslashes and breaks as it is, and any value that YAML allows from the value with escapes.
Nothing else depends on it.  With another value the broker has another password, and the database
has the same: this is how the line is told to be the broker's alone. -/
theorem ofText_assign_secret {x y tx ty : String} {s s' : Settings} (hline : t.OnOwnLine env x)
    (hsecret : t.secret ∉ Environment.overriding) (hx : Yaml.ReadsAs x.toList tx.toList)
    (hy : Yaml.ReadsAs y.toList ty.toList)
    (hs : Settings.ofText (env.assign t.secret x) t.text = .ok s)
    (hs' : Settings.ofText (env.assign t.secret y) t.text = .ok s')
    (hbroker : s'.broker.password ≠ s.broker.password)
    (hdatabase : s'.database.password = s.database.password) :
    (∀ v tv : String, Yaml.ReadsAs v.toList tv.toList →
      Settings.ofText (env.assign t.secret v) t.text =
        .ok { s with broker := s.broker.withPassword (some tv) }) ∧
    (∀ v : String, v.toList.all Yaml.isVerbatim = true →
      Settings.ofText (env.assign t.secret v) t.text =
        .ok { s with broker := s.broker.withPassword (some v) }) ∧
    ∀ v : String, v.toList.all Yaml.isAllowed = true →
      Settings.ofText (env.assign t.secret (String.ofList (v.toList.flatMap Yaml.escape))) t.text =
        .ok { s with broker := s.broker.withPassword (some v) } := by
  have hreads (v tv : String) (hv : Yaml.ReadsAs v.toList tv.toList) :
      Settings.ofText (env.assign t.secret v) t.text =
        .ok { s with broker := s.broker.withPassword (some tv) } := by
    obtain ⟨other, hother, hfollows⟩ := exists_ofText hline hsecret hx hy hs
    obtain rfl : s' = other := Except.ok.inj (hs'.symm.trans hother)
    -- the passwords at `v` are compared with those at `x` and with those at `y`
    obtain ⟨found, hfound, p, q, hp, hq, rfl⟩ := exists_ofText hline hsecret hx hv hs
    have hline' : t.OnOwnLine env y := hline.withWritten isName_passwordName y.toList
    obtain ⟨found', hfound', hsame⟩ := exists_ofText hline' hsecret hy hv hs'
    obtain rfl := Except.ok.inj (hfound.symm.trans hfound')
    obtain ⟨hne, rfl⟩ := hfollows.broker.eq_right hbroker hp hsame.broker
    obtain rfl := Texts.eq_self hne hq (hdatabase ▸ hsame.database)
    exact hfound
  refine ⟨hreads, fun v hv => hreads v v (Yaml.readsAs_self hv), fun v hv => hreads _ v ?_⟩
  rw [String.toList_ofList]
  exact Yaml.readsAs_escaped hv

/-! ## Samples -/

/-- Characters that stand for themselves. -/
def literals (text : String) : List Piece :=
  text.toList.map .literal

/-- Settings with standard values but for what the broker takes. -/
def sampleSettings (username password : Option String) : Settings where
  broker := ⟨true, "h", 1, username, password, none, none, "/app/device/property/\x7bsn\x7d", 1⟩
  database := ⟨"postgres://h/d", none, none, "", none, 100, 10⟩
  cloud := .standard
  polling := .standard
  throttle := .standard
  reports := .standard

/-- Another variable stands in front of the line. -/
def userText : SecretText where
  front := literals "mqtt:\n  host: h\n  port: 1\n  username: \"" ++
    [.named .round "USER".toList] ++ literals "\"\n  "
  secret := "PASSWORD"
  back := literals "\ndatabase:\n  url: postgres://h/d\n"

/-- The other variable is set. -/
def userEnvironment : Environment :=
  Environment.assign (fun _ => none) "USER" "u"

theorem onOwnLine_userText : userText.OnOwnLine userEnvironment "a" where
  blank := by decide +kernel
  ends := by decide +kernel
  reached := ⟨100, by decide +kernel⟩

/-- A value with an apostrophe, a tab and what elsewhere is a comment or a placeholder, and one with
escapes. -/
theorem ofText_assign_secret_userText :
    Settings.ofText (userEnvironment.assign "PASSWORD" "it's #1:\t$(USER), \x7b$$\x7d")
        userText.text =
      .ok (sampleSettings (some "u") (some "it's #1:\t$(USER), \x7b$$\x7d")) ∧
    Settings.ofText (userEnvironment.assign "PASSWORD" "\\\"\\n\\\\") userText.text =
      .ok (sampleSettings (some "u") (some "\"\n\\")) := by
  have hs : Settings.ofText (userEnvironment.assign "PASSWORD" "a") userText.text =
      .ok (sampleSettings (some "u") (some "a")) := by decide +kernel
  have hs' : Settings.ofText (userEnvironment.assign "PASSWORD" "b") userText.text =
      .ok (sampleSettings (some "u") (some "b")) := by decide +kernel
  have ha : Yaml.ReadsAs "a".toList "a".toList := Yaml.readsAs_self (by decide)
  have hb : Yaml.ReadsAs "b".toList "b".toList := Yaml.readsAs_self (by decide)
  obtain ⟨-, hverbatim, hescaped⟩ :=
    ofText_assign_secret onOwnLine_userText (by decide) ha hb hs hs' (by decide) rfl
  exact ⟨hverbatim _ (by decide +kernel), hescaped "\"\n\\" (by decide)⟩

/-- A text without other variables. -/
def plainText : SecretText where
  front := literals "mqtt:\n  host: h\n  port: 1\n  "
  secret := "P"
  back := literals "\ndatabase:\n  url: postgres://h/d\n"

/-- The port is missing. -/
def portlessText : SecretText where
  front := literals "mqtt:\n  host: h\n  "
  secret := "P"
  back := literals "\ndatabase:\n  url: postgres://h/d\n"

/-- The variable overrides a missing user. -/
def overridingText : SecretText where
  front := literals "mqtt:\n  host: h\n  port: 1\n  "
  secret := "ECOFLOW_USER"
  back := literals "\ndatabase:\n  url: postgres://h/d\n"

/-- The database has what the broker has. -/
def sharedText : SecretText where
  front := literals "mqtt: &m\n  host: h\n  port: 1\n  url: postgres://h/d\n  "
  secret := "P"
  back := literals "\ndatabase: *m\n"

theorem onOwnLine_plainText : plainText.OnOwnLine (fun _ => none) "s3cr3t" where
  blank := by decide +kernel
  ends := by decide +kernel
  reached := ⟨100, by decide +kernel⟩

/-- Not every value arrives as it is: the value is part of the text that is read, so that escapes
and breaks in it are read as others are, a quote ends the password, and what follows the quote may
be another entry.  Nor is the password all that depends on the value. -/
theorem not_ofText_assign_anyValue :
    (¬∀ (t : SecretText) (env : Environment) (x : String) (s : Settings), t.OnOwnLine env x →
        Settings.ofText (env.assign t.secret x) t.text = .ok s → s.broker.password = some x →
        ∀ v : String, '\x00' ∉ v.toList → Settings.ofText (env.assign t.secret v) t.text =
          .ok { s with broker := s.broker.withPassword (some v) }) ∧
    (let read (t : SecretText) (v : String) :=
      Settings.ofText (Environment.assign (fun _ => none) t.secret v) t.text
    read plainText "s3cr3t" = .ok (sampleSettings none (some "s3cr3t")) ∧
    read plainText "a\\tb" = .ok (sampleSettings none (some "a\tb")) ∧
    read plainText "a\nb" = .ok (sampleSettings none (some "a b")) ∧
    read plainText "a\x07b" = .error .malformed ∧
    read plainText "a\"b" = .error .malformed ∧
    read plainText "a\"\n  username: \"b" = .ok (sampleSettings (some "b") (some "a")) ∧
    read portlessText "a\"\n  port: 1 #" = .ok (sampleSettings none (some "a")) ∧
    read portlessText "a" = .error .malformed ∧
    read overridingText "a" = .ok (sampleSettings (some "a") (some "a")) ∧
    (read sharedText "a").toOption.map (·.database.password) = some (some "a")) := by
  have haccepted : Settings.ofText (Environment.assign (fun _ => none) "P" "s3cr3t") plainText.text =
      .ok (sampleSettings none (some "s3cr3t")) := by decide +kernel
  have hrejected : Settings.ofText (Environment.assign (fun _ => none) "P" "a\"b") plainText.text =
      .error .malformed := by decide +kernel
  refine ⟨fun h => ?_, haccepted, by decide +kernel, by decide +kernel, by decide +kernel, hrejected,
    by decide +kernel, by decide +kernel, by decide +kernel, by decide +kernel, by decide +kernel⟩
  have hread := h plainText _ _ _ onOwnLine_plainText haccepted rfl "a\"b" (by decide)
  exact nomatch hrejected.symm.trans hread

end SecretText

end PowerTelemetry
