import PowerTelemetry.Settings
import PowerTelemetry.Url
/-!
# Connections to a database server

The options of a connection come from a URL: from its authority and its path,
and from the parameters in its query, which count more.  The settings name a
user and a password for a URL whose authority does not.
-/

namespace PowerTelemetry

/-- How a database is reached. -/
structure ConnectionOptions where
  user : String
  password : Option String
  host : String
  port : UInt16
  database : Option String
  deriving DecidableEq, Repr, Inhabited

namespace ConnectionOptions

/-- What counts where a URL says nothing, for a user of the system. -/
def standard (systemUser : String) : ConnectionOptions :=
  ⟨systemUser, none, "localhost", 5432, none⟩

/-! ## Parameters -/

/-- A decimal number with fewer than so many bits, which may have a plus sign in
front. -/
def number? (bits : Nat) (s : String) : Option Nat :=
  let ds := match s.toList with
    | '+' :: ds => ds
    | ds => ds
  if ds.isEmpty || !ds.all Char.isDigit then none
  else
    let n := ds.foldl (fun n c => 10 * n + (c.toNat - '0'.toNat)) 0
    if n < Nat.pow 2 bits then some n else none

/-- The ways in which a connection may be encrypted. -/
def encryptionModes : List String :=
  ["disable", "allow", "prefer", "require", "verify-ca", "verify-full"]

/-- The options with one parameter, if its value is right.  A host that starts
with a slash is a socket and no host. -/
def setParameter? (o : ConnectionOptions) (name value : String) : Option ConnectionOptions :=
  match name with
  | "host" => some (if value.toList.head? == some '/' then o else { o with host := value })
  | "hostaddr" => if Address.isAddress value then some { o with host := value } else none
  | "port" => (number? 16 value).map fun n => { o with port := UInt16.ofNat n }
  | "dbname" => some { o with database := some value }
  | "user" => some { o with user := value }
  | "password" => some { o with password := some value }
  | "sslmode" | "ssl-mode" => if encryptionModes.contains value.toLower then some o else none
  | "statement-cache-capacity" => (number? 64 value).map fun _ => o
  | _ => some o

/-! ## URLs -/

/-- A host that is no socket. -/
def host? (host : String) : Option (Option String) :=
  if (Percent.decode host.toList).head? == some '/'.toUInt8 then
    (Percent.decodeText? host.toList).map fun _ => none
  else some (some host)

/-- The options in the authority and the path of a URL. -/
def ofParts? (systemUser : String) (u : Url) : Option ConnectionOptions := do
  let usual := standard systemUser
  let host ← match u.host with
    | some host => host? host
    | none => some none
  let user ← Percent.decodeText? u.username
  let password ← match u.password with
    | some password => (Percent.decodeText? password).map some
    | none => some none
  let database := String.ofList (u.path.dropWhile (· == '/'))
  return {
    user := if u.username.isEmpty then usual.user else user
    password := password
    host := host.getD usual.host
    port := u.port.getD usual.port
    database := if database.isEmpty then none else some database }

/-- The options in a URL. -/
def ofUrl? (systemUser : String) (u : Url) : Option ConnectionOptions := do
  let options ← ofParts? systemUser u
  u.parameters.foldlM (fun o p => o.setParameter? p.1 p.2) options

end ConnectionOptions

/-! ## Credentials -/

/-- `url_credentials`: whether the authority in the text of a URL has a user name, and
whether it has a password. -/
def urlCredentials (url : String) : Bool × Bool :=
  let cs := url.toList
  let rest := match Search.indexOf? "://".toList cs with
    | some i => cs.drop (i + 3)
    | none => cs
  let authority := rest.takeWhile fun c => c != '/' && c != '?'
  match Search.cutAtLast? '@' authority with
  | some (info, _) =>
    match Search.cutAt? ':' info with
    | some (user, password) => (!user.isEmpty, !password.isEmpty)
    | none => (!info.isEmpty, false)
  | none => (false, false)

/-- `connect_options`: the options of the connection to the database, if its URL is
right. -/
def DatabaseSettings.connection? (systemUser : String) (d : DatabaseSettings) :
    Option ConnectionOptions := do
  let options ← ConnectionOptions.ofUrl? systemUser (← Url.ofText? d.url)
  let (hasUser, hasPassword) := urlCredentials d.url
  return { options with
    user := if hasUser then options.user else d.user.getD options.user
    password := if hasPassword then options.password else d.password <|> options.password }

end PowerTelemetry
