import PowerTelemetry.Settings.Placeholder
import PowerTelemetry.Settings.Record
import PowerTelemetry.Text.Utf8
/-!
# Where settings come from

Settings are read from a YAML text.  First the placeholders in the text are
replaced, wherever they stand.  Then variables override what the text says, and
at last the rules are looked at.
-/

namespace PowerTelemetry

/-- The values of the variables that are set. -/
abbrev Environment := String → Option String

/-- The variables of an environment block, which holds them as `NAME=VALUE`.  A
name that is not empty has what stands behind it and an equals sign. -/
def Environment.ofBlock (block : List String) : Environment := fun name =>
  let lead := name.toList ++ ['=']
  if name.isEmpty then none
  else (block.find? fun entry => lead.isPrefixOf entry.toList).map fun entry =>
    String.ofList (entry.toList.drop lead.length)

/-! ## Overrides -/

/-- The variables that settings are overridden by. -/
def Environment.overriding : List String :=
  ["DATABASE_URL", "ECOFLOW_DB_URL", "ECOFLOW_DB_USER", "ECOFLOW_DB_PASS", "ECOFLOW_DB_TABLENAME",
    "ECOFLOW_ACCESS_KEY", "ECOFLOW_SECRET_KEY", "ECOFLOW_USER", "ECOFLOW_PASSWORD"]

/-- The database as variables have it: they replace its URL and fill in what is
missing. -/
def DatabaseSettings.override (env : Environment) (d : DatabaseSettings) : DatabaseSettings :=
  { d with
    url := (env "DATABASE_URL" <|> env "ECOFLOW_DB_URL").getD d.url
    user := d.user <|> env "ECOFLOW_DB_USER"
    password := d.password <|> env "ECOFLOW_DB_PASS"
    tableLead :=
      if d.tableLead.isEmpty then (env "ECOFLOW_DB_TABLENAME").getD d.tableLead else d.tableLead }

/-- The cloud as variables have it: they replace the keys. -/
def CloudSettings.override (env : Environment) (c : CloudSettings) : CloudSettings :=
  { c with
    accessKey := (env "ECOFLOW_ACCESS_KEY").getD c.accessKey
    secretKey := (env "ECOFLOW_SECRET_KEY").getD c.secretKey }

/-- The broker as variables have it: they fill in what is missing. -/
def BrokerSettings.override (env : Environment) (b : BrokerSettings) : BrokerSettings :=
  { b with
    username := b.username <|> env "ECOFLOW_USER"
    password := b.password <|> env "ECOFLOW_PASSWORD" }

/-- `Config::apply_env_overrides`: settings as variables have them. -/
def Settings.override (env : Environment) (s : Settings) : Settings :=
  { s with
    broker := s.broker.override env
    database := s.database.override env
    cloud := s.cloud.override env }

/-! ## Reading -/

/-- Why there are no settings. -/
inductive SettingsError where
  | unreadable
  | placeholder (e : Placeholder.Error)
  | malformed
  | broken (r : Rule)
  deriving DecidableEq, Repr

/-- The text of an error, if it has one. -/
def SettingsError.message? : SettingsError → Option String
  | unreadable => none
  | placeholder e => some e.message
  | malformed => none
  | broken r => some r.message

namespace Settings

/-- Settings that fulfil the rules. -/
def checked (s : Settings) : Except SettingsError Settings :=
  match s.broken? with
  | some r => .error (.broken r)
  | none => .ok s

/-- The settings in a text without placeholders. -/
def ofExpanded (env : Environment) (text : String) : Except SettingsError Settings :=
  match (Yaml.Document.ofText? text).bind ofDocument? with
  | some s => (s.override env).checked
  | none => .error .malformed

/-- `Config::from_yaml`: the settings in a text. -/
def ofText (env : Environment) (text : String) : Except SettingsError Settings :=
  match Placeholder.expand env text.toList with
  | .ok expanded => ofExpanded env (String.ofList expanded)
  | .error e => .error (.placeholder e)

/-- `Config::load`: the settings in a file, whose bytes are there if the file is. -/
def ofFile (env : Environment) (bytes : Option (List UInt8)) : Except SettingsError Settings :=
  match bytes.bind Text.ofUtf8? with
  | some text => ofText env text
  | none => .error .unreadable

end Settings

end PowerTelemetry
