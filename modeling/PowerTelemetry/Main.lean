import PowerTelemetry.Settings.Source
import PowerTelemetry.Store.Connection
/-!
# The command line

Reads the settings file that the variable `APP_CONFIG` names and says what the
service is set to do, or why it cannot start.
-/

namespace PowerTelemetry.Main

/-- The settings file where no other is named. -/
def usualPath : String := "config/config.example.yaml"

/-- The bytes of a file, if it can be read. -/
def readFile? (path : String) : IO (Option (List UInt8)) :=
  try
    return some (← IO.FS.readBinFile path).toList
  catch _ => return none

/-- The variables of the process that a settings file may need. -/
def environment (bytes : Option (List UInt8)) : IO Environment := do
  let text := (bytes.bind Text.ofUtf8?).getD ""
  let mut block := []
  for name in Environment.overriding ++ Placeholder.names text.toList do
    if let some value ← IO.getEnv name then
      block := (name ++ "=" ++ value) :: block
  return Environment.ofBlock block

/-- Whether a part of the service is turned on. -/
def switch (enabled : Bool) : String :=
  if enabled then "on" else "off"

/-- What the service is set to do. -/
def summary (s : Settings) : String :=
  "broker " ++ switch s.broker.enabled ++ ", polling " ++ switch s.polling.enabled
    ++ ", throttling " ++ switch s.throttle.enabled

/-- Why the service cannot start. -/
def complaint (path : String) (e : SettingsError) : String :=
  path ++ ": " ++ e.message?.getD (if e = .unreadable then "cannot be read" else "not well formed")

end PowerTelemetry.Main

open PowerTelemetry in
/-- Reads the settings and reports on them. -/
def main : IO UInt32 := do
  let path := (← IO.getEnv "APP_CONFIG").getD Main.usualPath
  let bytes ← Main.readFile? path
  match Settings.ofFile (← Main.environment bytes) bytes with
  | .error e =>
    IO.eprintln (Main.complaint path e)
    return 1
  | .ok s =>
    if (s.database.connection? ((← IO.getEnv "USER").getD "root")).isNone then
      IO.eprintln (path ++ ": database.url cannot be used")
      return 1
    IO.println (Main.summary s)
    return 0
