import PowerTelemetry.Broker
import PowerTelemetry.Cloud.Client
import PowerTelemetry.Control.Controller
import PowerTelemetry.Destination
/-!
# Settings

What a user sets: the broker, the database, the cloud, polling, throttling and
reports.  `Rule` lists what settings have to fulfil, in the order in which it is
looked at.
-/

namespace PowerTelemetry

/-! ## Sections -/

/-- `MqttConfig`: the broker and the topics of the devices. -/
structure BrokerSettings where
  enabled : Bool
  host : String
  port : UInt16
  username : Option String
  password : Option String
  keepAliveSeconds : Option UInt64
  cleanSession : Option Bool
  topicTemplate : String
  quality : UInt8
  deriving DecidableEq, Repr, Inhabited

/-- `DbConfig`: the database and its tables. -/
structure DatabaseSettings where
  url : String
  /-- The user where the URL names none. -/
  user : Option String
  /-- The password where the URL has none. -/
  password : Option String
  tableLead : String
  sharedTable : Option String
  queueCapacity : UInt64
  maxConnections : UInt32
  deriving DecidableEq, Repr, Inhabited

/-- `EcoflowConfig`: the cloud account and the devices pinned there. -/
structure CloudSettings where
  baseUrl : String
  accessKey : String
  secretKey : String
  devices : List String
  deriving DecidableEq, Repr, Inhabited

/-- `PollerConfig`: how often devices are polled. -/
structure PollingSettings where
  enabled : Bool
  intervalSeconds : UInt64
  deriving DecidableEq, Repr, Inhabited

/-- `ThrottleConfig`: how the inverter is throttled. -/
structure ThrottleSettings where
  enabled : Bool
  dryRun : Bool
  intervalSeconds : UInt64
  inverter : String
  battery : String
  baseWatts : Int64
  maxWatts : Int64
  marginWatts : Int64
  window : UInt64
  energyTable : String
  inverterTable : Option String
  batteryTable : Option String
  deriving DecidableEq, Repr, Inhabited

/-- `StatsConfig`: how often counters are reported. -/
structure ReportSettings where
  intervalSeconds : UInt64
  deriving DecidableEq, Repr, Inhabited

/-- `Config`: all that is set. -/
structure Settings where
  broker : BrokerSettings
  database : DatabaseSettings
  cloud : CloudSettings
  polling : PollingSettings
  throttle : ThrottleSettings
  reports : ReportSettings
  deriving DecidableEq, Repr, Inhabited

/-! ## What stands where nothing is set -/

/-- The cloud without an account. -/
def CloudSettings.standard : CloudSettings :=
  ⟨"https://api.ecoflow.com", "", "", []⟩

/-- Polling once a minute. -/
def PollingSettings.standard : PollingSettings :=
  ⟨true, 60⟩

/-- Throttling turned off. -/
def ThrottleSettings.standard : ThrottleSettings where
  enabled := false
  dryRun := false
  intervalSeconds := 30
  inverter := ""
  battery := ""
  baseWatts := 170
  maxWatts := 250
  marginWatts := 10
  window := 10
  energyTable := "home"
  inverterTable := none
  batteryTable := none

/-- A report every five minutes. -/
def ReportSettings.standard : ReportSettings :=
  ⟨300⟩

/-! ## What the parts of the service are set to -/

/-- What the broker is asked for. -/
def BrokerSettings.config (b : BrokerSettings) : Broker.Config :=
  ⟨b.host, b.port, b.username, b.password, b.keepAliveSeconds, b.cleanSession⟩

/-- How tables are named. -/
def DatabaseSettings.naming (d : DatabaseSettings) : Naming :=
  ⟨d.tableLead, d.sharedTable⟩

/-- The client of the cloud. -/
def CloudSettings.client (c : CloudSettings) : Cloud.Client :=
  .make c.baseUrl c.accessKey c.secretKey

/-- `Limits::from`: between which watts requests lie. -/
def ThrottleSettings.limits (t : ThrottleSettings) : Control.Limits :=
  ⟨t.baseWatts.toInt, t.maxWatts.toInt, t.marginWatts.toInt⟩

/-- `ThrottleController::new`: the controller of the inverter. -/
def ThrottleSettings.controller (t : ThrottleSettings) : Control.Controller :=
  ⟨t.inverter, t.limits, t.window.toNat, t.dryRun⟩

/-! ## Rules -/

/-- What settings have to fulfil. -/
inductive Rule where
  | databaseUrl
  | queueCapacity
  | window
  | baseWatts
  | maxWatts
  | devices
  | topicTemplate
  deriving DecidableEq, Repr

namespace Rule

/-- The rules in the order in which they are looked at. -/
def all : List Rule :=
  [databaseUrl, queueCapacity, window, baseWatts, maxWatts, devices, topicTemplate]

/-- The settings fulfil the rule. -/
def holds (s : Settings) : Rule → Bool
  | databaseUrl =>
    "postgres://".toList.isPrefixOf s.database.url.toList
      || "postgresql://".toList.isPrefixOf s.database.url.toList
  | queueCapacity => 1 ≤ s.database.queueCapacity
  | window => 1 ≤ s.throttle.window
  | baseWatts => 0 ≤ s.throttle.baseWatts && s.throttle.baseWatts ≤ s.throttle.maxWatts
  | maxWatts => (Binary64.ofInt s.throttle.maxWatts.toInt).le Cloud.maxSetpoint
  | devices =>
    !s.throttle.enabled || (!s.throttle.inverter.isEmpty && !s.throttle.battery.isEmpty)
  | topicTemplate => Search.occurs Topic.placeholder.toList s.broker.topicTemplate.toList

/-- What is said of settings that break the rule. -/
def message : Rule → String
  | databaseUrl => "database.url must be a postgres:// URL"
  | queueCapacity => "database.queue_capacity must be at least 1"
  | window => "throttle.window must be at least 1"
  | baseWatts => "throttle.base_watts must lie within 0..=max_watts"
  | maxWatts => "throttle.max_watts exceeds 6000 W"
  | devices => "throttle requires device_sn and battery_sn"
  | topicTemplate => "mqtt.topic_template must contain " ++ Topic.placeholder

end Rule

/-- `Config::validate`: the first rule that settings break. -/
def Settings.broken? (s : Settings) : Option Rule :=
  Rule.all.find? fun r => !r.holds s

end PowerTelemetry
