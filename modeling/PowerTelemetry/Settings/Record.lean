import PowerTelemetry.Settings
import PowerTelemetry.Yaml.Typed
/-!
# Settings in YAML

A YAML document holds settings as a record of sections.  The broker and the
database must be there; any other section counts as the standard one if it is
missing, and so does a field that is not required.
-/

namespace PowerTelemetry

open Yaml (Document Node required? field?)

/-- The settings of the broker in a node. -/
def BrokerSettings.ofNode? (d : Document) (node : Node) : Option BrokerSettings := do
  let fields ← d.record? ["enabled", "host", "port", "username", "password", "keep_alive_secs",
    "clean_session", "topic_template", "qos"] node
  return {
    enabled := ← field? fields "enabled" true d.flag?
    host := ← required? fields "host" d.text?
    port := ← required? fields "port" d.uint16?
    username := ← field? fields "username" none (d.optional? d.text?)
    password := ← field? fields "password" none (d.optional? d.text?)
    keepAliveSeconds := ← field? fields "keep_alive_secs" none (d.optional? d.uint64?)
    cleanSession := ← field? fields "clean_session" none (d.optional? d.flag?)
    topicTemplate := ← field? fields "topic_template"
      ("/app/device/property/" ++ Topic.placeholder) d.text?
    quality := ← field? fields "qos" 1 d.uint8? }

/-- The settings of the database in a node. -/
def DatabaseSettings.ofNode? (d : Document) (node : Node) : Option DatabaseSettings := do
  let fields ← d.record? ["url", "user", "password", "table_prefix", "shared_table",
    "queue_capacity", "max_connections"] node
  return {
    url := ← required? fields "url" d.text?
    user := ← field? fields "user" none (d.optional? d.text?)
    password := ← field? fields "password" none (d.optional? d.text?)
    tableLead := ← field? fields "table_prefix" "" d.text?
    sharedTable := ← field? fields "shared_table" none (d.optional? d.text?)
    queueCapacity := ← field? fields "queue_capacity" 100 d.uint64?
    maxConnections := ← field? fields "max_connections" 10 d.uint32? }

/-- The settings of the cloud in a node. -/
def CloudSettings.ofNode? (d : Document) (node : Node) : Option CloudSettings := do
  let fields ← d.record? ["base_url", "access_key", "secret_key", "devices"] node
  let usual := CloudSettings.standard
  return {
    baseUrl := ← field? fields "base_url" usual.baseUrl d.text?
    accessKey := ← field? fields "access_key" usual.accessKey d.text?
    secretKey := ← field? fields "secret_key" usual.secretKey d.text?
    devices := ← field? fields "devices" usual.devices (d.list? d.text?) }

/-- The settings of polling in a node. -/
def PollingSettings.ofNode? (d : Document) (node : Node) : Option PollingSettings := do
  let fields ← d.record? ["enabled", "interval_secs"] node
  let usual := PollingSettings.standard
  return {
    enabled := ← field? fields "enabled" usual.enabled d.flag?
    intervalSeconds := ← field? fields "interval_secs" usual.intervalSeconds d.uint64? }

/-- The settings of throttling in a node. -/
def ThrottleSettings.ofNode? (d : Document) (node : Node) : Option ThrottleSettings := do
  let fields ← d.record? ["enabled", "dry_run", "interval_secs", "device_sn", "battery_sn",
    "base_watts", "max_watts", "margin_watts", "window", "energy_table", "inverter_table",
    "battery_table"] node
  let usual := ThrottleSettings.standard
  return {
    enabled := ← field? fields "enabled" usual.enabled d.flag?
    dryRun := ← field? fields "dry_run" usual.dryRun d.flag?
    intervalSeconds := ← field? fields "interval_secs" usual.intervalSeconds d.uint64?
    inverter := ← field? fields "device_sn" usual.inverter d.text?
    battery := ← field? fields "battery_sn" usual.battery d.text?
    baseWatts := ← field? fields "base_watts" usual.baseWatts d.int64?
    maxWatts := ← field? fields "max_watts" usual.maxWatts d.int64?
    marginWatts := ← field? fields "margin_watts" usual.marginWatts d.int64?
    window := ← field? fields "window" usual.window d.uint64?
    energyTable := ← field? fields "energy_table" usual.energyTable d.text?
    inverterTable := ← field? fields "inverter_table" usual.inverterTable (d.optional? d.text?)
    batteryTable := ← field? fields "battery_table" usual.batteryTable (d.optional? d.text?) }

/-- The settings of reports in a node. -/
def ReportSettings.ofNode? (d : Document) (node : Node) : Option ReportSettings := do
  let fields ← d.record? ["interval_secs"] node
  return ⟨← field? fields "interval_secs" ReportSettings.standard.intervalSeconds d.uint64?⟩

/-- The settings in a document. -/
def Settings.ofDocument? (d : Document) : Option Settings := do
  let sections ← d.rootRecord? ["mqtt", "database", "ecoflow", "poller", "throttle", "stats"]
  return {
    broker := ← required? sections "mqtt" (BrokerSettings.ofNode? d)
    database := ← required? sections "database" (DatabaseSettings.ofNode? d)
    cloud := ← field? sections "ecoflow" .standard (CloudSettings.ofNode? d)
    polling := ← field? sections "poller" .standard (PollingSettings.ofNode? d)
    throttle := ← field? sections "throttle" .standard (ThrottleSettings.ofNode? d)
    reports := ← field? sections "stats" .standard (ReportSettings.ofNode? d) }

end PowerTelemetry
