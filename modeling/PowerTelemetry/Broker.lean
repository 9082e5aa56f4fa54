import PowerTelemetry.Topic
/-!
# The message broker

Devices publish through a broker.  This module holds what the broker is asked
for: the options of a connection, the quality of service, and subscriptions.

A client puts its subscriptions into a queue before they go out.  The queue has
`queueCapacity` places; a subscription that finds none is given up.
-/

namespace PowerTelemetry.Broker

/-! ## Quality of service -/

/-- `QoS`: how often a message arrives. -/
inductive Quality where
  | atMostOnce
  | atLeastOnce
  | exactlyOnce
  deriving DecidableEq, Repr

/-- `qos`: the quality of a number; every number but `0` and `2` stands for the middle
one. -/
def Quality.ofLevel (level : UInt8) : Quality :=
  if level = 2 then .exactlyOnce else if level = 0 then .atMostOnce else .atLeastOnce

/-- The number of a quality. -/
def Quality.level : Quality → UInt8
  | atMostOnce => 0
  | atLeastOnce => 1
  | exactlyOnce => 2

/-! ## Options -/

/-- `MqttConfig`: what is set about a broker. -/
structure Config where
  host : String
  port : UInt16
  username : Option String
  password : Option String
  keepAliveSeconds : Option UInt64
  cleanSession : Option Bool
  deriving DecidableEq, Repr, Inhabited

/-- Why there are no options. -/
inductive OptionsError where
  | noHost
  | keepAliveTooShort
  deriving DecidableEq, Repr

/-- The text of an error. -/
def OptionsError.message : OptionsError → String
  | noHost => "Config error: mqtt.host is empty"
  | keepAliveTooShort => "keep alive below 5 s"

/-- The options of a connection. -/
structure Options where
  host : String
  port : UInt16
  keepAliveSeconds : UInt64
  cleanStart : Bool
  credentials : Option (String × String)
  encrypted : Bool
  deriving DecidableEq, Repr

/-- The port of encrypted connections. -/
def encryptedPort : UInt16 := 8883

/-- The least number of seconds a connection is kept alive. -/
def leastKeepAlive : UInt64 := 5

/-- The user name with the password; one without the other counts for
nothing. -/
def Config.credentials (c : Config) : Option (String × String) :=
  match c.username, c.password with
  | some username, some password => some (username, password)
  | _, _ => none

/-- `build_options`: the options for what is set. -/
def Config.options (c : Config) : Except OptionsError Options :=
  let keepAlive := c.keepAliveSeconds.getD 30
  if c.host.isEmpty then .error .noHost
  else if keepAlive < leastKeepAlive then .error .keepAliveTooShort
  else .ok ⟨c.host, c.port, keepAlive, c.cleanSession.getD true, c.credentials,
    c.port == encryptedPort⟩

/-! ## Subscriptions -/

/-- How many requests the queue of a client from `new` holds. -/
def queueCapacity : Nat := 50

/-- The requests that wait in the client's queue: topics and qualities. -/
structure Client where
  waiting : List (String × Quality)
  deriving DecidableEq, Repr, Inhabited

/-- A client with an empty queue. -/
def Client.fresh : Client :=
  ⟨[]⟩

/-- A subscription put into the queue, if it has room. -/
def Client.subscribe? (c : Client) (topic : String) (quality : Quality) : Option Client :=
  if c.waiting.length < queueCapacity then some ⟨c.waiting ++ [(topic, quality)]⟩ else none

/-- `subscribe_devices`: how many devices got a subscription, of which each needs room
in the queue. -/
def subscribeDevices (template : String) (level : UInt8) :
    List String → Client → Nat × Client
  | [], c => (0, c)
  | serialNumber :: rest, c =>
    match c.subscribe? (Topic.forDevice template serialNumber) (Quality.ofLevel level) with
    | some c =>
      let (count, c) := subscribeDevices template level rest c
      (count + 1, c)
    | none => subscribeDevices template level rest c

end PowerTelemetry.Broker
