import PowerTelemetry.Cloud.Device
import PowerTelemetry.Cloud.Setpoint
import PowerTelemetry.Cloud.Signature
/-!
# The cloud's client

A `Client` builds signed requests and reads the answers to them.  How a request
travels is left open: each call is given the function that carries it.

An answer has a code, which is `"0"` if all went well, a message, and data.
-/

namespace PowerTelemetry.Cloud

/-- `EcoflowClient`: who asks, and where. -/
structure Client where
  baseUrl : String
  accessKey : String
  secretKey : String
  deriving DecidableEq, Repr, Inhabited

/-- A moment: what makes a signature unlike all others. -/
structure Moment where
  nonce : String
  timestamp : String
  deriving DecidableEq, Repr, Inhabited

/-- What a request asks for. -/
inductive Method where
  | get
  | put
  deriving DecidableEq, Repr

/-- A signed request. -/
structure Request where
  method : Method
  url : String
  query : List (String × String)
  body : Option Json
  headers : List (String × String)

/-- An answer: its status and its body. -/
structure Response where
  status : Nat
  body : String
  deriving DecidableEq, Repr

/-- What carries a request: an answer, or none. -/
abbrev Transport := Request → Option Response

/-- `ApiResponse`: what an answer says, with data of a kind. -/
structure Reply (α : Type) where
  code : String
  message : Option String
  data : Option α
  deriving Inhabited

namespace Reply

variable {α : Type}

/-- What a text spells, none for null. -/
def unlessNull? (read? : List Char → Option α) (cs : List Char) : Option (Option α) :=
  if Json.readChars cs matches some .null then some none else (read? cs).map some

/-- What the text of a member spells, none for null and for no member. -/
def optional? (read? : List Char → Option α) : Option (List Char) → Option (Option α)
  | some cs => unlessNull? read? cs
  | none => some none

/-- The reply that a text describes: an object, or an array of its three values
in order. -/
def ofText? (read? : List Char → Option α) (cs : List Char) : Option (Reply α) :=
  match Json.Parts.of? cs with
  | some (.members members) =>
    match Json.only? "code" members, Json.only? "message" members, Json.only? "data" members with
    | .ok (some code), .ok message, .ok data => do
      some ⟨← Json.readString? code, ← optional? Json.readString? message, ← optional? read? data⟩
    | _, _, _ => none
  | some (.items [code, message, data]) => do
    some ⟨← Json.readString? code, ← unlessNull? Json.readString? message, ← unlessNull? read? data⟩
  | _ => none

/-- `ApiResponse::into_data`: the data of a reply, if all went well. -/
def content (r : Reply α) : Except Error α :=
  if r.code ≠ "0" then .error (.refused r.code (r.message.getD ""))
  else match r.data with
    | some a => .ok a
    | none => .error .noData

end Reply

namespace Client

/-- The URL without slashes at its end. -/
def trimmed (url : String) : String :=
  String.ofList (url.toList.reverse.dropWhile (· = '/')).reverse

/-- `EcoflowClient::new`: a client of the cloud at a URL. -/
def make (baseUrl accessKey secretKey : String) : Client :=
  ⟨trimmed baseUrl, accessKey, secretKey⟩

/-- `EcoflowClient::auth_headers`: the headers that sign parameters. -/
def headers (c : Client) (m : Moment) (parameters : Dict String) : List (String × String) :=
  [("accessKey", c.accessKey), ("nonce", m.nonce), ("timestamp", m.timestamp),
   ("sign", sign c.secretKey (signedText parameters c.accessKey m.nonce m.timestamp))]

/-- A request for data. -/
def getRequest (c : Client) (m : Moment) (path : String) (query : List (String × String)) :
    Request :=
  ⟨.get, c.baseUrl ++ path, query, none, c.headers m (Dict.ofList query)⟩

/-- A request that hands over a body. -/
def putRequest (c : Client) (m : Moment) (path : String) (body : Json) : Request :=
  ⟨.put, c.baseUrl ++ path, [], some body, c.headers m (flatten body)⟩

/-- The reply to a request for data of a kind. -/
def ask {α : Type} (send : Transport) (request : Request) (read? : List Char → Option α) :
    Except Error (Reply α) :=
  match send request with
  | none => .error .transport
  | some response =>
    if 400 ≤ response.status then .error .transport
    else match Reply.ofText? read? response.body.toList with
      | some reply => .ok reply
      | none => .error .transport

/-- `EcoflowClient::get`: the data of a kind in the reply to a request for it. -/
def fetch {α : Type} (send : Transport) (request : Request) (read? : List Char → Option α) :
    Except Error α := do
  (← ask send request read?).content

/-- The devices that a text lists. -/
def devicesOf? (cs : List Char) : Option (List Device) :=
  match Json.Parts.of? cs with
  | some (.items texts) => texts.mapM Device.ofText?
  | _ => none

/-- Any value inside a reply. -/
def valueOf? (cs : List Char) : Option Json :=
  Json.readWithin (Json.maxDepth - 1) cs

/-- The members of an object inside a reply, each name once. -/
def membersOf? (cs : List Char) : Option (List (String × Json)) :=
  match (valueOf? cs).map Json.canonical with
  | some (.object members) => some members
  | _ => none

/-- `EcoflowClient::device_list`: all devices. -/
def deviceList (c : Client) (send : Transport) (m : Moment) : Except Error (List Device) :=
  fetch send (c.getRequest m "/iot-open/sign/device/list" []) devicesOf?

/-- `EcoflowClient::all_parameters`: all that is known of one device. -/
def allParameters (c : Client) (send : Transport) (m : Moment) (serialNumber : String) :
    Except Error (List (String × Json)) :=
  fetch send (c.getRequest m "/iot-open/sign/device/quota/all" [("sn", serialNumber)]) membersOf?

/-- The request that tells a device its set-point. -/
def setpointRequest (c : Client) (m : Moment) (serialNumber : String) (watts : Binary64) :
    Request :=
  c.putRequest m "/iot-open/sign/device/quota" (setpointBody serialNumber watts)

/-- `EcoflowClient::set_power_setpoint`: a device told its set-point. -/
def setPower (c : Client) (send : Transport) (m : Moment) (serialNumber : String)
    (watts : Binary64) : Except Error Unit := do
  let watts ← checkSetpoint watts
  let reply ← ask send (c.setpointRequest m serialNumber watts) valueOf?
  if reply.code = "0" then .ok ()
  else .error (.setpointRefused reply.code (reply.message.getD ""))

end Client

end PowerTelemetry.Cloud
