import PowerTelemetry.Dict
import PowerTelemetry.Digest.Hmac
import PowerTelemetry.Json
import PowerTelemetry.Text.Hex
import PowerTelemetry.Text.Utf8
/-!
# Signed requests

The cloud takes only signed requests.  What is signed is a text made of the
parameters of the request and of who asks when; a request with a JSON body has
one parameter for each scalar in it.

* `flatten` gives the parameters of a body.  A scalar is named by its path,
  with points between the names of objects and `[i]` for places in arrays.
* `signedText` joins the parameters.
* `sign` is the keyed digest of the text.
-/

namespace PowerTelemetry.Cloud

/-! ## Parameters -/

/-- The path of a member. -/
def memberPath : Option (List Char) → String → List Char
  | none, name => name.toList
  | some path, name => path ++ '.' :: name.toList

/-- The path of an item. -/
def itemPath (path : Option (List Char)) (index : Nat) : List Char :=
  path.getD [] ++ '[' :: (Nat.toDigits 10 index ++ [']'])

mutual

/-- `flatten_into`: the scalars of a value and their paths, in the order of the value.
Nulls have no parameter, nor has a value that is all there is. -/
def leaves (path : Option (List Char)) : Json → List (List Char × List Char)
  | .object members => memberLeaves path members
  | .array items => itemLeaves path 0 items
  | .string s => (path.map fun p => (p, s.toList)).toList
  | .null => []
  | .bool b => (path.map fun p => (p, (Json.bool b).compactText)).toList
  | .number n => (path.map fun p => (p, (Json.number n).compactText)).toList

/-- The scalars of members. -/
def memberLeaves (path : Option (List Char)) :
    List (String × Json) → List (List Char × List Char)
  | [] => []
  | (name, value) :: rest => leaves (some (memberPath path name)) value ++ memberLeaves path rest

/-- The scalars of items, the first at a given place. -/
def itemLeaves (path : Option (List Char)) (index : Nat) :
    List Json → List (List Char × List Char)
  | [] => []
  | item :: rest => leaves (some (itemPath path index)) item ++ itemLeaves path (index + 1) rest

end

/-- `flatten_params`: the parameters of a body, by path; of two with one path the
later stands. -/
def flatten (body : Json) : Dict String :=
  Dict.ofList ((leaves none body).map fun l => (String.ofList l.1, String.ofList l.2))

/-! ## Texts -/

/-- A name and its value. -/
def pairText (name value : String) : List Char :=
  name.toList ++ '=' :: value.toList

/-- Texts with ampersands between. -/
def joined : List (List Char) → List Char
  | [] => []
  | [text] => text
  | text :: rest => text ++ '&' :: joined rest

/-- The pairs of a signed text: the parameters by name, then who asks when. -/
def signedPairs (parameters : Dict String) (accessKey nonce timestamp : String) :
    List (String × String) :=
  parameters.entries ++ [("accessKey", accessKey), ("nonce", nonce), ("timestamp", timestamp)]

/-- `signature_payload`: the text that is signed. -/
def signedText (parameters : Dict String) (accessKey nonce timestamp : String) : String :=
  String.ofList <| joined <|
    (signedPairs parameters accessKey nonce timestamp).map fun p => pairText p.1 p.2

/-- `sign`: the signature of a text. -/
def sign (secret text : String) : String :=
  Text.hex (Digest.hmac (Text.utf8 secret) (Text.utf8 text))

end PowerTelemetry.Cloud
