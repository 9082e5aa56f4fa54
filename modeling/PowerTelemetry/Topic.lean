import PowerTelemetry.Search
/-!
# Topics

Devices publish on topics, which are segments with slashes between.  A template
says where the serial number stands: `forDevice` puts it in, `serialNumber?`
takes it out.
-/

namespace PowerTelemetry.Topic

/-- `TOPIC_SN_PLACEHOLDER`: what stands for the serial number in a template. -/
def placeholder : String := "\x7bsn\x7d"

/-- The segments of a topic. -/
def segments (topic : String) : List String :=
  (Search.splitAt '/' topic.toList).map String.ofList

/-- The text, unless it is empty. -/
def nonempty? (s : String) : Option String :=
  if s.isEmpty then none else some s

/-- The segment of the topic at the place where the placeholder is the whole
segment of the template, if there is such a place. -/
def atPlaceholder? : (template topic : List String) → Option String
  | t :: template, s :: topic => if t = placeholder then some s else atPlaceholder? template topic
  | _, _ => none

/-- `sn_from_topic`: the serial number in a topic.  Where the topic does not have the
shape of the template, it is the last segment. -/
def serialNumber? (template topic : String) : Option String :=
  let expected := segments template
  let actual := segments topic
  let last := actual.getLast?.bind nonempty?
  if expected.length = actual.length then
    match atPlaceholder? expected actual with
    | some s => nonempty? s
    | none => last
  else last

/-- `topic_for`: the topic of a device, which is the template with its serial number
in every place of the placeholder. -/
def forDevice (template serialNumber : String) : String :=
  String.ofList
    (Search.replaceAll '\x7b' ['s', 'n', '\x7d'] serialNumber.toList template.toList)

end PowerTelemetry.Topic
