import PowerTelemetry.Text.Lossy
import PowerTelemetry.Url.Address
import PowerTelemetry.Url.Percent
/-!
# URLs

A `Url` names a scheme, and after two slashes an authority: who asks, the host
and the port.  A path follows, and after a question mark a query; what is behind
a number sign does not count.  Without two slashes there is no authority.

Blanks around a URL, and tabs and breaks in it, do not count.  In the schemes of
the web any number of slashes leads to the authority, and the case of a host
does not matter.
-/

namespace PowerTelemetry

/-- The parts of a URL.  Escapes in the user name, the password and the query
are not resolved. -/
structure Url where
  scheme : String
  username : List Char
  password : Option (List Char)
  host : Option String
  port : Option UInt16
  path : List Char
  query : List Char
  deriving DecidableEq, Repr, Inhabited

namespace Url

/-! ## Schemes, hosts and ports -/

/-- A letter of a scheme that is not its first one. -/
def isSchemeChar (c : Char) : Bool :=
  c.isAlphanum || c == '+' || c == '-' || c == '.'

/-- The scheme and what is behind its colon. -/
def scheme? (cs : List Char) : Option (String × List Char) := do
  let (scheme, rest) ← Search.cutAt? ':' cs
  if scheme.all isSchemeChar && scheme.head?.any Char.isAlpha then
    return (String.ofList (scheme.map Char.toLower), rest)
  else none

/-- The port of a scheme of the web, which needs not be written. -/
def usualPort? (scheme : String) : Option UInt16 :=
  [("http", 80), ("https", 443), ("ws", 80), ("wss", 443), ("ftp", 21)].lookup scheme

/-- A character that ends an authority. -/
def endsAuthority (c : Char) : Bool :=
  c == '/' || c == '?' || c == '#'

/-- A character that no host has. -/
def isForbidden (c : Char) : Bool :=
  ['\x00', ' ', '#', '/', ':', '<', '>', '?', '@', '[', '\\', ']', '^', '|'].contains c

/-- A host in brackets is an address of version 6. -/
def host? (cs : List Char) : Option String :=
  match cs with
  | '[' :: rest =>
    if rest.getLast? == some ']' then
      (Address.version6? rest.dropLast).map fun pieces => "[" ++ Address.render pieces ++ "]"
    else none
  | _ =>
    if cs.any isForbidden then none
    else some (String.ofList (Percent.encode Percent.isControl cs))

/-- The characters of a host, which may have colons in brackets, and the
rest. -/
def cutHost (bracketed : Bool) : List Char → List Char × List Char
  | [] => ([], [])
  | c :: rest =>
    if c = ':' ∧ !bracketed then ([], c :: rest)
    else
      let (host, after) := cutHost (if c = '[' then true else if c = ']' then false else bracketed)
        rest
      (c :: host, after)

/-- A port in decimal; without digits there is none. -/
def port? (cs : List Char) : Option (Option UInt16) :=
  if !cs.all Char.isDigit then none
  else
    let n := cs.foldl (fun n c => 10 * n + (c.toNat - '0'.toNat)) 0
    if 65535 < n then none
    else some (if cs.isEmpty then none else some (UInt16.ofNat n))

/-- Who asks: the user name and the password, which is not empty. -/
def userInfo (cs : List Char) : List Char × Option (List Char) :=
  match Search.cutAt? ':' cs with
  | some (username, password) => (username, if password.isEmpty then none else some password)
  | none => (cs, none)

/-! ## Paths -/

/-- A segment that stands for the same place. -/
def isHere (segment : List Char) : Bool :=
  [".", "%2e"].contains (String.ofList (segment.map Char.toLower))

/-- A segment that stands for the place above. -/
def isAbove (segment : List Char) : Bool :=
  ["..", ".%2e", "%2e.", "%2e%2e"].contains (String.ofList (segment.map Char.toLower))

/-- The segments of a path without those that stand for places; `before` are
the segments in front, the last one first. -/
def resolved (before : List (List Char)) : List (List Char) → List (List Char)
  | [] => before.reverse
  | segment :: rest =>
    let atEnd := if rest.isEmpty then [[]] else []
    if isAbove segment then resolved (atEnd ++ before.drop 1) rest
    else if isHere segment then resolved (atEnd ++ before) rest
    else resolved (segment :: before) rest

/-- A path from the root, whose first slash is left out. -/
def rooted (cs : List Char) : List Char :=
  let segments := Search.splitAt '/' (Percent.encode Percent.isPathEscape cs)
  '/' :: ['/'].intercalate (resolved [] segments)

/-- What is in front of a character, and what is behind it. -/
def cutOr (separator : Char) (cs : List Char) : List Char × List Char :=
  (Search.cutAt? separator cs).getD (cs, [])

/-- A path and a query, without what a number sign sets apart. -/
def pathAndQuery (cs : List Char) : List Char × List Char :=
  cutOr '?' (cutOr '#' cs).1

/-! ## Authorities -/

/-- The URL of an authority with `after` behind it.  Without a host there is
neither a port nor anyone who asks, and in the schemes of the web there is no
URL. -/
def ofAuthority? (scheme : String) (cs after : List Char) : Option Url := do
  let (info, place) := (Search.cutAtLast? '@' cs).getD ([], cs)
  let (username, password) := userInfo info
  let (host, rest) := cutHost false place
  let usual := usualPort? scheme
  let named ← host? (if usual.isSome then host.map Char.toLower else host)
  let written ← port? (rest.drop 1)
  let port := if written == usual then none else written
  let (path, query) := pathAndQuery after
  let path := if path.isEmpty then [] else rooted (path.drop 1)
  if !host.isEmpty then return ⟨scheme, username, password, some named, port, path, query⟩
  else if usual.isSome || !rest.isEmpty || !username.isEmpty || password.isSome then none
  else if cs.head? == some '@' && !after.isEmpty then none
  else return ⟨scheme, [], none, none, none, path, query⟩

/-! ## Reading -/

/-- A blank or a control character. -/
def isTrimmed (c : Char) : Bool :=
  c.toNat ≤ 0x20

/-- What counts of a URL. -/
def trimmed (cs : List Char) : List Char :=
  let inner := ((cs.dropWhile isTrimmed).reverse.dropWhile isTrimmed).reverse
  inner.filter fun c => c != '\t' && c != '\n' && c != '\r'

/-- The URL that a text is. -/
def ofText? (text : String) : Option Url := do
  let (scheme, rest) ← scheme? (trimmed text.toList)
  let rest := if (usualPort? scheme).isSome then '/' :: '/' :: rest.dropWhile (· == '/') else rest
  match rest with
  | '/' :: '/' :: rest =>
    let authority := rest.takeWhile (!endsAuthority ·)
    ofAuthority? scheme authority (rest.drop authority.length)
  | '/' :: rest =>
    let (path, query) := pathAndQuery rest
    return ⟨scheme, [], none, none, none, rooted path, query⟩
  | rest =>
    let (path, query) := pathAndQuery rest
    return ⟨scheme, [], none, none, none, Percent.encode Percent.isControl path, query⟩

/-! ## Queries -/

/-- A name or a value in a query, in which a plus sign stands for a space. -/
def queryText (cs : List Char) : String :=
  Text.ofUtf8Lossy (Percent.decode (cs.map fun c => if c = '+' then ' ' else c))

/-- The names and values in a query. -/
def parameters (u : Url) : List (String × String) :=
  ((Search.splitAt '&' u.query).filter (!·.isEmpty)).map fun cs =>
    let (name, value) := cutOr '=' cs
    (queryText name, queryText value)

end Url

end PowerTelemetry
