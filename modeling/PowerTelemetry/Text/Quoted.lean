import PowerTelemetry.Text.PrintTable
/-!
# Quoted texts

`quoted` writes a text between double quotes for a reader to look at.  Quotes
and backslashes get a backslash, tab, newline, carriage return and NUL their
letters, and a character that would not show on its own its code point in
braces.
-/

namespace PowerTelemetry.Text

/-- A character inside a quoted text. -/
def quotedChar (c : Char) : List Char :=
  if c = '"' then ['\\', '"']
  else if c = '\\' then ['\\', '\\']
  else if c = '\n' then ['\\', 'n']
  else if c = '\r' then ['\\', 'r']
  else if c = '\t' then ['\\', 't']
  else if c = '\x00' then ['\\', '0']
  else if combining.contains c || unprintable.contains c then
    ['\\', 'u', '\x7b'] ++ Nat.toDigits 16 c.toNat ++ ['\x7d']
  else [c]

/-- A text between double quotes. -/
def quoted (s : String) : String :=
  String.ofList ('"' :: (s.toList.flatMap quotedChar ++ ['"']))

end PowerTelemetry.Text
