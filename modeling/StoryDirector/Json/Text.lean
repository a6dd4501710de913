import StoryDirector.Json
import StoryDirector.Decimal.Layout
/-!
# StoryDirector.Json.Text

The canonical text of a value: **no blanks, names in rising order, numbers in their shortest digits,
and only quotes, backslashes and controls escaped.** Since the fields of an object are already in
order, equal values have equal texts; the fingerprints of the library are taken from this text.
-/

namespace StoryDirector.Json

/-- A code below 16 as a hexadecimal digit. -/
def hexDigit (n : Nat) : Char :=
  Char.ofNat (if n < 10 then 0x30 + n else 0x57 + n)

/-- One character as it stands inside a JSON text. -/
def escapedChar (c : Char) : List Char :=
  if c = '"' then ['\\', '"']
  else if c = '\\' then ['\\', '\\']
  else if c.toNat = 0x08 then ['\\', 'b']
  else if c.toNat = 0x09 then ['\\', 't']
  else if c.toNat = 0x0A then ['\\', 'n']
  else if c.toNat = 0x0C then ['\\', 'f']
  else if c.toNat = 0x0D then ['\\', 'r']
  else if c.toNat < 0x20 then
    ['\\', 'u', '0', '0', hexDigit (c.toNat / 16), hexDigit (c.toNat % 16)]
  else [c]

/-- A text between quotation marks. -/
def quotedText (s : String) : List Char :=
  ['"'] ++ s.toList.flatMap escapedChar ++ ['"']

mutual

/-- The characters of a value. -/
def chars : Json → List Char
  | .null => ['n', 'u', 'l', 'l']
  | .bool true => ['t', 'r', 'u', 'e']
  | .bool false => ['f', 'a', 'l', 's', 'e']
  | .int n => (toString n).toList
  | .float x => (Float.jsonText x).toList
  | .text s => quotedText s
  | .array items => '[' :: itemChars items
  | .object fields => '\x7b' :: fieldChars fields

/-- The items of a list after its opening bracket. -/
def itemChars : List Json → List Char
  | [] => [']']
  | [last] => chars last ++ [']']
  | item :: rest => chars item ++ ',' :: itemChars rest

/-- The fields of an object after its opening brace. -/
def fieldChars : List (String × Json) → List Char
  | [] => ['\x7d']
  | [last] => pairChars last ++ ['\x7d']
  | field :: rest => pairChars field ++ ',' :: fieldChars rest

/-- A name with its value. -/
def pairChars : String × Json → List Char
  | (name, value) => quotedText name ++ ':' :: chars value

end

/-- The canonical text of a value. -/
def render (j : Json) : String :=
  String.ofList j.chars

end StoryDirector.Json
