import OtcDesk.Json.Value
import OtcDesk.Number.Shortest
import OtcDesk.Text.Quoted

namespace OtcDesk.Json

/-- The separators of a style, and whether it is confined to ASCII. -/
structure Style where
  itemGap : String
  keyGap : String
  asciiOnly : Bool

/-- Stored files put a space after commas and colons and escape everything beyond ASCII. -/
def Style.stored : Style := ⟨", ", ": ", true⟩

/-- Canonical text has no spaces and escapes only what must be. -/
def Style.compact : Style := ⟨",", ":", false⟩

/-- One sixteen-bit unit as an escape. -/
def unitEscape (unit : Nat) : List Char := '\\' :: 'u' :: Text.hexDigits 4 unit

/-- A code point as one escape, or as two surrogates when it is beyond sixteen bits. -/
def codeEscape (code : Nat) : List Char :=
  if code < 0x10000 then unitEscape code
  else
    unitEscape (0xd800 + (code - 0x10000) / 0x400) ++ unitEscape (0xdc00 + (code - 0x10000) % 0x400)

/-- A character inside quotation marks. -/
def escapeChar (asciiOnly : Bool) (c : Char) : List Char :=
  if c = '"' then ['\\', '"']
  else if c = '\\' then ['\\', '\\']
  else if c = '\n' then ['\\', 'n']
  else if c = '\r' then ['\\', 'r']
  else if c = '\t' then ['\\', 't']
  else if c = '\x0c' then ['\\', 'f']
  else if c = '\x08' then ['\\', 'b']
  else if c.toNat < 0x20 || (asciiOnly && 0x7f ≤ c.toNat) then codeEscape c.toNat
  else [c]

/-- The characters of a text between quotation marks. -/
def quoteList (asciiOnly : Bool) (text : List Char) : List Char :=
  '"' :: (text.flatMap (escapeChar asciiOnly) ++ ['"'])

/-- A double as JSON text, where infinities and not-a-number have their names. -/
def numberText : Double → String
  | .nan => "NaN"
  | .infinite negative => if negative then "-Infinity" else "Infinity"
  | value => value.text

mutual

/-- A value in a style. -/
def writeList (style : Style) : Json → List Char
  | null => "null".toList
  | bool value => (if value then "true" else "false").toList
  | int value => (toString value).toList
  | float value => (numberText value).toList
  | str text => quoteList style.asciiOnly text.toList
  | arr items => '[' :: (writeItems style items ++ [']'])
  | obj fields => '{' :: (writeFields style fields ++ ['}'])

/-- The items of a list, with gaps between them. -/
def writeItems (style : Style) : List Json → List Char
  | [] => []
  | [item] => writeList style item
  | item :: rest => writeList style item ++ style.itemGap.toList ++ writeItems style rest

/-- The fields of an object, with gaps between them. -/
def writeFields (style : Style) : List (String × Json) → List Char
  | [] => []
  | [(key, value)] =>
    quoteList style.asciiOnly key.toList ++ style.keyGap.toList ++ writeList style value
  | (key, value) :: rest =>
    quoteList style.asciiOnly key.toList ++ style.keyGap.toList ++ writeList style value ++
      style.itemGap.toList ++ writeFields style rest

end

/-- A value as JSON text. -/
def write (style : Style) (value : Json) : String := String.ofList (writeList style value)

end OtcDesk.Json
