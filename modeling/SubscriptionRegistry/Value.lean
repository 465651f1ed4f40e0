import SubscriptionRegistry.Text.Numeral
import SubscriptionRegistry.Text.Quoted

/-!
# Values

A `Value` is what a log field, a setting from the caller, or an entry of a foreign scope list may
hold: the values of a structured data format. Scope texts that other programs stored are values
of which only some are texts, so the readers of scopes take values.

* `Value.shown`: a value on one line with all its texts in quotes.
* `Value.fieldText`: a value after the name of its field, where a text without delimiters needs no
  quotes.
* `Value.columnText`: a value that stands alone, where a text needs none at all.
* `Value.json`: a value as JSON on one line, in ASCII characters alone. A character above U+FFFF is
  written as the two halves of its surrogate pair.
* `Issue`: what is wrong with the value of a field of a record that a caller supplies, a key pair or
  the settings. An invalid record is reported as its fields with their issues, in the order of field
  names.
-/

namespace SubscriptionRegistry

/-- A structured value. The number `decimal m p` is `m / 10 ^ p`, written with a point. -/
inductive Value where
  | null
  | bool (b : Bool)
  | int (n : Int)
  | decimal (mantissa : Int) (places : Nat)
  | text (s : String)
  | list (items : List Value)
  | object (fields : List (String × Value))
deriving Repr, Inhabited, BEq

namespace Value

/-- A text, or null if there is none. -/
def ofText? : Option String → Value
  | none => null
  | some s => text s

/-! ## Values on one line -/

mutual

/-- A value on one line, with texts in quotes. -/
def shown : Value → String
  | null => "None"
  | bool b => if b then "True" else "False"
  | int n => toString n
  | decimal m p => Text.decimalText m p
  | text s => Text.quote s
  | list items => "[" ++ Text.joinWith ", " (shownItems items) ++ "]"
  | object fields => "\x7b" ++ Text.joinWith ", " (shownFields fields) ++ "\x7d"

/-- The items of a list. -/
def shownItems : List Value → List String
  | [] => []
  | v :: vs => v.shown :: shownItems vs

/-- The fields of an object. -/
def shownFields : List (String × Value) → List String
  | [] => []
  | f :: fs => shownField f :: shownFields fs

/-- One field of an object. -/
def shownField : String × Value → String
  | (name, v) => Text.quote name ++ ": " ++ v.shown

end

/-- The characters of a text that a log line shows in quotes. -/
def isDelimiter (c : Char) : Bool :=
  [' ', '\t', '=', '\r', '\n', '"', '\''].contains c

/-- A value as a field of a log line: a text without delimiters needs no quotes. -/
def fieldText : Value → String
  | text s => if s.toList.any isDelimiter then Text.quote s else s
  | v => v.shown

/-- A value as a column of a log line. -/
def columnText : Value → String
  | text s => s
  | v => v.shown

/-! ## JSON -/

/-- A code unit of sixteen bits as an escape. -/
def escapedUnit (n : Nat) : List Char :=
  '\\' :: 'u' :: Text.hexDigits 4 n

/-- One character in a JSON text. -/
def jsonChar (c : Char) : List Char :=
  if c == '"' || c == '\\' then ['\\', c]
  else if c == '\n' then ['\\', 'n']
  else if c == '\r' then ['\\', 'r']
  else if c == '\t' then ['\\', 't']
  else if c == '\x08' then ['\\', 'b']
  else if c == '\x0c' then ['\\', 'f']
  else if 0x20 ≤ c.toNat && c.toNat < 0x7f then [c]
  else if c.toNat < 0x10000 then escapedUnit c.toNat
  else
    let n := c.toNat - 0x10000
    escapedUnit (0xd800 + n / 0x400) ++ escapedUnit (0xdc00 + n % 0x400)

/-- A text in JSON. -/
def jsonText (s : String) : String :=
  String.ofList ('"' :: s.toList.flatMap jsonChar ++ ['"'])

mutual

/-- A value in JSON. -/
def json : Value → String
  | null => "null"
  | bool b => if b then "true" else "false"
  | int n => toString n
  | decimal m p => Text.decimalText m p
  | text s => jsonText s
  | list items => "[" ++ Text.joinWith ", " (jsonItems items) ++ "]"
  | object fields => "\x7b" ++ Text.joinWith ", " (jsonFields fields) ++ "\x7d"

/-- The items of a list in JSON. -/
def jsonItems : List Value → List String
  | [] => []
  | v :: vs => v.json :: jsonItems vs

/-- The fields of an object in JSON. -/
def jsonFields : List (String × Value) → List String
  | [] => []
  | f :: fs => jsonField f :: jsonFields fs

/-- One field of an object in JSON. -/
def jsonField : String × Value → String
  | (name, v) => jsonText name ++ ": " ++ v.json

end

end Value

/-! ## Issues -/

/-- What is wrong with one field. -/
inductive Issue where
  | missing
  | notText
  | unreadableFlag
  | notFlag
  | unreadableInteger
  | hugeInteger
  | notInteger
  | fractional
  | notListed
deriving DecidableEq, Repr

namespace Issue

/-- The word under which an issue is reported. -/
def code : Issue → String
  | missing => "missing"
  | notText => "string_type"
  | unreadableFlag => "bool_parsing"
  | notFlag => "bool_type"
  | unreadableInteger => "int_parsing"
  | hugeInteger => "int_parsing_size"
  | notInteger => "int_type"
  | fractional => "int_from_float"
  | notListed => "literal_error"

end Issue

/-- The issues of a record, by field. -/
abbrev Issues := List (String × Issue)

end SubscriptionRegistry
