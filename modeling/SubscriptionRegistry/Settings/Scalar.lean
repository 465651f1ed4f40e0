import SubscriptionRegistry.Text.Digits
import SubscriptionRegistry.Text.Pieces
import SubscriptionRegistry.Value

/-!
# Flags, integers and texts as settings

A setting comes as a text from the environment or as a value from a caller, and is read leniently.

* `readFlag`: a flag, one of the six words for each side in either case, or a number 0 or 1.
* `readInteger`: an integer, a whole number, a flag as 0 or 1, or a text of an integer.
* `readText`: a text.
-/

namespace SubscriptionRegistry

/-- A text with its ASCII letters in lower case. -/
def asciiLower (s : String) : String :=
  String.ofList (s.toList.map fun c =>
    if 65 ≤ c.toNat ∧ c.toNat ≤ 90 then Char.ofNat (c.toNat + 32) else c)

/-- The flag that a word means. -/
def flagOfWord? (s : String) : Option Bool :=
  let w := asciiLower s
  if w = "0" ∨ w = "off" ∨ w = "f" ∨ w = "false" ∨ w = "n" ∨ w = "no" then some false
  else if w = "1" ∨ w = "on" ∨ w = "t" ∨ w = "true" ∨ w = "y" ∨ w = "yes" then some true
  else none

/-- The flag that a number means. -/
def flagOfNumber (n : Int) : Except Issue Bool :=
  if n = 0 then .ok false else if n = 1 then .ok true else .error .unreadableFlag

/-- The integer `m / 10 ^ p`, if it is one. -/
def wholeNumber? (m : Int) (p : Nat) : Option Int :=
  if m % Nat.pow 10 p = 0 then some (m / Nat.pow 10 p) else none

/-- Reads a flag. -/
def readFlag : Value → Except Issue Bool
  | .bool b => .ok b
  | .text s =>
    match flagOfWord? s with
    | some b => .ok b
    | none => .error .unreadableFlag
  | .int n => flagOfNumber n
  | .decimal m p =>
    match wholeNumber? m p with
    | some n => flagOfNumber n
    | none => .error .notFlag
  | _ => .error .notFlag

/-! ## Integers -/

/-- A numeral from its first digit other than zero on; a zero stays before a point and at the end.
Underscores among the leading zeros go with them. -/
def afterLeadingZeros : (last : Char) → List Char → Option (List Char)
  | last, [] => some [last]
  | last, c :: cs =>
    if c == '0' || c == '_' then afterLeadingZeros c cs
    else if c == '.' then some (last :: c :: cs)
    else if (Text.asciiDigit? c).isSome then some (c :: cs)
    else none

/-- A numeral without its leading zeros. A negative one stays as it is. -/
def withoutLeadingZeros : List Char → Option (List Char)
  | [] => none
  | c :: cs =>
    if c == '0' then afterLeadingZeros c cs
    else if c == '-' || (Text.asciiDigit? c).isSome then some (c :: cs)
    else none

/-- A numeral without a point that only zeros follow. -/
def withoutZeroFraction (cs : List Char) : List Char :=
  let tail := cs.dropWhile (· != '.')
  if (tail.drop 1).all (· == '0') then cs.takeWhile (· != '.') else cs

/-- Whether two underscores stand side by side. -/
def hasDoubleUnderscore : List Char → Bool
  | '_' :: '_' :: _ => true
  | _ :: cs => hasDoubleUnderscore cs
  | [] => false

/-- A numeral without its underscores, each of which stands alone inside it. -/
def withoutUnderscores (cs : List Char) : List Char :=
  if cs.head? == some '_' || cs.getLast? == some '_' || hasDoubleUnderscore cs then cs
  else cs.filter (· != '_')

/-- The numeral inside a text: without blanks around it, a plus sign, leading zeros, a fraction of
zeros, and underscores. -/
def bareNumeral? (cs : List Char) : Option (List Char) := do
  let cs := Text.trim Text.isWhiteSpace cs
  let cs ← match cs with
    | '+' :: '-' :: _ => none
    | '+' :: ds => some ds
    | ds => some ds
  let cs ← withoutLeadingZeros cs
  some (withoutUnderscores (withoutZeroFraction cs))

/-- The value of a numeral in plain form: no leading zeros, and at most a minus sign. -/
def plainInteger? : List Char → Option Int
  | '-' :: cs => (natural? cs).map fun n => -(n : Int)
  | cs => (natural? cs).map fun n => (n : Int)
where
  /-- The value of a numeral without a sign. -/
  natural? (cs : List Char) : Option Nat :=
    if cs = [] ∨ (cs.head? = some '0' ∧ 1 < cs.length) then none
    else (cs.mapM Text.asciiDigit?).map (Text.foldDigits 10)

/-- The longest text that is read as an integer. -/
def longestNumeral : Nat := 4300

/-- Reads the text of an integer. -/
def readIntegerText (s : String) : Except Issue Int :=
  match (plainInteger? s.toList) <|> ((bareNumeral? s.toList).bind plainInteger?) with
  | some n => if s.length ≤ longestNumeral then .ok n else .error .hugeInteger
  | none => .error .unreadableInteger

/-- The bound of the signed integers of 64 bits, two to the power of 63. -/
def wordBound : Nat := 9223372036854775808

/-- Reads an integer. A number with a fraction is in the range of 64 bits. -/
def readInteger : Value → Except Issue Int
  | .int n => .ok n
  | .bool b => .ok (if b then 1 else 0)
  | .decimal m p =>
    match wholeNumber? m p with
    | some n => if n.natAbs < wordBound then .ok n else .error .hugeInteger
    | none => .error .fractional
  | .text s => readIntegerText s
  | _ => .error .notInteger

/-- Reads a text. -/
def readText : Value → Except Issue String
  | .text s => .ok s
  | _ => .error .notText

end SubscriptionRegistry
