import SubscriptionRegistry.Text.Digits
import SubscriptionRegistry.Text.Pieces

/-!
# Numerals

A numeral is read with the digits of any script, and single underscores may stand between them. A
number that is not an integer is written with a point: positionally with at least one place from
0.0001 up to 10^16, and otherwise with one digit before the point and an exponent of at least two
digits.

* `plainText?`: a numeral in ASCII characters.
* `digitsValue?`: the value of digits with underscores between them.
* `integer?`: the value of a decimal numeral with blanks around it and a sign.
* `decimalText m p`: the number `m / 10 ^ p` as text.
-/

namespace SubscriptionRegistry.Text

/-! ## Reading -/

/-- The ASCII character that a numeral shows for `c`: a blank for a blank and a digit for a
digit of any script. The ASCII characters stand for themselves. -/
def plain? (c : Char) : Option Char :=
  if c.toNat < 127 then some c
  else if isBlank c then some ' '
  else (decimal? c).map decimalDigit

/-- The text in ASCII characters, if all its characters have one. -/
def plainText? (cs : List Char) : Option (List Char) :=
  if cs.all fun c => c.toNat < 128 then some cs else cs.mapM plain?

/-- The value of digits of a base up to sixteen, of which `n` is read already. An underscore stands
between two digits. -/
def digitsValue? (base n : Nat) (afterDigit : Bool) : List Char → Option Nat
  | [] => if afterDigit then some n else none
  | c :: cs =>
    if c == '_' then
      if afterDigit then digitsValue? base n false cs else none
    else
      match hexValue? c with
      | some d => if d < base then digitsValue? base (base * n + d) true cs else none
      | none => none

/-- The value of a decimal numeral with a sign or none. -/
def signed? : List Char → Option Int
  | '+' :: cs => (digitsValue? 10 0 false cs).map fun n => (n : Int)
  | '-' :: cs => (digitsValue? 10 0 false cs).map fun n => -(n : Int)
  | cs => (digitsValue? 10 0 false cs).map fun n => (n : Int)

/-- The value of a decimal numeral with blanks around it. -/
def integer? (cs : List Char) : Option Int :=
  (plainText? cs).bind fun cs => signed? (trim isAsciiBlank cs)

/-! ## Writing -/

/-- The digits and the number of places of `n / 10 ^ p` without zeros at the end. -/
def lowestPlaces (n : Nat) : (p : Nat) → Nat × Nat
  | 0 => (n, 0)
  | p + 1 => if n % 10 = 0 then lowestPlaces (n / 10) p else (n, p + 1)

/-- The decimal digits of a natural number. -/
def naturalDigits (n : Nat) : List Char :=
  (toString n).toList

/-- The digits without zeros at the end. -/
def withoutEndZeros (ds : List Char) : List Char :=
  (ds.reverse.dropWhile (· == '0')).reverse

/-- Digits with the point before the last `p` of them. -/
def positional (ds : List Char) (p : Nat) : List Char :=
  let ds := List.replicate (p + 1 - ds.length) '0' ++ ds
  if p = 0 then ds ++ ['.', '0']
  else ds.take (ds.length - p) ++ '.' :: ds.drop (ds.length - p)

/-- The text of an exponent. -/
def exponentText (e : Int) : List Char :=
  let ds := naturalDigits e.natAbs
  (if e < 0 then '-' else '+') :: List.replicate (2 - ds.length) '0' ++ ds

/-- Digits with the point after the first of them, and an exponent. -/
def scientific (ds : List Char) (e : Int) : List Char :=
  let ds := withoutEndZeros ds
  ds.take 1 ++ (if ds.length ≤ 1 then [] else '.' :: ds.drop 1) ++ 'e' :: exponentText e

/-- The number `m / 10 ^ p` as text. -/
def decimalText (m : Int) (p : Nat) : String :=
  let (n, p) := lowestPlaces m.natAbs p
  let ds := naturalDigits n
  let e : Int := (ds.length : Int) - 1 - p
  let sign := if m < 0 then ['-'] else []
  String.ofList (sign ++
    if n = 0 ∨ (-4 ≤ e ∧ e < 16) then positional ds p else scientific ds e)

end SubscriptionRegistry.Text
