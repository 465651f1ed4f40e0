import SubscriptionRegistry.Text.Numeral

/-!
# Identifiers of 128 bits

A `Uuid` is a number of 128 bits. Its canonical text has its 32 lower-case hexadecimal digits in
five groups of 8, 4, 4, 4 and 12, with hyphens between them. Identifiers are ordered by number,
which is the order of their canonical texts.

An identifier may be written with or without hyphens, in braces, after `urn:` and `uuid:`, and
in either case. What is left when all of that is taken away, the *residue*, has 32 characters
and is a numeral of base sixteen, for which blanks around it, a plus sign, a prefix `0x` and
single underscores between digits are allowed as well.

* `Uuid.text`: the canonical text.
* `Uuid.residue`: a text without its wrapping.
* `Uuid.numeral?`: the value of a numeral of base sixteen.
* `Uuid.read?`: the identifier that a text spells.
-/

namespace SubscriptionRegistry

/-- The number of identifiers, two to the power of 128. -/
abbrev Uuid.count : Nat := 340282366920938463463374607431768211456

/-- An identifier of 128 bits. -/
structure Uuid where
  value : Fin Uuid.count
deriving DecidableEq, Repr, Inhabited

namespace Uuid

theorem ext {u v : Uuid} (h : u.value = v.value) : u = v := by
  cases u; cases v; simp_all

/-- The 32 digits of an identifier. -/
def digits (u : Uuid) : List Char :=
  Text.hexDigits 32 u.value.val

/-- Digits with a hyphen after the 8th, 12th, 16th and 20th. -/
def hyphenate (ds : List Char) : List Char :=
  ds.take 8 ++ '-' :: ((ds.drop 8).take 4 ++ '-' :: ((ds.drop 12).take 4 ++
    '-' :: ((ds.drop 16).take 4 ++ '-' :: ds.drop 20)))

/-- The canonical text. -/
def text (u : Uuid) : String :=
  String.ofList (hyphenate u.digits)

/-- The order of identifiers. -/
def le (u v : Uuid) : Bool :=
  u.value ≤ v.value

/-- The identifier with the lowest 128 bits of `n`. -/
def ofNat (n : Nat) : Uuid :=
  ⟨⟨n % count, Nat.mod_lt _ (by decide)⟩⟩

/-! ## Reading -/

/-- The text without `urn:`, then without `uuid:`, then without the braces at its ends, then
without hyphens. -/
def residue (cs : List Char) : List Char :=
  (Text.trim (fun c => c == '{' || c == '}')
    (Text.cut ['u', 'u', 'i', 'd', ':'] (Text.cut ['u', 'r', 'n', ':'] cs))).filter (· != '-')

/-- A numeral without its sign: a prefix `0x`, which one underscore may follow, then digits. -/
def unsigned? : List Char → Option Nat
  | '0' :: x :: cs =>
    if x == 'x' || x == 'X' then
      match cs with
      | '_' :: ds => Text.digitsValue? 16 0 false ds
      | ds => Text.digitsValue? 16 0 false ds
    else Text.digitsValue? 16 0 false ('0' :: x :: cs)
  | cs => Text.digitsValue? 16 0 false cs

/-- The value of a numeral of base sixteen that is written in ASCII. -/
def numeral? (cs : List Char) : Option Nat :=
  match Text.trim Text.isAsciiBlank cs with
  | '+' :: ds => unsigned? ds
  | ds => unsigned? ds

/-- The value of a residue. -/
def residueValue? (cs : List Char) : Option Nat :=
  if cs.length = 32 then (Text.plainText? cs).bind numeral? else none

/-- The identifier that a text spells. -/
def read? (s : String) : Option Uuid :=
  (residueValue? (residue s.toList)).bind fun n =>
    if h : n < count then some ⟨⟨n, h⟩⟩ else none

end Uuid

end SubscriptionRegistry
