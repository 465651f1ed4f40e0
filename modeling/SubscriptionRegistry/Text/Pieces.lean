/-!
# Pieces of texts

* `isAsciiBlank`: the six blanks that a text of ASCII characters alone can hold.
* `isBlank`: the blanks of any text, as ranges of code points.
* `isWhiteSpace`: the blanks without the four separators U+001C to U+001F.
* `trim`: a text without the characters of a class at its two ends.
* `lines`: the pieces of a text between line feeds.
* `headline`: the first of them.
* `cut`: a text with each occurrence of a word cut out.
* `joinWith`: pieces with a separator between them.
-/

namespace SubscriptionRegistry.Text

/-! ## Blanks -/

/-- The space, and the controls from the tab to the carriage return. -/
def isAsciiBlank (c : Char) : Bool :=
  c == ' ' || (9 ≤ c.toNat && c.toNat ≤ 13)

/-- The code points of blanks, as closed ranges. -/
def blankRanges : List (Nat × Nat) :=
  [(0x9, 0xd), (0x1c, 0x20), (0x85, 0x85), (0xa0, 0xa0), (0x1680, 0x1680), (0x2000, 0x200a),
    (0x2028, 0x2029), (0x202f, 0x202f), (0x205f, 0x205f), (0x3000, 0x3000)]

/-- A blank of any script. The zero-width characters are none. -/
def isBlank (c : Char) : Bool :=
  blankRanges.any fun r => r.1 ≤ c.toNat && c.toNat ≤ r.2

/-- A blank that is not one of the information separators U+001C to U+001F. -/
def isWhiteSpace (c : Char) : Bool :=
  isBlank c && !(0x1c ≤ c.toNat && c.toNat ≤ 0x1f)

/-- The text without the characters of class `p` at its end. -/
def trimRight (p : Char → Bool) (cs : List Char) : List Char :=
  (cs.reverse.dropWhile p).reverse

/-- The text without the characters of class `p` at its two ends. -/
def trim (p : Char → Bool) (cs : List Char) : List Char :=
  trimRight p (cs.dropWhile p)

/-! ## Lines, words and pieces -/

/-- The pieces of a text between the characters `sep`; a text without it is one piece. -/
def splitAt (sep : Char) : List Char → List (List Char)
  | [] => [[]]
  | c :: cs =>
    if c == sep then [] :: splitAt sep cs
    else match splitAt sep cs with
      | [] => [[c]]
      | p :: ps => (c :: p) :: ps

/-- The lines of a text. -/
def lines (s : String) : List String :=
  (splitAt '\n' s.toList).map String.ofList

/-- The text up to its first line feed. -/
def headline (s : String) : String :=
  String.ofList (s.toList.takeWhile (· != '\n'))

/-- Cuts `word` out of the text wherever it starts, going from left to right; `skip` characters
still belong to the last occurrence. -/
def cutFrom (word : List Char) : (skip : Nat) → List Char → List Char
  | _, [] => []
  | 0, c :: cs =>
    if word.isPrefixOf (c :: cs) then cutFrom word (word.length - 1) cs
    else c :: cutFrom word 0 cs
  | skip + 1, _ :: cs => cutFrom word skip cs

/-- The text without the occurrences of `word`; what the cuts join is not looked at again. -/
def cut (word : List Char) (cs : List Char) : List Char :=
  cutFrom word 0 cs

/-- The pieces with `sep` between them. -/
def joinWith (sep : String) : List String → String
  | [] => ""
  | [p] => p
  | p :: ps => p ++ sep ++ joinWith sep ps

end SubscriptionRegistry.Text
