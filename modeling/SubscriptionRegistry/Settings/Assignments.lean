import SubscriptionRegistry.Text.Pieces

/-!
# Assignment files

A text that sets variables, one `NAME=value` a line. A name may follow the word `export`, and may
stand in single quotes. A value stands in single quotes, in double quotes, or bare up to the end of
its line or to a comment; quoted ones may span lines. A line that fits none of this is skipped. A
name without `=` is set to nothing. In a value, `${NAME}` and `${NAME:-default}` stand for the
variables set above them and in the environment.

* `bindings`: the assignments of a text.
* `assignments`: the variables that a text sets, with their values expanded.
-/

namespace SubscriptionRegistry.Assignments

/-- A blank that does not end a line. -/
def isGap (c : Char) : Bool :=
  Text.isBlank c && c != '\n'

/-- A text in which every line ends with a line feed. -/
def unifyLineEnds : List Char → List Char
  | '\r' :: '\n' :: cs => '\n' :: unifyLineEnds cs
  | '\r' :: cs => '\n' :: unifyLineEnds cs
  | c :: cs => c :: unifyLineEnds cs
  | [] => []

/-! ## The parts of a line -/

/-- What follows the word `export`, if it stands here. -/
def skipExport (cs : List Char) : List Char :=
  let word := ['e', 'x', 'p', 'o', 'r', 't']
  if word.isPrefixOf cs && ((cs.drop 6).head?.any isGap) then (cs.drop 6).dropWhile isGap else cs

/-- Reads a name; before a comment there is none. -/
def readName : List Char → Option (Option String × List Char)
  | '#' :: cs => some (none, '#' :: cs)
  | '\'' :: cs =>
    let name := cs.takeWhile (· != '\'')
    match name, cs.dropWhile (· != '\'') with
    | [], _ => none
    | _, [] => none
    | name, _ :: rest => some (some (String.ofList name), rest)
  | cs =>
    let isNameChar := fun c => !(c == '=' || c == '#' || Text.isBlank c)
    match cs.takeWhile isNameChar with
    | [] => none
    | name => some (some (String.ofList name), cs.dropWhile isNameChar)

/-- Splits the text after an opening quote at its closing quote, the first one that no backslash
precedes. -/
def untilQuote (q : Char) : List Char → Option (List Char × List Char)
  | [] => none
  | c :: cs =>
    if c == q then some ([], cs)
    else if c == '\\' then
      match cs with
      | d :: ds =>
        if d == q then (untilQuote q ds).map fun r => (c :: d :: r.1, r.2)
        else (untilQuote q (d :: ds)).map fun r => (c :: r.1, r.2)
      | [] => none
    else (untilQuote q cs).map fun r => (c :: r.1, r.2)

/-- Splits the text after an opening quote at the last quote in it. -/
def untilLastQuote (q : Char) (cs : List Char) : Option (List Char × List Char) :=
  match cs.reverse.dropWhile (· != q) with
  | [] => none
  | _ :: before => some (before.reverse, (cs.reverse.takeWhile (· != q)).reverse)

/-- Splits the text after an opening quote at its closing quote. Where a backslash precedes every
quote, the last one closes. -/
def readQuoted (q : Char) (cs : List Char) : Option (List Char × List Char) :=
  untilQuote q cs <|> untilLastQuote q cs

/-- The characters that a backslash may precede in single quotes. -/
def singleEscapes : List (Char × Char) :=
  [('\\', '\\'), ('\'', '\'')]

/-- The characters that a backslash may precede in double quotes. -/
def doubleEscapes : List (Char × Char) :=
  [('\\', '\\'), ('\'', '\''), ('"', '"'), ('a', '\x07'), ('b', '\x08'), ('f', '\x0c'),
    ('n', '\n'), ('r', '\r'), ('t', '\t'), ('v', '\x0b')]

/-- A text with the listed escapes replaced; any other backslash stands for itself. -/
def unescape (escapes : List (Char × Char)) : List Char → List Char
  | '\\' :: d :: cs =>
    match escapes.lookup d with
    | some e => e :: unescape escapes cs
    | none => '\\' :: unescape escapes (d :: cs)
  | c :: cs => c :: unescape escapes cs
  | [] => []

/-- A bare value up to a comment, which follows a blank. -/
def untilComment : List Char → List Char
  | [] => []
  | c :: cs =>
    if Text.isBlank c && ((c :: cs).dropWhile Text.isBlank).head? == some '#' then []
    else c :: untilComment cs

/-- Reads a value. -/
def readValue : List Char → Option (String × List Char)
  | [] => some ("", [])
  | '\'' :: cs => (readQuoted '\'' cs).map fun r =>
      (String.ofList (unescape singleEscapes r.1), r.2)
  | '"' :: cs => (readQuoted '"' cs).map fun r =>
      (String.ofList (unescape doubleEscapes r.1), r.2)
  | cs =>
    some (String.ofList (Text.trimRight Text.isBlank (untilComment (cs.takeWhile (· != '\n')))),
      cs.dropWhile (· != '\n'))

/-- What follows a comment, if one stands here. -/
def skipComment (cs : List Char) : List Char :=
  if (cs.dropWhile isGap).head? == some '#' then cs.dropWhile (· != '\n') else cs

/-- What follows the end of the line, if only blanks stand before it. -/
def skipLineEnd (cs : List Char) : Option (List Char) :=
  match cs.dropWhile isGap with
  | [] => some []
  | c :: rest => if c == '\n' then some rest else none

/-- Reads the assignment of a name. -/
def readAssigned : List Char → Option (Option String × List Char)
  | '=' :: cs => (readValue (cs.dropWhile isGap)).map fun r => (some r.1, r.2)
  | cs => some (none, cs)

/-- The rest of the text after the line in which `cs` starts. -/
def nextLine (cs : List Char) : List Char :=
  (cs.dropWhile (· != '\n')).drop 1

/-- What a line sets, and the text after it. -/
structure Line where
  binding : Option (String × Option String)
  rest : List Char

/-- A line that sets nothing, because it cannot be read from `cs` on. -/
def Line.skipped (cs : List Char) : Line :=
  ⟨none, nextLine cs⟩

/-- Reads the end of a line that sets `name` to `value`. -/
def finishLine (name : Option String) (value : Option String) (cs : List Char) : Line :=
  match skipLineEnd (skipComment cs) with
  | some rest => ⟨name.map fun n => (n, value), rest⟩
  | none => .skipped (skipComment cs |>.dropWhile isGap)

/-- Reads a line whose first character is not blank. -/
def readLine (cs : List Char) : Line :=
  match readName (skipExport cs) with
  | none => .skipped (skipExport cs)
  | some (name, rest) =>
    let rest := rest.dropWhile isGap
    match readAssigned rest with
    | none => .skipped rest
    | some (value, rest) => finishLine name value rest

/-! ## The text -/

/-- The assignments of at most `n` lines. -/
def bindingsIn : (n : Nat) → List Char → List (String × Option String)
  | 0, _ => []
  | n + 1, cs =>
    match cs.dropWhile Text.isBlank with
    | [] => []
    | c :: cs =>
      let line := readLine (c :: cs)
      line.binding.toList ++ bindingsIn n line.rest

/-- The assignments of a text, in their order. -/
def bindings (s : String) : List (String × Option String) :=
  let cs := unifyLineEnds s.toList
  bindingsIn (cs.length + 1) cs

/-- The list with `name` set to `value`: in its old place, or at the end. -/
def assign (name : String) (value : α) : List (String × α) → List (String × α)
  | [] => [(name, value)]
  | (n, v) :: rest => if n = name then (n, value) :: rest else (n, v) :: assign name value rest

/-- A reference `${NAME}` or `${NAME:-default}` after its opening brace: the name, the default,
and the text after it. -/
def readReference (cs : List Char) : Option (String × Option String × List Char) :=
  let name := String.ofList (cs.takeWhile fun c => !(c == '}' || c == ':'))
  match cs.dropWhile fun c => !(c == '}' || c == ':') with
  | '}' :: rest => some (name, none, rest)
  | ':' :: '-' :: rest =>
    match rest.dropWhile (· != '}') with
    | _ :: after => some (name, some (String.ofList (rest.takeWhile (· != '}'))), after)
    | [] => none
  | _ => none

/-- The value of a reference: a variable set to nothing is empty, and an unknown one is its
default. -/
def resolve (known : List (String × Option String)) (name : String) (default : Option String) :
    String :=
  match known.lookup name with
  | some v => v.getD ""
  | none => default.getD ""

/-- A value with its references replaced; at most `n` characters are looked at. -/
def expandIn (known : List (String × Option String)) : (n : Nat) → List Char → List Char
  | 0, cs => cs
  | n + 1, cs =>
    match cs with
    | [] => []
    | '$' :: '{' :: rest =>
      match readReference rest with
      | some (name, default, after) =>
        (resolve known name default).toList ++ expandIn known n after
      | none => '$' :: expandIn known n ('{' :: rest)
    | c :: rest => c :: expandIn known n rest

/-- A value with its references replaced. -/
def expand (known : List (String × Option String)) (s : String) : String :=
  String.ofList (expandIn known s.length s.toList)

/-- The variables that a text sets beside the given environment. -/
def assignments (environment : List (String × String)) (s : String) :
    List (String × Option String) :=
  let outer := environment.map fun (n, v) => (n, some v)
  (bindings s).foldl (fun set (name, value) =>
    assign name (value.map (expand (set ++ outer))) set) []

end SubscriptionRegistry.Assignments
