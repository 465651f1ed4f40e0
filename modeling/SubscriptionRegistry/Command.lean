import SubscriptionRegistry.Text.Digits
import SubscriptionRegistry.Text.Pieces
import SubscriptionRegistry.Text.Quoted

/-!
# Commands

The program has two commands: one makes the tables of the registry, the other sweeps expired
watchers once. Both take no arguments but a request for help, which may be abbreviated.

* `Request.read`: what the arguments ask for.
* `Request.helpLines`, `Request.errorLines`: what is printed for a request that is not a command.
-/

namespace SubscriptionRegistry

/-- The commands of the program. -/
inductive Command where
  | initDb
  | sweep
deriving DecidableEq, Repr

namespace Command

/-- The name of a command. -/
def name : Command → String
  | initDb => "init-db"
  | sweep => "sweep"

/-- The commands in the order in which they are listed. -/
def all : List Command := [initDb, sweep]

/-- The command with a name. -/
def named? (s : String) : Option Command :=
  all.find? (·.name = s)

/-- What a command does, in a few words. -/
def summary : Command → String
  | initDb => "Create all tables in the configured database"
  | sweep => "Delete expired subscription watchers"

end Command

/-! ## Arguments -/

/-- What is wrong with the arguments. -/
inductive UsageError where
  | noCommand
  | unknownCommand (text : String)
  | unknownArguments (texts : List String)
  | valueForHelp (text : String)
deriving DecidableEq, Repr

/-- The wording of an error. -/
def UsageError.message : UsageError → String
  | noCommand => "the following arguments are required: command"
  | unknownCommand text =>
    "argument command: invalid choice: " ++ Text.quote text ++ " (choose from " ++
      Text.joinWith ", " (Command.all.map fun c => Text.quote c.name) ++ ")"
  | unknownArguments texts => "unrecognized arguments: " ++ Text.joinWith " " texts
  | valueForHelp text => "argument -h/--help: ignored explicit argument " ++ Text.quote text

/-- What the arguments ask for: to run a command, or to print the help of the program or of one
command. What is wrong after the name of a command may be wrong for that command alone. -/
inductive Request where
  | run (c : Command)
  | help (of : Option Command)
  | refused (of : Option Command) (e : UsageError)
deriving DecidableEq, Repr

/-- The kinds of arguments. A request for help may have a value, which it does not take. -/
inductive Argument where
  | word
  | help (value : Option String)
  | helpLetters (letters : List Char)
  | unknownOption
deriving DecidableEq, Repr

namespace Argument

/-- Whether the text is a minus sign and a number in digits of any script. -/
def isNegativeNumber (cs : List Char) : Bool :=
  let isDigit := fun c => (Text.decimal? c).isSome
  match cs with
  | '-' :: rest =>
    match rest.dropWhile isDigit with
    | [] => rest ≠ []
    | '.' :: places => places ≠ [] && places.all isDigit
    | _ => false
  | _ => false

/-- The kind of an argument that no option fits: a negative number and a text with a space are
words. -/
def unfitting (cs : List Char) : Argument :=
  if isNegativeNumber cs || cs.contains ' ' then word else unknownOption

/-- The kind of an argument. The long option may be abbreviated; the value of an option follows a
sign of equality, or follows the letter of the short option at once. -/
def ofText (s : String) : Argument :=
  let cs := s.toList
  let name := cs.takeWhile (· != '=')
  let value := cs.dropWhile (· != '=')
  match cs with
  | '-' :: '-' :: _ =>
    if name.isPrefixOf "--help".toList then
      help (if value = [] then none else some (String.ofList (value.drop 1)))
    else unfitting cs
  | ['-'] => word
  | ['-', 'h'] => help none
  | '-' :: 'h' :: '=' :: rest => helpLetters rest
  | '-' :: 'h' :: rest => helpLetters rest
  | '-' :: _ => unfitting cs
  | _ => word

/-- What letters after the short option ask for: each of them is an option of its own. -/
def request (of : Option Command) : List Char → Request
  | [] => .help of
  | 'h' :: rest => request of rest
  | cs => .refused of (.valueForHelp (String.ofList cs))

/-- What an argument asks for at once. -/
def request? (of : Option Command) : Argument → Option Request
  | word => none
  | unknownOption => none
  | help none => some (.help of)
  | help (some value) => some (.refused of (.valueForHelp value))
  | helpLetters [] => some (.refused of (.valueForHelp ""))
  | helpLetters letters => some (request of letters)

end Argument

namespace Request

/-- The request to run a command, of which some arguments are left. -/
def ofRest (c : Command) : (left : List String) → Request
  | [] => run c
  | left => refused none (.unknownArguments left)

/-- Reads the arguments after a command; `left` are the arguments before them that fit nothing.
After two hyphens all arguments are words. -/
def readAfter (c : Command) (left : List String) : List String → Request
  | [] => ofRest c left
  | s :: rest =>
    if s = "--" then ofRest c (left ++ s :: rest)
    else
      match (Argument.ofText s).request? (some c) with
      | some r => r
      | none => readAfter c (left ++ [s]) rest

/-- Reads the name of a command and the arguments after it. -/
def readCommand (left : List String) (name : String) (rest : List String) : Request :=
  match Command.named? name with
  | some c => readAfter c left rest
  | none => refused none (.unknownCommand name)

/-- Reads arguments; `left` are the arguments before them that fit nothing. Two hyphens stand for
the name of a command if any argument follows them. -/
def readFrom (left : List String) : List String → Request
  | [] => refused none .noCommand
  | s :: rest =>
    if s = "--" then
      if rest = [] then refused none .noCommand else readCommand left s rest
    else
      match (Argument.ofText s).request? none, Argument.ofText s with
      | some r, _ => r
      | none, .word => readCommand left s rest
      | none, _ => readFrom (left ++ [s]) rest

/-- What the arguments ask for. -/
def read (arguments : List String) : Request :=
  readFrom [] arguments

/-! ## Texts -/

/-- The name of the program, or of a command of it. -/
def program : Option Command → String
  | none => "notify-registry"
  | some c => "notify-registry " ++ c.name

/-- The names of the commands as one choice. -/
def choice : String :=
  "\x7b" ++ Text.joinWith "," (Command.all.map (·.name)) ++ "\x7d"

/-- How the program or a command is called. -/
def usageLine (of : Option Command) : String :=
  "usage: " ++ program of ++ " [-h]" ++
    match of with
    | none => " " ++ choice ++ " ..."
    | some _ => ""

/-- An entry of the help: a term, and its explanation in a column of its own. -/
def helpEntry (width indent : Nat) (term explanation : String) : String :=
  String.ofList (List.replicate indent ' ') ++ term ++
    String.ofList (List.replicate (width - indent - term.length) ' ') ++ explanation

/-- The entries of the commands in the help of the program. -/
def commandEntries : List String :=
  Command.all.map fun c => helpEntry 19 4 c.name c.summary

/-- The help on the only option. -/
def optionEntries (width : Nat) : List String :=
  ["options:", helpEntry width 2 "-h, --help" "show this help message and exit"]

/-- The help of the program or of a command. -/
def helpLines : Option Command → List String
  | none =>
    [usageLine none, "", "Notify subscription registry", "", "positional arguments:",
      "  " ++ choice] ++ commandEntries ++ [""] ++ optionEntries 19
  | some c => [usageLine (some c), ""] ++ optionEntries 14

/-- The lines about arguments that are wrong. -/
def errorLines (of : Option Command) (e : UsageError) : List String :=
  usageLine of :: Text.lines (program of ++ ": error: " ++ e.message)

end Request

end SubscriptionRegistry
