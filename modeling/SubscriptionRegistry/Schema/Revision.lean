import SubscriptionRegistry.Text.Numeral
import SubscriptionRegistry.Text.Pieces
import SubscriptionRegistry.Text.Word

/-!
# Revisions

The history of the schema is a list of named revisions, the oldest first. A database is at a
`Position` of the history: the number of revisions that are in force in it. A caller names a
position by `base`, by `head`, by a revision or the start of its name, or by its distance from
another position.

* `Revision.find`: the position with a name.
* `Revision.above`, `Revision.below`: the position that a move up or down aims at.
-/

namespace SubscriptionRegistry

/-- How many revisions are in force. -/
abbrev Position := Nat

/-- The history: the names of the revisions, the oldest first. -/
abbrev History := List String

/-- Why a move in the history is refused. -/
inductive Revision.Error where
  | rangeGiven
  | rangeMissing
  | crowdedRange
  | noName
  | unknown (name : String)
  | wrongDistance (text : String) (distance : Nat)
  | outsideHistory
  | notBelow (name : String)
deriving DecidableEq, Repr

/-- The wording of an error. -/
def Revision.Error.message : Revision.Error → String
  | rangeGiven => "Range revision not allowed"
  | rangeMissing => "downgrade with --sql requires <fromrev>:<torev>"
  | crowdedRange => "too many values to unpack (expected 2)"
  | noName => ""
  | unknown name => "Can't locate revision identified by '" ++ name ++ "'"
  | wrongDistance text distance =>
    "Relative revision " ++ text ++ " didn't produce " ++ toString distance ++ " migrations"
  | outsideHistory => "Walked too far"
  | notBelow name =>
    "Destination " ++ name ++ " is not a valid downgrade target from current head(s)"

namespace Revision

/-- The shortest name that may be given by its start alone. -/
def shortestName : Nat := 4

/-- The place in the history of the revision with a name, or of the only one that starts so. -/
def place? (history : History) (name : String) : Option Nat :=
  match history.findIdx? (· = name) with
  | some i => some i
  | none =>
    let starts := fun r : String =>
      shortestName ≤ r.length && name.toList.isPrefixOf r.toList
    if (history.filter starts).length = 1 then history.findIdx? starts else none

/-- The position with a name. -/
def find (history : History) (name : String) : Except Error Position :=
  if name = "base" then .ok 0
  else if name = "head" ∨ name = "heads" then .ok history.length
  else if name = "" then .error .noName
  else
    match place? history name with
    | some i => .ok (i + 1)
    | none => .error (.unknown name)

/-- A distance from a position: the name of that position, unless it is the current one, the
distance, and the text of the distance. -/
structure Relative where
  start : Option String
  distance : Int
  text : String

/-- Reads a distance: a name or none, a sign, and digits. -/
def Relative.read? (target : String) : Option Relative :=
  let cs := target.toList
  let name := cs.takeWhile Text.isWordChar
  match cs.dropWhile Text.isWordChar with
  | [] => none
  | sign :: rest =>
    let digits := rest.takeWhile fun c => (Text.decimal? c).isSome
    if (sign = '+' ∨ sign = '-') ∧ digits ≠ [] then
      let n := Text.foldDigits 10 (digits.filterMap Text.decimal?)
      some ⟨if name = [] then none else some (String.ofList name),
        if sign = '-' then -(n : Int) else n, String.ofList (sign :: digits)⟩
    else none

/-- The error for a distance that cannot be gone. -/
def Relative.error (r : Relative) : Error :=
  match r.start with
  | none => .wrongDistance r.text r.distance.natAbs
  | some _ => .outsideHistory

/-- The position at a distance from another one, if the history reaches it. -/
def Relative.from (r : Relative) (history : History) (p : Position) : Except Error Position :=
  let q := (p : Int) + r.distance
  if 0 ≤ q ∧ q ≤ history.length then .ok q.toNat else .error r.error

/-- The position that a move up from `current` aims at. From the current position a move goes up
by at least one revision. -/
def above (history : History) (current : Position) (target : String) : Except Error Position :=
  match Relative.read? target with
  | none => find history target
  | some r =>
    match r.start with
    | none => if 0 < r.distance then r.from history current else .error r.error
    | some name => do r.from history (← find history name)

/-- The position that a move down from `current` aims at. From the current position a move goes
down by at least one revision. -/
def below (history : History) (current : Position) (target : String) : Except Error Position := do
  let aim ← match Relative.read? target with
    | none => find history target
    | some r =>
      match r.start with
      | none => if r.distance < 0 then r.from history current else .error r.error
      | some name => do r.from history (← find history name)
  if aim ≤ current then .ok aim else .error (.notBelow target)

/-- The two ends of a range, which a colon divides; a name alone has no start. -/
def ends (text : String) : Except Error (Option String × String) :=
  match (Text.splitAt ':' text.toList).map String.ofList with
  | [target] => .ok (none, target)
  | [start, target] => .ok (some start, target)
  | _ => .error .crowdedRange

end Revision

end SubscriptionRegistry
