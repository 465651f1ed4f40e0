import SubscriptionRegistry.Uuid

/-!
# Rows of views

A view joins rows of tables, gathers them by a key, and sorts them. Texts are ordered by their code
points, and pairs of texts by the first part, then the second. Rows that the order does not tell
apart keep their order.

* `sortByText`, `sortById`: rows in ascending order.
* `innerJoin`: the pairs of rows of two tables that belong together.
* `outerJoin`: the same, with the rows of the first table that have no partner paired with
  nothing.
* `groupRows`: the second parts of pairs, gathered by a key of the first parts. A group stands
  where its key occurs first, shows the first row with that key, and keeps the order of its
  members.
-/

namespace SubscriptionRegistry

/-! ## Order -/

/-- The order of texts by code points. -/
def textLe (a b : String) : Bool :=
  decide (a ≤ b)

/-- The order of pairs of texts. -/
def textPairLe (a b : String × String) : Bool :=
  if a.1 = b.1 then textLe a.2 b.2 else textLe a.1 b.1

/-- The rows in ascending order of a text. -/
def sortByText (f : α → String) (rows : List α) : List α :=
  rows.mergeSort fun a b => textLe (f a) (f b)

/-- The rows in ascending order of an identifier. -/
def sortById (f : α → Uuid) (rows : List α) : List α :=
  rows.mergeSort fun a b => (f a).le (f b)

/-- The texts in ascending order. -/
def sortTexts (texts : List String) : List String :=
  sortByText id texts

/-! ## Joins and grouping -/

variable {α β κ : Type}

/-- The pairs of rows that belong together. -/
def innerJoin (on : α → β → Bool) (as : List α) (bs : List β) : List (α × β) :=
  as.flatMap fun a => (bs.filter (on a)).map fun b => (a, b)

/-- The partners of one row, or nothing in their place. -/
def partners (on : α → β → Bool) (bs : List β) (a : α) : List (Option β) :=
  match bs.filter (on a) with
  | [] => [none]
  | ms => ms.map some

/-- The pairs of rows that belong together, and the rows of the first table without a partner. -/
def outerJoin (on : α → β → Bool) (as : List α) (bs : List β) : List (α × Option β) :=
  as.flatMap fun a => (partners on bs a).map fun b => (a, b)

/-- Adds `b` to the group of `a`; a new group is put at the end. -/
def addToGroup [DecidableEq κ] (key : α → κ) (a : α) (b : β) :
    List (α × List β) → List (α × List β)
  | [] => [(a, [b])]
  | (a', bs) :: gs =>
    if key a' = key a then (a', bs ++ [b]) :: gs else (a', bs) :: addToGroup key a b gs

/-- Gathers the rows by key, going through them from the first to the last. -/
def groupRows [DecidableEq κ] (key : α → κ) (rows : List (α × β)) : List (α × List β) :=
  rows.foldl (fun gs r => addToGroup key r.1 r.2 gs) []

end SubscriptionRegistry
