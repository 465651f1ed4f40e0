import SubscriptionRegistry.Uuid
import SubscriptionRegistry.Value

/-!
# Scopes

The scope of a subscription is the set of notification types that it enables. A `Scope` lists
its members in ascending order, so equal sets are equal values. Scopes are stored as texts, and
`Scope.decode` reads them back: a null is skipped, and an item that spells no identifier is
refused and reported.
-/

namespace SubscriptionRegistry

/-- A finite set of identifiers. -/
structure Scope where
  ids : List Uuid
  ascending : ids.Pairwise fun u v => u.value < v.value
deriving DecidableEq, Repr

namespace Scope

/-- The scope without members. -/
def empty : Scope := ⟨[], .nil⟩

instance : Inhabited Scope := ⟨empty⟩

instance : Membership Uuid Scope := ⟨fun s u => u ∈ s.ids⟩

/-- Puts `u` in its place in an ascending list, unless it is there. -/
def insertId (u : Uuid) : List Uuid → List Uuid
  | [] => [u]
  | v :: vs =>
    if u.value < v.value then u :: v :: vs
    else if v.value < u.value then v :: insertId u vs
    else v :: vs

theorem mem_insertId {u w : Uuid} {ids : List Uuid} : w ∈ insertId u ids ↔ w = u ∨ w ∈ ids := by
  induction ids with
  | nil => simp [insertId]
  | cons v vs ih =>
    unfold insertId
    split
    · simp
    · split
      · simp only [List.mem_cons, ih]
        exact or_left_comm
      · have huv : u.value = v.value := by omega
        simp [Uuid.ext huv]

theorem ascending_insertId {u : Uuid} {ids : List Uuid}
    (h : ids.Pairwise fun u v => u.value < v.value) :
    (insertId u ids).Pairwise fun u v => u.value < v.value := by
  induction ids with
  | nil => simp [insertId]
  | cons v vs ih =>
    obtain ⟨hv, hvs⟩ := List.pairwise_cons.1 h
    unfold insertId
    split
    · rename_i huv
      refine List.pairwise_cons.2 ⟨fun w hw => ?_, h⟩
      rcases List.mem_cons.1 hw with rfl | hw
      · exact huv
      · exact Fin.lt_trans huv (hv w hw)
    · split
      · rename_i hvu
        refine List.pairwise_cons.2 ⟨fun w hw => ?_, ih hvs⟩
        rcases mem_insertId.1 hw with rfl | hw
        · exact hvu
        · exact hv w hw
      · exact h

/-- The scope with `u` added. -/
def insert (u : Uuid) (s : Scope) : Scope :=
  ⟨insertId u s.ids, ascending_insertId s.ascending⟩

/-- The scope of the listed identifiers. -/
def ofList (ids : List Uuid) : Scope :=
  ids.foldr insert empty

/-- The number of members. -/
def size (s : Scope) : Nat := s.ids.length

@[simp] theorem mem_insert {u w : Uuid} {s : Scope} : w ∈ s.insert u ↔ w = u ∨ w ∈ s :=
  mem_insertId

@[simp] theorem not_mem_empty (u : Uuid) : ¬ u ∈ empty := List.not_mem_nil

@[simp] theorem mem_ofList {w : Uuid} {ids : List Uuid} : w ∈ ofList ids ↔ w ∈ ids := by
  induction ids with
  | nil => simp [ofList]
  | cons u ids ih => simpa [ofList] using or_congr_right ih

/-! ## Reading -/

/-- The identifier that an item of a scope list spells. -/
def readItem? : Value → Option Uuid
  | .text s => Uuid.read? s
  | _ => none

/-- The members that a list of items spells, and the items that spell none, in their order. A
null is neither. -/
def decode : List Value → Scope × List Value
  | [] => (empty, [])
  | item :: items =>
    let (scope, refused) := decode items
    match item, readItem? item with
    | _, some u => (scope.insert u, refused)
    | .null, none => (scope, refused)
    | item, none => (scope, item :: refused)

/-- The texts that a scope is stored as. -/
def texts (s : Scope) : List String :=
  s.ids.map Uuid.text

end Scope

end SubscriptionRegistry
