import Mathlib.Algebra.GroupWithZero.Nat
import Mathlib.Data.List.Induction
import Mathlib.Data.List.Perm.Basic
import SubscriptionRegistry.Proofs.Joins
import SubscriptionRegistry.Uuid

/-!
# Gathering rows in one pass

Rows are gathered in the order in which they come: a row joins the group of its key wherever that
group stands, and opens a new one at the end if there is none. The rows of one key may be scattered
among those of others.

* `groupRows_snoc`: what one more row does. The statements about all rows are inductions at their
  end.
* `keys_groupRows`: the groups stand in the order in which their keys come first.
* `shown_groupRows_first`: a group shows the first row with its key. What it has gathered is
  `Grouped.members`.
* `sum_length_groupRows`: the groups have as many members as there are rows.
* `Rearranged`: groups in another order, each with its members in another order.
  `Grouped.rearranged`: so are the groups of rows that come in another order.
* `groups_exact`: all of it together.
-/

namespace SubscriptionRegistry

variable {α β κ : Type} [DecidableEq κ] {key : α → κ} {rows rows' : List (α × β)}
  {gs gs' : List (α × List β)}

/-! ## One more row -/

theorem groupRows_snoc (key : α → κ) (rows : List (α × β)) (r : α × β) :
    groupRows key (rows ++ [r]) = addToGroup key r.1 r.2 (groupRows key rows) := by
  rw [groupRows, List.foldl_append]
  rfl

/-- A key is put at the end unless it is there. -/
theorem keys_addToGroup (key : α → κ) (a : α) (b : β) (gs : List (α × List β)) :
    (addToGroup key a b gs).map (fun g => key g.1) =
      if key a ∈ gs.map (fun g => key g.1) then gs.map (fun g => key g.1)
      else gs.map (fun g => key g.1) ++ [key a] := by
  rcases addToGroup_cases key a b gs with ⟨before, a', bs, after, rfl, hk, hadd⟩ | ⟨hno, hadd⟩
  · have hmem : key a ∈ (before ++ (a', bs) :: after).map fun g => key g.1 := by
      rw [← hk]
      exact List.mem_map_of_mem (List.mem_append_right _ List.mem_cons_self)
    rw [if_pos hmem, hadd]
    simp only [List.map_append, List.map_cons]
  · have hmem : key a ∉ gs.map fun g => key g.1 := by
      intro hmem
      obtain ⟨g, hg, hga⟩ := List.mem_map.1 hmem
      exact hno g hg hga
    rw [if_neg hmem, hadd, List.map_append]
    rfl

theorem eraseDups_snoc (l : List κ) (k : κ) :
    (l ++ [k]).eraseDups = if k ∈ l then l.eraseDups else l.eraseDups ++ [k] := by
  rw [List.eraseDups_append]
  by_cases hk : k ∈ l <;> simp [List.removeAll, List.eraseDups_cons, hk]

/-! ## All rows -/

/-- There is one group for each key, and the keys stand in the order in which they come first. -/
theorem keys_groupRows (key : α → κ) (rows : List (α × β)) :
    (groupRows key rows).map (fun g => key g.1) = (rows.map fun r => key r.1).eraseDups := by
  induction rows using List.reverseRecOn with
  | nil => rfl
  | append_singleton rows r ih =>
    rw [groupRows_snoc, keys_addToGroup, ih, List.map_append, List.map_singleton, eraseDups_snoc]
    simp only [List.mem_eraseDups]

/-- A group shows the first row with its key. -/
theorem shown_groupRows_first (key : α → κ) (rows : List (α × β)) :
    ∀ g ∈ groupRows key rows,
      (rows.find? fun r => key r.1 = key g.1).map Prod.fst = some g.1 := by
  induction rows using List.reverseRecOn with
  | nil => exact nofun
  | append_singleton rows r ih =>
    -- A row that is found among the rows before is still the first.
    have hold : ∀ g ∈ groupRows key rows,
        ((rows ++ [r]).find? fun r => key r.1 = key g.1).map Prod.fst = some g.1 := by
      intro g hg
      obtain ⟨x, hx, hxg⟩ := Option.map_eq_some_iff.1 (ih g hg)
      rw [List.find?_append, hx, Option.some_or, Option.map_some, hxg]
    rw [groupRows_snoc]
    rcases addToGroup_cases key r.1 r.2 (groupRows key rows) with
      ⟨before, a, bs, after, hgs, -, hadd⟩ | ⟨hno, hadd⟩
    · rw [hgs] at hold
      rw [hadd]
      intro g hg
      rcases List.mem_append.1 hg with hg | hg
      · exact hold g (List.mem_append_left _ hg)
      · rcases List.mem_cons.1 hg with rfl | hg
        · exact hold (a, bs) (List.mem_append_right _ List.mem_cons_self)
        · exact hold g (List.mem_append_right _ (List.mem_cons_of_mem _ hg))
    · rw [hadd]
      intro g hg
      rcases List.mem_append.1 hg with hg | hg
      · exact hold g hg
      · -- No row before had the key of the new group.
        have hnone : (rows.find? fun x => key x.1 = key r.1) = none := by
          refine List.find?_eq_none.2 fun x hx hxr => ?_
          obtain ⟨g', hg', hgx⟩ := (grouped_groupRows key rows).complete x hx
          exact hno g' hg' (hgx.trans (of_decide_eq_true hxr))
        rw [List.mem_singleton.1 hg, List.find?_append, hnone]
        simp

theorem sum_length_groupRows (key : α → κ) (rows : List (α × β)) :
    ((groupRows key rows).map fun g => g.2.length).sum = rows.length := by
  have hperm := flatMap_snd_groupRows key rows
  rw [← List.length_flatMap, hperm.length_eq, List.length_map]

/-! ## Rows in another order -/

/-- The groups `gs` are the groups `gs'` in another order, each with its members in another
order. -/
def Rearranged (gs gs' : List (α × List β)) : Prop :=
  ∃ hs, hs.Perm gs' ∧ List.Forall₂ (fun g h => g.1 = h.1 ∧ g.2.Perm h.2) gs hs

/-- The keys of the groups are those of the rows. -/
theorem Grouped.mem_keys (h : Grouped key rows gs) {k : κ} :
    k ∈ gs.map (fun g => key g.1) ↔ k ∈ rows.map fun r => key r.1 := by
  constructor
  · intro hk
    obtain ⟨g, hg, rfl⟩ := List.mem_map.1 hk
    obtain ⟨r, hr, hrg⟩ := List.mem_map.1 (h.shown g hg)
    exact List.mem_map.2 ⟨r, hr, congrArg key hrg⟩
  · intro hk
    obtain ⟨r, hr, rfl⟩ := List.mem_map.1 hk
    obtain ⟨g, hg, hgr⟩ := h.complete r hr
    exact List.mem_map.2 ⟨g, hg, hgr⟩

/-- Rows in another order have the same groups, if rows with the same key show the same. -/
theorem Grouped.rearranged (h : Grouped key rows gs) (h' : Grouped key rows' gs')
    (hrows : rows.Perm rows')
    (hagree : ∀ r ∈ rows, ∀ r' ∈ rows, key r.1 = key r'.1 → r.1 = r'.1) : Rearranged gs gs' := by
  have hkeys : (gs.map fun g => key g.1).Perm (gs'.map fun g => key g.1) := by
    refine (List.perm_ext_iff_of_nodup h.nodup h'.nodup).2 fun k => ?_
    rw [h.mem_keys, h'.mem_keys, (hrows.map fun r => key r.1).mem_iff]
  have hself : List.Forall₂ (fun k h => k = key h.1) (gs'.map fun g => key g.1) gs' :=
    List.forall₂_map_left_iff.2 (List.forall₂_same.2 fun _ _ => rfl)
  obtain ⟨hs, hpairs, hperm⟩ := List.perm_comp_forall₂ hkeys hself
  obtain ⟨hlen, hzip⟩ := List.forall₂_iff_zip.1 (List.forall₂_map_left_iff.1 hpairs)
  refine ⟨hs, hperm, List.forall₂_iff_zip.2 ⟨hlen, fun {g x} hgx => ?_⟩⟩
  have hkey : key g.1 = key x.1 := hzip hgx
  obtain ⟨hg, hx⟩ := List.of_mem_zip hgx
  have hx' := hperm.mem_iff.1 hx
  constructor
  · obtain ⟨r, hr, hrg⟩ := List.mem_map.1 (h.shown g hg)
    obtain ⟨r', hr', hrx⟩ := List.mem_map.1 (h'.shown x hx')
    rw [← hrg, ← hrx] at hkey ⊢
    exact hagree r hr r' (hrows.mem_iff.2 hr') hkey
  · rw [h.members g hg, h'.members x hx', hkey]
    exact (hrows.filter _).map _

/-- **Gathering neither loses nor mixes rows.** Rows that come in any order are gathered into one
group for each key, in the order in which the keys come first. A group shows the first row with its
key and has the second parts of all rows with that key, in their order and as often as they come. So
the groups have as many members as there are rows; and if rows with the same key show the same, rows
in another order give the same groups in another order, each with its members in another order. -/
theorem groups_exact (key : α → κ) (rows : List (α × β)) :
    let groups := groupRows key rows
    groups.map (fun g => key g.1) = (rows.map fun r => key r.1).eraseDups ∧
      (∀ g ∈ groups, (rows.find? fun r => key r.1 = key g.1).map Prod.fst = some g.1 ∧
        g.2 = (rows.filter fun r => key r.1 = key g.1).map Prod.snd) ∧
      (groups.map fun g => g.2.length).sum = rows.length ∧
      ∀ rows' : List (α × β), rows.Perm rows' →
        (∀ r ∈ rows, ∀ r' ∈ rows, key r.1 = key r'.1 → r.1 = r'.1) →
          Rearranged groups (groupRows key rows') := by
  intro groups
  have hgroups : Grouped key rows groups := grouped_groupRows key rows
  refine ⟨keys_groupRows key rows, fun g hg => ⟨?_, hgroups.members g hg⟩,
    sum_length_groupRows key rows, fun rows' hrows hagree => ?_⟩
  · exact shown_groupRows_first key rows g hg
  · exact hgroups.rearranged (grouped_groupRows key rows') hrows hagree

/-- Rows of two keys that come in turn, with a null and a name that comes twice, and the same rows
from the last to the first. -/
theorem groups_exact_interleaved :
    let x : Uuid × String := (Uuid.ofNat 1, "x")
    let y : Uuid × String := (Uuid.ofNat 2, "y")
    let rows := [(x, some "a"), (y, none), (x, some "b"), (y, some "a"), (x, some "a")]
    groupRows Prod.fst rows = [(x, [some "a", some "b", some "a"]), (y, [none, some "a"])] ∧
      rows.Perm rows.reverse ∧
      (∀ r ∈ rows, ∀ r' ∈ rows, r.1.1 = r'.1.1 → r.1 = r'.1) ∧
      Rearranged (groupRows Prod.fst rows) (groupRows Prod.fst rows.reverse) := by
  intro x y rows
  have hperm : rows.Perm rows.reverse := (List.reverse_perm rows).symm
  have hagree : ∀ r ∈ rows, ∀ r' ∈ rows, r.1.1 = r'.1.1 → r.1 = r'.1 := by decide
  exact ⟨by decide, hperm, hagree, (groups_exact Prod.fst rows).2.2.2 rows.reverse hperm hagree⟩

end SubscriptionRegistry
