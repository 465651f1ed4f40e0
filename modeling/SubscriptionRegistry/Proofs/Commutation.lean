import SubscriptionRegistry.Proofs.Slots
import SubscriptionRegistry.Proofs.ViewAgreement

/-!
# Writes that commute

Calls at different slots do not see what the others leave. So each of them fails or succeeds in the
same way wherever it comes in a list of them, and the rows that are stored in the end are the same.

* `Operation.outcome_swap`: two calls may be made in either order.
* `Operation.outcomes_perm`: so may any number of them.
* `Store.SameRows.dump_eq`: on intact stores the same rows are the same contents.
* `Script.writes_commute`: lists of calls at every point of a run.
-/

namespace SubscriptionRegistry

namespace Operation

variable (locked : Bool) (clock : Instant) {s t : Store} {a b op : Operation}
  {ops ops' : List Operation}

/-- A call at a slot tells stores with the same rows not apart. -/
theorem outcome_congr (hop : op.slot? ≠ none) (hs : s.Intact) (ht : t.Intact) (h : s.SameRows t) :
    (op.outcome locked clock s).1 = (op.outcome locked clock t).1 ∧
      (op.outcome locked clock s).2.SameRows (op.outcome locked clock t).2 := by
  obtain ⟨answer, hanswer⟩ := outcome_local locked clock hop
  rw [(hanswer s hs).1, (hanswer t ht).1, h.sight hs ht op]
  exact ⟨rfl, h.leave hs ht _⟩

/-- Calls at different slots are given the same reports in either order, and leave the same rows. -/
theorem outcome_swap (ha : a.slot? ≠ none) (hb : b.slot? ≠ none) (h : a.Apart b) (hs : s.Intact) :
    let afterA := a.outcome locked clock s
    let afterB := b.outcome locked clock s
    (b.outcome locked clock afterA.2).1 = afterB.1 ∧ (a.outcome locked clock afterB.2).1 = afterA.1 ∧
      (b.outcome locked clock afterA.2).2.SameRows (a.outcome locked clock afterB.2).2 := by
  intro afterA afterB
  have hintact (op : Operation) : (op.outcome locked clock s).2.Intact := intact_outcome hs
  obtain ⟨answerA, hanswerA⟩ := outcome_local locked clock ha
  obtain ⟨answerB, hanswerB⟩ := outcome_local locked clock hb
  have hleaveA : afterA.2 = s.leave (answerA (s.sight a)).2 := congrArg Prod.snd (hanswerA s hs).1
  have hleaveB : afterB.2 = s.leave (answerB (s.sight b)).2 := congrArg Prod.snd (hanswerB s hs).1
  -- neither call sees the deposit of the other
  have hsightB : afterA.2.sight b = s.sight b := by
    rw [hleaveA]
    cases hd : (answerA (s.sight a)).2 with
    | none => rfl
    | some d => exact ((hanswerA s hs).2 d hd).sight_leave hs h
  have hsightA : afterB.2.sight a = s.sight a := by
    rw [hleaveB]
    cases he : (answerB (s.sight b)).2 with
    | none => rfl
    | some e => exact ((hanswerB s hs).2 e he).sight_leave hs h.symm
  have hAB := (hanswerB afterA.2 (hintact a)).1
  have hBA := (hanswerA afterB.2 (hintact b)).1
  rw [hsightB] at hAB
  rw [hsightA] at hBA
  refine ⟨?_, ?_, ?_⟩
  · rw [hAB]
    exact (congrArg Prod.fst (hanswerB s hs).1).symm
  · rw [hBA]
    exact (congrArg Prod.fst (hanswerA s hs).1).symm
  · rw [hAB, hBA, hleaveA, hleaveB]
    dsimp only
    cases hd : (answerA (s.sight a)).2 with
    | none => exact .refl _
    | some d =>
      cases he : (answerB (s.sight b)).2 with
      | none => exact .refl _
      | some e =>
        have hfitsA := (hanswerA s hs).2 d hd
        have hfitsB := (hanswerB s hs).2 e he
        refine hs.leave_comm (fun heq => h.slot ?_) (hfitsA.identity_ne hs hfitsB h)
        rw [hfitsA.slot, hfitsB.slot, heq]

/-- Calls at slots tell stores with the same rows not apart. -/
theorem outcomes_congr (hops : ∀ op ∈ ops, op.slot? ≠ none) (hs : s.Intact) (ht : t.Intact)
    (h : s.SameRows t) :
    (outcomes locked clock s ops).1 = (outcomes locked clock t ops).1 ∧
      (outcomes locked clock s ops).2.SameRows (outcomes locked clock t ops).2 := by
  induction ops generalizing s t with
  | nil => exact ⟨rfl, h⟩
  | cons op ops ih =>
    obtain ⟨hop, hrest⟩ := List.forall_mem_cons.1 hops
    obtain ⟨hreport, hrows⟩ := outcome_congr locked clock hop hs ht h
    obtain ⟨hreports, hlast⟩ := ih hrest (intact_outcome hs) (intact_outcome ht) hrows
    rw [outcomes_cons, outcomes_cons, hreport, hreports]
    exact ⟨rfl, hlast⟩

/-- Calls at different slots may be made in any order: each of them is given the same report, and
the same rows are left. -/
theorem outcomes_perm (hperm : ops.Perm ops') (hops : ∀ op ∈ ops, op.slot? ≠ none)
    (hapart : ops.Pairwise Apart) (hs : s.Intact) :
    (ops.zip (outcomes locked clock s ops).1).Perm (ops'.zip (outcomes locked clock s ops').1) ∧
      (outcomes locked clock s ops).2.SameRows (outcomes locked clock s ops').2 := by
  induction hperm generalizing s with
  | nil => exact ⟨.refl _, .refl _⟩
  | cons op _ ih =>
    obtain ⟨-, hrest⟩ := List.forall_mem_cons.1 hops
    obtain ⟨hzip, hrows⟩ := ih hrest (List.pairwise_cons.1 hapart).2 (intact_outcome hs)
    rw [outcomes_cons, outcomes_cons]
    exact ⟨hzip.cons _, hrows⟩
  | swap a b ops =>
    obtain ⟨hb, hrest⟩ := List.forall_mem_cons.1 hops
    obtain ⟨ha, htail⟩ := List.forall_mem_cons.1 hrest
    have hab : a.Apart b := ((List.pairwise_cons.1 hapart).1 a List.mem_cons_self).symm
    obtain ⟨hreportB, hreportA, hrows⟩ := outcome_swap locked clock ha hb hab hs
    obtain ⟨hreports, hlast⟩ := outcomes_congr locked clock htail
      (intact_outcome (intact_outcome hs)) (intact_outcome (intact_outcome hs)) hrows
    simp only [outcomes_cons, List.zip_cons_cons]
    rw [hreportA, hreportB, hreports]
    exact ⟨.swap _ _ _, hlast.symm⟩
  | trans h₁ _ ih₁ ih₂ =>
    obtain ⟨hzip₁, hrows₁⟩ := ih₁ hops hapart hs
    obtain ⟨hzip₂, hrows₂⟩ := ih₂ (fun op hop => hops op (h₁.mem_iff.2 hop))
      (h₁.pairwise hapart fun h => h.symm) hs
    exact ⟨hzip₁.trans hzip₂, hrows₁.trans hrows₂⟩

end Operation

/-! ## Contents -/

theorem nodup_eraseDups : ∀ ids : List Uuid, ids.eraseDups.Nodup
  | [] => .nil
  | u :: ids => by
    rw [List.eraseDups_cons]
    refine List.nodup_cons.2 ⟨fun hu => ?_, nodup_eraseDups _⟩
    rw [List.mem_eraseDups, List.mem_filter] at hu
    simp at hu
termination_by ids => ids.length
decreasing_by exact Nat.lt_succ_of_le (List.length_filter_le _ _)

/-- Rows with distinct ids are sorted in one way only. -/
theorem Keyed.sortById_eq {id : α → Uuid} {l m : List α} (h : Keyed id l) (hperm : l.Perm m) :
    sortById id l = sortById id m := by
  have hsorted : (sortById id l).Perm (sortById id m) :=
    (List.mergeSort_perm _ _).trans (hperm.trans (List.mergeSort_perm _ _).symm)
  refine hsorted.eq_of_pairwise (fun x y hx hy hxy hyx => ?_) (pairwise_sortById id l)
    (pairwise_sortById id m)
  have hx : x ∈ l := List.mem_mergeSort.1 hx
  have hy : y ∈ l := hperm.mem_iff.2 (List.mem_mergeSort.1 hy)
  exact h.eq hx hy (Uuid.le_antisymm hxy hyx)

theorem sortTexts_eq {l m : List String} (h : l.Perm m) : sortTexts l = sortTexts m :=
  List.Perm.eq_of_pairwise (fun _ _ _ _ => String.le_antisymm) (pairwise_sortByText id l)
    (pairwise_sortByText id m) ((sortTexts_perm l).trans (h.trans (sortTexts_perm m).symm))

namespace Store.SameRows

variable {s t : Store}

theorem scopeTexts (h : s.SameRows t) (id : Uuid) : (s.scopeTexts id).Perm (t.scopeTexts id) :=
  (h.scopes.filter _).map _

theorem scopeOwners (h : s.SameRows t) : s.scopeOwners.Perm t.scopeOwners := by
  refine (List.perm_ext_iff_of_nodup (nodup_eraseDups _) (nodup_eraseDups _)).2 fun u => ?_
  rw [List.mem_eraseDups, List.mem_eraseDups]
  exact (h.scopes.map _).mem_iff

/-- Intact stores with the same rows have the same contents. -/
theorem dump_eq (h : s.SameRows t) (hs : s.Intact) : s.dump = t.dump := by
  have howners : Keyed id s.scopeOwners := by
    unfold Keyed
    rw [List.map_id]
    exact nodup_eraseDups _
  have htexts (u : Uuid) : sortTexts (s.scopeTexts u) = sortTexts (t.scopeTexts u) :=
    sortTexts_eq (h.scopeTexts u)
  unfold dump
  rw [hs.projects_id.sortById_eq h.projects, hs.subscribers_id.sortById_eq h.subscribers,
    hs.watchers_id.sortById_eq h.watchers, howners.sortById_eq h.scopeOwners]
  simp only [htexts]

end Store.SameRows

/-! ## Every point of a run -/

/-- What a session puts decides what everybody sees. -/
theorem Database.sameRows_put (d : Database) (i k : SessionId) {s t : Store} (h : s.SameRows t) :
    ((d.put i s).view k).SameRows ((d.put i t).view k) ∧
      (d.put i s).committed.SameRows (d.put i t).committed := by
  have hcommitted : (d.put i s).committed.SameRows (d.put i t).committed := by
    rw [committed_put, committed_put]
    split
    · exact .refl _
    · exact h
  refine ⟨?_, hcommitted⟩
  by_cases hk : k = i
  · rw [hk, view_put, view_put]
    exact h
  · have htransaction : (d.put i s).transaction? k = (d.put i t).transaction? k :=
      (transaction?_congr others_put hk).trans (transaction?_congr others_put hk).symm
    unfold view
    rw [htransaction]
    cases ((d.put i t).transaction? k).bind (·.working) with
    | none => exact hcommitted
    | some u => exact .refl _

/-- **Writes on different keys commute.** At every point of a run from the empty store, let a
session make calls that create, reset or extend subscriptions or start sessions of watchers, with
pairwise distinct keys, and with pairwise distinct ids for the new rows of a table. In whatever
order it makes them, each call is given the same report, whether it succeeds or fails. In the end
every session sees the same rows, and the session itself the same contents. -/
theorem Script.writes_commute (script : Script) (clock : Instant) (n : Nat) (i : SessionId)
    (ops ops' : List Operation) (hperm : ops.Perm ops') (hops : ∀ op ∈ ops, op.slot? ≠ none)
    (hkeys : (ops.map Operation.slot?).Nodup) (hids : (ops.filterMap Operation.newRow?).Nodup) :
    let r := script.stateAt (.start clock .empty) n
    let left := Script.run r (ops.map fun op => .act i (.call op))
    let right := Script.run r (ops'.map fun op => .act i (.call op))
    (ops.zip left.1).Perm (ops'.zip right.1) ∧ left.2.clock = right.2.clock ∧
      left.2.database.committed.SameRows right.2.database.committed ∧
      (∀ k, (left.2.database.view k).SameRows (right.2.database.view k)) ∧
      (left.2.database.view i).dump = (right.2.database.view i).dump := by
  intro r left right
  have hintact : (r.database.view i).Intact := script.intact_view clock n i
  have hapart : ops.Pairwise Operation.Apart := by
    refine ((List.pairwise_map.1 hkeys).and (List.pairwise_filterMap.1 hids)).imp fun h => ?_
    exact ⟨h.1, fun row ha hb => h.2 row ha row hb rfl⟩
  obtain ⟨hzip, hrows⟩ := Operation.outcomes_perm (r.database.lockedFor i) r.clock hperm hops
    hapart hintact
  obtain ⟨d, hleft, hd⟩ := Script.run_calls r i ops
  obtain ⟨d', hright, hd'⟩ := Script.run_calls r i ops'
  have hview (k : SessionId) : (d.view k).SameRows (d'.view k) := by
    rw [hd.view_all, hd'.view_all]
    exact (r.database.sameRows_put i k hrows).1
  rw [show left = _ from hleft, show right = _ from hright]
  refine ⟨hzip, rfl, ?_, hview, ?_⟩
  · show d.committed.SameRows d'.committed
    rw [hd.committed, hd'.committed]
    exact (r.database.sameRows_put i i hrows).2
  · refine (hview i).dump_eq ?_
    rw [hd.view, Database.view_put]
    exact Operation.intact_outcomes hintact

/-- A subscription and a watcher that are stored, and a subscription without a project and a renewal
without a subscription that are not, in one order and in the other. -/
theorem Script.writes_commute_reversed :
    let i : SessionId := .caller "a"
    let t : Instant := ⟨0, by decide⟩
    let script : Script :=
      [.act i (.call (.upsertProject ⟨default, some "p", some "app", some "t",
        ⟨some (.text "k"), some (.text "l")⟩, ⟨some (.text "m"), some (.text "n")⟩⟩))]
    let key : List UInt8 := List.replicate notifyKeyLength 1
    let ops : List Operation :=
      [.upsertSubscriber ⟨.ofNat 1, some default, some "x", .ofList [default], key, some "t", none⟩,
        .upsertSubscriber ⟨.ofNat 2, none, some "x", .ofList [], key, some "t", none⟩,
        .renewSubscriber ⟨some default, some "y", .ofList [], none⟩,
        .upsertWatcher ⟨.ofNat 1, some "x", none, some "did", some "sym", some (.ofInstant t)⟩]
    let r := script.stateAt (.start t .empty) 1
    let left := Script.run r (ops.map fun op => .act i (.call op))
    let right := Script.run r (ops.reverse.map fun op => .act i (.call op))
    (∀ op ∈ ops, op.slot? ≠ none) ∧ (ops.map Operation.slot?).Nodup ∧
      (ops.filterMap Operation.newRow?).Nodup ∧
      left.1.map (·.fault?.isSome) = [false, true, true, false] ∧
      (ops.zip left.1).Perm (ops.reverse.zip right.1) ∧ left.2.clock = right.2.clock ∧
      left.2.database.committed.SameRows right.2.database.committed ∧
      (∀ k, (left.2.database.view k).SameRows (right.2.database.view k)) ∧
      (left.2.database.view i).dump = (right.2.database.view i).dump := by
  intro i t script key ops r left right
  have hops : ∀ op ∈ ops, op.slot? ≠ none := by decide
  have hkeys : (ops.map Operation.slot?).Nodup := by decide +kernel
  have hids : (ops.filterMap Operation.newRow?).Nodup := by decide +kernel
  have hfaults : left.1.map (·.fault?.isSome) = [false, true, true, false] := by decide +kernel
  have hcommute := Script.writes_commute script t 1 i ops ops.reverse
    (List.reverse_perm ops).symm hops hkeys hids
  refine ⟨hops, hkeys, hids, hfaults, ?_⟩
  with_reducible exact hcommute

end SubscriptionRegistry
