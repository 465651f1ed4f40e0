import SubscriptionRegistry.Proofs.ScopeHistory
import SubscriptionRegistry.Proofs.WriterLock

/-!
# Replacements of scopes

A scope is replaced by several statements inside the transaction of a caller: the old entries are
deleted, then the new ones are inserted one after the other, and no savepoint is there to go back to
if one of them fails. Nothing is lost all the same. An insertion fails only if there is no
subscriber, and then, on an intact store, the deletion has found nothing to delete.

* `Operation.scopeStatements`, `Database.executeAll`: the statements, and statements that are run
  one after the other up to the first that fails; what the others did before it stays.
* `Database.replaceScope_eq_executeAll`: on an intact store a replacement does what its statements
  do.
* `Store.ScopeReplaced`: what a replacement that succeeds leaves of a store.
* `Store.replaceScope_error`: when a replacement fails.
* `Script.replaceScope_atomic`: replacements at every point of a run.
-/

namespace SubscriptionRegistry

/-! ## One replacement -/

/-- The subscriber is one of those that are stored. -/
def Store.Stores (s : Store) (subscriber : Option Uuid) : Prop :=
  ∃ x ∈ s.subscribers, subscriber = some x.id

/-- What is left of the store `s` after the scope of a subscriber has been replaced: the entries of
the subscriber are the canonical texts of the scope, and everything else is as it was. -/
structure Store.ScopeReplaced (s : Store) (subscriber : Option Uuid) (scope : Scope) (s' : Store) :
    Prop where
  own : scope.IsWritten ((s'.scopes.filter (some ·.subscriber = subscriber)).map (·.name))
  others : s'.scopes.filter (some ·.subscriber ≠ subscriber) =
    s.scopes.filter (some ·.subscriber ≠ subscriber)
  projects : s'.projects = s.projects
  subscribers : s'.subscribers = s.subscribers
  watchers : s'.watchers = s.watchers

namespace Store

variable {s s' : Store} {subscriber : Option Uuid} {scope : Scope}

theorem ScopeReplaced.of_ok (h : s.replaceScope subscriber scope = .ok s') :
    s.ScopeReplaced subscriber scope s' := by
  have hframe := And.intro (projects_replaceScope h)
    (And.intro (subscribers_replaceScope h) (watchers_replaceScope h))
  refine ⟨?_, ?_, hframe.1, hframe.2.1, hframe.2.2⟩
  · have hown : (s'.scopes.filter (some ·.subscriber = subscriber)).map (·.name) = scope.texts := by
      rcases replaceScope_cases h with ⟨hempty, rfl⟩ | ⟨id, rfl, -, rfl⟩
      · have hnone : (s.scopes.filter (some ·.subscriber ≠ subscriber)).filter
            (some ·.subscriber = subscriber) = [] := by
          rw [List.filter_filter, List.filter_eq_nil_iff]
          simp
        unfold clearScope
        rw [hnone, Scope.texts, hempty]
        rfl
      · have htexts := scopeTexts_setScope s id scope
        unfold scopeTexts at htexts
        simpa only [Option.some.injEq] using htexts
    rw [hown]
    exact scope.isWritten_texts
  · rcases replaceScope_cases h with ⟨-, rfl⟩ | ⟨id, rfl, -, rfl⟩
    · unfold clearScope
      simp only [List.filter_filter, Bool.and_self]
    · have hnew : (scopeEntries id scope).filter (some ·.subscriber ≠ some id) = [] := by
        rw [List.filter_eq_nil_iff]
        intro e he
        obtain ⟨name, -, rfl⟩ := List.mem_map.1 he
        simp
      unfold setScope
      dsimp only
      rw [List.filter_append, hnew, List.append_nil, List.filter_filter]
      refine List.filter_congr fun e _ => ?_
      simp

theorem stores_some {id : Uuid} :
    s.Stores (some id) ↔ s.subscribers.any (·.id = id) = true := by
  unfold Stores
  rw [List.any_eq_true]
  refine exists_congr fun x => and_congr_right fun _ => ?_
  rw [decide_eq_true_eq, Option.some.injEq]
  exact eq_comm

/-- A subscriber that is not stored has no entries that could be deleted. -/
theorem Intact.clearScope_of_not_stores (h : s.Intact) (hx : ¬ s.Stores subscriber) :
    s.clearScope subscriber = s := by
  have hkept : s.scopes.filter (some ·.subscriber ≠ subscriber) = s.scopes := by
    rw [List.filter_eq_self]
    intro e he
    rw [decide_eq_true_eq]
    rintro rfl
    obtain ⟨x, hxs, hid⟩ := h.scopes_subscriber e he
    exact hx ⟨x, hxs, congrArg some hid.symm⟩
  unfold clearScope
  rw [hkept]

/-- With no subscriber to insert texts for, a replacement fails as each insertion does. -/
theorem error_of_not_stores (hx : ¬ s.Stores subscriber) (hne : scope.ids ≠ []) :
    ∃ v, s.replaceScope subscriber scope = .error v ∧
      ∀ name, s.addScopeText subscriber (some name) = .error v := by
  unfold replaceScope addScopeText
  rw [if_neg hne]
  cases subscriber with
  | none => exact ⟨_, rfl, fun _ => rfl⟩
  | some id =>
    rw [stores_some, Bool.not_eq_true] at hx
    simp only [required, bind, Except.bind, hx, if_false, Bool.false_eq_true]
    exact ⟨_, rfl, fun _ => rfl⟩

/-- A replacement fails if there are texts to insert and no subscriber to insert them for. -/
theorem replaceScope_error : (∃ v, s.replaceScope subscriber scope = .error v) ↔
    scope.ids ≠ [] ∧ ¬ s.Stores subscriber := by
  constructor
  · rintro ⟨v, hv⟩
    refine ⟨fun hempty => ?_, fun hx => ?_⟩
    · rw [replaceScope, if_pos hempty] at hv
      cases hv
    · obtain ⟨x, hxs, rfl⟩ := hx
      rw [replaceScope_of_stored ⟨x, hxs, rfl⟩] at hv
      cases hv
  · rintro ⟨hne, hx⟩
    obtain ⟨v, hv, -⟩ := error_of_not_stores hx hne
    exact ⟨v, hv⟩

end Store

/-! ## Statements of a replacement -/

/-- The statements of a replacement: the old entries are deleted, and an entry is inserted for each
member of the scope. -/
def Operation.scopeStatements (subscriber : Option Uuid) (scope : Scope) : List Statement :=
  (scopeWrites subscriber scope).map fun write => .write (.one write)

/-- Runs statements in the transaction of a session up to the first that fails. There is no level
around them: what the statements before it have written stays. -/
def Database.executeAll (d : Database) (i : SessionId) :
    List Statement → Except Fault Reply × Database
  | [] => (.ok ⟨.done, []⟩, d)
  | statement :: rest =>
    match d.execute i statement with
    | (.ok _, d') => d'.executeAll i rest
    | (.error f, d') => (.error f, d')

/-- The writes of a list, and nothing after them. -/
def Routine.all (writes : List (Store → Except Fault (Store × Reply))) : Routine :=
  .after writes (.one fun s => .ok (s, ⟨.done, []⟩))

/-- On an intact store the writes of a replacement, one after the other, do what the replacement
does as one: if an insertion fails it is the first, and then there was nothing to delete. -/
theorem Store.Intact.run_scopeWrites {s : Store} (h : s.Intact) (subscriber : Option Uuid)
    (scope : Scope) :
    (Routine.all (Operation.scopeWrites subscriber scope)).run s =
      (Routine.one (Operation.scopeReplacement subscriber scope)).run s := by
  by_cases hx : s.Stores subscriber
  · obtain ⟨x, hxs, rfl⟩ := hx
    have hall : Routine.all (Operation.scopeWrites (some x.id) scope) s =
        .ok (s.setScope x.id scope, ⟨.done, []⟩) :=
      Operation.whole_scopeWrites ⟨x, hxs, rfl⟩ scope _
    have hone : Routine.one (Operation.scopeReplacement (some x.id) scope) s =
        .ok (s.setScope x.id scope, ⟨.done, []⟩) :=
      bind_of_ok (congrArg Operation.constrained (Store.replaceScope_of_stored ⟨x, hxs, rfl⟩ scope)) _
    exact (Routine.run_of_ok hall).trans (Routine.run_of_ok hone).symm
  · have hdelete : Operation.scopeDeletion subscriber s = .ok (s, ⟨.done, []⟩) := by
      unfold Operation.scopeDeletion
      rw [h.clearScope_of_not_stores hx]
    cases hids : scope.ids with
    | nil =>
      have hone : Operation.scopeReplacement subscriber scope s = .ok (s, ⟨.done, []⟩) := by
        unfold Operation.scopeReplacement Store.replaceScope
        rw [if_pos hids, h.clearScope_of_not_stores hx]
        rfl
      simp only [Routine.all, Operation.scopeWrites, Scope.texts, hids, List.map_nil, Routine.after,
        List.foldr, Routine.run, hdelete, hone]
    | cons u ids =>
      have hne : scope.ids ≠ [] := hids ▸ List.cons_ne_nil u ids
      obtain ⟨v, hreplace, hinsert⟩ := Store.error_of_not_stores hx hne
      have hone : Operation.scopeReplacement subscriber scope s = .error v.fault :=
        bind_of_error (congrArg Operation.constrained hreplace) _
      have hfirst : Operation.scopeTextWrite subscriber (some u.text) s = .error v.fault :=
        bind_of_error (congrArg Operation.constrained (hinsert u.text)) _
      simp only [Routine.all, Operation.scopeWrites, Scope.texts, hids, List.map_cons, Routine.after,
        List.foldr, Routine.run, hdelete, hfirst, hone]

namespace Database

variable {d : Database} {i : SessionId} {s : Store} {subscriber : Option Uuid} {scope : Scope}

theorem inTransaction_put : (d.put i s).inTransaction i = d.inTransaction i := by
  rw [inTransaction_eq_decide, inTransaction_eq_decide, depth_put]

theorem write_eq_put (ht : d.inTransaction i = true) : d.write i s = d.put i s := by
  cases h : d.transaction? i with
  | none => rw [inTransaction_of_none h] at ht; cases ht
  | some t => rw [write_of_some h, put_of_some h]

/-- A routine that a session runs in its transaction leaves what its writes have left. -/
theorem execute_write (ht : d.inTransaction i = true) (hl : d.lockedFor i = false)
    (routine : Routine) :
    d.execute i (.write routine) =
      ((routine.run (d.view i)).1, d.put i (routine.run (d.view i)).2) := by
  rw [execute, executeRoutine_of_unlocked ht hl, write_eq_put ht]

/-- Writes that are executed as statements do what they do as a routine. -/
theorem executeAll_cons (ht : d.inTransaction i = true) (hl : d.lockedFor i = false)
    (write : Store → Except Fault (Store × Reply))
    (writes : List (Store → Except Fault (Store × Reply))) :
    d.executeAll i ((write :: writes).map fun write => .write (.one write)) =
      (((Routine.all (write :: writes)).run (d.view i)).1,
        d.put i ((Routine.all (write :: writes)).run (d.view i)).2) := by
  induction writes generalizing d write with
  | nil =>
    rw [List.map_cons, executeAll, execute_write ht hl]
    cases hw : write (d.view i) <;>
      simp only [Routine.all, Routine.after, List.foldr, Routine.run, hw, List.map_nil, executeAll]
  | cons next writes ih =>
    rw [List.map_cons, executeAll, execute_write ht hl]
    cases hw : write (d.view i) with
    | error f => simp only [Routine.all, Routine.after, List.foldr, Routine.run, hw]
    | ok p =>
      have ht' : (d.put i p.1).inTransaction i = true := inTransaction_put.trans ht
      have hl' : (d.put i p.1).lockedFor i = false := (lockedFor_congr others_put).trans hl
      have hrest := ih ht' hl' next
      rw [view_put, put_put] at hrest
      simp only [Routine.run, hw, hrest]
      simp only [Routine.all, Routine.after, List.foldr, Routine.run, hw]

/-- On an intact store a replacement does what its statements do, although a statement that fails
would leave what those before it have written. -/
theorem replaceScope_eq_executeAll (h : (d.view i).Intact) (ht : d.inTransaction i = true) :
    d.replaceScope i subscriber scope =
      d.executeAll i (Operation.scopeStatements subscriber scope) := by
  unfold replaceScope
  rw [if_pos ht]
  cases hl : d.lockedFor i with
  | true => simp only [Operation.scopeStatements, Operation.scopeWrites, List.map_cons, executeAll,
      execute, executeRoutine_of_locked hl]
  | false =>
    rw [execute_write ht hl, ← h.run_scopeWrites]
    exact (executeAll_cons ht hl _ _).symm

end Database

/-! ## Replacements at every point of a run -/

section Points

variable {r : Registry} {i : SessionId} {subscriber : Option Uuid} {scope : Scope}

theorem Step.run_replaceScope : (Step.act i (.replaceScope subscriber scope)).run r =
    (.ofReply (r.database.replaceScope i subscriber scope).1,
      r.withDatabase (r.database.replaceScope i subscriber scope).2) := by
  simp only [Step.run, Action.run]

/-- Without a transaction a replacement is refused. -/
theorem Step.replaceScope_of_closed (ht : r.database.inTransaction i = false) :
    (Step.act i (.replaceScope subscriber scope)).run r =
      (.leaf (.error (.rejected .scopeOutsideTransaction)) [], r) := by
  rw [Step.run_replaceScope, Database.replaceScope_eq, ht]
  rfl

/-- All that a replacement in a transaction can do: it is locked out, or fails, or succeeds. -/
theorem Step.replaceScope_cases (subscriber : Option Uuid) (scope : Scope)
    (ht : r.database.inTransaction i = true) :
    (r.database.lockedFor i = true ∧ (Step.act i (.replaceScope subscriber scope)).run r =
        (.leaf (.error .locked) [], r)) ∨
      (r.database.lockedFor i = false ∧
        ((∃ v, (r.database.view i).replaceScope subscriber scope = .error v ∧
            (Step.act i (.replaceScope subscriber scope)).run r = (.leaf (.error v.fault) [],
              r.withDatabase (r.database.write i (r.database.view i)))) ∨
          ∃ s, (r.database.view i).replaceScope subscriber scope = .ok s ∧
            (Step.act i (.replaceScope subscriber scope)).run r =
              (.leaf (.ok .done) [], r.withDatabase (r.database.put i s)))) := by
  rw [Step.run_replaceScope, Database.replaceScope_eq, if_pos ht]
  cases hl : r.database.lockedFor i with
  | true => exact .inl ⟨rfl, rfl⟩
  | false =>
    refine .inr ⟨rfl, ?_⟩
    unfold Operation.scopeReplacement
    cases (r.database.view i).replaceScope subscriber scope with
    | error v => exact .inl ⟨v, rfl, rfl⟩
    | ok s => exact .inr ⟨s, rfl, rfl⟩

/-- A replacement in a transaction fails if it is locked out, or has texts to insert and no
subscriber to insert them for. -/
theorem Step.replaceScope_fails (ht : r.database.inTransaction i = true) :
    (∃ f, ((Step.act i (.replaceScope subscriber scope)).run r).1.fault? = some f) ↔
      r.database.lockedFor i = true ∨ (scope.ids ≠ [] ∧ ¬ (r.database.view i).Stores subscriber) := by
  rw [← Store.replaceScope_error]
  rcases Step.replaceScope_cases subscriber scope ht with
    ⟨hl, hrun⟩ | ⟨hl, ⟨v, hv, hrun⟩ | ⟨s, hs, hrun⟩⟩
  · rw [hrun]
    exact iff_of_true ⟨_, rfl⟩ (.inl hl)
  · rw [hrun]
    exact iff_of_true ⟨_, rfl⟩ (.inr ⟨v, hv⟩)
  · rw [hrun, hl, hs]
    refine iff_of_false ?_ ?_
    · rintro ⟨f, hf⟩
      cases hf
    · rintro (hlocked | ⟨v, hv⟩)
      · cases hlocked
      · cases hv

/-- A replacement in a transaction that fails leaves what was there. -/
theorem Step.replaceScope_restores {f : Fault} (ht : r.database.inTransaction i = true)
    (hf : ((Step.act i (.replaceScope subscriber scope)).run r).1.fault? = some f) :
    Database.Restored i r.database
      ((Step.act i (.replaceScope subscriber scope)).run r).2.database := by
  rcases Step.replaceScope_cases subscriber scope ht with
    ⟨-, hrun⟩ | ⟨-, ⟨v, -, hrun⟩ | ⟨s, -, hrun⟩⟩
  · rw [hrun]
    exact Database.Alike.restored ⟨rfl, rfl, rfl⟩
  · rw [hrun]
    exact (Database.alike_write_view r.database i).restored
  · rw [hrun] at hf
    cases hf

/-- A replacement in a transaction that succeeds writes the scope, for its own session to see. -/
theorem Step.replaceScope_replaces (ht : r.database.inTransaction i = true)
    (hf : ((Step.act i (.replaceScope subscriber scope)).run r).1.fault? = none) :
    let after := (Step.act i (.replaceScope subscriber scope)).run r
    after.1 = .leaf (.ok .done) [] ∧
      (r.database.view i).ScopeReplaced subscriber scope (after.2.database.view i) ∧
      after.2.database.committed = r.database.committed ∧
      ∀ k, k ≠ i → after.2.database.view k = r.database.view k := by
  intro after
  rcases Step.replaceScope_cases subscriber scope ht with
    ⟨-, hrun⟩ | ⟨-, ⟨v, -, hrun⟩ | ⟨s, hs, hrun⟩⟩
  · rw [hrun] at hf
    cases hf
  · rw [hrun] at hf
    cases hf
  · have hcommitted : (r.database.put i s).committed = r.database.committed := by
      rw [Database.committed_put, ht]
      rfl
    rw [show after = _ from hrun]
    refine ⟨rfl, ?_, hcommitted, fun k hk => ?_⟩
    · show (r.database.view i).ScopeReplaced subscriber scope ((r.database.put i s).view i)
      rw [Database.view_put]
      exact .of_ok hs
    · exact Database.view_congr (Database.transaction?_congr Database.others_put hk) hcommitted

end Points

/-- **A scope is replaced as a whole or not at all.** At every point of a run from the empty store,
a replacement of a scope without an open transaction is refused and changes nothing. With one it
does what its statements do, a deletion and one insertion after the other, though nothing would take
back the first of them if a later one failed. It fails if another session is the writer, or if the
scope has members and the subscriber is null or not stored, and then leaves what was there.
Otherwise it succeeds: the entries of the subscriber are the canonical texts of the scope, and
nothing else has changed. -/
theorem Script.replaceScope_atomic (script : Script) (clock : Instant) (n : Nat) (i : SessionId)
    (subscriber : Option Uuid) (scope : Scope) :
    let r := script.stateAt (.start clock .empty) n
    let after := (Step.act i (.replaceScope subscriber scope)).run r
    (r.database.inTransaction i = false →
        after = (.leaf (.error (.rejected .scopeOutsideTransaction)) [], r)) ∧
      (r.database.inTransaction i = true →
        r.database.replaceScope i subscriber scope =
            r.database.executeAll i (Operation.scopeStatements subscriber scope) ∧
          ((∃ f, after.1.fault? = some f) ↔
            (∃ k, k ≠ i ∧ script.IsWriterAt (.start clock .empty) n k) ∨
              (scope.ids ≠ [] ∧ ¬ (r.database.view i).Stores subscriber)) ∧
          (∀ f, after.1.fault? = some f → Database.Restored i r.database after.2.database) ∧
          (after.1.fault? = none → after.1 = .leaf (.ok .done) [] ∧
            (r.database.view i).ScopeReplaced subscriber scope (after.2.database.view i) ∧
            after.2.database.committed = r.database.committed ∧
            ∀ k, k ≠ i → after.2.database.view k = r.database.view k)) := by
  intro r after
  have hv : r.database.Valid := (script.tells clock .empty n).valid
  have hintact := script.intact_view clock n i
  refine ⟨Step.replaceScope_of_closed, fun ht => ⟨?_, ?_, ?_, ?_⟩⟩
  · exact Database.replaceScope_eq_executeAll hintact ht
  · rw [Step.replaceScope_fails ht, hv.lockedFor_iff]
    simp only [Script.isWriterAt_iff]
    rfl
  · intro f hf
    exact Step.replaceScope_restores ht hf
  · intro hf
    exact Step.replaceScope_replaces ht hf

end SubscriptionRegistry
