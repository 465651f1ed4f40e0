import SubscriptionRegistry.Operation
import SubscriptionRegistry.Proofs.Tables

/-!
# Routines as single writes

The unit in which a routine runs keeps the store that it leaves if it succeeds, and goes back to the
one before it if it fails. To the unit a routine is therefore one write, `Routine.whole`: it gives
the store after the last write, or the first fault.

* `Routine.run`: the writes of a routine one after the other, with the store that they leave.
* `Routine.run_of_ok`, `Routine.run_of_error`: what a routine does in terms of its whole. Of the
  store that a routine leaves when it fails, the whole tells nothing.
* `Operation.whole_scopeWrites`: the writes of a replacement set the scope of a subscriber that is
  stored. None of them fails.
* `Operation.subscriberWrite_whole`, `Operation.renewalWrite_whole`,
  `Operation.subscriberDeletion_whole`: the routines of a subscription.
-/

namespace SubscriptionRegistry

namespace Routine

/-- Runs the writes up to the first that fails. What those before it have done is in the store that
is left. -/
def run : Routine → Store → Except Fault Reply × Store
  | one write, s =>
    match write s with
    | .ok (s', reply) => (.ok reply, s')
    | .error f => (.error f, s)
  | next write rest, s =>
    match write s with
    | .ok (s', reply) => (rest reply.answer).run s'
    | .error f => (.error f, s)

/-- A routine as one write. -/
def whole : Routine → Store → Except Fault (Store × Reply)
  | one write, s => write s
  | next write rest, s => do
    let (s', reply) ← write s
    (rest reply.answer).whole s'

instance : CoeFun Routine fun _ => Store → Except Fault (Store × Reply) := ⟨whole⟩

variable {s s' : Store} {reply : Reply} {f : Fault}

@[simp] theorem whole_one (write : Store → Except Fault (Store × Reply)) : (one write).whole = write :=
  rfl

theorem run_of_ok {routine : Routine} (h : routine s = .ok (s', reply)) :
    routine.run s = (.ok reply, s') := by
  induction routine generalizing s with
  | one write =>
    have hw : write s = .ok (s', reply) := h
    simp only [run, hw]
  | next write rest ih =>
    obtain ⟨⟨t, first⟩, hw, hrest⟩ := ok_of_bind h
    simp only [run, hw]
    exact ih first.answer hrest

theorem run_of_error {routine : Routine} (h : routine s = .error f) :
    (routine.run s).1 = .error f := by
  induction routine generalizing s with
  | one write =>
    have hw : write s = .error f := h
    simp only [run, hw]
  | next write rest ih =>
    cases hw : write s with
    | error g =>
      have hwhole : next write rest s = .error g := bind_of_error hw _
      obtain rfl : g = f := Except.error.inj (hwhole.symm.trans h)
      simp only [run, hw]
    | ok p =>
      have hwhole : next write rest s = rest p.2.answer p.1 := bind_of_ok hw _
      simp only [run, hw]
      exact ih p.2.answer (hwhole.symm.trans h)

end Routine

namespace Operation

variable {s s' : Store} {id : Uuid}

/-- Texts are written one after the other for a subscriber that is stored. -/
theorem whole_scopeTexts (hx : ∃ x ∈ s.subscribers, x.id = id) (names : List String) (last : Routine) :
    Routine.after (names.map fun name => scopeTextWrite (some id) (some name)) last s =
      last { s with scopes := s.scopes ++ names.map fun name => ⟨id, name⟩ } := by
  induction names generalizing s with
  | nil =>
    rw [List.map_nil, List.map_nil, List.append_nil]
    rfl
  | cons name names ih =>
    have hstored : s.subscribers.any (·.id = id) = true := by simpa using hx
    have hfirst : scopeTextWrite (some id) (some name) s =
        .ok ({ s with scopes := s.scopes ++ [⟨id, name⟩] }, ⟨.done, []⟩) := by
      unfold scopeTextWrite Store.addScopeText
      simp only [required, bind, Except.bind, hstored, if_true]
      rfl
    refine (bind_of_ok hfirst _).trans ?_
    refine (ih (s := { s with scopes := s.scopes ++ [⟨id, name⟩] }) hx).trans ?_
    rw [List.append_assoc]
    rfl

/-- The writes of a replacement for a subscriber that is stored. -/
theorem whole_scopeWrites (hx : ∃ x ∈ s.subscribers, x.id = id) (scope : Scope) (last : Routine) :
    Routine.after (scopeWrites (some id) scope) last s = last (s.setScope id scope) := by
  show Routine.after (scope.texts.map fun name => scopeTextWrite (some id) (some name)) last
    (s.clearScope (some id)) = _
  rw [whole_scopeTexts (s := s.clearScope (some id)) hx, s.clearScope_some]
  rfl

/-- A request for a subscription as one write. -/
theorem subscriberWrite_whole (e : Subscriber.Entry) (scope : Scope) (s : Store) :
    subscriberWrite e scope s = (do
      let (s, id) ← constrained (s.upsertSubscriber e scope)
      .ok (s, ⟨.id id, [.subscriberUpserted id (e.project.getD default) scope.size]⟩)) := by
  unfold Store.upsertSubscriber
  cases h : s.writeSubscriber e with
  | error v =>
    have hrow : rowWrite e s = .error v.fault := bind_of_error (congrArg constrained h) _
    exact bind_of_error hrow _
  | ok p =>
    have hrow : rowWrite e s = .ok (p.1, ⟨.id p.2, []⟩) := bind_of_ok (congrArg constrained h) _
    exact (bind_of_ok hrow _).trans (whole_scopeWrites (Store.exists_of_writeSubscriber h) scope _)

/-- A renewal as one write. -/
theorem renewalWrite_whole (r : Subscriber.Renewal) (now expiry : Instant) (s : Store) :
    renewalWrite r now expiry s =
      match s.renewSubscriber r.project r.account r.scope now expiry with
      | some (s, x) => .ok (s, ⟨.subscriber x, [.subscriberUpdated x.id r.scope.size]⟩)
      | none => .error (.notFound "Subscriber") := by
  unfold Store.renewSubscriber
  cases h : s.extendSubscription r.project r.account now expiry with
  | none =>
    have hrow : rowRenewal r now expiry s = .ok (s, ⟨.done, []⟩) := by
      unfold rowRenewal
      rw [h]
    exact bind_of_ok hrow _
  | some p =>
    obtain ⟨t, id⟩ := p
    have hrow : rowRenewal r now expiry s = .ok (t, ⟨.id id, []⟩) := by
      unfold rowRenewal
      rw [h]
    have hstored := Store.exists_of_extendSubscription h
    obtain ⟨x, hx⟩ := Store.exists_subscriber? hstored
    have hread : renewedRead id r.scope.size (t.setScope id r.scope) =
        .ok (t.setScope id r.scope, ⟨.subscriber x, [.subscriberUpdated x.id r.scope.size]⟩) := by
      unfold renewedRead
      rw [show (t.setScope id r.scope).subscriber? id = some x from hx, (Store.subscriber?_cases hx).2]
    refine (bind_of_ok hrow _).trans ((whole_scopeWrites hstored r.scope _).trans (hread.trans ?_))
    simp only [Option.bind_eq_bind, Option.bind_some, hx]

/-- A deletion of a subscription as one write. -/
theorem subscriberDeletion_whole (id : Option Uuid) (s : Store) :
    subscriberDeletion id s = .ok ((s.deleteSubscriber id).1,
      ⟨.flag (s.deleteSubscriber id).2, [.subscriberDeleted id (s.deleteSubscriber id).2]⟩) := by
  have hclear : (s.clearScope id).deleteSubscriber id = s.deleteSubscriber id := by
    unfold Store.clearScope Store.deleteSubscriber
    simp only [List.filter_filter, Bool.and_self]
  show rowDeletion id (s.clearScope id) = _
  unfold rowDeletion
  rw [hclear]

end Operation

end SubscriptionRegistry
