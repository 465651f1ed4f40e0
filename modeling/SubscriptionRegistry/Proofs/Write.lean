import SubscriptionRegistry.Proofs.Session
import SubscriptionRegistry.Proofs.Tables
import SubscriptionRegistry.Script

/-!
# Writes

The calls that write to the store, and all that a successful one can do.

* `Operation.isInputFault_prepare`: an operation fails before its statement is run only by its
  inputs.
* `Write`: an operation that writes, the replacement of a scope inside a transaction, or the sweep
  of the worker.
* `Write.Turns`: the write turns one store into another and answers a reply.
* `Write.Effect`: the same with one case for each write, in terms of the tables.
* `Write.Turns.effect`: every write that succeeds has its effect. `Write.Effect.turns`: and the
  converse.
* `Write.fault_of_run`: a statement that fails has met a constraint of the tables, or no row.
-/

namespace SubscriptionRegistry

namespace Operation

variable {clock : Instant} {statement : Statement}

/-! ## Prepared statements -/

theorem prepare_upsertProject {r : Project.Request}
    (h : (upsertProject r).prepare clock = .ok statement) :
    ∃ authentication subscription, validKeyPair r.authentication = .ok authentication ∧
      validKeyPair r.subscription = .ok subscription ∧
      statement = .write (projectWrite clock
        ⟨r.newId, r.projectId, r.appDomain, r.topic, authentication, subscription⟩) := by
  obtain ⟨a, ha, h⟩ := ok_of_bind h
  obtain ⟨b, hb, h⟩ := ok_of_bind h
  exact ⟨a, b, ha, hb, (Except.ok.inj h).symm⟩

theorem prepare_upsertSubscriber {r : Subscriber.Upsert}
    (h : (upsertSubscriber r).prepare clock = .ok statement) :
    r.notifyKey.length = notifyKeyLength ∧ ∃ now expiry, effectiveTime clock r.now = .ok now ∧
      termEnd now = .ok expiry ∧
      statement = .write (subscriberWrite
        ⟨r.newId, r.project, r.account, notifyKeyText r.notifyKey, r.topic, now, expiry⟩ r.scope) := by
  rw [prepare] at h
  by_cases hk : r.notifyKey.length = notifyKeyLength
  · rw [if_neg (not_not_intro hk)] at h
    obtain ⟨now, hn, h⟩ := ok_of_bind h
    obtain ⟨expiry, he, h⟩ := ok_of_bind h
    exact ⟨hk, now, expiry, hn, he, (Except.ok.inj h).symm⟩
  · rw [if_pos hk] at h
    cases h

theorem prepare_renewSubscriber {r : Subscriber.Renewal}
    (h : (renewSubscriber r).prepare clock = .ok statement) :
    ∃ now expiry, effectiveTime clock r.now = .ok now ∧ termEnd now = .ok expiry ∧
      statement = .write (renewalWrite r now expiry) := by
  obtain ⟨now, hn, h⟩ := ok_of_bind h
  obtain ⟨expiry, he, h⟩ := ok_of_bind h
  exact ⟨now, expiry, hn, he, (Except.ok.inj h).symm⟩

theorem prepare_upsertWatcher {r : Watcher.Upsert}
    (h : (upsertWatcher r).prepare clock = .ok statement) :
    ∃ expiry, boundTime r.expiry = .ok expiry ∧ statement = .write (watcherWrite
      ⟨r.newId, r.account, r.project, r.didKey, r.symKey, expiry, clock⟩) := by
  obtain ⟨expiry, he, h⟩ := ok_of_bind h
  exact ⟨expiry, he, (Except.ok.inj h).symm⟩

theorem prepare_sweepWatchers {now : Option Stamp}
    (h : (sweepWatchers now).prepare clock = .ok statement) :
    ∃ t, effectiveTime clock now = .ok t ∧ statement = .write (sweepWrite t) := by
  obtain ⟨t, ht, h⟩ := ok_of_bind h
  exact ⟨t, ht, (Except.ok.inj h).symm⟩

theorem prepare_watchersFor {account appDomain : Option String} {now : Option Stamp}
    (h : (watchersFor account appDomain now).prepare clock = .ok statement) :
    ∃ t, effectiveTime clock now = .ok t ∧
      statement = total fun s => ⟨.watchers (s.watchersFor account appDomain t), []⟩ := by
  obtain ⟨t, ht, h⟩ := ok_of_bind h
  exact ⟨t, ht, (Except.ok.inj h).symm⟩

/-! ## Rejected inputs -/

section
variable {op : Operation} {f : Fault}

/-- The fault of inputs that are rejected. -/
def IsInputFault (f : Fault) : Prop :=
  (∃ r, f = .rejected r) ∨ ∃ e, f = .store (.unbindable e)

theorem isInputFault_effectiveTime {now : Option Stamp} (h : effectiveTime clock now = .error f) :
    IsInputFault f := by
  cases now with
  | none => cases h
  | some stamp =>
    rw [effectiveTime] at h
    cases ht : stamp.toUtc with
    | ok t => rw [ht] at h; cases h
    | error e => rw [ht] at h; cases h; exact .inl ⟨_, rfl⟩

theorem isInputFault_termEnd {now : Instant} (h : termEnd now = .error f) : IsInputFault f := by
  rw [termEnd] at h
  cases ht : now.add subscriptionTerm with
  | ok t => rw [ht] at h; cases h
  | error e => rw [ht] at h; cases h; exact .inl ⟨_, rfl⟩

theorem isInputFault_boundTime {expiry : Option Stamp} (h : boundTime expiry = .error f) :
    IsInputFault f := by
  cases expiry with
  | none => cases h
  | some stamp =>
    rw [boundTime] at h
    cases ht : stamp.toUtc with
    | ok t => rw [ht] at h; cases h
    | error e => rw [ht] at h; cases h; exact .inr ⟨_, rfl⟩

theorem isInputFault_validKeyPair {d : KeyPair.Draft} (h : validKeyPair d = .error f) :
    IsInputFault f := by
  rw [validKeyPair] at h
  cases hd : d.validate with
  | ok k => rw [hd] at h; cases h
  | error issues => rw [hd] at h; cases h; exact .inl ⟨_, rfl⟩

/-- An operation fails before its statement is run only by its inputs. -/
theorem isInputFault_prepare (h : op.prepare clock = .error f) : IsInputFault f := by
  cases op with
  | upsertProject r =>
    rcases error_of_bind h with h | ⟨a, h⟩
    · exact isInputFault_validKeyPair h
    · rcases error_of_bind h with h | ⟨b, h⟩
      · exact isInputFault_validKeyPair h
      · cases h
  | upsertSubscriber r =>
    rw [prepare] at h
    split at h
    · cases h
      exact .inl ⟨_, rfl⟩
    · rcases error_of_bind h with h | ⟨now, h⟩
      · exact isInputFault_effectiveTime h
      · rcases error_of_bind h with h | ⟨expiry, h⟩
        · exact isInputFault_termEnd h
        · cases h
  | renewSubscriber r =>
    rcases error_of_bind h with h | ⟨now, h⟩
    · exact isInputFault_effectiveTime h
    · rcases error_of_bind h with h | ⟨expiry, h⟩
      · exact isInputFault_termEnd h
      · cases h
  | upsertWatcher r =>
    rcases error_of_bind h with h | ⟨expiry, h⟩
    · exact isInputFault_boundTime h
    · cases h
  | watchersFor account appDomain now =>
    rcases error_of_bind h with h | ⟨t, h⟩
    · exact isInputFault_effectiveTime h
    · cases h
  | sweepWatchers now =>
    rcases error_of_bind h with h | ⟨t, h⟩
    · exact isInputFault_effectiveTime h
    · cases h
  | _ => cases h

theorem IsInputFault.surface_ne_locked (h : IsInputFault f) : f.surface ≠ Fault.locked.surface := by
  rcases h with ⟨r, rfl⟩ | ⟨e, rfl⟩
  · nofun
  · cases e
    decide

end

/-- Whether an operation writes to the store. -/
def isWrite : Operation → Bool
  | upsertProject _ | upsertSubscriber _ | renewSubscriber _ | deleteSubscriber _ => true
  | upsertWatcher _ | sweepWatchers _ | addScopeText .. | deleteProject _ => true
  | _ => false

end Operation

/-- Whether a statement writes. -/
def Statement.isWrite : Statement → Bool
  | .read _ => false
  | .write _ => true

theorem Operation.isWrite_of_prepare {clock : Instant} {op : Operation} {statement : Statement}
    (h : op.prepare clock = .ok statement) : op.isWrite = statement.isWrite := by
  cases op with
  | upsertProject r =>
    obtain ⟨_, _, -, -, rfl⟩ := prepare_upsertProject h
    rfl
  | upsertSubscriber r =>
    obtain ⟨-, _, _, -, -, rfl⟩ := prepare_upsertSubscriber h
    rfl
  | renewSubscriber r =>
    obtain ⟨_, _, -, -, rfl⟩ := prepare_renewSubscriber h
    rfl
  | upsertWatcher r =>
    obtain ⟨_, -, rfl⟩ := prepare_upsertWatcher h
    rfl
  | watchersFor account appDomain now =>
    obtain ⟨_, -, rfl⟩ := prepare_watchersFor h
    rfl
  | sweepWatchers now =>
    obtain ⟨_, -, rfl⟩ := prepare_sweepWatchers h
    rfl
  | _ =>
    cases h
    rfl

/-! ## Calls that write -/

/-- A call that writes: an operation, the replacement of a scope inside a transaction, or the sweep
of the worker. -/
inductive Write where
  | call (op : Operation)
  | replaceScope (subscriber : Option Uuid) (scope : Scope)
  | sweep

namespace Write

/-- The step in which session `i` makes the call. -/
def step (i : SessionId) : Write → Step
  | call op => .act i (.call op)
  | replaceScope subscriber scope => .act i (.replaceScope subscriber scope)
  | sweep => .sweep

/-- The statement that the call runs. -/
def statement (clock : Instant) : Write → Except Fault Statement
  | call op => op.prepare clock
  | replaceScope subscriber scope => .ok (.write (Operation.scopeReplacement subscriber scope))
  | sweep => .ok (.write (Database.sweepTask clock))

/-- The write turns the store `s` into `s'` and answers `reply`. -/
def Turns (w : Write) (clock : Instant) (s s' : Store) (reply : Reply) : Prop :=
  ∃ run, w.statement clock = .ok (.write run) ∧ run s = .ok (s', reply)

/-! ## Effects -/

/-- What a write does to the tables when it succeeds. -/
inductive Effect (clock : Instant) : Write → Store → Store → Reply → Prop
  | upsertProject {r : Project.Request} {a b : KeyPair} {s s' : Store} {keys : PublicKeys}
      (ha : Operation.validKeyPair r.authentication = .ok a)
      (hb : Operation.validKeyPair r.subscription = .ok b)
      (hs : s.upsertProject clock ⟨r.newId, r.projectId, r.appDomain, r.topic, a, b⟩ =
        .ok (s', keys)) :
      Effect clock (.call (.upsertProject r)) s s'
        ⟨.keys keys, [.projectUpserted (r.projectId.getD "") (r.appDomain.getD "")]⟩
  | upsertSubscriber {r : Subscriber.Upsert} {now expiry : Instant} {s s' : Store} {id : Uuid}
      (hk : r.notifyKey.length = notifyKeyLength)
      (hn : Operation.effectiveTime clock r.now = .ok now)
      (he : Operation.termEnd now = .ok expiry)
      (hs : s.upsertSubscriber
        ⟨r.newId, r.project, r.account, notifyKeyText r.notifyKey, r.topic, now, expiry⟩ r.scope =
          .ok (s', id)) :
      Effect clock (.call (.upsertSubscriber r)) s s'
        ⟨.id id, [.subscriberUpserted id (r.project.getD default) r.scope.size]⟩
  | renewSubscriber {r : Subscriber.Renewal} {now expiry : Instant} {s s' : Store} {x : Subscriber}
      (hn : Operation.effectiveTime clock r.now = .ok now)
      (he : Operation.termEnd now = .ok expiry)
      (hs : s.renewSubscriber r.project r.account r.scope now expiry = some (s', x)) :
      Effect clock (.call (.renewSubscriber r)) s s'
        ⟨.subscriber x, [.subscriberUpdated x.id r.scope.size]⟩
  | deleteSubscriber {id : Option Uuid} {s : Store} :
      Effect clock (.call (.deleteSubscriber id)) s (s.deleteSubscriber id).1
        ⟨.flag (s.deleteSubscriber id).2, [.subscriberDeleted id (s.deleteSubscriber id).2]⟩
  | replaceScope {id : Option Uuid} {scope : Scope} {s s' : Store}
      (hs : s.replaceScope id scope = .ok s') :
      Effect clock (.replaceScope id scope) s s' ⟨.done, []⟩
  | upsertWatcher {r : Watcher.Upsert} {expiry : Option Instant} {s s' : Store}
      (he : Operation.boundTime r.expiry = .ok expiry)
      (hs : s.upsertWatcher ⟨r.newId, r.account, r.project, r.didKey, r.symKey, expiry, clock⟩ =
        .ok s') :
      Effect clock (.call (.upsertWatcher r)) s s'
        ⟨.done, [.watcherUpserted (r.didKey.getD "") r.project (expiry.getD clock)]⟩
  | sweepWatchers {now : Option Stamp} {t : Instant} {s : Store}
      (ht : Operation.effectiveTime clock now = .ok t) :
      Effect clock (.call (.sweepWatchers now)) s (s.sweepWatchers t).1
        ⟨.count (s.sweepWatchers t).2,
          if (s.sweepWatchers t).2 = 0 then [] else [.watchersSwept (s.sweepWatchers t).2]⟩
  | sweep {s : Store} :
      Effect clock .sweep s (s.sweepWatchers clock).1
        ⟨.count (s.sweepWatchers clock).2,
          (if (s.sweepWatchers clock).2 = 0 then []
            else [.watchersSwept (s.sweepWatchers clock).2]) ++
              [.sweepFinished (s.sweepWatchers clock).2]⟩
  | addScopeText {id : Option Uuid} {name : Option String} {s s' : Store}
      (hs : s.addScopeText id name = .ok s') :
      Effect clock (.call (.addScopeText id name)) s s' ⟨.done, []⟩
  | deleteProject {id : Option Uuid} {s : Store} :
      Effect clock (.call (.deleteProject id)) s (s.deleteProject id) ⟨.done, []⟩

/-- A constrained write that succeeds. -/
theorem ok_of_constrained {x : Except Violation α} {a : α} (h : Operation.constrained x = .ok a) :
    x = .ok a := by
  cases x with
  | error v => cases h
  | ok b => cases h; rfl

/-- A write that succeeds has its effect, and no other. -/
theorem Turns.effect {clock : Instant} {w : Write} {s s' : Store} {reply : Reply}
    (h : w.Turns clock s s' reply) : w.Effect clock s s' reply := by
  obtain ⟨run, hp, hr⟩ := h
  cases w with
  | replaceScope id scope =>
    cases hp
    obtain ⟨t, ht, hr⟩ := ok_of_bind hr
    cases hr
    exact .replaceScope (ok_of_constrained ht)
  | sweep =>
    cases hp
    cases hr
    exact .sweep
  | call op =>
    have hop : op.prepare clock = .ok (.write run) := hp
    have hw : op.isWrite = true := Operation.isWrite_of_prepare hop
    cases op with
    | upsertProject r =>
      obtain ⟨a, b, ha, hb, hst⟩ := Operation.prepare_upsertProject hp
      cases hst
      obtain ⟨⟨t, keys⟩, ht, hr⟩ := ok_of_bind hr
      cases hr
      exact .upsertProject ha hb (ok_of_constrained ht)
    | upsertSubscriber r =>
      obtain ⟨hk, now, expiry, hn, he, hst⟩ := Operation.prepare_upsertSubscriber hp
      cases hst
      rw [Operation.subscriberWrite_whole] at hr
      obtain ⟨⟨t, id⟩, ht, hr⟩ := ok_of_bind hr
      cases hr
      exact .upsertSubscriber hk hn he (ok_of_constrained ht)
    | renewSubscriber r =>
      obtain ⟨now, expiry, hn, he, hst⟩ := Operation.prepare_renewSubscriber hp
      cases hst
      rw [Operation.renewalWrite_whole] at hr
      cases hx : s.renewSubscriber r.project r.account r.scope now expiry with
      | none => rw [hx] at hr; cases hr
      | some p =>
        rw [hx] at hr
        cases hr
        exact .renewSubscriber hn he hx
    | deleteSubscriber id =>
      cases hp
      rw [Operation.subscriberDeletion_whole] at hr
      cases hr
      exact .deleteSubscriber
    | upsertWatcher r =>
      obtain ⟨expiry, he, hst⟩ := Operation.prepare_upsertWatcher hp
      cases hst
      obtain ⟨t, ht, hr⟩ := ok_of_bind hr
      cases hr
      exact .upsertWatcher he (ok_of_constrained ht)
    | sweepWatchers now =>
      obtain ⟨t, ht, hst⟩ := Operation.prepare_sweepWatchers hp
      cases hst
      cases hr
      exact .sweepWatchers ht
    | addScopeText id name =>
      cases hp
      obtain ⟨t, ht, hr⟩ := ok_of_bind hr
      cases hr
      exact .addScopeText (ok_of_constrained ht)
    | deleteProject id =>
      cases hp
      cases hr
      exact .deleteProject
    | _ => cases hw

/-- What has the effect of a write is what the write does. -/
theorem Effect.turns {clock : Instant} {w : Write} {s s' : Store} {reply : Reply}
    (h : w.Effect clock s s' reply) : w.Turns clock s s' reply := by
  cases h with
  | upsertProject ha hb hs =>
    exact ⟨_, (bind_of_ok ha _).trans (bind_of_ok hb _),
      bind_of_ok (congrArg Operation.constrained hs) _⟩
  | upsertSubscriber hk hn he hs =>
    refine ⟨_, (if_neg (not_not_intro hk)).trans ((bind_of_ok hn _).trans (bind_of_ok he _)), ?_⟩
    rw [Operation.subscriberWrite_whole]
    exact bind_of_ok (congrArg Operation.constrained hs) _
  | renewSubscriber hn he hs =>
    refine ⟨_, (bind_of_ok hn _).trans (bind_of_ok he _), ?_⟩
    rw [Operation.renewalWrite_whole, hs]
  | deleteSubscriber => exact ⟨_, rfl, Operation.subscriberDeletion_whole _ _⟩
  | replaceScope hs => exact ⟨_, rfl, bind_of_ok (congrArg Operation.constrained hs) _⟩
  | upsertWatcher he hs =>
    exact ⟨_, bind_of_ok he _, bind_of_ok (congrArg Operation.constrained hs) _⟩
  | sweepWatchers ht => exact ⟨_, bind_of_ok ht _, rfl⟩
  | sweep => exact ⟨_, rfl, rfl⟩
  | addScopeText hs => exact ⟨_, rfl, bind_of_ok (congrArg Operation.constrained hs) _⟩
  | deleteProject => exact ⟨_, rfl, rfl⟩

/-! ## Failures -/

theorem fault_of_constrained {x : Except Violation α} {g : α → Except Fault β} {f : Fault}
    (hg : ∀ a, ∃ b, g a = .ok b) (h : (Operation.constrained x >>= g) = .error f) :
    ∃ v : Violation, f = v.fault := by
  cases x with
  | error v => exact ⟨v, (Except.error.inj h).symm⟩
  | ok a =>
    obtain ⟨b, hb⟩ := hg a
    have hok : g a = .error f := h
    rw [hb] at hok
    cases hok

/-- A statement that fails has met a constraint of the tables, or no row. -/
theorem fault_of_run {clock : Instant} {w : Write} {run : Routine} {s : Store} {f : Fault}
    (hw : w.statement clock = .ok (.write run)) (hr : run s = .error f) :
    (∃ v : Violation, f = v.fault) ∨ f = .notFound "Subscriber" := by
  cases w with
  | replaceScope id scope =>
    cases hw
    exact .inl (fault_of_constrained (fun _ => ⟨_, rfl⟩) hr)
  | sweep =>
    cases hw
    cases hr
  | call op =>
    have hop : op.prepare clock = .ok (.write run) := hw
    have hwrite : op.isWrite = true := Operation.isWrite_of_prepare hop
    cases op with
    | upsertProject r =>
      obtain ⟨a, b, -, -, hst⟩ := Operation.prepare_upsertProject hop
      cases hst
      exact .inl (fault_of_constrained (fun _ => ⟨_, rfl⟩) hr)
    | upsertSubscriber r =>
      obtain ⟨-, now, expiry, -, -, hst⟩ := Operation.prepare_upsertSubscriber hop
      cases hst
      rw [Operation.subscriberWrite_whole] at hr
      exact .inl (fault_of_constrained (fun _ => ⟨_, rfl⟩) hr)
    | renewSubscriber r =>
      obtain ⟨now, expiry, -, -, hst⟩ := Operation.prepare_renewSubscriber hop
      cases hst
      rw [Operation.renewalWrite_whole] at hr
      cases hx : s.renewSubscriber r.project r.account r.scope now expiry with
      | none =>
        rw [hx] at hr
        exact .inr (Except.error.inj hr).symm
      | some p => rw [hx] at hr; cases hr
    | deleteSubscriber id =>
      cases hop
      rw [Operation.subscriberDeletion_whole] at hr
      cases hr
    | upsertWatcher r =>
      obtain ⟨expiry, -, hst⟩ := Operation.prepare_upsertWatcher hop
      cases hst
      exact .inl (fault_of_constrained (fun _ => ⟨_, rfl⟩) hr)
    | sweepWatchers now =>
      obtain ⟨t, -, hst⟩ := Operation.prepare_sweepWatchers hop
      cases hst
      cases hr
    | addScopeText id name =>
      cases hop
      exact .inl (fault_of_constrained (fun _ => ⟨_, rfl⟩) hr)
    | deleteProject id =>
      cases hop
      cases hr
    | _ => cases hwrite

end Write

end SubscriptionRegistry
