import SubscriptionRegistry.Proofs.Placement
import SubscriptionRegistry.Proofs.ProjectHistory
import SubscriptionRegistry.Proofs.WriterLock

/-!
# Retries

A caller that does not know whether its call has come through makes it again. The first success may
have inserted a row, while a retry finds that row: it goes another way, which has to lead to the
same place.

* `Operation.IsRetry`: the same call at the same effective time, with any id for a new row.
* `Subscriber.Entry.row_again`, `Watcher.Entry.row_again`, `Project.Upsert.row_again`: a request
  that finds the row that it has stored makes the same row of it.
* `Write.Turns.again`: a retry of a call that has succeeded leaves the store as it is, with the same
  reply.
* `Replays.again`: so do retries in the history of a store.
* `Script.retries_safe`: retries at every point of a run.
-/

namespace SubscriptionRegistry

/-! ## Rows that are stored again -/

theorem Subscriber.Entry.row_again {e : Subscriber.Entry} {stored : Option Subscriber}
    {taken known : Bool} {x : Subscriber} (h : e.row stored taken known = .ok x) (newId : Uuid)
    (taken' known' : Bool) : { e with newId }.row (some x) taken' known' = .ok x := by
  obtain ⟨project, account, topic, hp, ha, ht, ⟨y, -, rfl⟩ | ⟨-, -, -, rfl⟩⟩ := row_cases h
  all_goals
    unfold row
    simp only [hp, ha, ht, required, bind, Except.bind, Store.newSubscriber]

theorem Watcher.Entry.row_again {e : Watcher.Entry} {stored : Option Watcher} {taken known : Bool}
    {w : Watcher} (h : e.row stored taken known = .ok w) (newId : Uuid) (taken' : Bool) :
    { e with newId }.row (some w) taken' known = .ok w := by
  obtain ⟨account, didKey, symKey, expiry, ha, hd, hk, he, rfl, ⟨v, -, rfl⟩ | ⟨-, -, rfl⟩⟩ :=
    row_cases h
  all_goals
    unfold row
    simp only [ha, hd, hk, he, required, bind, Except.bind]
    rfl

theorem Project.Upsert.row_again {r : Project.Upsert} {now : Instant} {stored : Option Project}
    {clash taken : Bool} {p : Project} (h : r.row now stored clash taken = .ok p) (newId : Uuid)
    (taken' : Bool) : { r with newId }.row now (some p) false taken' = .ok p := by
  obtain ⟨projectId, appDomain, topic, hi, ha, ht, -, ⟨q, -, rfl⟩ | ⟨-, -, rfl⟩⟩ := row_cases h
  all_goals
    unfold row
    simp only [hi, ha, ht, required, bind, Except.bind]
    rfl

/-! ## Writes that are made again -/

namespace Store

variable {s s' : Store}

theorem setScope_again (s : Store) (id : Uuid) (scope : Scope) :
    (s.setScope id scope).setScope id scope = s.setScope id scope :=
  congrArg (fun l => { s with scopes := l ++ scopeEntries id scope }) (s.filter_setScope_ne id scope)

/-- To put a subscription and its scope in their places again changes nothing. -/
theorem placeSubscriber_again (s : Store) (x : Subscriber) (scope : Scope) :
    let s' := (s.placeSubscriber x).setScope x.id scope
    (s'.placeSubscriber x).setScope x.id scope = s' := by
  intro s'
  have hplace : s'.placeSubscriber x = s' :=
    congrArg (fun l => { s' with subscribers := l }) (place_place Subscriber.key x s.subscribers)
  rw [hplace]
  exact setScope_again _ _ _

/-- A row that has been put in its place is found there. -/
theorem Intact.subscription?_placed (h : s.Intact) {x : Subscriber} {key : Option Uuid × Option String}
    (hk : x.key = key) (id : Uuid) (scope : Scope) :
    ((s.placeSubscriber x).setScope id scope).subscription? key = some x :=
  (h.keyed_subscribers.find?_place x key).trans (if_pos hk)

theorem Intact.watcher?_placed (h : s.Intact) {w : Watcher} {key : Option String}
    (hk : w.key = key) : (s.placeWatcher w).watcher? key = some w :=
  (h.keyed_watchers.find?_place w key).trans (if_pos hk)

theorem Intact.project?_placed (h : s.Intact) {p : Project} {key : Option String}
    (hk : p.key = key) : (s.placeProject p).project? key = some p :=
  (h.keyed_projects.find?_place p key).trans (if_pos hk)

theorem Intact.upsertSubscriber_again (h : s.Intact) {e : Subscriber.Entry} {scope : Scope} {id : Uuid}
    (hs : s.upsertSubscriber e scope = .ok (s', id)) (newId : Uuid) :
    s'.upsertSubscriber { e with newId } scope = .ok (s', id) := by
  have hs' : s'.Intact := h.upsertSubscriber hs
  rw [h.upsertSubscriber_eq] at hs
  obtain ⟨x, hx, heq⟩ := ok_of_map hs
  obtain ⟨rfl, rfl⟩ := Prod.mk.inj heq
  rw [hs'.upsertSubscriber_eq, h.subscription?_placed (h.key_subscriber hx),
    Subscriber.Entry.row_again hx]
  exact congrArg (fun t => Except.ok (t, x.id)) (s.placeSubscriber_again x scope)

theorem Intact.renewSubscriber_again (h : s.Intact) {project : Option Uuid} {account : Option String}
    {scope : Scope} {now expiry : Instant} {x : Subscriber}
    (hs : s.renewSubscriber project account scope now expiry = some (s', x)) :
    s'.renewSubscriber project account scope now expiry = some (s', x) := by
  have hs' : s'.Intact := h.renewSubscriber hs
  rw [h.renewSubscriber_eq] at hs
  obtain ⟨y, hy, heq⟩ := Option.map_eq_some_iff.1 hs
  obtain ⟨rfl, rfl⟩ := Prod.mk.inj heq
  have hkey : (y.renewed now expiry).key = (project, account) :=
    (h.keyed_subscribers.find?_eq_some.1 hy).2
  rw [hs'.renewSubscriber_eq, h.subscription?_placed hkey]
  exact congrArg (fun t => some (t, y.renewed now expiry))
    (s.placeSubscriber_again (y.renewed now expiry) scope)

theorem Intact.upsertWatcher_again (h : s.Intact) {e : Watcher.Entry}
    (hs : s.upsertWatcher e = .ok s') (newId : Uuid) :
    s'.upsertWatcher { e with newId } = .ok s' := by
  have hs' : s'.Intact := h.upsertWatcher hs
  rw [h.upsertWatcher_eq] at hs
  obtain ⟨w, hw, rfl⟩ := ok_of_map hs
  have hknown : (s.placeWatcher w).knowsProject e.project = s.knowsProject e.project := rfl
  rw [hs'.upsertWatcher_eq, h.watcher?_placed (h.key_watcher hw), hknown,
    Watcher.Entry.row_again hw]
  exact congrArg (fun l => Except.ok ({ s with watchers := l } : Store))
    (place_place Watcher.key w s.watchers)

/-- The app domain of a project that has been stored is that of no other. -/
theorem clashes_placed {p : Project} {projectId appDomain : Option String}
    (hk : p.key = projectId) (hclash : s.clashes projectId appDomain = false) :
    (s.placeProject p).clashes projectId appDomain = false := by
  refine List.any_eq_false.2 fun q hq => ?_
  rcases mem_place.1 hq with rfl | ⟨hq, -⟩
  · simp [hk]
  · exact List.any_eq_false.1 hclash q hq

theorem Intact.upsertProject_again (h : s.Intact) {now : Instant} {r : Project.Upsert}
    {keys : PublicKeys} (hs : s.upsertProject now r = .ok (s', keys)) (newId : Uuid) :
    s'.upsertProject now { r with newId } = .ok (s', keys) := by
  have hs' : s'.Intact := h.upsertProject hs
  rw [h.upsertProject_eq] at hs
  obtain ⟨p, hp, heq⟩ := ok_of_map hs
  obtain ⟨rfl, rfl⟩ := Prod.mk.inj heq
  have hkey := h.key_project hp
  obtain ⟨-, -, -, -, -, -, hclash, -⟩ := Project.Upsert.row_cases hp
  rw [hs'.upsertProject_eq, h.project?_placed hkey, clashes_placed hkey hclash,
    Project.Upsert.row_again hp]
  exact congrArg (fun l => Except.ok (({ s with projects := l } : Store), p.publicKeys))
    (place_place Project.key p s.projects)

end Store

/-! ## Calls that are made again -/

/-- `op'`, called at `clock'`, is a retry of `op`, called at `clock`: the same call at the same
effective time. A call that adds a row if there is none may come with any id for it. -/
inductive Operation.IsRetry (clock clock' : Instant) : Operation → Operation → Prop
  | upsertProject (q : Project.Request) (newId : Uuid) (hclock : clock' = clock) :
      IsRetry clock clock' (.upsertProject q) (.upsertProject { q with newId })
  | upsertSubscriber (q : Subscriber.Upsert) (newId : Uuid) (now : Option Stamp)
      (htime : effectiveTime clock' now = effectiveTime clock q.now) :
      IsRetry clock clock' (.upsertSubscriber q) (.upsertSubscriber { q with newId, now })
  | renewSubscriber (q : Subscriber.Renewal) (now : Option Stamp)
      (htime : effectiveTime clock' now = effectiveTime clock q.now) :
      IsRetry clock clock' (.renewSubscriber q) (.renewSubscriber { q with now })
  | upsertWatcher (q : Watcher.Upsert) (newId : Uuid) (hclock : clock' = clock) :
      IsRetry clock clock' (.upsertWatcher q) (.upsertWatcher { q with newId })

section Retry

variable {clock clock' : Instant} {op op' : Operation} {s s' : Store} {reply : Reply}

theorem Operation.IsRetry.isWrite (h : op.IsRetry clock clock' op') : op.isWrite = true := by
  cases h <;> rfl

/-- A retry of a call that has succeeded leaves the store as it is, with the same reply. -/
theorem Write.Turns.again (hs : s.Intact) (hr : op.IsRetry clock clock' op')
    (h : (Write.call op).Turns clock s s' reply) : (Write.call op').Turns clock' s' s' reply := by
  cases hr with
  | upsertProject q newId hclock =>
    subst hclock
    cases h.effect with
    | upsertProject ha hb hstore =>
      exact (Effect.upsertProject (r := { q with newId }) ha hb
        (hs.upsertProject_again hstore newId)).turns
  | upsertSubscriber q newId now htime =>
    cases h.effect with
    | upsertSubscriber hk hn he hstore =>
      exact (Effect.upsertSubscriber (r := { q with newId, now }) hk (htime.trans hn) he
        (hs.upsertSubscriber_again hstore newId)).turns
  | renewSubscriber q now htime =>
    cases h.effect with
    | renewSubscriber hn he hstore =>
      exact (Effect.renewSubscriber (r := { q with now }) (htime.trans hn) he
        (hs.renewSubscriber_again hstore)).turns
  | upsertWatcher q newId hclock =>
    subst hclock
    cases h.effect with
    | upsertWatcher he hstore =>
      exact (Effect.upsertWatcher (r := { q with newId }) he
        (hs.upsertWatcher_again hstore newId)).turns

end Retry

theorem Write.Turns.unique {w : Write} {clock : Instant} {s t t' : Store} {reply reply' : Reply}
    (h : w.Turns clock s t reply) (h' : w.Turns clock s t' reply') : t = t' ∧ reply = reply' := by
  obtain ⟨run, hw, hr⟩ := h
  obtain ⟨run', hw', hr'⟩ := h'
  have hrun : run = run' := Statement.write.inj (Except.ok.inj (hw.symm.trans hw'))
  rw [← hrun, hr] at hr'
  exact Prod.mk.inj (Except.ok.inj hr')

/-! ## Histories -/

/-- The deed is a call that is retried by another deed. -/
def Deed.IsRetriedBy (deed later : Deed) : Prop :=
  ∃ op op', deed.write = .call op ∧ later.write = .call op' ∧
    op.IsRetry deed.clock later.clock op'

theorem Replays.of_snoc {s₀ s : Store} {deeds : List Deed} {deed : Deed}
    (h : Replays s₀ (deeds ++ [deed]) s) :
    ∃ m, Replays s₀ deeds m ∧ deed.write.Turns deed.clock m s deed.reply := by
  generalize hall : deeds ++ [deed] = all at h
  cases h with
  | nil => simp at hall
  | snoc hprev hturns =>
    obtain ⟨rfl, hdeed⟩ := List.append_inj' hall rfl
    cases hdeed
    exact ⟨_, hprev, hturns⟩

/-- Retries at the end of a history have answered what the deed answered, and have changed
nothing. -/
theorem Replays.again {s₀ s : Store} {before repeats : List Deed} {deed : Deed} (h₀ : s₀.Intact)
    (h : Replays s₀ (before ++ deed :: repeats) s) (hr : ∀ later ∈ repeats, deed.IsRetriedBy later) :
    Replays s₀ (before ++ [deed]) s ∧ ∀ later ∈ repeats, later.reply = deed.reply := by
  generalize hall : before ++ deed :: repeats = all at h
  induction h generalizing repeats with
  | nil => simp at hall
  | @snoc deeds last m s' hprev hturns ih =>
    rcases List.eq_nil_or_concat repeats with rfl | ⟨earlier, later, rfl⟩
    · rw [hall]
      exact ⟨.snoc hprev hturns, fun later hlater => absurd hlater List.not_mem_nil⟩
    · -- The last deed is the last retry, made on the store that the earlier ones have not changed.
      have hsplit : (before ++ deed :: earlier) ++ [later] = deeds ++ [last] := by
        rw [← hall]
        simp
      obtain ⟨heq, hlast⟩ := List.append_inj' hsplit rfl
      obtain rfl := List.singleton_inj.1 hlast
      obtain ⟨hbefore, hreplies⟩ := ih (fun d hd => hr d (by simp [hd])) heq
      obtain ⟨op, op', hop, hop', hretry⟩ := hr later (by simp)
      obtain ⟨first, hfirst, hdeed⟩ := hbefore.of_snoc
      rw [hop] at hdeed
      have hagain := hdeed.again (hfirst.intact h₀) hretry
      rw [hop'] at hturns
      obtain ⟨hsame, hreply⟩ := hagain.unique hturns
      subst hsame
      refine ⟨hbefore, fun d hd => ?_⟩
      rcases List.mem_append.1 (List.concat_eq_append ▸ hd) with hd | hd
      · exact hreplies d hd
      · rw [List.mem_singleton.1 hd, hreply]

/-! ## Every point of a run -/

section Runs

variable {r : Registry} {i : SessionId} {op op' : Operation} {answer : Answer} {events : List Event}
  {retries : List Operation}

/-- A retry is given the report of the first success, and leaves everything as it is. -/
theorem Step.run_retry (hs : (r.database.view i).Intact)
    (h : ((Step.act i (.call op)).run r).1 = .leaf (.ok answer) events)
    (hr : op.IsRetry r.clock r.clock op') :
    (Step.act i (.call op')).run ((Step.act i (.call op)).run r).2 =
      (.leaf (.ok answer) events, ((Step.act i (.call op)).run r).2) := by
  obtain ⟨hl, s, hturns, hrun⟩ := Step.run_of_ok hr.isWrite h
  have hl' : (r.database.put i s).lockedFor i = false :=
    (Database.lockedFor_congr Database.others_put).trans hl
  have hagain : (Write.call op').Turns r.clock ((r.database.put i s).view i) s ⟨answer, events⟩ := by
    rw [Database.view_put]
    exact hturns.again hs hr
  rw [hrun, Step.run_call (r := r.withDatabase (r.database.put i s)) hl' hagain]
  exact congrArg (fun d => (Report.leaf (.ok answer) events, r.withDatabase d)) Database.put_put

/-- Any number of retries is given the report of the first success, and leaves everything as it
is. -/
theorem Script.run_retries (hs : (r.database.view i).Intact)
    (h : ((Step.act i (.call op)).run r).1 = .leaf (.ok answer) events)
    (hr : ∀ op' ∈ retries, op.IsRetry r.clock r.clock op') :
    Script.run ((Step.act i (.call op)).run r).2 (retries.map fun op' => .act i (.call op')) =
      (retries.map fun _ => .leaf (.ok answer) events, ((Step.act i (.call op)).run r).2) := by
  induction retries with
  | nil => rfl
  | cons op' retries ih =>
    obtain ⟨hop', hrest⟩ := List.forall_mem_cons.1 hr
    rw [List.map_cons, run_cons, Step.run_retry hs h hop', ih hrest]
    rfl

end Runs

/-- **Retries are safe.** At every point of a run from the empty store, when a session has made a
request for a project, a subscription or a watcher or a renewal that has succeeded, it may make it
again any number of times, with any ids for new rows and at the same effective time: each time it is
given the same report, and everything is left as the first success left it.

The same holds when other steps come in between, as long as they write nothing: where retries are
the last writes that a session sees, it sees the store that the first of these calls left, and each
retry was answered what the first call was. So will be the next one, unless another session is the
writer, and the session will still see the same store. -/
theorem Script.retries_safe (script : Script) (clock : Instant) (n : Nat) (i : SessionId) :
    let r := script.stateAt (.start clock .empty) n
    let j := script.journalAt (.start clock .empty) n
    (∀ op answer events, let first := (Step.act i (.call op)).run r
      first.1 = .leaf (.ok answer) events → ∀ retries : List Operation,
        (∀ op' ∈ retries, op.IsRetry r.clock r.clock op') →
          Script.run first.2 (retries.map fun op' => .act i (.call op')) =
            (retries.map fun _ => .leaf (.ok answer) events, first.2)) ∧
      ∀ before deed repeats, j.visible i = before ++ deed :: repeats →
        (∀ later ∈ repeats, deed.IsRetriedBy later) →
          Replays .empty (before ++ [deed]) (r.database.view i) ∧
            (∀ later ∈ repeats, later.reply = deed.reply) ∧
            ∀ op op', deed.write = .call op → op.IsRetry deed.clock r.clock op' →
              (¬ ∃ k, k ≠ i ∧ script.IsWriterAt (.start clock .empty) n k) →
                let next := (Step.act i (.call op')).run r
                next.1 = .leaf (.ok deed.reply.answer) deed.reply.events ∧
                  next.2.database.view i = r.database.view i := by
  intro r j
  have hs : (r.database.view i).Intact := script.intact_view clock n i
  have htells : j.Tells .empty r.database := script.tells clock .empty n
  refine ⟨?_, ?_⟩
  · intro op answer events first h retries hr
    exact Script.run_retries hs h hr
  intro before deed repeats hvisible hrepeats
  obtain ⟨hbefore, hreplies⟩ := (hvisible ▸ htells.view i).again .empty hrepeats
  refine ⟨hbefore, hreplies, ?_⟩
  intro op op' hop hretry hfree next
  obtain ⟨m, hm, hdeed⟩ := hbefore.of_snoc
  rw [hop] at hdeed
  have hl : r.database.lockedFor i = false := by
    rw [← Bool.not_eq_true, htells.valid.lockedFor_iff]
    simp only [Script.isWriterAt_iff] at hfree
    exact hfree
  have hrun := Step.run_call hl (hdeed.again (hm.intact .empty) hretry)
  rw [show next = _ from hrun]
  exact ⟨rfl, Database.view_put⟩

end SubscriptionRegistry
