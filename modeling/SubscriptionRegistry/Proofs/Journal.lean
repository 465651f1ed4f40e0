import SubscriptionRegistry.Proofs.Write
import SubscriptionRegistry.Script

/-!
# Journals of runs

What a run did, told by its steps and their reports alone. A run is cut into `Move`s, and a journal
keeps book of them: for each write that succeeded, the level of its session's transaction that
holds it now.

* `Script.trail`: the moves of a run in their order, each with the registry after it. A point of a
  run is a number of moves: `Script.stateAt` is the registry there and `Script.journalAt` the
  journal.
* `Journal.durable`: the writes that are committed, in the order of the run.
* `Journal.visible`: the writes that a session sees, its own pending ones with them.
* `Latest`: the last deed of a list that has a value, and what comes after it.
* `Script.writes`: the writes that a script tries, whatever comes of them. `Script.mem_writes`: a
  journal has no others.
* `Move.Attempts`: a move has run a write statement of a session, whatever came of it.
* `Move.Leads`: what a move does to the database. `Script.follows_trail`: the moves of a run lead
  from each registry of its trail to the next.
-/

namespace SubscriptionRegistry

/-- A write that succeeded: at what time it was made and what it answered. -/
structure Deed where
  clock : Instant
  write : Write
  reply : Reply

/-! ## Moves -/

/-- What a step does to the transactions and the store. -/
inductive Move where
  /-- Session `i` opens a level: it begins a transaction or enters a unit. -/
  | opened (i : SessionId)
  /-- Session `i` leaves a unit without a fault. -/
  | kept (i : SessionId)
  /-- Session `i` leaves a unit with a fault. -/
  | undone (i : SessionId)
  | committed (i : SessionId)
  | rolledBack (i : SessionId)
  | wrote (i : SessionId) (deed : Deed)
  | failed (i : SessionId) (clock : Instant) (write : Write) (fault : Fault)
  /-- Anything else: a read, a setting of the clock, a refused beginning. -/
  | idle

/-- The move of a write, by what it answered. -/
def Move.ofWrite (i : SessionId) (clock : Instant) (w : Write) : Except Fault Reply → Move
  | .ok reply => .wrote i ⟨clock, w, reply⟩
  | .error f => .failed i clock w f

/-- The move of an action, by what it answered. -/
def Action.move (i : SessionId) (clock : Instant) (reply : Except Fault Reply) : Action → Move
  | .begin =>
    match reply with
    | .ok _ => .opened i
    | .error _ => .idle
  | .commit => .committed i
  | .rollback => .rolledBack i
  | .call op => if op.isWrite then .ofWrite i clock (.call op) reply else .idle
  | .replaceScope subscriber scope => .ofWrite i clock (.replaceScope subscriber scope) reply
  | .inTransaction | .dump => .idle

/-- The moves of a run in their order, each with the registry after it. -/
abbrev Trail := List (Move × Registry)

mutual

/-- The moves of one step. -/
def Step.trail (r : Registry) : Step → Trail
  | .setClock time => [(.idle, (Step.run r (.setClock time)).2)]
  | .act i action =>
    [(action.move i r.clock (action.run i r.clock r.database).1, (Step.run r (.act i action)).2)]
  | .sweep => [(.ofWrite .worker r.clock .sweep (r.database.sweep r.clock).1, (Step.run r .sweep).2)]
  | .unit i propagate thrown steps =>
    let entered := r.withDatabase (r.database.enter i)
    let left := Step.run r (.unit i propagate thrown steps)
    (.opened i, entered) :: (Step.trailAll entered propagate steps ++
      [(if left.1.fault?.isSome then .undone i else .kept i, left.2)])

/-- The moves of a list of steps, up to the first fault if `propagate` is set. -/
def Step.trailAll (r : Registry) (propagate : Bool) : List Step → Trail
  | [] => []
  | step :: steps =>
    match propagate, (step.run r).1.fault? with
    | true, some _ => step.trail r
    | _, _ => step.trail r ++ Step.trailAll (step.run r).2 propagate steps

end

/-- The moves of a script. -/
def Script.trail (script : Script) (r : Registry) : Trail :=
  Step.trailAll r false script

/-- The registry after the moves of a trail that starts at `r`. -/
def Registry.after (r : Registry) (trail : Trail) : Registry :=
  (trail.getLast?.map (·.2)).getD r

/-- The registry after the first `n` moves of a run from `r`. -/
def Script.stateAt (script : Script) (r : Registry) (n : Nat) : Registry :=
  r.after ((script.trail r).take n)

/-! ## Journals -/

/-- An entry of a journal: a write, the session that made it, and the level of the session's
transaction that holds it. Level zero is the committed store; work that was undone has no level. -/
structure Journal.Entry where
  session : SessionId
  level : Option Nat
  deed : Deed

/-- The number of open levels of each session, and the writes in the order in which they were
made. -/
structure Journal where
  depth : SessionId → Nat
  entries : List Journal.Entry

namespace Journal

/-- The journal of nothing. -/
def empty : Journal := ⟨fun _ => 0, []⟩

/-- The depths with `n` open levels of session `i`. -/
def setDepth (depth : SessionId → Nat) (i : SessionId) (n : Nat) : SessionId → Nat :=
  fun j => if j = i then n else depth j

/-- The entry after session `i` has moved its work at each level `l` to level `f l`. -/
def Entry.relevel (i : SessionId) (f : Nat → Option Nat) (e : Entry) : Entry :=
  if e.session = i then { e with level := e.level.bind f } else e

/-- Session `i` ends its levels above `n` and moves its work at each level `l` to level `f l`. -/
def endLevels (j : Journal) (i : SessionId) (n : Nat) (f : Nat → Option Nat) : Journal :=
  ⟨setDepth j.depth i n, j.entries.map (·.relevel i f)⟩

/-- Session `i` ends its levels above `n`, and what they hold goes to level `n`. -/
def keep (j : Journal) (i : SessionId) (n : Nat) : Journal :=
  j.endLevels i n fun l => some (min n l)

/-- Session `i` ends its levels above `n`, and what they hold is lost. -/
def undo (j : Journal) (i : SessionId) (n : Nat) : Journal :=
  j.endLevels i n fun l => if l ≤ n then some l else none

/-- The journal after one more move. -/
def record (j : Journal) : Move → Journal
  | .opened i => { j with depth := setDepth j.depth i (j.depth i + 1) }
  | .kept i => j.keep i (j.depth i - 1)
  | .undone i => j.undo i (j.depth i - 1)
  | .committed i => j.keep i 0
  | .rolledBack i => j.undo i 0
  | .wrote i deed => { j with entries := j.entries ++ [⟨i, some (j.depth i), deed⟩] }
  | .failed .. | .idle => j

/-- The journal of a list of moves. -/
def ofMoves (moves : List Move) : Journal :=
  moves.foldl record empty

/-- The writes that are committed. -/
def durable (j : Journal) : List Deed :=
  (j.entries.filter (·.level = some 0)).map (·.deed)

/-- The writes that session `i` sees: those that are committed and its own pending ones. -/
def visible (j : Journal) (i : SessionId) : List Deed :=
  (j.entries.filter fun e => e.level = some 0 ∨ (e.session = i ∧ e.level.isSome)).map (·.deed)

end Journal

/-- The journal of the first `n` moves of a run from `r`. -/
def Script.journalAt (script : Script) (r : Registry) (n : Nat) : Journal :=
  .ofMoves (((script.trail r).take n).map (·.1))

/-- The journal of a whole run from `r`. -/
def Script.journal (script : Script) (r : Registry) : Journal :=
  .ofMoves ((script.trail r).map (·.1))

/-! ## The last deed of a kind -/

/-- Of the deeds for which `f` has a value, the last one has the value `a`. The deeds `after` come
after it. -/
def Latest (f : Deed → Option α) (deeds : List Deed) (a : α) (after : List Deed) : Prop :=
  ∃ before deed, deeds = before ++ deed :: after ∧ f deed = some a ∧
    ∀ later ∈ after, f later = none

section Latest

variable {f : Deed → Option α} {deeds after : List Deed} {deed : Deed} {a : α}

theorem Latest.snoc_self (h : f deed = some a) : Latest f (deeds ++ [deed]) a [] :=
  ⟨deeds, deed, rfl, h, fun _ hl => by cases hl⟩

theorem Latest.snoc (h : Latest f deeds a after) (hd : f deed = none) :
    Latest f (deeds ++ [deed]) a (after ++ [deed]) := by
  obtain ⟨before, setter, rfl, hset, hafter⟩ := h
  refine ⟨before, setter, by simp, hset, fun later hl => ?_⟩
  rcases List.mem_append.1 hl with hl | hl
  · exact hafter later hl
  · rw [List.mem_singleton.1 hl]
    exact hd

/-- After one more deed, that deed is the last one with a value, or the last one before it is. -/
theorem latest_snoc : Latest f (deeds ++ [deed]) a after ↔
    (f deed = some a ∧ after = []) ∨
      (f deed = none ∧ ∃ rest, after = rest ++ [deed] ∧ Latest f deeds a rest) := by
  constructor
  · rintro ⟨before, setter, heq, hset, hafter⟩
    rcases List.eq_nil_or_concat after with rfl | ⟨rest, last, rfl⟩
    · obtain ⟨rfl, hlast⟩ := List.append_inj' heq rfl
      cases hlast
      exact .inl ⟨hset, rfl⟩
    · rw [List.concat_eq_append] at hafter ⊢
      rw [List.concat_eq_append, ← List.cons_append, ← List.append_assoc] at heq
      obtain ⟨rfl, hlast⟩ := List.append_inj' heq rfl
      cases hlast
      refine .inr ⟨hafter deed (List.mem_append_right rest List.mem_cons_self), rest, rfl, before,
        setter, rfl, hset, fun later hl => hafter later (List.mem_append_left _ hl)⟩
  · rintro (⟨hset, rfl⟩ | ⟨hd, rest, rfl, h⟩)
    · exact .snoc_self hset
    · exact h.snoc hd

theorem Latest.mem {later : Deed} (h : Latest f deeds a after) (hl : later ∈ after) :
    later ∈ deeds := by
  obtain ⟨before, setter, rfl, -, -⟩ := h
  exact List.mem_append_right before (List.mem_cons_of_mem setter hl)

end Latest

/-! ## Writes of a script -/

/-- The write of an action. -/
def Action.write? : Action → Option Write
  | .call op => if op.isWrite then some (.call op) else none
  | .replaceScope subscriber scope => some (.replaceScope subscriber scope)
  | .begin | .commit | .rollback | .inTransaction | .dump => none

mutual

/-- The writes that a step tries. -/
def Step.writes : Step → List Write
  | .setClock _ => []
  | .act _ action => action.write?.toList
  | .sweep => [.sweep]
  | .unit _ _ _ steps => Step.allWrites steps

/-- The writes that a list of steps tries. -/
def Step.allWrites : List Step → List Write
  | [] => []
  | step :: steps => step.writes ++ Step.allWrites steps

end

/-- The writes that a script tries. -/
def Script.writes (script : Script) : List Write :=
  Step.allWrites script

/-- The write of a deed that a move has made. -/
def Move.deed? : Move → Option Deed
  | wrote _ deed => some deed
  | _ => none

theorem Move.deed?_ofWrite {i : SessionId} {clock : Instant} {w : Write} {deed : Deed}
    {reply : Except Fault Reply} (h : (ofWrite i clock w reply).deed? = some deed) :
    deed.write = w := by
  cases reply with
  | ok reply => cases h; rfl
  | error f => cases h

theorem Action.write?_of_deed? {action : Action} {i : SessionId} {clock : Instant} {deed : Deed}
    {reply : Except Fault Reply} (h : (action.move i clock reply).deed? = some deed) :
    action.write? = some deed.write := by
  cases action with
  | begin => cases reply <;> cases h
  | commit | rollback | inTransaction | dump => cases h
  | call op =>
    rw [move] at h
    split at h
    · rename_i hw
      rw [Move.deed?_ofWrite h, write?, if_pos hw]
    · cases h
  | replaceScope subscriber scope =>
    rw [Move.deed?_ofWrite h, write?]

mutual

/-- What a step has written it has tried to write. -/
theorem Step.mem_writes {r : Registry} {p : Move × Registry} {deed : Deed}
    (hd : p.1.deed? = some deed) : ∀ {step : Step}, p ∈ step.trail r → deed.write ∈ step.writes
  | .setClock time, h => by
    cases List.mem_singleton.1 h
    cases hd
  | .act i action, h => by
    cases List.mem_singleton.1 h
    rw [writes, Action.write?_of_deed? hd]
    exact List.mem_singleton_self _
  | .sweep, h => by
    cases List.mem_singleton.1 h
    exact List.mem_singleton.2 (Move.deed?_ofWrite hd)
  | .unit i propagate thrown steps, h => by
    simp only [trail, List.mem_cons, List.mem_append, List.not_mem_nil, or_false] at h
    rcases h with rfl | h | rfl
    · cases hd
    · exact Step.mem_allWrites hd h
    · dsimp only at hd
      split at hd <;> cases hd

theorem Step.mem_allWrites {r : Registry} {propagate : Bool} {p : Move × Registry} {deed : Deed}
    (hd : p.1.deed? = some deed) :
    ∀ {steps : List Step}, p ∈ Step.trailAll r propagate steps → deed.write ∈ Step.allWrites steps
  | [], h => by cases h
  | step :: steps, h => by
    have hboth : p ∈ step.trail r ∨ p ∈ Step.trailAll (step.run r).2 propagate steps := by
      unfold trailAll at h
      split at h
      · exact .inl h
      · exact List.mem_append.1 h
    rw [allWrites, List.mem_append]
    exact hboth.imp (Step.mem_writes hd) (Step.mem_allWrites hd)

end

namespace Journal

variable {j : Journal} {i k : SessionId} {n : Nat}

theorem setDepth_self (depth : SessionId → Nat) (i : SessionId) (n : Nat) :
    setDepth depth i n i = n :=
  if_pos rfl

theorem setDepth_ne (depth : SessionId → Nat) (n : Nat) (hk : k ≠ i) :
    setDepth depth i n k = depth k :=
  if_neg hk

theorem depth_endLevels (j : Journal) (i : SessionId) (n : Nat) (f : Nat → Option Nat) :
    (j.endLevels i n f).depth = setDepth j.depth i n :=
  rfl

theorem deed_relevel (i : SessionId) (f : Nat → Option Nat) (e : Entry) :
    (e.relevel i f).deed = e.deed := by
  unfold Entry.relevel
  split <;> rfl

/-- Entries stay as they are but for the levels of session `i`. -/
theorem mem_endLevels {f : Nat → Option Nat} {e : Entry} (h : e ∈ (j.endLevels i n f).entries) :
    ∃ e₀ ∈ j.entries, e.session = e₀.session ∧ e.deed = e₀.deed ∧
      ((e₀.session = i ∧ e.level = e₀.level.bind f) ∨ (e₀.session ≠ i ∧ e.level = e₀.level)) := by
  obtain ⟨e₀, he₀, rfl⟩ := List.mem_map.1 h
  refine ⟨e₀, he₀, ?_⟩
  unfold Entry.relevel
  split
  · rename_i hi
    exact ⟨rfl, rfl, .inl ⟨hi, rfl⟩⟩
  · rename_i hi
    exact ⟨rfl, rfl, .inr ⟨hi, rfl⟩⟩

/-- A move makes no entry but that of its write. -/
theorem deed_mem_record {m : Move} {e : Entry} (h : e ∈ (j.record m).entries) :
    (∃ e' ∈ j.entries, e'.deed = e.deed) ∨ m.deed? = some e.deed := by
  have hends : ∀ i n f, e ∈ (j.endLevels i n f).entries → ∃ e' ∈ j.entries, e'.deed = e.deed := by
    intro i n f h
    obtain ⟨e', he', -, hd, -⟩ := mem_endLevels h
    exact ⟨e', he', hd.symm⟩
  cases m with
  | opened i => exact .inl ⟨e, h, rfl⟩
  | kept i => exact .inl (hends _ _ _ h)
  | undone i => exact .inl (hends _ _ _ h)
  | committed i => exact .inl (hends _ _ _ h)
  | rolledBack i => exact .inl (hends _ _ _ h)
  | wrote i deed =>
    rcases List.mem_append.1 h with h | h
    · exact .inl ⟨e, h, rfl⟩
    · rw [List.mem_singleton.1 h]
      exact .inr rfl
  | failed i clock w f => exact .inl ⟨e, h, rfl⟩
  | idle => exact .inl ⟨e, h, rfl⟩

/-- The writes of some entries are writes of entries. -/
theorem mem_deeds {p : Entry → Bool} {d : Deed}
    (h : d ∈ (j.entries.filter p).map (·.deed)) : ∃ e ∈ j.entries, e.deed = d := by
  obtain ⟨e, he, hd⟩ := List.mem_map.1 h
  exact ⟨e, (List.mem_filter.1 he).1, hd⟩

theorem mem_durable {d : Deed} (h : d ∈ j.durable) : ∃ e ∈ j.entries, e.deed = d :=
  mem_deeds h

theorem mem_visible {d : Deed} (h : d ∈ j.visible i) :
    ∃ e ∈ j.entries, e.deed = d :=
  mem_deeds h

theorem deed_mem_foldl {moves : List Move} {e : Entry}
    (h : e ∈ (moves.foldl record j).entries) :
    (∃ e' ∈ j.entries, e'.deed = e.deed) ∨ ∃ m ∈ moves, m.deed? = some e.deed := by
  induction moves generalizing j with
  | nil => exact .inl ⟨e, h, rfl⟩
  | cons m moves ih =>
    rcases ih h with ⟨e', he', hd⟩ | ⟨m', hm', hd⟩
    · rw [← hd]
      exact (deed_mem_record he').imp_right fun hm => ⟨m, List.mem_cons_self, hm⟩
    · exact .inr ⟨m', List.mem_cons_of_mem m hm', hd⟩

end Journal

/-- What the journal of a run has, the script has tried to write. -/
theorem Script.mem_writes {script : Script} {r : Registry} {n : Nat} {e : Journal.Entry}
    (h : e ∈ (script.journalAt r n).entries) : e.deed.write ∈ script.writes := by
  rcases Journal.deed_mem_foldl h with ⟨e', he', -⟩ | ⟨m, hm, hd⟩
  · cases he'
  · obtain ⟨p, hp, rfl⟩ := List.mem_map.1 hm
    exact Step.mem_allWrites hd (List.mem_of_mem_take hp)

/-! ## Attempts to write -/

/-- The move has run a write statement of session `i`, whether this succeeded or failed. No
statement was run if the inputs of the call were rejected, or if the statement was refused because
another session is writing. -/
inductive Move.Attempts (i : SessionId) : Move → Prop
  | wrote (deed : Deed) : Attempts i (.wrote i deed)
  | failed {clock : Instant} {w : Write} {f : Fault} {st : Statement}
      (hw : w.statement clock = .ok st) (hlocked : f.surface ≠ Fault.locked.surface)
      (hopen : f ≠ .rejected .scopeOutsideTransaction) : Attempts i (.failed i clock w f)

namespace Move

variable {i : SessionId} {clock : Instant} {w : Write} {s : Store} {f g : Fault}
  {run : Routine}

/-- A statement that has failed was attempted. Its fault may have surfaced as a registry error. -/
theorem attempts_of_run (hw : w.statement clock = .ok (.write run)) (hr : run s = .error f)
    (hg : g.surface = f.surface) : Attempts i (.failed i clock w g) := by
  have hf : f.surface ≠ Fault.locked.surface ∧ f.surface ≠ .rejected .scopeOutsideTransaction := by
    rcases Write.fault_of_run hw hr with ⟨v, rfl⟩ | rfl
    · exact ⟨nofun, nofun⟩
    · exact ⟨nofun, nofun⟩
  refine .failed hw (hg ▸ hf.1) fun hopen => ?_
  rw [← hg, hopen] at hf
  exact hf.2 rfl

theorem Attempts.surface_ne_locked (h : Attempts i (.failed i clock w f)) :
    f.surface ≠ Fault.locked.surface := by
  cases h with
  | failed hw hlocked hopen => exact hlocked

theorem not_attempts_of_locked (hf : f.surface = Fault.locked.surface) :
    ¬ Attempts i (.failed i clock w f) := by
  rintro ⟨⟩
  contradiction

theorem not_attempts_of_error (hw : w.statement clock = .error g) :
    ¬ Attempts i (.failed i clock w f) := by
  intro h
  cases h with
  | failed hok hlocked hopen =>
    rw [hw] at hok
    cases hok

theorem not_attempts_of_closed :
    ¬ Attempts i (.failed i clock w (.rejected .scopeOutsideTransaction)) := by
  rintro ⟨⟩
  contradiction

end Move

/-! ## What moves do to the database -/

/-- How a move changes the database. A write that fails takes the writer lock if its statement has
run. -/
def Move.Leads (d d' : Database) : Move → Prop
  | opened i => d' = d.enter i
  | kept i => d' = d.release i
  | undone i => d' = d.undo i
  | committed i => d' = d.commitAll i
  | rolledBack i => d' = d.close i
  | wrote i deed => d.lockedFor i = false ∧
      ∃ s, deed.write.Turns deed.clock (d.view i) s deed.reply ∧ d' = d.put i s
  | failed i clock w f =>
    (¬ Attempts i (.failed i clock w f) ∧ (d' = d ∨ d' = d.rest i)) ∨
      (Attempts i (.failed i clock w f) ∧ d.lockedFor i = false ∧ d' = d.write i (d.view i))
  | idle => d' = d ∨ ∃ i, d' = d.rest i

/-- Each move of a trail from `r` leads from the registry before it to the one after it. -/
def Registry.Follows : Registry → Trail → Prop
  | _, [] => True
  | r, (m, r') :: trail => m.Leads r.database r'.database ∧ Registry.Follows r' trail

/-- A statement that writes. -/
theorem Database.leads_attempt {d : Database} {i : SessionId} {clock : Instant} {w : Write}
    {run : Routine} (hw : w.statement clock = .ok (.write run)) :
    (Move.ofWrite i clock w (d.attempt i (.write run)).1).Leads d
      (d.attempt i (.write run)).2 := by
  simp only [attempt]
  cases hl : d.lockedFor i with
  | true => exact .inl ⟨Move.not_attempts_of_locked (Fault.surface_surface _), .inr rfl⟩
  | false =>
    cases hr : run (d.view i) with
    | ok p => exact ⟨hl, p.1, ⟨run, hw, hr⟩, rfl⟩
    | error f => exact .inr ⟨Move.attempts_of_run hw hr f.surface_surface, hl, rfl⟩

theorem Database.leads_call (d : Database) (i : SessionId) (clock : Instant) (op : Operation) :
    ((Action.call op).move i clock (d.call clock i op).1).Leads d (d.call clock i op).2 := by
  cases hp : op.prepare clock with
  | error f =>
    rw [call_of_error hp, Action.move]
    cases op.isWrite with
    | true => exact .inl ⟨Move.not_attempts_of_error (w := .call op) hp, .inr rfl⟩
    | false => exact .inr ⟨i, rfl⟩
  | ok statement =>
    rw [call_of_ok hp, Action.move]
    cases statement with
    | read run =>
      rw [Operation.isWrite_of_prepare hp]
      exact .inr ⟨i, rfl⟩
    | write run =>
      rw [Operation.isWrite_of_prepare hp]
      exact leads_attempt (w := .call op) hp

theorem Database.leads_replaceScope (d : Database) (i : SessionId) (clock : Instant)
    (subscriber : Option Uuid) (scope : Scope) :
    (Move.ofWrite i clock (.replaceScope subscriber scope) (d.replaceScope i subscriber scope).1).Leads
      d (d.replaceScope i subscriber scope).2 := by
  rw [replaceScope_eq]
  cases d.inTransaction i with
  | false => exact .inl ⟨Move.not_attempts_of_closed, .inl rfl⟩
  | true =>
    cases hl : d.lockedFor i with
    | true => exact .inl ⟨Move.not_attempts_of_locked rfl, .inl rfl⟩
    | false =>
      cases hr : Operation.scopeReplacement subscriber scope (d.view i) with
      | ok p =>
        simp only [if_true, if_false, Bool.false_eq_true]
        exact ⟨hl, p.1, ⟨_, rfl, hr⟩, rfl⟩
      | error f =>
        simp only [if_true, if_false, Bool.false_eq_true]
        exact .inr ⟨Move.attempts_of_run (w := .replaceScope subscriber scope) rfl hr rfl, hl, rfl⟩

theorem Action.leads (d : Database) (i : SessionId) (clock : Instant) (action : Action) :
    (action.move i clock (action.run i clock d).1).Leads d (action.run i clock d).2 := by
  cases action with
  | begin =>
    simp only [run, Database.begin]
    cases d.inTransaction i with
    | true => exact .inl rfl
    | false => exact rfl
  | commit => exact rfl
  | rollback => exact rfl
  | inTransaction => exact .inl rfl
  | dump => exact .inl rfl
  | call op => exact d.leads_call i clock op
  | replaceScope subscriber scope => exact d.leads_replaceScope i clock subscriber scope

theorem Database.leads_sweep (d : Database) (clock : Instant) :
    (Move.ofWrite .worker clock .sweep (d.sweep clock).1).Leads d (d.sweep clock).2 := by
  rw [sweep_eq]
  exact leads_attempt (w := .sweep) rfl

/-! ## Trails of runs -/

namespace Registry

theorem after_append (r : Registry) (a b : Trail) : r.after (a ++ b) = (r.after a).after b := by
  cases b with
  | nil => simp [after]
  | cons p b => simp [after, List.getLast?_append, List.getLast?_cons]

theorem after_cons (r : Registry) (m : Move) (r' : Registry) (trail : Trail) :
    r.after ((m, r') :: trail) = r'.after trail :=
  after_append r [(m, r')] trail

theorem follows_append {r : Registry} {a b : Trail} :
    r.Follows (a ++ b) ↔ r.Follows a ∧ (r.after a).Follows b := by
  induction a generalizing r with
  | nil => simp [Follows, after]
  | cons p a ih =>
    obtain ⟨m, r'⟩ := p
    simp only [List.cons_append, Follows, ih, after_cons, and_assoc]

theorem Follows.take {r : Registry} {trail : Trail} (h : r.Follows trail) (n : Nat) :
    r.Follows (trail.take n) := by
  rw [← List.take_append_drop n trail] at h
  exact (follows_append.1 h).1

end Registry

mutual

/-- The moves of a step lead from registry to registry, and the last one to where the step ends. -/
theorem Step.follows_trail (r : Registry) : ∀ step : Step,
    r.Follows (step.trail r) ∧ r.after (step.trail r) = (step.run r).2
  | .setClock time => by
    refine ⟨⟨.inl ?_, trivial⟩, rfl⟩
    simp only [Step.run, Registry.setClock]
    split <;> rfl
  | .act i action => ⟨⟨action.leads r.database i r.clock, trivial⟩, rfl⟩
  | .sweep => ⟨⟨r.database.leads_sweep r.clock, trivial⟩, rfl⟩
  | .unit i propagate thrown steps => by
    obtain ⟨hf, ha⟩ := Step.follows_trailAll (r.withDatabase (r.database.enter i)) propagate steps
    simp only [Step.trail, Registry.Follows, Registry.after_cons, Registry.after_append,
      Registry.follows_append, ha, hf, true_and, and_true]
    refine ⟨⟨rfl, ?_⟩, rfl⟩
    simp only [Step.run, Report.fault?, Option.isSome_map]
    cases (Step.runAll (r.withDatabase (r.database.enter i)) propagate steps).2.1 <|> thrown with
    | none => exact rfl
    | some f => exact rfl

theorem Step.follows_trailAll (r : Registry) : ∀ (propagate : Bool) (steps : List Step),
    r.Follows (Step.trailAll r propagate steps) ∧
      r.after (Step.trailAll r propagate steps) = (Step.runAll r propagate steps).2.2
  | _, [] => ⟨trivial, rfl⟩
  | propagate, step :: steps => by
    have hstep := Step.follows_trail r step
    have hall := Step.follows_trailAll (step.run r).2 propagate steps
    have hboth : r.Follows (step.trail r ++ Step.trailAll (step.run r).2 propagate steps) ∧
        r.after (step.trail r ++ Step.trailAll (step.run r).2 propagate steps) =
          (Step.runAll (step.run r).2 propagate steps).2.2 := by
      rw [Registry.follows_append, Registry.after_append, hstep.2]
      exact ⟨⟨hstep.1, hall.1⟩, hall.2⟩
    simp only [Step.trailAll, Step.runAll]
    cases propagate with
    | false => exact hboth
    | true =>
      cases hf : (step.run r).1.fault? with
      | none => exact hboth
      | some f => exact hstep

end

/-- The moves of a run lead from each registry of its trail to the next. -/
theorem Script.follows_trail (script : Script) (r : Registry) : r.Follows (script.trail r) :=
  (Step.follows_trailAll r false script).1

/-- A trail ends where its run ends. -/
theorem Script.after_trail (script : Script) (r : Registry) :
    r.after (script.trail r) = (Script.run r script).2 :=
  (Step.follows_trailAll r false script).2

end SubscriptionRegistry
