import SubscriptionRegistry.Fault.Guard
import SubscriptionRegistry.Proofs.Atomicity
import SubscriptionRegistry.Proofs.Write

/-!
# Translation of faults

What leaves a guard, a unit or a call of the registry is in the registry's own terms: it is never a
fault of the store or of the system. A guard says so once: the guards around it see a registry error
and let it pass.

* `Fault.classes`: the classes of a fault, which overlap. `Fault.ranking`: which class decides.
  `Fault.registryError?_eq`: the registry error of a fault is that of the first class in the
  ranking.
* `Incident.Leaves`: what leaves guards when a fault is thrown inside them. `Incident.guards_succ`:
  the innermost guard decides it.
* `Step.nested`: a step inside units. `Step.fault?_nested`: the fault that leaves them.
* `Registry.Translates`: the faults that a session meets, at any number of units around it.
* `translation_exact`: translation of incidents, and of faults in every state.
-/

namespace SubscriptionRegistry

/-! ## Classes of faults -/

/-- The classes of faults that the registry tells apart. -/
inductive Fault.Class where
  | noRow
  | integrity
  | invalidated
  | operational
  | interface
  | poolTimeout
  | disconnected
  | system
  | store
deriving DecidableEq, Repr

/-- The classes of a fault of the driver, beside that of all faults of the store. -/
def DriverFault.classes (f : DriverFault) : List Fault.Class :=
  (if f.invalidated then [.invalidated] else []) ++
    match f.kind with
    | .integrity => [.integrity]
    | .operational => [.operational]
    | .interface => [.interface]
    | _ => []

/-- The classes of a fault of the store, beside that of all of them. -/
def StoreFault.classes : StoreFault → List Fault.Class
  | noRow _ => [.noRow]
  | driver f => f.classes
  | poolTimeout _ => [.poolTimeout]
  | disconnected _ => [.disconnected]
  | _ => []

namespace Fault

/-- The classes of a fault. Faults that do not come from the store or the system have none. -/
def classes : Fault → List Class
  | store f => .store :: f.classes
  | system .. => [.system]
  | _ => []

/-- The driver's own words, or those of the fault if the driver said nothing. -/
def driverWords : Fault → String
  | store (.driver ⟨_, some o, _⟩) => o.text
  | f => f.text

/-- The classes, from the one that decides before all others, with what each makes of a fault. -/
def ranking : List (Class × (Fault → RegistryError)) :=
  [(.noRow, fun _ => ⟨.notFound, "No matching row"⟩),
    (.integrity, fun f => ⟨.conflict, f.driverWords⟩),
    (.invalidated, fun f => ⟨.transient, f.text⟩),
    (.operational, fun f => ⟨.transient, f.text⟩),
    (.interface, fun f => ⟨.transient, f.text⟩),
    (.poolTimeout, fun f => ⟨.transient, f.text⟩),
    (.disconnected, fun f => ⟨.transient, f.text⟩),
    (.system, fun f => ⟨.transient, f.text⟩),
    (.store, fun f => ⟨.fatal, f.text⟩)]

/-- What the first class in the ranking makes of a fault. -/
def ranked? (f : Fault) : Option RegistryError :=
  (ranking.find? fun rule => f.classes.contains rule.1).map fun rule => rule.2 f

theorem registryError?_eq {f : Fault} (h : ∀ e, f ≠ .registry e) : f.registryError? = f.ranked? := by
  cases f with
  | registry e => exact absurd rfl (h e)
  | store f =>
    cases f with
    | driver f =>
      obtain ⟨kind, origin, invalidated⟩ := f
      cases kind <;> cases invalidated <;> cases origin <;> rfl
    | _ => rfl
  | _ => rfl

/-- Whether a fault is one of the store or of the system. -/
def isRaw : Fault → Bool
  | store _ | system .. => true
  | _ => false

theorem isRaw_surface (f : Fault) : f.surface.isRaw = false := by
  cases f <;> rfl

theorem surface_of_none {f : Fault} (h : f.registryError? = none) : f.surface = f := by
  rw [surface, h]

theorem surface_of_some {f : Fault} {e : RegistryError} (h : f.registryError? = some e) :
    f.surface = .registry e := by
  rw [surface, h]

end Fault

/-! ## Guards -/

namespace Incident

variable {next : Nat} {x : Incident}

/-- A guard lets a fault pass that has no registry error, or is one. -/
def Passes (x : Incident) : Prop :=
  (∃ e, x.fault = .registry e) ∨ x.fault.registryError? = none

theorem registryError?_of_registry {e : RegistryError} (h : x.fault = .registry e) :
    x.registryError? next = (some x, next) := by
  simp [registryError?, h]

theorem registryError?_of_none (h : x.fault.registryError? = none) :
    x.registryError? next = (none, next) := by
  obtain ⟨id, fault, cause⟩ := x
  cases fault with
  | registry e | store f | system number message => cases h
  | _ => rfl

theorem registryError?_of_some {e : RegistryError} (hne : ∀ e', x.fault ≠ .registry e')
    (h : x.fault.registryError? = some e) :
    x.registryError? next = (some ⟨next, .registry e, none⟩, next + 1) := by
  obtain ⟨id, fault, cause⟩ := x
  cases fault with
  | registry e' => exact absurd rfl (hne e')
  | store f | system number message =>
    cases h
    rfl
  | _ => cases h

theorem guard_of_passes (h : x.Passes) : x.guard next = (x, next) := by
  rcases h with ⟨e, he⟩ | hnone
  · simp [guard, registryError?_of_registry he]
  · simp [guard, registryError?_of_none hnone]

theorem guard_of_some {e : RegistryError} (hx : x.id < next) (hne : ∀ e', x.fault ≠ .registry e')
    (h : x.fault.registryError? = some e) :
    x.guard next = (⟨next, .registry e, some x.id⟩, next + 1) := by
  have hid : next ≠ x.id := by omega
  simp [guard, registryError?_of_some hne h, hid]

/-- A fault passes a guard, or is one that has a registry error and is none. -/
theorem passes_or (x : Incident) :
    x.Passes ∨ ∃ e, (∀ e', x.fault ≠ .registry e') ∧ x.fault.registryError? = some e := by
  cases h : x.fault.registryError? with
  | none => exact .inl (.inr h)
  | some e =>
    by_cases hreg : ∃ e', x.fault = .registry e'
    · exact .inl (.inl hreg)
    · exact .inr ⟨e, fun e' he' => hreg ⟨e', he'⟩, rfl⟩

theorem passes_guard (hx : x.id < next) : (x.guard next).1.Passes := by
  rcases x.passes_or with h | ⟨e, hne, he⟩
  · rwa [guard_of_passes h]
  · rw [guard_of_some hx hne he]
    exact .inl ⟨e, rfl⟩

/-- A fault that passes one guard passes them all. -/
theorem guards_of_passes (h : x.Passes) (k : Nat) : x.guards k next = (x, next) := by
  induction k with
  | zero => rfl
  | succ k ih => rw [guards, guard_of_passes h, ih]

/-- The innermost guard decides what leaves all of them. -/
theorem guards_succ (hx : x.id < next) (k : Nat) : x.guards (k + 1) next = x.guard next := by
  rw [guards, guards_of_passes (passes_guard hx)]

/-- What leaves guards when `x` is thrown inside them and `next` is the number of the next object:
`x` itself, or the registry error for it, with `x` as the cause. -/
structure Leaves (next : Nat) (x y : Incident) : Prop where
  fault_eq : y.fault = x.fault.surface
  not_raw : y.fault.isRaw = false
  same : y.id = x.id → y = x
  same_iff : y.id = x.id ↔ (∃ e, x.fault = .registry e) ∨ x.fault.registryError? = none
  interrupt : (∃ kind message, x.fault = .interrupt kind message) → y = x
  other : y.id ≠ x.id → ∃ e t, (x.registryError? next).1 = some t ∧ t.fault = .registry e ∧
    y.fault = .registry e ∧ y.cause = some x.id

theorem leaves_guard (hx : x.id < next) : Leaves next x (x.guard next).1 := by
  rcases x.passes_or with h | ⟨e, hne, he⟩
  · have hsurface : x.fault.surface = x.fault := by
      rcases h with ⟨e, he⟩ | hnone
      · rw [he]
        rfl
      · exact Fault.surface_of_none hnone
    rw [guard_of_passes h]
    exact
      { fault_eq := hsurface.symm
        not_raw := by rw [← hsurface]; exact Fault.isRaw_surface _
        same := fun _ => rfl
        same_iff := iff_of_true rfl h
        interrupt := fun _ => rfl
        other := fun hid => absurd rfl hid }
  · have hid : next ≠ x.id := by omega
    have hpasses : ¬ ((∃ e, x.fault = .registry e) ∨ x.fault.registryError? = none) := by
      rintro (⟨e', he'⟩ | hnone)
      · exact hne e' he'
      · rw [he] at hnone
        cases hnone
    rw [guard_of_some hx hne he]
    exact
      { fault_eq := (Fault.surface_of_some he).symm
        not_raw := rfl
        same := fun hsame => absurd hsame hid
        same_iff := iff_of_false hid hpasses
        interrupt := fun ⟨_, _, hinterrupt⟩ => absurd (.inr (by rw [hinterrupt]; rfl)) hpasses
        other := fun _ => ⟨e, _, by rw [registryError?_of_some hne he], rfl, rfl, rfl⟩ }

/-- A registry error that is made for a fault is the one for itself. -/
theorem registryError?_registryError? {y : Incident} (h : (x.registryError? next).1 = some y)
    (next' : Nat) : y.registryError? next' = (some y, next') := by
  have hy : ∃ e, y.fault = .registry e := by
    rcases x.passes_or with hpasses | ⟨e, hne, he⟩
    · rcases hpasses with ⟨e, he⟩ | hnone
      · rw [registryError?_of_registry he] at h
        cases h
        exact ⟨e, he⟩
      · rw [registryError?_of_none hnone] at h
        cases h
    · rw [registryError?_of_some hne he] at h
      cases h
      exact ⟨e, rfl⟩
  obtain ⟨e, he⟩ := hy
  exact registryError?_of_registry he

end Incident

/-! ## Faults of calls -/

/-- A read fails only for a thing that is not stored. -/
theorem Operation.fault_of_read {clock : Instant} {op : Operation} {run : Store → Except Fault Reply}
    {s : Store} {f : Fault} (hp : op.prepare clock = .ok (.read run)) (hr : run s = .error f) :
    ∃ what, f = .notFound what := by
  have hw : op.isWrite = false := isWrite_of_prepare hp
  cases op with
  | findProject key =>
    cases hp
    rw [projectRead] at hr
    split at hr <;> cases hr
    exact ⟨_, rfl⟩
  | subscriberByTopic topic =>
    cases hp
    rw [topicRead] at hr
    split at hr <;> cases hr
    exact ⟨_, rfl⟩
  | watchersFor account appDomain now =>
    obtain ⟨t, -, hst⟩ := prepare_watchersFor hp
    cases hst
    cases hr
  | projectTopics | subscribersIn project accounts | subscriptionsOf account =>
    cases hp
    cases hr
  | subscriptionsAt account appDomain | accountsOf projectId | accountScopesOf projectId =>
    cases hp
    cases hr
  | subscriberTopics =>
    cases hp
    cases hr
  | _ => cases hw

section Calls

variable {d : Database} {clock : Instant} {i : SessionId} {f : Fault}

/-- A statement of a write fails with a registry error. -/
theorem Database.fault_of_attempt {w : Write} {run : Routine}
    (hw : w.statement clock = .ok (.write run)) (h : (d.attempt i (.write run)).1 = .error f) :
    ∃ e, f = .registry e := by
  rw [attempt] at h
  cases hl : d.lockedFor i with
  | true =>
    rw [hl] at h
    cases h
    exact ⟨_, rfl⟩
  | false =>
    simp only [hl, if_false, Bool.false_eq_true] at h
    cases hr : run (d.view i) with
    | ok p => rw [hr] at h; cases h
    | error g =>
      rw [hr] at h
      cases h
      rcases Write.fault_of_run hw hr with ⟨v, rfl⟩ | rfl
      · exact ⟨_, rfl⟩
      · exact ⟨_, rfl⟩

/-- A call fails with a registry error, or because the registry turns it down. -/
theorem Database.fault_of_call {op : Operation} (h : (d.call clock i op).1 = .error f) :
    (∃ e, f = .registry e) ∨ ∃ x, f = .rejected x := by
  cases hp : op.prepare clock with
  | error g =>
    rw [call_of_error hp] at h
    cases h
    rcases Operation.isInputFault_prepare hp with ⟨x, rfl⟩ | ⟨e, rfl⟩
    · exact .inr ⟨x, rfl⟩
    · exact .inl ⟨_, rfl⟩
  | ok statement =>
    rw [call_of_ok hp] at h
    cases statement with
    | read run =>
      rw [attempt] at h
      cases hr : run (d.view i) with
      | ok reply => rw [hr] at h; cases h
      | error g =>
        rw [hr] at h
        cases h
        obtain ⟨what, rfl⟩ := Operation.fault_of_read hp hr
        exact .inl ⟨_, rfl⟩
    | write run => exact .inl (fault_of_attempt (w := .call op) hp h)

/-- A call in a level of its own session answers what it would answer outside. -/
theorem Database.call_enter (d : Database) (clock : Instant) (i : SessionId) (op : Operation) :
    ((d.enter i).call clock i op).1 = (d.call clock i op).1 := by
  cases hp : op.prepare clock with
  | error f => rw [call_of_error hp, call_of_error hp]
  | ok statement =>
    rw [call_of_ok hp, call_of_ok hp]
    cases statement with
    | read run => simp only [attempt, view_enter]
    | write run =>
      simp only [attempt, view_enter, lockedFor_enter]
      cases d.lockedFor i with
      | true => rfl
      | false => cases run (d.view i) <;> rfl

end Calls

/-! ## Units around a step -/

/-- A step inside `k` units of session `i` that propagate faults. -/
def Step.nested (i : SessionId) (step : Step) : (k : Nat) → Step
  | 0 => step
  | k + 1 => .unit i true none [Step.nested i step k]

/-- The registry after session `i` has entered `k` levels. -/
def Registry.entered (i : SessionId) : (k : Nat) → Registry → Registry
  | 0, r => r
  | k + 1, r => entered i k (r.withDatabase (r.database.enter i))

section Nested

variable {i : SessionId}

theorem Step.fault_runAll_singleton (r : Registry) (step : Step) :
    (Step.runAll r true [step]).2.1 = (step.run r).1.fault? := by
  cases h : (step.run r).1.fault? <;> simp only [runAll, h]

/-- A unit around one step ends with what surfaces of its fault. -/
theorem Step.fault?_around (r : Registry) (step : Step) :
    ((Step.unit i true none [step]).run r).1.fault? =
      (step.run (r.withDatabase (r.database.enter i))).1.fault?.map Fault.surface := by
  have hfault := fault_runAll_singleton (r.withDatabase (r.database.enter i)) step
  rw [← hfault]
  unfold run
  simp [Report.fault?]

/-- However many units there are around a step, its fault surfaces once. -/
theorem Step.fault?_nested (r : Registry) (step : Step) (k : Nat) :
    ((step.nested i (k + 1)).run r).1.fault? =
      (step.run (r.entered i (k + 1))).1.fault?.map Fault.surface := by
  induction k generalizing r with
  | zero => exact fault?_around r step
  | succ k ih =>
    rw [nested, fault?_around, ih, Option.map_map]
    have hsurface : Fault.surface ∘ Fault.surface = Fault.surface :=
      funext fun f => Fault.surface_surface f
    rw [hsurface]
    rfl

theorem Step.report_call_entered (r : Registry) (op : Operation) (k : Nat) :
    ((Step.act i (.call op)).run (r.entered i k)).1 = ((Step.act i (.call op)).run r).1 := by
  induction k generalizing r with
  | zero => rfl
  | succ k ih =>
    rw [Registry.entered, ih]
    exact congrArg Report.ofReply (r.database.call_enter r.clock i op)

/-- A unit ends with a registry error, or with a fault that has none. -/
theorem Step.not_raw_unit {r : Registry} {propagate : Bool} {thrown : Option Fault}
    {steps : List Step} {f : Fault}
    (h : ((Step.unit i propagate thrown steps).run r).1.fault? = some f) : f.isRaw = false := by
  obtain ⟨g, -, rfl⟩ := Option.map_eq_some_iff.1 h
  exact g.isRaw_surface

end Nested

/-! ## Faults in every state -/

/-- What session `i` meets of faults in a state: a call fails with a registry error or because the
registry turns it down, with the same fault inside any number of units; what leaves units around any
step is what surfaces of its fault, and so is what leaves units around a caller's throw. -/
structure Registry.Translates (r : Registry) (i : SessionId) : Prop where
  call : ∀ op f, ((Step.act i (.call op)).run r).1.fault? = some f →
    (∃ e, f = .registry e) ∨ ∃ x, f = .rejected x
  nested_call : ∀ op k, (((Step.act i (.call op)).nested i k).run r).1.fault? =
    ((Step.act i (.call op)).run r).1.fault?
  sweep : ∀ f, (Step.sweep.run r).1.fault? = some f → ∃ e, f = .registry e
  unit : ∀ propagate thrown steps f,
    ((Step.unit i propagate thrown steps).run r).1.fault? = some f → f.isRaw = false
  nested : ∀ step k, ((Step.nested i step (k + 1)).run r).1.fault? =
    (step.run (r.entered i (k + 1))).1.fault?.map Fault.surface
  thrown : ∀ propagate f k,
    ((Step.nested i (.unit i propagate (some f) []) k).run r).1.fault? = some f.surface

theorem Registry.translates (r : Registry) (i : SessionId) : r.Translates i where
  call op f h := Database.fault_of_call (Report.fault?_ofReply.1 h)
  nested_call op k := by
    cases k with
    | zero => rfl
    | succ k =>
      rw [Step.fault?_nested, Step.report_call_entered]
      cases h : ((Step.act i (.call op)).run r).1.fault? with
      | none => rfl
      | some f =>
        rcases Database.fault_of_call (Report.fault?_ofReply.1 h) with ⟨e, rfl⟩ | ⟨x, rfl⟩ <;> rfl
  sweep f h := by
    have he : (r.database.sweep r.clock).1 = .error f := Report.fault?_ofReply.1 h
    rw [Database.sweep_eq] at he
    have hw : Write.sweep.statement r.clock = .ok (.write (Database.sweepTask r.clock)) := rfl
    exact Database.fault_of_attempt hw he
  unit _ _ _ _ := Step.not_raw_unit
  nested step k := Step.fault?_nested r step k
  thrown propagate f k := by
    cases k with
    | zero => rfl
    | succ k =>
      rw [Step.fault?_nested]
      exact congrArg some f.surface_surface

/-- **Faults are translated once.** However many guards surround the place where a fault is thrown,
what leaves them is the object that leaves the innermost: the fault itself, if it is a registry
error or has none, and otherwise a registry error for it, with the fault as its cause. It is never a
fault of the store or of the system. The first class of the fault in the ranking says which registry
error it is. In every state, what a call, a sweep or a unit ends with is translated like this. -/
theorem translation_exact (next : Nat) (x : Incident) (h : x.id < next) (k : Nat) (r : Registry)
    (i : SessionId) :
    (x.guards (k + 1) next).1 = (x.guard next).1 ∧
      Incident.Leaves next x (x.guard next).1 ∧
      (∀ y, (x.registryError? next).1 = some y →
        ∀ next', y.registryError? next' = (some y, next')) ∧
      ((∀ e, x.fault ≠ .registry e) → x.fault.registryError? = x.fault.ranked?) ∧
      r.Translates i := by
  refine ⟨?_, Incident.leaves_guard h, fun y hy => Incident.registryError?_registryError? hy,
    Fault.registryError?_eq, r.translates i⟩
  rw [Incident.guards_succ h]

/-- A violated constraint on a lost connection is a conflict, inside three guards as inside one, and
so is a call that violates a constraint, inside four units. -/
theorem translation_exact_lost_connection :
    let origin : DriverFault.Origin := ⟨"sqlite3.IntegrityError", "duplicate key"⟩
    let x := Incident.thrown 0 (.store (.driver ⟨.integrity, some origin, true⟩))
    let i : SessionId := .caller "a"
    let r : Registry := ⟨⟨0, by decide⟩, .ofStore .empty⟩
    let op : Operation := .addScopeText (some default) (some "x")
    x.id < 1 ∧ (∀ e, x.fault ≠ .registry e) ∧
      (x.guards 3 1).1 = ⟨1, .registry ⟨.conflict, "duplicate key"⟩, some 0⟩ ∧
      x.fault.ranked? = some ⟨.conflict, "duplicate key"⟩ ∧
      (((Step.act i (.call op)).nested i 4).run r).1.fault? =
        some (.registry ⟨.conflict, "FOREIGN KEY constraint failed"⟩) := by
  intro origin x i r op
  obtain ⟨hguards, -, -, hranked, htranslates⟩ := translation_exact 1 x (by decide) 2 r i
  have hne : ∀ e, x.fault ≠ .registry e := nofun
  exact ⟨by decide, hne, hguards, (hranked hne).symm, htranslates.nested_call op 4⟩

end SubscriptionRegistry
