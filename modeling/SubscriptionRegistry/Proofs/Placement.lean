import SubscriptionRegistry.Proofs.Integrity

/-!
# Rows in their places

A write that stores a row by its key finds the row that is stored under the key, makes of it the row
to be stored, or a new one, and puts that in its place. What it makes depends on the row that is
found, on whether the id of a new row is taken, and on whether a project is there; nothing else of
the store counts.

* `place key x rows`: the rows with `x` in the place of the one with its key, or at the end.
* `Store.subscription?`, `Store.watcher?`, `Store.project?`: the row that is found under a key.
* `Subscriber.Entry.row`, `Subscriber.renewed`, `Watcher.Entry.row`, `Project.Upsert.row`: the row
  to be stored, or the constraint that it breaks.
* `Store.Intact.upsertSubscriber_eq`, `Store.Intact.renewSubscriber_eq`,
  `Store.Intact.upsertWatcher_eq`, `Store.Intact.upsertProject_eq`: on an intact store a write puts
  its row in its place.
-/

namespace SubscriptionRegistry

/-! ## One row put in its place -/

section Place

variable {key : α → κ} [DecidableEq κ] {x y : α} {l : List α} {k : κ}

/-- The rows with `x` in the place of the row with its key, or at the end if there is none. -/
def place (key : α → κ) (x : α) (l : List α) : List α :=
  if l.any (key · = key x) then l.map fun y => if key y = key x then x else y else l ++ [x]

theorem place_of_mem (h : y ∈ l) (hk : key y = key x) :
    place key x l = l.map fun y => if key y = key x then x else y :=
  if_pos (List.any_eq_true.2 ⟨y, h, decide_eq_true hk⟩)

theorem place_of_new (h : ∀ y ∈ l, key y ≠ key x) : place key x l = l ++ [x] := by
  refine if_neg fun hany => ?_
  obtain ⟨y, hy, hk⟩ := List.any_eq_true.1 hany
  exact h y hy (of_decide_eq_true hk)

/-- A key is there or not. -/
theorem exists_key_or (key : α → κ) (l : List α) (k : κ) :
    (∃ y ∈ l, key y = k) ∨ ∀ y ∈ l, key y ≠ k := by
  by_cases h : ∃ y ∈ l, key y = k
  · exact .inl h
  · exact .inr fun y hy hk => h ⟨y, hy, hk⟩

theorem key_placed (x y : α) : key (if key y = key x then x else y) = key y := by
  split
  · rename_i hk
    exact hk.symm
  · rfl

theorem mem_place : y ∈ place key x l ↔ y = x ∨ (y ∈ l ∧ key y ≠ key x) := by
  rcases exists_key_or key l (key x) with ⟨z, hz, hk⟩ | hnew
  · rw [place_of_mem hz hk, List.mem_map]
    constructor
    · rintro ⟨w, hw, rfl⟩
      by_cases hwx : key w = key x
      · exact .inl (if_pos hwx)
      · rw [if_neg hwx]
        exact .inr ⟨hw, hwx⟩
    · rintro (rfl | ⟨hy, hne⟩)
      · exact ⟨z, hz, if_pos hk⟩
      · exact ⟨y, hy, if_neg hne⟩
  · rw [place_of_new hnew, List.mem_append, List.mem_singleton]
    constructor
    · rintro (hy | rfl)
      · exact .inr ⟨hy, hnew y hy⟩
      · exact .inl rfl
    · rintro (rfl | ⟨hy, -⟩)
      · exact .inr rfl
      · exact .inl hy

/-- The rows with other keys stay what and where they are. -/
theorem filter_place_ne (key : α → κ) (x : α) (l : List α) :
    (place key x l).filter (key · ≠ key x) = l.filter (key · ≠ key x) := by
  rcases exists_key_or key l (key x) with ⟨z, hz, hk⟩ | hnew
  · have hkeys : ∀ y, decide (key (if key y = key x then x else y) ≠ key x) = decide (key y ≠ key x) :=
      fun y => congrArg (fun k => decide (k ≠ key x)) (key_placed x y)
    rw [place_of_mem hz hk, List.filter_map]
    refine (congrArg (List.map _) (List.filter_congr fun y _ => hkeys y)).trans ?_
    refine (List.map_congr_left fun y hy => ?_).trans (List.map_id _)
    exact if_neg (of_decide_eq_true (List.mem_filter.1 hy).2)
  · rw [place_of_new hnew, List.filter_append, List.filter_cons_of_neg (by simp), List.filter_nil,
      List.append_nil]

/-- Keys stay distinct. -/
theorem Keyed.place (h : Keyed key l) (x : α) : Keyed key (place key x l) := by
  rcases exists_key_or key l (key x) with ⟨z, hz, hk⟩ | hnew
  · rw [place_of_mem hz hk]
    exact h.map (key_placed x)
  · rw [place_of_new hnew]
    exact h.snoc hnew

/-- To put a row in its place again changes nothing. -/
theorem place_place (key : α → κ) (x : α) (l : List α) :
    place key x (place key x l) = place key x l := by
  rw [place_of_mem (mem_place.2 (.inl rfl)) rfl]
  refine (List.map_congr_left fun y hy => ?_).trans (List.map_id _)
  rcases mem_place.1 hy with rfl | ⟨-, hne⟩
  · exact if_pos rfl
  · exact if_neg hne

/-- Rows with different keys may be put in their places in either order. -/
theorem place_comm (hl : Keyed key l) (h : key x ≠ key y) :
    (place key y (place key x l)).Perm (place key x (place key y l)) := by
  refine (List.perm_ext_iff_of_nodup ((hl.place x).place y).nodup ((hl.place y).place x).nodup).2
    fun z => ?_
  simp only [mem_place]
  constructor
  · rintro (rfl | ⟨rfl | ⟨hz, hzx⟩, hzy⟩)
    · exact .inr ⟨.inl rfl, h.symm⟩
    · exact .inl rfl
    · exact .inr ⟨.inr ⟨hz, hzy⟩, hzx⟩
  · rintro (rfl | ⟨rfl | ⟨hz, hzy⟩, hzx⟩)
    · exact .inr ⟨.inl rfl, h⟩
    · exact .inl rfl
    · exact .inr ⟨.inr ⟨hz, hzx⟩, hzy⟩

theorem perm_place {m : List α} (hl : Keyed key l) (hm : Keyed key m) (h : l.Perm m) (x : α) :
    (place key x l).Perm (place key x m) := by
  refine (List.perm_ext_iff_of_nodup (hl.place x).nodup (hm.place x).nodup).2 fun z => ?_
  rw [mem_place, mem_place, h.mem_iff]

/-! ### Rows that are found by their keys -/

/-- The row that is found under a key is the one that has it. -/
theorem Keyed.find?_eq_some (h : Keyed key l) :
    l.find? (key · = k) = some x ↔ x ∈ l ∧ key x = k := by
  constructor
  · intro hx
    exact ⟨List.mem_of_find?_eq_some hx, by simpa using List.find?_some hx⟩
  · rintro ⟨hx, rfl⟩
    cases hy : l.find? (key · = key x) with
    | none => exact absurd (decide_eq_true rfl) (List.find?_eq_none.1 hy x hx)
    | some y =>
      have hky : key y = key x := by simpa using List.find?_some hy
      rw [h.eq (List.mem_of_find?_eq_some hy) hx hky]

theorem find?_key_eq_none : l.find? (key · = k) = none ↔ ∀ y ∈ l, key y ≠ k := by
  rw [List.find?_eq_none]
  exact forall₂_congr fun y _ => not_congr decide_eq_true_iff

/-- The order of the rows does not matter to what is found. -/
theorem Keyed.find?_perm {m : List α} (hl : Keyed key l) (hm : Keyed key m) (h : l.Perm m) (k : κ) :
    l.find? (key · = k) = m.find? (key · = k) := by
  refine Option.ext fun x => ?_
  rw [hl.find?_eq_some, hm.find?_eq_some, h.mem_iff]

theorem Keyed.find?_place (h : Keyed key l) (x : α) (k : κ) :
    (SubscriptionRegistry.place key x l).find? (key · = k) =
      if key x = k then some x else l.find? (key · = k) := by
  refine Option.ext fun y => ?_
  rw [(h.place x).find?_eq_some, mem_place]
  by_cases hk : key x = k
  · rw [if_pos hk, Option.some.injEq]
    constructor
    · rintro ⟨rfl | ⟨-, hne⟩, rfl⟩
      · rfl
      · exact absurd hk.symm hne
    · rintro rfl
      exact ⟨.inl rfl, hk⟩
  · rw [if_neg hk, h.find?_eq_some]
    constructor
    · rintro ⟨rfl | ⟨hy, -⟩, rfl⟩
      · exact absurd rfl hk
      · exact ⟨hy, rfl⟩
    · rintro ⟨hy, rfl⟩
      exact ⟨.inr ⟨hy, Ne.symm hk⟩, rfl⟩

/-- The ids that are there stay there, if a row keeps its id when it is replaced. -/
theorem exists_id_place {id : α → Uuid} {u : Uuid} (hkeep : ∀ y ∈ l, key y = key x → id y = id x)
    (hu : id x = u → ∃ y ∈ l, id y = u) :
    (∃ y ∈ place key x l, id y = u) ↔ ∃ y ∈ l, id y = u := by
  constructor
  · rintro ⟨y, hy, hid⟩
    rcases mem_place.1 hy with rfl | ⟨hy, -⟩
    · exact hu hid
    · exact ⟨y, hy, hid⟩
  · rintro ⟨y, hy, hid⟩
    by_cases hk : key y = key x
    · exact ⟨x, mem_place.2 (.inl rfl), (hkeep y hy hk).symm.trans hid⟩
    · exact ⟨y, mem_place.2 (.inr ⟨hy, hk⟩), hid⟩

end Place

/-! ## Rows that are found -/

/-- The project and the account of a subscription, as a request names them. -/
def Subscriber.key (x : Subscriber) : Option Uuid × Option String := (some x.project, some x.account)

/-- The did key of a watcher, as a request names it. -/
def Watcher.key (w : Watcher) : Option String := some w.didKey

/-- The external id of a project, as a request names it. -/
def Project.key (p : Project) : Option String := some p.projectId

theorem Subscriber.key_eq_iff {x : Subscriber} {project : Uuid} {account : String} :
    x.key = (some project, some account) ↔ x.isOf project account = true := by
  rw [isOf_iff, key, Prod.mk.injEq, Option.some.injEq, Option.some.injEq]

namespace Store

variable {s : Store}

/-- The row that is stored for a subscription. -/
def subscription? (s : Store) (key : Option Uuid × Option String) : Option Subscriber :=
  s.subscribers.find? (·.key = key)

/-- The row that is stored under a did key. -/
def watcher? (s : Store) (key : Option String) : Option Watcher :=
  s.watchers.find? (·.key = key)

/-- The row that is stored under the external id of a project. -/
def project? (s : Store) (key : Option String) : Option Project :=
  s.projects.find? (·.key = key)

/-- The store with a row of the subscribers in its place. -/
def placeSubscriber (s : Store) (x : Subscriber) : Store :=
  { s with subscribers := place Subscriber.key x s.subscribers }

/-- The store with a row of the watchers in its place. -/
def placeWatcher (s : Store) (w : Watcher) : Store :=
  { s with watchers := place Watcher.key w s.watchers }

/-- The store with a row of the projects in its place. -/
def placeProject (s : Store) (p : Project) : Store :=
  { s with projects := place Project.key p s.projects }

theorem find?_isOf (s : Store) (project : Uuid) (account : String) :
    s.subscribers.find? (·.isOf project account) =
      s.subscription? (some project, some account) := by
  unfold subscription?
  congr 1
  funext x
  rw [Bool.eq_iff_iff, decide_eq_true_iff, Subscriber.key_eq_iff]

namespace Intact

variable (h : s.Intact)
include h

theorem keyed_subscribers : Keyed Subscriber.key s.subscribers := by
  refine List.pairwise_map.2 ((List.pairwise_map.1 h.subscribers_account).imp fun {x y} hne heq => ?_)
  obtain ⟨hproject, haccount⟩ := Prod.mk.inj heq
  exact hne (Prod.ext (Option.some.inj hproject) (Option.some.inj haccount))

theorem keyed_watchers : Keyed Watcher.key s.watchers :=
  List.pairwise_map.2 ((List.pairwise_map.1 h.watchers_didKey).imp fun hne heq =>
    hne (Option.some.inj heq))

theorem keyed_projects : Keyed Project.key s.projects :=
  List.pairwise_map.2 ((List.pairwise_map.1 h.projects_projectId).imp fun hne heq =>
    hne (Option.some.inj heq))

end Intact

end Store

/-- A row that is made of the one with its key is put in its place where the rows with its key are
made anew. -/
theorem Keyed.map_eq_place {key : α → κ} [DecidableEq κ] {l : List α} {x y : α} {f : α → α}
    (h : Keyed key l) (hx : x ∈ l) (hk : key x = key y) (hf : f x = y)
    (hother : ∀ z ∈ l, key z ≠ key y → f z = z) : l.map f = SubscriptionRegistry.place key y l := by
  rw [place_of_mem hx hk]
  refine List.map_congr_left fun z hz => ?_
  by_cases hzy : key z = key y
  · rw [if_pos hzy, h.eq hz hx (hzy.trans hk.symm), hf]
  · rw [if_neg hzy, hother z hz hzy]

/-! ## Subscriptions -/

/-- The row that a request for a subscription is to store: the one that is `stored`, with key, topic
and term of the request, or a new one. A new one asks that its id is not `taken` and that its
project is `known`. -/
def Subscriber.Entry.row (e : Subscriber.Entry) (stored : Option Subscriber) (taken known : Bool) :
    Except Violation Subscriber := do
  let project ← required .subscriber "project" e.project
  let account ← required .subscriber "account" e.account
  let topic ← required .subscriber "topic" e.topic
  match stored with
  | some x => .ok { x with updatedAt := e.now, symKey := e.symKey, topic, expiry := e.expiry }
  | none =>
    if taken then .error (.unique .subscriber "id")
    else if known then .ok (Store.newSubscriber e project account topic)
    else .error .foreignKey

/-- The row to be stored is the one that was found, rewritten, or a new one. -/
theorem Subscriber.Entry.row_cases {e : Subscriber.Entry} {stored : Option Subscriber}
    {taken known : Bool} {x : Subscriber} (h : e.row stored taken known = .ok x) :
    ∃ project account topic, e.project = some project ∧ e.account = some account ∧
      e.topic = some topic ∧
        ((∃ y, stored = some y ∧
            x = { y with updatedAt := e.now, symKey := e.symKey, topic, expiry := e.expiry }) ∨
          (stored = none ∧ taken = false ∧ known = true ∧
            x = Store.newSubscriber e project account topic)) := by
  obtain ⟨project, hp, h⟩ := ok_of_bind h
  obtain ⟨account, ha, h⟩ := ok_of_bind h
  obtain ⟨topic, ht, h⟩ := ok_of_bind h
  refine ⟨project, account, topic, required_eq_ok hp, required_eq_ok ha, required_eq_ok ht, ?_⟩
  cases stored with
  | some y => exact .inl ⟨y, rfl, (Except.ok.inj h).symm⟩
  | none => cases taken <;> cases known <;> cases h; exact .inr ⟨rfl, rfl, rfl, rfl⟩

/-- The row to be stored has the id of the one that was found, or the new id, which is free. -/
theorem Subscriber.Entry.id_row {e : Subscriber.Entry} {stored : Option Subscriber}
    {taken known : Bool} {x : Subscriber} (h : e.row stored taken known = .ok x) :
    (∀ y, stored = some y → y.id = x.id) ∧ (stored = none → x.id = e.newId ∧ taken = false) := by
  obtain ⟨project, account, topic, -, -, -, ⟨y, rfl, rfl⟩ | ⟨rfl, hfree, -, rfl⟩⟩ := row_cases h
  · exact ⟨fun z hz => by cases hz; rfl, nofun⟩
  · exact ⟨nofun, fun _ => ⟨rfl, hfree⟩⟩

/-- The row of a subscription that has been extended. -/
def Subscriber.renewed (x : Subscriber) (now expiry : Instant) : Subscriber :=
  { x with updatedAt := now, expiry }

namespace Store

variable {s s' : Store}

/-- Whether the id belongs to a subscriber that is stored. -/
def takesSubscriber (s : Store) (id : Uuid) : Bool :=
  s.subscribers.any (·.id = id)

/-- To rewrite the row of a subscription is to put what it becomes in its place. -/
theorem Intact.map_isOf_eq_place (h : s.Intact) {x : Subscriber} {project : Uuid} {account : String}
    {f : Subscriber → Subscriber} (hx : s.subscription? (some project, some account) = some x)
    (hf : (f x).key = x.key) :
    (s.subscribers.map fun y => if y.isOf project account then f y else y) =
      place Subscriber.key (f x) s.subscribers := by
  obtain ⟨hmem, hkey⟩ := h.keyed_subscribers.find?_eq_some.1 hx
  refine h.keyed_subscribers.map_eq_place hmem hf.symm (if_pos (Subscriber.key_eq_iff.1 hkey)) ?_
  intro z _ hz
  exact if_neg fun hof => hz ((Subscriber.key_eq_iff.2 hof).trans (hf.trans hkey).symm)

theorem Intact.writeSubscriber_eq (h : s.Intact) (e : Subscriber.Entry) :
    s.writeSubscriber e =
      (e.row (s.subscription? (e.project, e.account)) (s.takesSubscriber e.newId)
        (s.knowsProject e.project)).map fun x => (s.placeSubscriber x, x.id) := by
  unfold Store.writeSubscriber Subscriber.Entry.row
  cases hp : e.project with
  | none => rfl
  | some project =>
    cases ha : e.account with
    | none => rfl
    | some account =>
      cases ht : e.topic with
      | none => rfl
      | some topic =>
        simp only [required, bind, Except.bind]
        rw [find?_isOf]
        cases hx : s.subscription? (some project, some account) with
        | some x =>
          refine congrArg (fun l => Except.ok (({ s with subscribers := l } : Store), x.id)) ?_
          exact h.map_isOf_eq_place hx rfl
        | none =>
          have hnew : ∀ y ∈ s.subscribers, y.key ≠ (some project, some account) :=
            find?_key_eq_none.1 hx
          unfold takesSubscriber knowsProject
          by_cases hid : s.subscribers.any (·.id = e.newId) = true
          · simp only [hid, if_true]
            rfl
          · by_cases hproject : s.projects.any (·.id = project) = true
            · simp only [hid, hproject, if_true, if_false, Bool.false_eq_true]
              have hplace : place Subscriber.key (newSubscriber e project account topic)
                  s.subscribers = s.subscribers ++ [newSubscriber e project account topic] :=
                place_of_new hnew
              simp only [Except.map, placeSubscriber, hplace]
              rfl
            · simp only [hid, hproject, if_false, Bool.false_eq_true]
              rfl

/-- The row to be stored has the key of the request. -/
theorem Intact.key_subscriber (h : s.Intact) {e : Subscriber.Entry} {taken known : Bool}
    {x : Subscriber} (hx : e.row (s.subscription? (e.project, e.account)) taken known = .ok x) :
    x.key = (e.project, e.account) := by
  obtain ⟨project, account, topic, hp, ha, -, ⟨y, hy, rfl⟩ | ⟨-, -, -, rfl⟩⟩ :=
    Subscriber.Entry.row_cases hx
  · exact (h.keyed_subscribers.find?_eq_some.1 hy).2
  · exact Prod.ext hp.symm ha.symm

/-- A request puts the row of its subscription in its place and writes its scope. -/
theorem Intact.upsertSubscriber_eq (h : s.Intact) (e : Subscriber.Entry) (scope : Scope) :
    s.upsertSubscriber e scope =
      (e.row (s.subscription? (e.project, e.account)) (s.takesSubscriber e.newId)
        (s.knowsProject e.project)).map fun x => ((s.placeSubscriber x).setScope x.id scope, x.id) := by
  unfold Store.upsertSubscriber
  rw [h.writeSubscriber_eq]
  cases e.row (s.subscription? (e.project, e.account)) (s.takesSubscriber e.newId)
    (s.knowsProject e.project) <;> rfl

/-- An extension puts the row that it finds, extended, in its place. -/
theorem Intact.extendSubscription_eq (h : s.Intact) (project : Option Uuid) (account : Option String)
    (now expiry : Instant) :
    s.extendSubscription project account now expiry =
      (s.subscription? (project, account)).map fun x =>
        (s.placeSubscriber (x.renewed now expiry), x.id) := by
  have hnone : ∀ {key}, (∀ x : Subscriber, x.key ≠ key) → s.subscription? key = none := fun hkey =>
    find?_key_eq_none.2 fun x _ => hkey x
  cases project with
  | none =>
    rw [hnone fun x hx => by cases congrArg Prod.fst hx]
    rfl
  | some p =>
    cases account with
    | none =>
      rw [hnone fun x hx => by cases congrArg Prod.snd hx]
      rfl
    | some a =>
      unfold Store.extendSubscription
      simp only [Option.bind_eq_bind, Option.bind_some]
      rw [find?_isOf]
      cases hx : s.subscription? (some p, some a) with
      | none => rfl
      | some x =>
        refine congrArg (fun l => some (({ s with subscribers := l } : Store), x.id)) ?_
        exact h.map_isOf_eq_place hx rfl

/-- A row that takes the place of the one with its key and its id is found by that id. -/
theorem Intact.subscriber?_placeSubscriber (h : s.Intact) {x y : Subscriber} (hx : x ∈ s.subscribers)
    (hkey : x.key = y.key) (hid : x.id = y.id) : (s.placeSubscriber y).subscriber? y.id = some y := by
  have hids : Keyed Subscriber.id (place Subscriber.key y s.subscribers) := by
    rw [place_of_mem hx hkey, Keyed, List.map_map, List.map_congr_left fun z hz => ?_]
    · exact h.subscribers_id
    · change (if z.key = y.key then y else z).id = z.id
      split
      · rename_i hzy
        rw [h.keyed_subscribers.eq hz hx (hzy.trans hkey.symm), hid]
      · rfl
  exact hids.find?_eq_some.2 ⟨mem_place.2 (.inl rfl), rfl⟩

/-- A renewal puts the row that it finds, extended, in its place and writes its scope. -/
theorem Intact.renewSubscriber_eq (h : s.Intact) (project : Option Uuid) (account : Option String)
    (scope : Scope) (now expiry : Instant) :
    s.renewSubscriber project account scope now expiry =
      (s.subscription? (project, account)).map fun x =>
        ((s.placeSubscriber (x.renewed now expiry)).setScope x.id scope, x.renewed now expiry) := by
  unfold Store.renewSubscriber
  rw [h.extendSubscription_eq]
  cases hx : s.subscription? (project, account) with
  | none => rfl
  | some x =>
    obtain ⟨hmem, -⟩ := h.keyed_subscribers.find?_eq_some.1 hx
    have hread : (s.placeSubscriber (x.renewed now expiry)).subscriber? x.id =
        some (x.renewed now expiry) := h.subscriber?_placeSubscriber hmem rfl rfl
    simp only [Option.map_some, Option.bind_eq_bind, Option.bind_some, hread]

end Store

/-! ## Watchers -/

/-- The row that a request for a watcher is to store: the one that is `stored`, with what the
request gives, or a new one. A new one asks that its id is not `taken`, and both that a project is
`known`. -/
def Watcher.Entry.row (e : Watcher.Entry) (stored : Option Watcher) (taken known : Bool) :
    Except Violation Watcher := do
  let account ← required .watcher "account" e.account
  let didKey ← required .watcher "did_key" e.didKey
  let symKey ← required .watcher "sym_key" e.symKey
  let expiry ← required .watcher "expiry" e.expiry
  match stored with
  | some w =>
    if known then
      .ok { w with updatedAt := e.now, account, project := e.project, symKey, expiry }
    else .error .foreignKey
  | none =>
    if taken then .error (.unique .watcher "id")
    else if known then .ok (Store.newWatcher e account didKey symKey expiry)
    else .error .foreignKey

/-- The row to be stored is the one that was found, rewritten, or a new one. -/
theorem Watcher.Entry.row_cases {e : Watcher.Entry} {stored : Option Watcher} {taken known : Bool}
    {w : Watcher} (h : e.row stored taken known = .ok w) :
    ∃ account didKey symKey expiry, e.account = some account ∧ e.didKey = some didKey ∧
      e.symKey = some symKey ∧ e.expiry = some expiry ∧ known = true ∧
        ((∃ v, stored = some v ∧
            w = { v with updatedAt := e.now, account, project := e.project, symKey, expiry }) ∨
          (stored = none ∧ taken = false ∧
            w = Store.newWatcher e account didKey symKey expiry)) := by
  obtain ⟨account, ha, h⟩ := ok_of_bind h
  obtain ⟨didKey, hd, h⟩ := ok_of_bind h
  obtain ⟨symKey, hk, h⟩ := ok_of_bind h
  obtain ⟨expiry, he, h⟩ := ok_of_bind h
  refine ⟨account, didKey, symKey, expiry, required_eq_ok ha, required_eq_ok hd, required_eq_ok hk,
    required_eq_ok he, ?_⟩
  cases stored with
  | some v => cases known <;> cases h; exact ⟨rfl, .inl ⟨v, rfl, rfl⟩⟩
  | none => cases taken <;> cases known <;> cases h; exact ⟨rfl, .inr ⟨rfl, rfl, rfl⟩⟩

/-- The row to be stored has the id of the one that was found, or the new id, which is free. -/
theorem Watcher.Entry.id_row {e : Watcher.Entry} {stored : Option Watcher} {taken known : Bool}
    {w : Watcher} (h : e.row stored taken known = .ok w) :
    (∀ v, stored = some v → v.id = w.id) ∧ (stored = none → w.id = e.newId ∧ taken = false) := by
  obtain ⟨account, didKey, symKey, expiry, -, -, -, -, -, ⟨v, rfl, rfl⟩ | ⟨rfl, hfree, rfl⟩⟩ :=
    row_cases h
  · exact ⟨fun u hu => by cases hu; rfl, nofun⟩
  · exact ⟨nofun, fun _ => ⟨rfl, hfree⟩⟩

namespace Store

variable {s s' : Store}

/-- Whether the id belongs to a watcher that is stored. -/
def takesWatcher (s : Store) (id : Uuid) : Bool :=
  s.watchers.any (·.id = id)

theorem any_didKey (s : Store) (didKey : String) :
    s.watchers.any (·.didKey = didKey) = (s.watcher? (some didKey)).isSome := by
  unfold watcher? Watcher.key
  rw [Bool.eq_iff_iff, List.any_eq_true, List.find?_isSome]
  simp only [Option.some.injEq]

/-- The row to be stored has the key of the request. -/
theorem Intact.key_watcher (h : s.Intact) {e : Watcher.Entry} {taken known : Bool} {w : Watcher}
    (hw : e.row (s.watcher? e.didKey) taken known = .ok w) : w.key = e.didKey := by
  obtain ⟨account, didKey, symKey, expiry, -, hd, -, -, -, ⟨v, hv, rfl⟩ | ⟨-, -, rfl⟩⟩ :=
    Watcher.Entry.row_cases hw
  · exact (h.keyed_watchers.find?_eq_some.1 hv).2
  · exact hd.symm

/-- A request puts the row of its watcher in its place. -/
theorem Intact.upsertWatcher_eq (h : s.Intact) (e : Watcher.Entry) :
    s.upsertWatcher e =
      (e.row (s.watcher? e.didKey) (s.takesWatcher e.newId)
        (s.knowsProject e.project)).map s.placeWatcher := by
  unfold Store.upsertWatcher Watcher.Entry.row
  cases ha : e.account with
  | none => rfl
  | some account =>
    cases hd : e.didKey with
    | none => rfl
    | some didKey =>
      cases hk : e.symKey with
      | none => rfl
      | some symKey =>
        cases he : e.expiry with
        | none => rfl
        | some expiry =>
          simp only [required, bind, Except.bind]
          rw [any_didKey]
          cases hw : s.watcher? (some didKey) with
          | some w =>
            obtain ⟨hmem, hkey⟩ := h.keyed_watchers.find?_eq_some.1 hw
            have hdid : w.didKey = didKey := Option.some.inj hkey
            simp only [Option.isSome_some, if_true]
            split
            · refine congrArg (fun l => Except.ok ({ s with watchers := l } : Store)) ?_
              refine h.keyed_watchers.map_eq_place hmem rfl (if_pos hdid) ?_
              intro z _ hz
              exact if_neg fun hzd => hz (congrArg some (hzd.trans hdid.symm))
            · rfl
          | none =>
            have hnew : ∀ v ∈ s.watchers, v.key ≠ some didKey := find?_key_eq_none.1 hw
            have hplace : place Watcher.key (newWatcher e account didKey symKey expiry) s.watchers =
                s.watchers ++ [newWatcher e account didKey symKey expiry] := place_of_new hnew
            simp only [Option.isSome_none, if_false, Bool.false_eq_true]
            unfold takesWatcher
            split
            · rfl
            · split
              · simp only [Except.map, placeWatcher, hplace]
                rfl
              · rfl

end Store

/-! ## Projects -/

/-- The row that a request for a project is to store: the one that is `stored`, moved to the app
domain of the request, or a new one. Both ask that the app domain is not that of another project (a
`clash`), a new one that its id is not `taken`. -/
def Project.Upsert.row (r : Project.Upsert) (now : Instant) (stored : Option Project)
    (clash taken : Bool) : Except Violation Project := do
  let projectId ← required .project "project_id" r.projectId
  let appDomain ← required .project "app_domain" r.appDomain
  let topic ← required .project "topic" r.topic
  if clash then .error (.unique .project "app_domain")
  else
    match stored with
    | some p => .ok { p with appDomain, updatedAt := now }
    | none =>
      if taken then .error (.unique .project "id")
      else .ok (Store.newProject now r projectId appDomain topic)

/-- The row to be stored is the one that was found, moved, or a new one. -/
theorem Project.Upsert.row_cases {r : Project.Upsert} {now : Instant} {stored : Option Project}
    {clash taken : Bool} {p : Project} (h : r.row now stored clash taken = .ok p) :
    ∃ projectId appDomain topic, r.projectId = some projectId ∧ r.appDomain = some appDomain ∧
      r.topic = some topic ∧ clash = false ∧
        ((∃ q, stored = some q ∧ p = { q with appDomain, updatedAt := now }) ∨
          (stored = none ∧ taken = false ∧
            p = Store.newProject now r projectId appDomain topic)) := by
  obtain ⟨projectId, hi, h⟩ := ok_of_bind h
  obtain ⟨appDomain, ha, h⟩ := ok_of_bind h
  obtain ⟨topic, ht, h⟩ := ok_of_bind h
  refine ⟨projectId, appDomain, topic, required_eq_ok hi, required_eq_ok ha, required_eq_ok ht, ?_⟩
  cases clash with
  | true => cases h
  | false =>
    cases stored with
    | some q => exact ⟨rfl, .inl ⟨q, rfl, (Except.ok.inj h).symm⟩⟩
    | none => cases taken <;> cases h; exact ⟨rfl, .inr ⟨rfl, rfl, rfl⟩⟩

namespace Store

variable {s s' : Store}

/-- Whether the id belongs to a project that is stored. -/
def takesProject (s : Store) (id : Uuid) : Bool :=
  s.projects.any (·.id = id)

/-- Whether the app domain belongs to a project with another external id. -/
def clashes (s : Store) (projectId appDomain : Option String) : Bool :=
  s.projects.any fun p => p.key ≠ projectId ∧ some p.appDomain = appDomain

/-- The row to be stored has the key of the request. -/
theorem Intact.key_project (h : s.Intact) {r : Project.Upsert} {now : Instant} {clash taken : Bool}
    {p : Project} (hp : r.row now (s.project? r.projectId) clash taken = .ok p) :
    p.key = r.projectId := by
  obtain ⟨projectId, appDomain, topic, hi, -, -, -, ⟨q, hq, rfl⟩ | ⟨-, -, rfl⟩⟩ :=
    Project.Upsert.row_cases hp
  · exact (h.keyed_projects.find?_eq_some.1 hq).2
  · exact hi.symm

/-- A request puts the row of its project in its place. -/
theorem Intact.upsertProject_eq (h : s.Intact) (now : Instant) (r : Project.Upsert) :
    s.upsertProject now r =
      (r.row now (s.project? r.projectId) (s.clashes r.projectId r.appDomain)
        (s.takesProject r.newId)).map fun p => (s.placeProject p, p.publicKeys) := by
  unfold Store.upsertProject Project.Upsert.row
  cases hi : r.projectId with
  | none => rfl
  | some projectId =>
    cases ha : r.appDomain with
    | none => rfl
    | some appDomain =>
      cases ht : r.topic with
      | none => rfl
      | some topic =>
        have hclash : (s.projects.any fun p => p.projectId ≠ projectId ∧ p.appDomain = appDomain) =
            s.clashes (some projectId) (some appDomain) := by
          unfold clashes Project.key
          simp only [ne_eq, Option.some.injEq]
        have hfind : s.projects.find? (·.projectId = projectId) = s.project? (some projectId) := by
          unfold project? Project.key
          simp only [Option.some.injEq]
        simp only [required, bind, Except.bind]
        rw [hclash, hfind]
        split
        · rfl
        · cases hp : s.project? (some projectId) with
          | some p =>
            obtain ⟨hmem, hkey⟩ := h.keyed_projects.find?_eq_some.1 hp
            have hpid : p.projectId = projectId := Option.some.inj hkey
            refine congrArg (fun l => Except.ok (({ s with projects := l } : Store), p.publicKeys)) ?_
            refine h.keyed_projects.map_eq_place hmem rfl (if_pos hpid) ?_
            intro q _ hq
            exact if_neg fun hqp => hq (congrArg some (hqp.trans hpid.symm))
          | none =>
            have hnew : ∀ q ∈ s.projects, q.key ≠ some projectId := find?_key_eq_none.1 hp
            have hplace : place Project.key (newProject now r projectId appDomain topic) s.projects =
                s.projects ++ [newProject now r projectId appDomain topic] := place_of_new hnew
            unfold takesProject
            dsimp only
            split
            · rfl
            · simp only [Except.map, placeProject, hplace]

end Store

end SubscriptionRegistry
