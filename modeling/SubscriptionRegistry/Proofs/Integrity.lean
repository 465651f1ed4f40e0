import SubscriptionRegistry.Proofs.Serial

/-!
# Integrity of the store

Every store that a session sees in a run from the empty store keeps the constraints of the tables.

* `Keyed key rows`: the rows of a table have keys of their own.
* `Store.Intact`: the unique keys of the four tables, and references that lead to stored rows.
* `Write.Effect.intact`: every write keeps them.
* `Script.intact_stateAt`: they hold of the committed store and of every view, at every point of a
  run.
-/

namespace SubscriptionRegistry

/-! ## Keys of rows -/

section Keys

variable {key : α → β} {l : List α}

/-- The rows have pairwise distinct keys. -/
def Keyed (key : α → β) (l : List α) : Prop :=
  (l.map key).Nodup

theorem Keyed.nil : Keyed key ([] : List α) := List.nodup_nil

theorem Keyed.filter (h : Keyed key l) (p : α → Bool) : Keyed key (l.filter p) :=
  h.sublist (List.filter_sublist.map key)

/-- No row is there twice. -/
theorem Keyed.nodup (h : Keyed key l) : l.Nodup :=
  (List.pairwise_map.1 h).imp fun hne heq => hne (congrArg key heq)

theorem Keyed.snoc {x : α} (h : Keyed key l) (hx : ∀ y ∈ l, key y ≠ key x) :
    Keyed key (l ++ [x]) := by
  rw [Keyed, List.map_append, List.nodup_append]
  refine ⟨h, by simp, ?_⟩
  rintro _ ha _ hb rfl
  obtain ⟨y, hy, hyx⟩ := List.mem_map.1 ha
  exact hx y hy (hyx.trans (List.mem_singleton.1 hb))

theorem map_key_map {f : α → α} (hf : ∀ y, key (f y) = key y) : (l.map f).map key = l.map key := by
  rw [List.map_map]
  exact List.map_congr_left fun y _ => hf y

/-- Rows that keep their keys keep them distinct. -/
theorem Keyed.map {f : α → α} (h : Keyed key l) (hf : ∀ y, key (f y) = key y) :
    Keyed key (l.map f) := by
  rw [Keyed, map_key_map hf]
  exact h

/-- Rows with the same key are the same row. -/
theorem Keyed.eq {x y : α} (h : Keyed key l) (hx : x ∈ l) (hy : y ∈ l) (hk : key x = key y) :
    x = y := by
  induction l with
  | nil => cases hx
  | cons z l ih =>
    obtain ⟨hz, hl⟩ := List.nodup_cons.1 h
    rcases List.mem_cons.1 hx with rfl | hxl
    · rcases List.mem_cons.1 hy with rfl | hyl
      · rfl
      · exact absurd (hk ▸ List.mem_map_of_mem hyl) hz
    · rcases List.mem_cons.1 hy with rfl | hyl
      · exact absurd (hk ▸ List.mem_map_of_mem hxl) hz
      · exact ih hl hxl hyl

/-- No two rows are found under a key. -/
theorem Keyed.filter_eq [DecidableEq β] {x : α} (h : Keyed key l) (hx : x ∈ l) :
    l.filter (key · = key x) = [x] := by
  induction l with
  | nil => cases hx
  | cons y l ih =>
    obtain ⟨hy, hl⟩ := List.nodup_cons.1 h
    rcases List.mem_cons.1 hx with rfl | hxl
    · rw [List.filter_cons_of_pos (by simp), List.filter_eq_nil_iff.2 fun z hz => ?_]
      rw [decide_eq_true_eq]
      exact fun hzx => hy (hzx ▸ List.mem_map_of_mem hz)
    · have hyx : key y ≠ key x := fun hyx => hy (hyx ▸ List.mem_map_of_mem hxl)
      rw [List.filter_cons_of_neg (by simpa using hyx), ih hl hxl]

theorem Keyed.length_filter_le [DecidableEq β] (h : Keyed key l) (k : β) :
    (l.filter (key · = k)).length ≤ 1 := by
  cases hf : l.filter (key · = k) with
  | nil => exact Nat.zero_le 1
  | cons x rest =>
    have hx : x ∈ l.filter (key · = k) := hf ▸ List.mem_cons_self
    obtain ⟨hxl, hk⟩ := List.mem_filter.1 hx
    rw [← hf, ← of_decide_eq_true hk, h.filter_eq hxl]
    exact Nat.le_refl 1

/-- The one row with the name `a` may take a key that no other row has. -/
theorem Keyed.rename {name : α → γ} {a : γ} {f : α → α} (h : Keyed key l) (hn : Keyed name l)
    (hf : ∀ y, name y ≠ a → f y = y)
    (hnew : ∀ x ∈ l, name x = a → ∀ y ∈ l, name y ≠ a → key y ≠ key (f x)) :
    Keyed key (l.map f) := by
  have hpair : l.Pairwise fun x y => key x ≠ key y := List.pairwise_map.1 h
  have hname : l.Pairwise fun x y => name x ≠ name y := List.pairwise_map.1 hn
  rw [Keyed, List.map_map, List.Nodup, List.pairwise_map]
  refine (hpair.and hname).imp_of_mem fun {x y} hx hy hxy => ?_
  by_cases hxa : name x = a
  · have hya : name y ≠ a := fun hya => hxy.2 (hxa.trans hya.symm)
    rw [Function.comp_apply, Function.comp_apply, hf y hya]
    exact (hnew x hx hxa y hy hya).symm
  · rw [Function.comp_apply, Function.comp_apply, hf x hxa]
    by_cases hya : name y = a
    · exact hnew y hy hya x hx hxa
    · rw [hf y hya]
      exact hxy.1

end Keys

/-! ## Constraints of the tables -/

/-- The constraints of the tables: unique keys, and references to rows that are stored. -/
structure Store.Intact (s : Store) : Prop where
  projects_id : Keyed Project.id s.projects
  projects_projectId : Keyed Project.projectId s.projects
  projects_appDomain : Keyed Project.appDomain s.projects
  subscribers_id : Keyed Subscriber.id s.subscribers
  subscribers_account : Keyed (fun x => (x.project, x.account)) s.subscribers
  subscribers_project : ∀ x ∈ s.subscribers, ∃ p ∈ s.projects, p.id = x.project
  scopes_subscriber : ∀ e ∈ s.scopes, ∃ x ∈ s.subscribers, x.id = e.subscriber
  watchers_id : Keyed Watcher.id s.watchers
  watchers_didKey : Keyed Watcher.didKey s.watchers
  watchers_project : ∀ w ∈ s.watchers, ∀ id, w.project = some id → ∃ p ∈ s.projects, p.id = id

namespace Store.Intact

variable {s s' : Store}

theorem empty : Store.empty.Intact where
  projects_id := .nil
  projects_projectId := .nil
  projects_appDomain := .nil
  subscribers_id := .nil
  subscribers_account := .nil
  subscribers_project _ h := by cases h
  scopes_subscriber _ h := by cases h
  watchers_id := .nil
  watchers_didKey := .nil
  watchers_project _ h := by cases h

/-- A row that is stored is still there, with its id, after rows have been rewritten. -/
theorem exists_id_map {id : α → Uuid} {l : List α} {f : α → α} {u : Uuid}
    (h : ∃ x ∈ l, id x = u) (hf : ∀ y, id (f y) = id y) : ∃ x ∈ l.map f, id x = u := by
  obtain ⟨x, hx, rfl⟩ := h
  exact ⟨f x, List.mem_map_of_mem hx, hf x⟩

theorem exists_id_append {id : α → Uuid} {l : List α} {u : Uuid} (h : ∃ x ∈ l, id x = u)
    (m : List α) : ∃ x ∈ l ++ m, id x = u := by
  obtain ⟨x, hx, rfl⟩ := h
  exact ⟨x, List.mem_append_left m hx, rfl⟩

/-- Of the projects only the app domain of the one that is named changes. -/
theorem moveProject (h : s.Intact) {projectId appDomain : String} (now : Instant)
    (hd : ∀ p ∈ s.projects, p.projectId ≠ projectId → p.appDomain ≠ appDomain) :
    Intact { s with projects := Store.moveProject now projectId appDomain s.projects } := by
  have hid : ∀ p : Project, (if p.projectId = projectId then
      { p with appDomain, updatedAt := now } else p).id = p.id := fun p => by split <;> rfl
  refine { h with
    projects_id := h.projects_id.map hid
    projects_projectId := h.projects_projectId.map fun p => by split <;> rfl
    projects_appDomain := h.projects_appDomain.rename h.projects_projectId
      (fun p hp => if_neg hp) fun p _ hp q hq hne => ?_
    subscribers_project := fun x hx => exists_id_map (h.subscribers_project x hx) hid
    watchers_project := fun w hw id hwi => exists_id_map (h.watchers_project w hw id hwi) hid }
  rw [if_pos hp]
  exact hd q hq hne

theorem addProject (h : s.Intact) {p : Project}
    (hp : ∀ q ∈ s.projects, q.projectId ≠ p.projectId ∧ q.id ≠ p.id)
    (hd : ∀ q ∈ s.projects, q.appDomain ≠ p.appDomain) :
    Intact { s with projects := s.projects ++ [p] } :=
  { h with
    projects_id := h.projects_id.snoc fun q hq => (hp q hq).2
    projects_projectId := h.projects_projectId.snoc fun q hq => (hp q hq).1
    projects_appDomain := h.projects_appDomain.snoc hd
    subscribers_project := fun x hx => exists_id_append (h.subscribers_project x hx) _
    watchers_project := fun w hw id hwi => exists_id_append (h.watchers_project w hw id hwi) _ }

theorem upsertProject (h : s.Intact) {now : Instant} {r : Project.Upsert} {keys : PublicKeys}
    (hs : s.upsertProject now r = .ok (s', keys)) : s'.Intact := by
  obtain ⟨projectId, appDomain, topic, -, -, -, hd, hcases⟩ := upsertProject_cases hs
  rcases hcases with ⟨p, -, -, -, rfl⟩ | ⟨hnew, -, rfl⟩
  · exact h.moveProject now hd
  · exact h.addProject hnew fun q hq => hd q hq (hnew q hq).1

/-- Subscribers that keep their ids, projects and accounts may change otherwise. -/
theorem rewriteSubscribers (h : s.Intact) {f : Subscriber → Subscriber}
    (hid : ∀ y, (f y).id = y.id) (hp : ∀ y, (f y).project = y.project)
    (ha : ∀ y, (f y).account = y.account) :
    Intact { s with subscribers := s.subscribers.map f } := by
  refine { h with
    subscribers_id := h.subscribers_id.map hid
    subscribers_account := h.subscribers_account.map fun y => by rw [hp, ha]
    subscribers_project := fun x hx => ?_
    scopes_subscriber := fun e he => exists_id_map (h.scopes_subscriber e he) hid }
  obtain ⟨y, hy, rfl⟩ := List.mem_map.1 hx
  rw [hp]
  exact h.subscribers_project y hy

theorem addSubscriber (h : s.Intact) {x : Subscriber}
    (hx : ∀ y ∈ s.subscribers, ¬ y.isOf x.project x.account ∧ y.id ≠ x.id)
    (hp : ∃ p ∈ s.projects, p.id = x.project) :
    Intact { s with subscribers := s.subscribers ++ [x] } := by
  refine { h with
    subscribers_id := h.subscribers_id.snoc fun y hy => (hx y hy).2
    subscribers_account := h.subscribers_account.snoc fun y hy heq => ?_
    subscribers_project := fun y hy => ?_
    scopes_subscriber := fun e he => exists_id_append (h.scopes_subscriber e he) _ }
  · exact (hx y hy).1 (Subscriber.isOf_iff.2 (Prod.mk.inj heq))
  · rcases List.mem_append.1 hy with hy | hy
    · exact h.subscribers_project y hy
    · rw [List.mem_singleton.1 hy]
      exact hp

/-- The row that was written is stored. -/
theorem writeSubscriber (h : s.Intact) {e : Subscriber.Entry} {id : Uuid}
    (hs : s.writeSubscriber e = .ok (s', id)) :
    s'.Intact ∧ ∃ x ∈ s'.subscribers, x.id = id := by
  obtain ⟨project, account, topic, -, -, -, hcases⟩ := writeSubscriber_cases hs
  rcases hcases with ⟨x, hx, -, rfl, rfl⟩ | ⟨hnew, hp, rfl, rfl⟩
  · exact ⟨h.rewriteSubscribers (fun _ => rewriteSubscriber_id) (fun _ => rewriteSubscriber_project)
      fun _ => rewriteSubscriber_account, exists_id_map ⟨x, hx, rfl⟩ fun _ => rewriteSubscriber_id⟩
  · exact ⟨h.addSubscriber hnew hp, _, List.mem_append_right _ (List.mem_singleton_self _), rfl⟩

/-- Entries may be deleted, and added to subscribers that are stored. -/
theorem rewriteScopes (h : s.Intact) {l : List ScopeEntry}
    (hl : ∀ e ∈ l, e ∈ s.scopes ∨ ∃ x ∈ s.subscribers, x.id = e.subscriber) :
    Intact { s with scopes := l } :=
  { h with scopes_subscriber := fun e he => (hl e he).elim (h.scopes_subscriber e) fun hx => hx }

theorem setScope (h : s.Intact) {id : Uuid} (hx : ∃ x ∈ s.subscribers, x.id = id) (scope : Scope) :
    (s.setScope id scope).Intact := by
  refine h.rewriteScopes fun e he => ?_
  rcases List.mem_append.1 he with he | he
  · exact .inl (List.mem_filter.1 he).1
  · obtain ⟨name, -, rfl⟩ := List.mem_map.1 he
    exact .inr hx

theorem upsertSubscriber (h : s.Intact) {e : Subscriber.Entry} {scope : Scope} {id : Uuid}
    (hs : s.upsertSubscriber e scope = .ok (s', id)) : s'.Intact := by
  obtain ⟨t, ht, rfl⟩ := upsertSubscriber_cases hs
  obtain ⟨hi, hx⟩ := h.writeSubscriber ht
  exact hi.setScope hx scope

theorem renewSubscriber (h : s.Intact) {project : Option Uuid} {account : Option String}
    {scope : Scope} {now expiry : Instant} {y : Subscriber}
    (hs : s.renewSubscriber project account scope now expiry = some (s', y)) : s'.Intact := by
  obtain ⟨p, a, -, -, x, hx, -, -, -, rfl⟩ := renewSubscriber_cases hs
  have hrows : Intact { s with subscribers := s.subscribers.map (extendSubscriber p a now expiry) } :=
    h.rewriteSubscribers (fun _ => extendSubscriber_id) (fun _ => extendSubscriber_project)
      fun _ => extendSubscriber_account
  exact hrows.setScope (exists_id_map ⟨x, hx, rfl⟩ fun _ => extendSubscriber_id) scope

theorem deleteSubscriber (h : s.Intact) (id : Option Uuid) : (s.deleteSubscriber id).1.Intact := by
  refine { h with
    subscribers_id := h.subscribers_id.filter _
    subscribers_account := h.subscribers_account.filter _
    subscribers_project := fun x hx => h.subscribers_project x (List.mem_filter.1 hx).1
    scopes_subscriber := fun e he => ?_ }
  obtain ⟨he, hid⟩ := List.mem_filter.1 he
  obtain ⟨x, hx, hxe⟩ := h.scopes_subscriber e he
  exact ⟨x, List.mem_filter.2 ⟨hx, by rwa [hxe]⟩, hxe⟩

theorem replaceScope (h : s.Intact) {id : Option Uuid} {scope : Scope}
    (hs : s.replaceScope id scope = .ok s') : s'.Intact := by
  rcases replaceScope_cases hs with ⟨-, rfl⟩ | ⟨i, -, hx, rfl⟩
  · exact h.rewriteScopes fun e he => .inl (List.mem_filter.1 he).1
  · exact h.setScope hx scope

theorem addScopeText (h : s.Intact) {id : Option Uuid} {name : Option String}
    (hs : s.addScopeText id name = .ok s') : s'.Intact := by
  obtain ⟨i, text, -, -, hx, rfl⟩ := addScopeText_cases hs
  refine h.rewriteScopes fun e he => ?_
  rcases List.mem_append.1 he with he | he
  · exact .inl he
  · rw [List.mem_singleton.1 he]
    exact .inr hx

/-- All that refers to a project goes with it, and what refers to that. -/
theorem deleteProject (h : s.Intact) (id : Option Uuid) : (s.deleteProject id).Intact where
  projects_id := h.projects_id.filter _
  projects_projectId := h.projects_projectId.filter _
  projects_appDomain := h.projects_appDomain.filter _
  subscribers_id := h.subscribers_id.filter _
  subscribers_account := h.subscribers_account.filter _
  subscribers_project x hx := by
    obtain ⟨hx, hid⟩ := List.mem_filter.1 hx
    obtain ⟨p, hp, hpx⟩ := h.subscribers_project x hx
    exact ⟨p, List.mem_filter.2 ⟨hp, by rwa [hpx]⟩, hpx⟩
  scopes_subscriber e he := by
    obtain ⟨he, hgone⟩ := List.mem_filter.1 he
    obtain ⟨x, hx, hxe⟩ := h.scopes_subscriber e he
    refine ⟨x, List.mem_filter.2 ⟨hx, ?_⟩, hxe⟩
    rw [bne, Bool.not_eq_true']
    refine Bool.eq_false_iff.2 fun hid => ?_
    rw [Bool.not_eq_true', List.any_eq_false] at hgone
    -- An owner that went with the project would have taken the entry with it.
    exact hgone x (List.mem_filter.2 ⟨hx, hid⟩) (by simpa using hxe)
  watchers_id := h.watchers_id.filter _
  watchers_didKey := h.watchers_didKey.filter _
  watchers_project w hw i hwi := by
    obtain ⟨hw, hid⟩ := List.mem_filter.1 hw
    obtain ⟨p, hp, rfl⟩ := h.watchers_project w hw i hwi
    refine ⟨p, List.mem_filter.2 ⟨hp, ?_⟩, rfl⟩
    simpa [hwi] using hid

/-- Watchers that keep their ids and did keys may change otherwise, to projects that are stored. -/
theorem rewriteWatchers (h : s.Intact) {f : Watcher → Watcher} (hid : ∀ w, (f w).id = w.id)
    (hk : ∀ w, (f w).didKey = w.didKey)
    (hp : ∀ w ∈ s.watchers, ∀ id, (f w).project = some id → ∃ p ∈ s.projects, p.id = id) :
    Intact { s with watchers := s.watchers.map f } := by
  refine { h with
    watchers_id := h.watchers_id.map hid
    watchers_didKey := h.watchers_didKey.map hk
    watchers_project := fun w hw => ?_ }
  obtain ⟨v, hv, rfl⟩ := List.mem_map.1 hw
  exact hp v hv

theorem addWatcher (h : s.Intact) {w : Watcher}
    (hw : ∀ v ∈ s.watchers, v.didKey ≠ w.didKey ∧ v.id ≠ w.id)
    (hp : ∀ id, w.project = some id → ∃ p ∈ s.projects, p.id = id) :
    Intact { s with watchers := s.watchers ++ [w] } := by
  refine { h with
    watchers_id := h.watchers_id.snoc fun v hv => (hw v hv).2
    watchers_didKey := h.watchers_didKey.snoc fun v hv => (hw v hv).1
    watchers_project := fun v hv => ?_ }
  rcases List.mem_append.1 hv with hv | hv
  · exact h.watchers_project v hv
  · rw [List.mem_singleton.1 hv]
    exact hp

theorem upsertWatcher (h : s.Intact) {e : Watcher.Entry} (hs : s.upsertWatcher e = .ok s') :
    s'.Intact := by
  obtain ⟨account, didKey, symKey, expiry, -, -, -, -, hp, hcases⟩ := upsertWatcher_cases hs
  rcases hcases with ⟨-, rfl⟩ | ⟨hnew, rfl⟩
  · refine h.rewriteWatchers (fun _ => rewriteWatcher_id) (fun _ => rewriteWatcher_didKey)
      fun w hw id => ?_
    unfold rewriteWatcher
    split
    · exact hp id
    · exact h.watchers_project w hw id
  · exact h.addWatcher hnew hp

theorem sweepWatchers (h : s.Intact) (now : Instant) : (s.sweepWatchers now).1.Intact :=
  { h with
    watchers_id := h.watchers_id.filter _
    watchers_didKey := h.watchers_didKey.filter _
    watchers_project := fun w hw => h.watchers_project w (List.mem_filter.1 hw).1 }

end Store.Intact

/-! ## Runs -/

/-- Every write keeps the constraints. -/
theorem Write.Effect.intact {clock : Instant} {w : Write} {s s' : Store} {reply : Reply}
    (hw : w.Effect clock s s' reply) (h : s.Intact) : s'.Intact := by
  cases hw with
  | upsertProject ha hb hs => exact h.upsertProject hs
  | upsertSubscriber hk hn he hs => exact h.upsertSubscriber hs
  | renewSubscriber hn he hs => exact h.renewSubscriber hs
  | deleteSubscriber => exact h.deleteSubscriber _
  | replaceScope hs => exact h.replaceScope hs
  | upsertWatcher he hs => exact h.upsertWatcher hs
  | sweepWatchers ht => exact h.sweepWatchers _
  | sweep => exact h.sweepWatchers _
  | addScopeText hs => exact h.addScopeText hs
  | deleteProject => exact h.deleteProject _

theorem Replays.intact {s₀ s : Store} {deeds : List Deed} (h : Replays s₀ deeds s)
    (h₀ : s₀.Intact) : s.Intact := by
  induction h with
  | nil => exact h₀
  | snoc _ hd ih => exact hd.effect.intact ih

theorem Script.intact_committed (script : Script) (clock : Instant) (n : Nat) :
    (script.stateAt (.start clock .empty) n).database.committed.Intact :=
  (script.tells clock .empty n).durable.intact .empty

theorem Script.intact_view (script : Script) (clock : Instant) (n : Nat) (i : SessionId) :
    ((script.stateAt (.start clock .empty) n).database.view i).Intact :=
  ((script.tells clock .empty n).view i).intact .empty

/-- At every point of a run from the empty store, the committed store and the store that a session
sees are intact. -/
theorem Script.intact_stateAt (script : Script) (clock : Instant) (n : Nat) :
    let d := (script.stateAt (.start clock .empty) n).database
    d.committed.Intact ∧ ∀ i, (d.view i).Intact :=
  ⟨script.intact_committed clock n, script.intact_view clock n⟩

end SubscriptionRegistry
