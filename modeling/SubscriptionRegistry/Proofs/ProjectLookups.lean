import SubscriptionRegistry.Proofs.Outcome
import SubscriptionRegistry.Proofs.ProjectHistory
import SubscriptionRegistry.Proofs.ViewAgreement

/-!
# Lookups of projects

A lookup answers the first row that has its key, and the rows of a table have no order of their own.
On an intact store this leaves no choice for an id, an external id or an app domain: one row at most
has it. Only of the rows that share a topic any may come first.

* `Project.uniqueKeys`: the keys that a project shares with no other one. `Project.keys`: these, and
  its topic. `Store.Intact.find?_uniqueKey`: in whatever order the rows come, a unique key finds its
  project.
* `Registry.Finds`, `Registry.FindsNone`: what a session is answered. `Registry.LookupsExact`: its
  answers to all keys, and the topics that it is listed. `Store.Intact.lookupsExact`: they are those
  of an intact store.
* `Project.LeftBy`: the row that a request leaves for its project. `Store.Intact.exists_leftBy`: it
  is there, and nobody is left at the app domain that the project had.
* `Script.lookups_exact`: lookups at every point of a run, and after a request.
-/

namespace SubscriptionRegistry

/-! ## Keys of one project -/

/-- The keys that a project shares with no other one. -/
def Project.uniqueKeys (p : Project) : List Project.Key :=
  [.id (some p.id), .projectId (some p.projectId), .appDomain (some p.appDomain)]

/-- The keys under which a project may be found. None of them is null. -/
def Project.keys (p : Project) : List Project.Key :=
  p.uniqueKeys ++ [.topic (some p.topic)]

section Keys

variable {s : Store} {p q : Project} {key : Project.Key} {rows : List Project}

theorem Project.hasKey_iff : p.hasKey key = true ↔ key ∈ p.keys := by
  cases key <;> simp [hasKey, keys, uniqueKeys, -beq_iff_eq, Store.some_beq_iff]

theorem Project.mem_keys (h : key ∈ p.uniqueKeys) : key ∈ p.keys :=
  List.mem_append_left _ h

theorem Store.Intact.eq_of_mem_keys (h : s.Intact) (hp : p ∈ s.projects) (hq : q ∈ s.projects)
    (hkey : key ∈ p.uniqueKeys) (hqk : key ∈ q.keys) : q = p := by
  simp only [Project.uniqueKeys, List.mem_cons, List.not_mem_nil, or_false] at hkey
  rcases hkey with rfl | rfl | rfl
  · exact h.projects_id.eq hq hp (by simpa [Project.keys, Project.uniqueKeys, eq_comm] using hqk)
  · exact h.projects_projectId.eq hq hp
      (by simpa [Project.keys, Project.uniqueKeys, eq_comm] using hqk)
  · exact h.projects_appDomain.eq hq hp
      (by simpa [Project.keys, Project.uniqueKeys, eq_comm] using hqk)

/-- Whoever is found is among the rows and has the key. -/
theorem Project.of_find?_hasKey (h : rows.find? (·.hasKey key) = some p) : p ∈ rows ∧ key ∈ p.keys := by
  have hkey := List.find?_some h
  exact ⟨List.mem_of_find?_eq_some h, hasKey_iff.1 hkey⟩

theorem Project.find?_hasKey_eq_none :
    rows.find? (·.hasKey key) = none ↔ ∀ p ∈ rows, key ∉ p.keys := by
  simp only [List.find?_eq_none, hasKey_iff]

/-- The order of the rows makes no difference to who is found under a key of one project. -/
theorem Store.Intact.find?_uniqueKey (h : s.Intact) (hp : p ∈ s.projects) (hkey : key ∈ p.uniqueKeys)
    (hrows : rows.Perm s.projects) : rows.find? (·.hasKey key) = some p := by
  cases hfind : rows.find? (·.hasKey key) with
  | none =>
    have hno := Project.find?_hasKey_eq_none.1 hfind p (hrows.mem_iff.2 hp)
    exact absurd (Project.mem_keys hkey) hno
  | some q =>
    obtain ⟨hq, hqk⟩ := Project.of_find?_hasKey hfind
    rw [h.eq_of_mem_keys hp (hrows.mem_iff.1 hq) hkey hqk]

end Keys

/-! ## Answers -/

/-- Session `i` is answered the project `p` for a key. -/
def Registry.Finds (r : Registry) (i : SessionId) (key : Project.Key) (p : Project) : Prop :=
  r.report i (.findProject key) = .leaf (.ok (.project p)) []

/-- Session `i` is answered that no project has a key. -/
def Registry.FindsNone (r : Registry) (i : SessionId) (key : Project.Key) : Prop :=
  r.report i (.findProject key) = .leaf (.error (.notFound "Project")) []

/-- What session `i` is answered about the projects of the store `s`. -/
structure Registry.LookupsExact (r : Registry) (i : SessionId) (s : Store) : Prop where
  /-- A project is found under each of its unique keys, in whatever order the rows come. -/
  unique : ∀ p ∈ s.projects, ∀ key ∈ p.uniqueKeys, r.Finds i key p ∧
    ∀ rows : List Project, rows.Perm s.projects → rows.find? (·.hasKey key) = some p
  /-- Under its topic a project is found that has the topic. -/
  topic : ∀ p ∈ s.projects, ∃ q ∈ s.projects, q.topic = p.topic ∧ r.Finds i (.topic (some p.topic)) q
  /-- Whoever is found is stored and has the key. -/
  sound : ∀ key p, r.Finds i key p → p ∈ s.projects ∧ key ∈ p.keys
  absent : ∀ key, r.FindsNone i key ↔ ∀ p ∈ s.projects, key ∉ p.keys
  topics : ∃ texts, r.report i .projectTopics = .leaf (.ok (.texts texts)) [] ∧
    texts.Perm (s.projects.map (·.topic))

section Answers

variable {r : Registry} {i : SessionId} {key : Project.Key} {p : Project}

theorem Registry.report_findProject (r : Registry) (i : SessionId) (key : Project.Key) :
    r.report i (.findProject key) =
      match (r.database.view i).findProject key with
      | some p => .leaf (.ok (.project p)) []
      | none => .leaf (.error (.notFound "Project")) [] := by
  have hp : (Operation.findProject key).prepare r.clock = .ok (.read (Operation.projectRead key)) := rfl
  rw [Registry.report, Step.report_of_read hp, Operation.projectRead]
  cases (r.database.view i).findProject key <;> rfl

theorem Registry.finds_iff :
    r.Finds i key p ↔ (r.database.view i).projects.find? (·.hasKey key) = some p := by
  rw [Finds, report_findProject, Store.findProject]
  cases (r.database.view i).projects.find? (·.hasKey key) <;> simp

theorem Registry.findsNone_iff :
    r.FindsNone i key ↔ ∀ q ∈ (r.database.view i).projects, key ∉ q.keys := by
  rw [← Project.find?_hasKey_eq_none, FindsNone, report_findProject, Store.findProject]
  cases (r.database.view i).projects.find? (·.hasKey key) <;> simp

/-- A session that sees an intact store is answered its projects, each under its own keys. -/
theorem Store.Intact.lookupsExact (h : (r.database.view i).Intact) :
    r.LookupsExact i (r.database.view i) := by
  have hsound : ∀ key p, r.Finds i key p → p ∈ (r.database.view i).projects ∧ key ∈ p.keys :=
    fun key p hfinds => Project.of_find?_hasKey (Registry.finds_iff.1 hfinds)
  refine ⟨fun p hp key hkey => ⟨?_, fun rows => h.find?_uniqueKey hp hkey⟩, fun p hp => ?_, hsound,
    fun key => Registry.findsNone_iff, ?_⟩
  · exact Registry.finds_iff.2 (h.find?_uniqueKey hp hkey (.refl _))
  · -- The row itself has its topic, so that the lookup finds something.
    have hself : p.hasKey (.topic (some p.topic)) = true := beq_self_eq_true _
    obtain ⟨q, hq⟩ : ∃ q, (r.database.view i).projects.find? (·.hasKey (.topic (some p.topic))) =
        some q := Option.isSome_iff_exists.1 (List.find?_isSome.2 ⟨p, hp, hself⟩)
    have hfinds : r.Finds i (.topic (some p.topic)) q := Registry.finds_iff.2 hq
    obtain ⟨hmem, htopic⟩ := hsound _ q hfinds
    exact ⟨q, hmem, by simpa [Project.keys, Project.uniqueKeys, eq_comm] using htopic, hfinds⟩
  · have hp : Operation.projectTopics.prepare r.clock =
        .ok (Operation.total fun s => ⟨.texts (sortTexts s.projectTopics), []⟩) := rfl
    exact ⟨_, Registry.report_of_total hp, sortTexts_perm _⟩

end Answers

/-! ## After a request -/

/-- `p` is the row that a request which is made at `clock` leaves in the store `s`: the stored one,
with another app domain and date, or one with what the request supplies if there was none. -/
structure Project.LeftBy (p : Project) (clock : Instant) (s : Store) (u : Project.Request) : Prop where
  projectId : u.projectId = some p.projectId
  appDomain : u.appDomain = some p.appDomain
  updatedAt : p.updatedAt = clock
  rest : (∃ q ∈ s.projects, q.charter = p.charter) ∨
    (∀ q ∈ s.projects, q.projectId ≠ p.projectId) ∧ p.createdAt = clock ∧ p.id = u.newId ∧
      u.topic = some p.topic ∧ u.authentication = p.authentication.draft ∧
      u.subscription = p.subscription.draft

/-- A request leaves a row for its project, and none at the app domain that the project had
before. -/
theorem Store.Intact.exists_leftBy {s s' : Store} {clock : Instant} {u : Project.Request}
    {reply : Reply} (h : s.Intact)
    (hw : (Write.call (.upsertProject u)).Effect clock s s' reply) :
    ∃ p ∈ s'.projects, p.LeftBy clock s u ∧
      ∀ q ∈ s.projects, u.projectId = some q.projectId → u.appDomain ≠ some q.appDomain →
        ∀ x ∈ s'.projects, x.appDomain ≠ q.appDomain := by
  cases hw with
  | upsertProject ha hb hs =>
    obtain ⟨projectId, appDomain, topic, hid, hdomain, htopic, -, hrows⟩ := upsertProject_cases hs
    dsimp only at hid hdomain htopic
    rcases hrows with ⟨p, hp, rfl, -, rfl⟩ | ⟨hnew, -, rfl⟩
    · refine ⟨{ p with appDomain, updatedAt := clock }, ?_, ⟨hid, hdomain, rfl, .inl ⟨p, hp, rfl⟩⟩, ?_⟩
      · exact List.mem_map.2 ⟨p, hp, if_pos rfl⟩
      · intro q hq hqid hne x hx
        have hpq : p.projectId = q.projectId := Option.some_inj.1 (hid.symm.trans hqid)
        obtain ⟨y, hy, rfl⟩ := List.mem_map.1 hx
        by_cases hyid : y.projectId = p.projectId
        · rw [if_pos hyid]
          exact fun hd => hne (hdomain.trans (congrArg some hd))
        · rw [if_neg hyid]
          intro hd
          exact hyid ((congrArg Project.projectId (h.projects_appDomain.eq hy hq hd)).trans hpq.symm)
    · refine ⟨_, List.mem_append_right _ List.mem_cons_self, ⟨hid, hdomain, rfl, .inr ?_⟩, ?_⟩
      · exact ⟨fun q hq => (hnew q hq).1, rfl, rfl, htopic, Operation.validKeyPair_eq_ok.1 ha,
          Operation.validKeyPair_eq_ok.1 hb⟩
      · intro q hq hqid
        exact absurd (Option.some_inj.1 (hqid.symm.trans hid)) (hnew q hq).1

/-- **Lookups of projects find the row that is stored.** At every point of a run from the empty
store, a session that looks up a stored project by its id, its external id or its app domain is
answered the row as the session sees it, whatever order the rows come in, and by its topic a row
with that topic. It is answered that there is no such project exactly if no row has the key, which
for a null is always so. The topics are those of the rows, as often as they have them. A request
that succeeds leaves a row which the session then finds by its external id and its app domain, and
nobody at the app domain that the project has left. -/
theorem Script.lookups_exact (script : Script) (clock : Instant) (n : Nat) (i : SessionId) :
    let r := script.stateAt (.start clock .empty) n
    let s := r.database.view i
    r.LookupsExact i s ∧
      ∀ u answer events, let after := (Step.act i (.call (.upsertProject u))).run r
        after.1 = .leaf (.ok answer) events →
          ∃ p ∈ (after.2.database.view i).projects, p.LeftBy r.clock s u ∧
            after.2.Finds i (.projectId u.projectId) p ∧ after.2.Finds i (.appDomain u.appDomain) p ∧
            ∀ q ∈ s.projects, u.projectId = some q.projectId → u.appDomain ≠ some q.appDomain →
              after.2.FindsNone i (.appDomain (some q.appDomain)) := by
  intro r s
  have h : s.Intact := script.intact_view clock n i
  refine ⟨h.lookupsExact, ?_⟩
  intro u answer events after hreport
  have hturns : (Write.call (.upsertProject u)).Turns r.clock s (after.2.database.view i)
      ⟨answer, events⟩ := Step.turns_of_ok rfl hreport
  have hafter : (after.2.database.view i).Intact := hturns.effect.intact h
  obtain ⟨p, hp, hleft, hgone⟩ := h.exists_leftBy hturns.effect
  have hfinds : ∀ key ∈ p.uniqueKeys, after.2.Finds i key p := fun key hkey =>
    (hafter.lookupsExact.unique p hp key hkey).1
  rw [hleft.projectId, hleft.appDomain]
  refine ⟨p, hp, hleft, hfinds _ ?_, hfinds _ ?_, fun q hq hid hne => ?_⟩
  · simp [Project.uniqueKeys]
  · simp [Project.uniqueKeys]
  · refine Registry.findsNone_iff.2 fun x hx => ?_
    have hdomain : x.appDomain ≠ q.appDomain :=
      hgone q hq (hleft.projectId.trans hid) (hleft.appDomain ▸ hne) x hx
    simpa [Project.keys, Project.uniqueKeys] using hdomain.symm

/-- A project that is moved inside an open transaction. -/
theorem Script.lookups_exact_moved :
    let i : SessionId := .caller "a"
    let t : Instant := ⟨0, by decide⟩
    let first : Project.Request := ⟨default, some "p", some "old.app", some "t",
      ⟨some (.text "k"), some (.text "l")⟩, ⟨some (.text "m"), some (.text "n")⟩⟩
    let script : Script := [.act i .begin, .act i (.call (.upsertProject first))]
    let r := script.stateAt (.start t .empty) 2
    let u : Project.Request := { first with appDomain := some "new.app" }
    let p : Project := ⟨default, t, t, "p", "old.app", "t", ⟨"k", "l"⟩, ⟨"m", "n"⟩⟩
    let after := (Step.act i (.call (.upsertProject u))).run r
    p ∈ (r.database.view i).projects ∧ r.database.committed.projects = [] ∧
      r.Finds i (.appDomain (some "old.app")) p ∧ r.FindsNone i (.topic none) ∧
      u.projectId = some p.projectId ∧ u.appDomain ≠ some p.appDomain ∧
      (∃ answer events, after.1 = .leaf (.ok answer) events) ∧
      (∃ q, q.LeftBy t (r.database.view i) u ∧ after.2.Finds i (.projectId (some "p")) q ∧
        after.2.Finds i (.appDomain (some "new.app")) q) ∧
      after.2.FindsNone i (.appDomain (some "old.app")) := by
  intro i t first script r u p after
  have hp : p ∈ (r.database.view i).projects := by decide +kernel
  have hne : u.appDomain ≠ some p.appDomain := by decide
  have hok : (r.report i (.upsertProject u)).fault?.isSome = false := by decide +kernel
  obtain ⟨answer, events, hreport⟩ := Registry.report_of_no_fault hok
  obtain ⟨hlookups, hrequest⟩ := Script.lookups_exact script t 2 i
  obtain ⟨q, -, hleft, hid, hdomain, hgone⟩ := hrequest u answer events hreport
  have hkey : Project.Key.appDomain (some p.appDomain) ∈ p.uniqueKeys := by decide
  have hnull : ∀ q : Project, .topic none ∉ q.keys := by simp [Project.keys, Project.uniqueKeys]
  exact ⟨hp, by decide +kernel, (hlookups.unique p hp _ hkey).1,
    (hlookups.absent _).2 fun q _ => hnull q, rfl, hne, ⟨answer, events, hreport⟩,
    ⟨q, hleft, hid, hdomain⟩, hgone p hp rfl hne⟩

end SubscriptionRegistry
