import SubscriptionRegistry.Proofs.Integrity

/-!
# Histories of projects

The first request for a project id decides what its row is: later requests move the row to another
app domain, and leave its keys, its topic and its identity alone until the row is deleted.

* `Project.Charter`: the columns that are written once. `Deed.Founds`: a deed has given them.
* `Deed.projectFor?`: the request for a project that a deed has carried out, and its time.
* `Project.Change`: all that a write can do to a row. `Write.Effect.projectChange`: every row has
  come about in one of these ways.
* `Project.From`: a row is what a list of deeds has made of it. `Project.From.snoc`: one more deed
  keeps it so.
* `Store.upsertProject_of_new`: a project without a row is stored with the keys of its request.
* `Script.projects_exact`: the rows at every point of a run, and the keys that requests are
  answered.
-/

namespace SubscriptionRegistry

/-! ## Charters -/

/-- The columns of a project that the request which inserts its row writes once and for all. -/
structure Project.Charter where
  id : Uuid
  createdAt : Instant
  projectId : String
  topic : String
  authentication : KeyPair
  subscription : KeyPair

/-- The charter of a stored project. -/
def Project.charter (p : Project) : Project.Charter :=
  ⟨p.id, p.createdAt, p.projectId, p.topic, p.authentication, p.subscription⟩

/-- The request for the project with the given external id that a deed has carried out, and when. -/
def Deed.projectFor? (deed : Deed) (projectId : String) : Option (Instant × Project.Request) :=
  match deed.write with
  | .call (.upsertProject r) => if r.projectId = some projectId then some (deed.clock, r) else none
  | _ => none

/-- The deed has carried out the request, and at the time, that the charter is from. -/
def Deed.Founds (deed : Deed) (c : Project.Charter) : Prop :=
  ∃ r, deed.projectFor? c.projectId = some (c.createdAt, r) ∧ r.newId = c.id ∧
    r.topic = some c.topic ∧ r.authentication = c.authentication.draft ∧
    r.subscription = c.subscription.draft

/-- A draft is accepted as the pair whose draft it is. -/
theorem KeyPair.validate_eq_ok {d : Draft} {k : KeyPair} : d.validate = .ok k ↔ d = k.draft := by
  constructor
  · intro h
    obtain ⟨pub, priv⟩ := d
    have hpart : ∀ {o : Option Value} {text : String}, Draft.part o = .ok text →
        o = some (.text text) := by
      intro o text ho
      unfold Draft.part at ho
      split at ho <;> cases ho
      rfl
    unfold Draft.validate at h
    split at h
    · rename_i s t hpriv hpub
      cases h
      obtain rfl : priv = _ := hpart hpriv
      obtain rfl : pub = _ := hpart hpub
      rfl
    all_goals cases h
  · rintro rfl
    exact validate_draft k

theorem Operation.validKeyPair_eq_ok {d : KeyPair.Draft} {k : KeyPair} :
    validKeyPair d = .ok k ↔ d = k.draft := by
  rw [← KeyPair.validate_eq_ok]
  unfold validKeyPair
  cases d.validate with
  | error e => constructor <;> (intro h; cases h)
  | ok a => exact ⟨fun h => by cases h; rfl, fun h => by cases h; rfl⟩

/-! ## One write -/

/-- How a row of the projects has come about by a deed that was done to the store `s`. -/
inductive Project.Change (deed : Deed) (s : Store) : Project → Prop
  | inserted {p : Project} {r : Request} (hnew : ∀ q ∈ s.projects, q.projectId ≠ p.projectId)
      (hr : deed.projectFor? p.projectId = some (p.updatedAt, r))
      (hd : r.appDomain = some p.appDomain) (hc : deed.Founds p.charter) : Change deed s p
  | moved {q : Project} {r : Request} {appDomain : String} (hq : q ∈ s.projects)
      (hr : deed.projectFor? q.projectId = some (deed.clock, r)) (hd : r.appDomain = some appDomain) :
      Change deed s { q with appDomain, updatedAt := deed.clock }
  | kept {q : Project} (hq : q ∈ s.projects) (hr : deed.projectFor? q.projectId = none) :
      Change deed s q

section Rows

variable {s s' : Store} {p : Project}

theorem Project.Change.upsertProject {r : Request} {clock : Instant} {a b : KeyPair}
    {keys : PublicKeys} {reply : Reply} (ha : Operation.validKeyPair r.authentication = .ok a)
    (hb : Operation.validKeyPair r.subscription = .ok b)
    (hs : s.upsertProject clock ⟨r.newId, r.projectId, r.appDomain, r.topic, a, b⟩ = .ok (s', keys))
    (hp : p ∈ s'.projects) : Change ⟨clock, .call (.upsertProject r), reply⟩ s p := by
  obtain ⟨projectId, appDomain, topic, hid, hdomain, htopic, -, hrows⟩ := Store.upsertProject_cases hs
  dsimp only at hid hdomain htopic
  have hkept : ∀ q ∈ s.projects, q.projectId ≠ projectId →
      Change ⟨clock, .call (.upsertProject r), reply⟩ s q := by
    intro q hq hne
    refine .kept hq (if_neg ?_)
    rw [hid]
    exact fun h => hne (Option.some.inj h).symm
  rcases hrows with ⟨-, -, -, -, rfl⟩ | ⟨hnew, -, rfl⟩
  · obtain ⟨q, hq, rfl⟩ := List.mem_map.1 hp
    by_cases hqid : q.projectId = projectId
    · subst hqid
      rw [if_pos rfl]
      exact .moved hq (if_pos hid) hdomain
    · rw [if_neg hqid]
      exact hkept q hq hqid
  · rcases List.mem_append.1 hp with hp | hp
    · exact hkept p hp (hnew p hp).1
    · rw [List.mem_singleton.1 hp]
      refine .inserted (fun q hq => (hnew q hq).1) (if_pos hid) hdomain ?_
      exact ⟨r, if_pos hid, rfl, htopic, Operation.validKeyPair_eq_ok.1 ha,
        Operation.validKeyPair_eq_ok.1 hb⟩

/-- Every row that is stored after a write has come about by it. -/
theorem Write.Effect.projectChange {deed : Deed}
    (hw : deed.write.Effect deed.clock s s' deed.reply) (hp : p ∈ s'.projects) :
    Project.Change deed s p := by
  obtain ⟨clock, write, reply⟩ := deed
  dsimp only at hw
  cases hw with
  | upsertProject ha hb hs => exact .upsertProject ha hb hs hp
  | upsertSubscriber hk hn he hs =>
    rw [Store.projects_upsertSubscriber hs] at hp
    exact .kept hp rfl
  | renewSubscriber hn he hs =>
    rw [Store.projects_renewSubscriber hs] at hp
    exact .kept hp rfl
  | deleteSubscriber => exact .kept hp rfl
  | replaceScope hs =>
    rw [Store.projects_replaceScope hs] at hp
    exact .kept hp rfl
  | upsertWatcher he hs =>
    obtain ⟨_, _, _, _, -, -, -, -, -, ⟨-, rfl⟩ | ⟨-, rfl⟩⟩ := Store.upsertWatcher_cases hs
    · exact .kept hp rfl
    · exact .kept hp rfl
  | sweepWatchers ht => exact .kept hp rfl
  | sweep => exact .kept hp rfl
  | addScopeText hs =>
    obtain ⟨_, _, -, -, -, rfl⟩ := Store.addScopeText_cases hs
    exact .kept hp rfl
  | deleteProject => exact .kept (List.mem_filter.1 hp).1 rfl

end Rows

/-! ## Histories -/

/-- A row is what the deeds have made of it. -/
structure Project.From (deeds : List Deed) (p : Project) : Prop where
  /-- The charter is that of the deed which inserted the row: there was none before it, and every
  store since has had one with the charter. -/
  founded : Emerged .empty (·.Founds p.charter) (fun s => ∀ q ∈ s.projects, q.projectId ≠ p.projectId)
    (fun s => ∃ q ∈ s.projects, q.charter = p.charter) deeds
  /-- The app domain is that of the last request. -/
  latest : ∃ r after, Latest (·.projectFor? p.projectId) deeds (p.updatedAt, r) after ∧
    r.appDomain = some p.appDomain

theorem Project.From.snoc {deeds : List Deed} {deed : Deed} {s s' : Store} {p : Project}
    (h : ∀ q ∈ s.projects, q.From deeds) (hr : Replays .empty deeds s)
    (hr' : Replays .empty (deeds ++ [deed]) s') (hp : p ∈ s'.projects) (hc : Change deed s p) :
    p.From (deeds ++ [deed]) := by
  cases hc with
  | @inserted _ r hnew hreq hd hfounds =>
    exact ⟨.new hfounds hr hnew hr' ⟨p, hp, rfl⟩, r, [], .snoc_self hreq, hd⟩
  | @moved q r appDomain hq hreq hd =>
    exact ⟨(h q hq).founded.snoc hr' ⟨_, hp, rfl⟩, r, [], .snoc_self hreq, hd⟩
  | kept hq hreq =>
    obtain ⟨r, after, hlatest, hd⟩ := (h p hq).latest
    exact ⟨(h p hq).founded.snoc hr' ⟨p, hp, rfl⟩, r, after ++ [deed], hlatest.snoc hreq, hd⟩

/-- The rows of a store are what the deeds have made of them. -/
theorem Replays.projectsFrom {deeds : List Deed} {s : Store} (h : Replays .empty deeds s) :
    ∀ p ∈ s.projects, p.From deeds := by
  induction h with
  | nil => intro p hp; cases hp
  | snoc hr hd ih => exact fun p hp => .snoc ih hr (hr.snoc hd) hp (hd.effect.projectChange hp)

/-! ## Answers -/

section Answers

variable {s s' : Store} {now : Instant} {r : Project.Upsert}

/-- A request is answered the public keys of the row that it leaves. -/
theorem Store.row_upsertProject {keys : PublicKeys} (h : s.upsertProject now r = .ok (s', keys)) :
    ∃ p ∈ s'.projects, r.projectId = some p.projectId ∧ keys = p.publicKeys := by
  obtain ⟨projectId, appDomain, topic, hid, -, -, -, hrows⟩ := upsertProject_cases h
  rcases hrows with ⟨p, hp, rfl, rfl, rfl⟩ | ⟨-, rfl, rfl⟩
  · refine ⟨_, List.mem_map_of_mem hp, ?_⟩
    rw [if_pos rfl]
    exact ⟨hid, rfl⟩
  · exact ⟨_, List.mem_append_right _ List.mem_cons_self, hid, rfl⟩

/-- A project without a row, for which neither the app domain nor the id is taken, is stored with
the keys that are supplied. -/
theorem Store.upsertProject_of_new {projectId appDomain topic : String}
    (hid : r.projectId = some projectId) (hdomain : r.appDomain = some appDomain)
    (htopic : r.topic = some topic) (hnew : ∀ p ∈ s.projects, p.projectId ≠ projectId)
    (hfree : ∀ p ∈ s.projects, p.appDomain ≠ appDomain ∧ p.id ≠ r.newId) :
    s.upsertProject now r =
      .ok ({ s with projects := s.projects ++ [newProject now r projectId appDomain topic] },
        ⟨r.authentication.publicKey, r.subscription.publicKey⟩) := by
  have htaken : (s.projects.any fun p => p.projectId ≠ projectId ∧ p.appDomain = appDomain) = false := by
    simp only [List.any_eq_false, decide_eq_true_eq]
    exact fun p hp h => (hfree p hp).1 h.2
  have hfind : s.projects.find? (·.projectId = projectId) = none := by
    simp only [List.find?_eq_none, decide_eq_true_eq]
    exact hnew
  have hused : s.projects.any (·.id = r.newId) = false := by
    simp only [List.any_eq_false, decide_eq_true_eq]
    exact fun p hp => (hfree p hp).2
  unfold upsertProject
  simp only [hid, hdomain, htopic, required, bind, Except.bind, htaken, hfind, hused, if_false,
    Bool.false_eq_true]
  rfl

end Answers

section Calls

variable {r : Registry} {i : SessionId} {u : Project.Request}

/-- A request whose drafts are those of two key pairs runs with these. -/
theorem Write.turns_upsertProject {clock : Instant} {s s' : Store} {a b : KeyPair}
    {keys : PublicKeys} (ha : u.authentication = a.draft) (hb : u.subscription = b.draft)
    (hs : s.upsertProject clock ⟨u.newId, u.projectId, u.appDomain, u.topic, a, b⟩ =
      .ok (s', keys)) :
    (Write.call (.upsertProject u)).Turns clock s s'
      ⟨.keys keys, [.projectUpserted (u.projectId.getD "") (u.appDomain.getD "")]⟩ :=
  (Effect.upsertProject (Operation.validKeyPair_eq_ok.2 ha) (Operation.validKeyPair_eq_ok.2 hb)
    hs).turns

/-- A project that is deleted may be stored again with other keys. -/
theorem Step.report_upsert_of_deleted {q : Project} {answer : Answer} {events : List Event}
    {a b : KeyPair} {appDomain topic : String} (h : (r.database.view i).Intact)
    (hq : q ∈ (r.database.view i).projects)
    (hgone : ((Step.act i (.call (.deleteProject (some q.id)))).run r).1 =
      .leaf (.ok answer) events)
    (hid : u.projectId = some q.projectId) (htopic : u.topic = some topic)
    (ha : u.authentication = a.draft) (hb : u.subscription = b.draft)
    (hdomain : u.appDomain = some appDomain)
    (hfree : ∀ p ∈ (r.database.view i).projects, p ≠ q →
      p.appDomain ≠ appDomain ∧ p.id ≠ u.newId) :
    ((Step.act i (.call (.upsertProject u))).run
        ((Step.act i (.call (.deleteProject (some q.id)))).run r).2).1 =
      .leaf (.ok (.keys ⟨a.publicKey, b.publicKey⟩))
        [.projectUpserted (u.projectId.getD "") (u.appDomain.getD "")] := by
  obtain ⟨hl, s, hturns, hrun⟩ := Step.run_of_ok rfl hgone
  rw [hrun]
  have hleft : ∀ p ∈ s.projects, p ∈ (r.database.view i).projects ∧ p ≠ q := by
    intro p hp
    cases hturns.effect
    obtain ⟨hp, hne⟩ := List.mem_filter.1 hp
    refine ⟨hp, ?_⟩
    rintro rfl
    simp at hne
  have hlocked : (r.database.put i s).lockedFor i = false := by
    rw [Database.lockedFor_congr Database.others_put, hl]
  have hview : (r.database.put i s).view i = s := Database.view_put
  have hs : s.upsertProject r.clock ⟨u.newId, u.projectId, u.appDomain, u.topic, a, b⟩ = _ :=
    Store.upsertProject_of_new hid hdomain htopic
      (fun p hp heq => (hleft p hp).2 (h.projects_projectId.eq (hleft p hp).1 hq heq))
      (fun p hp => hfree p (hleft p hp).1 (hleft p hp).2)
  rw [← hview] at hs
  exact congrArg Prod.fst (Step.run_call (r := r.withDatabase (r.database.put i s)) hlocked
    (Write.turns_upsertProject ha hb hs))

end Calls

/-- **The first request for a project decides its keys.** At every point of a run from the empty
store, each row of the projects that is committed, and each that a session sees, has its id, its
first date, its topic and its keys from the request that inserted it, and its app domain and its
last date from the last request, among the writes that are committed or that the session sees. A
request that succeeds is answered the public keys of the row: those that were stored, or those that
it supplies if there was no row, and so never those of a request that was undone. After a project is
deleted a request may give it other keys. -/
theorem Script.projects_exact (script : Script) (clock : Instant) (n : Nat) :
    let r := script.stateAt (.start clock .empty) n
    let j := script.journalAt (.start clock .empty) n
    (∀ p ∈ r.database.committed.projects, p.From j.durable) ∧
      (∀ i, ∀ p ∈ (r.database.view i).projects, p.From (j.visible i)) ∧
      (∀ i u answer events, let after := (Step.act i (.call (.upsertProject u))).run r
        after.1 = .leaf (.ok answer) events →
          let deed : Deed := ⟨r.clock, .call (.upsertProject u), ⟨answer, events⟩⟩
          ∃ p ∈ (after.2.database.view i).projects, answer = .keys p.publicKeys ∧
            deed.projectFor? p.projectId = some (r.clock, u) ∧ p.From (j.visible i ++ [deed]) ∧
            ((∃ q ∈ (r.database.view i).projects, q.charter = p.charter) ∨
              (∀ q ∈ (r.database.view i).projects, q.projectId ≠ p.projectId) ∧
                deed.Founds p.charter)) ∧
      ∀ i, ∀ q ∈ (r.database.view i).projects,
        let gone := (Step.act i (.call (.deleteProject (some q.id)))).run r
        ∀ answer events, gone.1 = .leaf (.ok answer) events →
        ∀ (u : Project.Request) (a b : KeyPair) (appDomain topic : String),
          u.projectId = some q.projectId → u.topic = some topic → u.authentication = a.draft →
          u.subscription = b.draft → u.appDomain = some appDomain →
          (∀ p ∈ (r.database.view i).projects, p ≠ q → p.appDomain ≠ appDomain ∧ p.id ≠ u.newId) →
          ((Step.act i (.call (.upsertProject u))).run gone.2).1 =
            .leaf (.ok (.keys ⟨a.publicKey, b.publicKey⟩))
              [.projectUpserted (u.projectId.getD "") (u.appDomain.getD "")] := by
  intro r j
  have htells : j.Tells .empty r.database := script.tells clock .empty n
  refine ⟨htells.durable.projectsFrom, fun i => (htells.view i).projectsFrom, ?_, ?_⟩
  · intro i u answer events after hreport deed
    have hturns : deed.write.Turns deed.clock (r.database.view i) (after.2.database.view i)
        deed.reply := Step.turns_of_ok rfl hreport
    have heffect : deed.write.Effect deed.clock (r.database.view i) (after.2.database.view i)
        deed.reply := hturns.effect
    obtain ⟨p, hp, hid, hkeys⟩ : ∃ p ∈ (after.2.database.view i).projects,
        u.projectId = some p.projectId ∧ answer = .keys p.publicKeys := by
      cases heffect with
      | upsertProject ha hb hs =>
        obtain ⟨p, hp, hid, rfl⟩ := Store.row_upsertProject hs
        exact ⟨p, hp, hid, rfl⟩
    have hfor : deed.projectFor? p.projectId = some (r.clock, u) := if_pos hid
    refine ⟨p, hp, hkeys, hfor, ((htells.view i).snoc hturns).projectsFrom p hp, ?_⟩
    cases heffect.projectChange hp with
    | inserted hnew hr hd hfounds => exact .inr ⟨hnew, hfounds⟩
    | @moved q r' appDomain hq hr hd => exact .inl ⟨q, hq, rfl⟩
    | kept hq hr => cases hfor.symm.trans hr
  · intro i q hq gone answer events hgone u a b appDomain topic hid htopic ha hb hdomain hfree
    exact Step.report_upsert_of_deleted (script.intact_view clock n i) hq hgone hid htopic ha
      hb hdomain hfree

end SubscriptionRegistry
