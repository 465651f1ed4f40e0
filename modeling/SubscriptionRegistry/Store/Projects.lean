import SubscriptionRegistry.Store.Basic

/-!
# Projects in the store

* `Store.upsertProject`: stores a project, or moves a stored one to another app domain. Topic and
  key material are written once, by the first call for a project id.
* `Store.findProject`: the project with a given id, external id, app domain or topic.
* `Store.deleteProject`: removes a project with everything that refers to it.
-/

namespace SubscriptionRegistry

/-- A request to store a project; `newId` is the id of its row if it has none yet. -/
structure Project.Upsert where
  newId : Uuid
  projectId : Option String
  appDomain : Option String
  topic : Option String
  authentication : KeyPair
  subscription : KeyPair
deriving DecidableEq, Repr

/-- What a project is looked up by; a null matches nothing. -/
inductive Project.Key where
  | id (id : Option Uuid)
  | projectId (projectId : Option String)
  | appDomain (appDomain : Option String)
  | topic (topic : Option String)
deriving DecidableEq, Repr

/-- Whether a project has a key. -/
def Project.hasKey (p : Project) : Project.Key → Bool
  | .id id => some p.id == id
  | .projectId projectId => some p.projectId == projectId
  | .appDomain appDomain => some p.appDomain == appDomain
  | .topic topic => some p.topic == topic

namespace Store

/-- The row that a first request stores. -/
def newProject (now : Instant) (r : Project.Upsert) (projectId appDomain topic : String) : Project :=
  { id := r.newId
    createdAt := now
    updatedAt := now
    projectId, appDomain, topic
    authentication := r.authentication
    subscription := r.subscription }

/-- The projects with the one of external id `projectId` moved to `appDomain`. -/
def moveProject (now : Instant) (projectId appDomain : String) (ps : List Project) : List Project :=
  ps.map fun p => if p.projectId = projectId then { p with appDomain, updatedAt := now } else p

/-- Stores a project, or moves the stored one with its external id. An app domain belongs to one
project. -/
def upsertProject (s : Store) (now : Instant) (r : Project.Upsert) :
    Except Violation (Store × PublicKeys) := do
  let projectId ← required .project "project_id" r.projectId
  let appDomain ← required .project "app_domain" r.appDomain
  let topic ← required .project "topic" r.topic
  if s.projects.any fun p => p.projectId ≠ projectId ∧ p.appDomain = appDomain then
    .error (.unique .project "app_domain")
  else
    match s.projects.find? (·.projectId = projectId) with
    | some p =>
      .ok ({ s with projects := moveProject now projectId appDomain s.projects }, p.publicKeys)
    | none =>
      if s.projects.any (·.id = r.newId) then .error (.unique .project "id")
      else
        let p := newProject now r projectId appDomain topic
        .ok ({ s with projects := s.projects ++ [p] }, p.publicKeys)

/-- A project with the given key. -/
def findProject (s : Store) (key : Project.Key) : Option Project :=
  s.projects.find? (·.hasKey key)

/-- The topics of the projects. -/
def projectTopics (s : Store) : List String :=
  s.projects.map (·.topic)

/-- Removes a project, its subscribers with their scope texts, and its watchers. -/
def deleteProject (s : Store) (id : Option Uuid) : Store :=
  let gone := s.subscribers.filter (some ·.project == id)
  { projects := s.projects.filter (some ·.id != id)
    subscribers := s.subscribers.filter (some ·.project != id)
    scopes := s.scopes.filter fun e => !gone.any (·.id == e.subscriber)
    watchers := s.watchers.filter fun w => w.project.isNone || w.project != id }

end Store

end SubscriptionRegistry
