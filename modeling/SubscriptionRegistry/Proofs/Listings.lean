import SubscriptionRegistry.Proofs.Joins
import SubscriptionRegistry.View.Records

/-!
# Listings

A listing of subscribers is made in four steps: the rows are chosen, joined with the names of their
scope entries, gathered by subscriber, and sorted. The last three look at little of what is stored.

* `sortByText_map`, `Listing.arrange_map`: records that are rewritten but for what they are sorted
  by.
* `Store.gathered`: the records of chosen rows. The views are written with it.
* `Store.gathered_map`: rows that are rewritten but for the ids of their subscribers.
* `Store.gathered_congr`: of the scope entries only those of the chosen subscribers matter.
-/

namespace SubscriptionRegistry

/-! ## Sorting -/

section Sorting

variable {α β : Type} {f : α → β}

theorem sortByText_map (text : β → String) (rows : List α) :
    sortByText text (rows.map f) = (sortByText (text ∘ f) rows).map f := by
  unfold sortByText
  exact (List.map_mergeSort (f := f) fun _ _ _ _ => rfl).symm

theorem sortById_map (id : β → Uuid) (rows : List α) :
    sortById id (rows.map f) = (sortById (id ∘ f) rows).map f := by
  unfold sortById
  exact (List.map_mergeSort (f := f) fun _ _ _ _ => rfl).symm

end Sorting

/-- Records may be rewritten before they are put in an order that does not look at what is
rewritten. -/
theorem Listing.arrange_map {α : Type} {g : α → α} {order : List α → List α} {l : Listing α}
    (h : order (l.records.map g) = (order l.records).map g) :
    (l.arrange (List.map g)).arrange order = (l.arrange order).arrange (List.map g) :=
  congrArg (Listing.mk · _) h

/-- A listing of rows that are rewritten, if the records of the rows are rewritten the same way. -/
theorem Listing.ofGroups_map {α β : Type} {f : α → α} {g : β → β} {record : α → Scope → β}
    (h : ∀ a scope, record (f a) scope = g (record a scope)) (groups : List (α × List Value)) :
    Listing.ofGroups record (groups.map fun r => (f r.1, r.2)) =
      (Listing.ofGroups record groups).arrange (List.map g) := by
  have hrecords : ((groups.map fun r => (f r.1, r.2)).map fun r => record r.1 (Scope.decode r.2).1) =
      (groups.map fun r => record r.1 (Scope.decode r.2).1).map g := by
    rw [List.map_map, List.map_map]
    exact List.map_congr_left fun r _ => h r.1 _
  have hrefused : (groups.map fun r => (f r.1, r.2)).flatMap (fun r => (Scope.decode r.2).2) =
      groups.flatMap fun r => (Scope.decode r.2).2 := List.flatMap_map ..
  unfold ofGroups arrange
  rw [hrecords, hrefused]

/-! ## Rows with their scopes -/

namespace Store

section Rows

variable {α β : Type} {s t : Store} {subscriber : α → Subscriber} {record : α → Scope → β}
  {xs : List α}

/-- The scope entries of a subscriber are its texts. -/
theorem filter_scopes (s : Store) (id : Uuid) :
    s.scopes.filter (·.subscriber = id) = (s.scopeTexts id).map fun name => ⟨id, name⟩ := by
  have hself : ∀ e ∈ s.scopes.filter (·.subscriber = id), ScopeEntry.mk id e.name = e := by
    intro e he
    rw [← of_decide_eq_true (List.mem_filter.1 he).2]
  rw [scopeTexts, List.map_map]
  exact ((List.map_congr_left hself).trans (List.map_id _)).symm

/-- Of the scope entries only those of the subscribers of the rows matter. -/
theorem withScopeNames_congr
    (h : ∀ x ∈ xs, t.scopeTexts (subscriber x).id = s.scopeTexts (subscriber x).id) :
    t.withScopeNames subscriber xs = s.withScopeNames subscriber xs := by
  unfold withScopeNames outerJoin
  rw [List.flatMap_def, List.flatMap_def]
  refine congrArg (fun l => (List.flatten l).map _) (List.map_congr_left fun x hx => ?_)
  unfold partners
  rw [filter_scopes, filter_scopes, h x hx]

/-- Rows that are rewritten but for the ids of their subscribers have the same scope names. -/
theorem withScopeNames_map {f : α → α} (s : Store)
    (h : ∀ a, (subscriber (f a)).id = (subscriber a).id) (xs : List α) :
    s.withScopeNames subscriber (xs.map f) =
      (s.withScopeNames subscriber xs).map fun r => (f r.1, r.2) := by
  have hjoin : outerJoin (fun x e => e.subscriber = (subscriber x).id) (xs.map f) (s.scopes.map id) =
      (outerJoin (fun x e => e.subscriber = (subscriber x).id) xs s.scopes).map
        fun r => (f r.1, r.2.map id) := by
    refine outerJoin_map fun a e => ?_
    rw [h, id_eq]
  rw [List.map_id] at hjoin
  unfold withScopeNames
  rw [hjoin, List.map_map, List.map_map]
  refine List.map_congr_left fun r _ => ?_
  rw [Option.map_id_fun]
  rfl

/-- The records of rows, each with the scope of its subscriber. -/
def gathered (s : Store) (subscriber : α → Subscriber) (record : α → Scope → β) (xs : List α) :
    Listing β :=
  .ofGroups record (groupRows (fun x => (subscriber x).id) (s.withScopeNames subscriber xs))

theorem gathered_congr
    (h : ∀ x ∈ xs, t.scopeTexts (subscriber x).id = s.scopeTexts (subscriber x).id) :
    t.gathered subscriber record xs = s.gathered subscriber record xs := by
  unfold gathered
  rw [withScopeNames_congr h]

/-- There is no record but those of the rows. -/
theorem mem_gathered {y : β} (hy : y ∈ (s.gathered subscriber record xs).records) :
    ∃ x ∈ xs, ∃ scope, y = record x scope := by
  obtain ⟨g, hg, rfl⟩ := List.mem_map.1 hy
  obtain ⟨⟨x, v⟩, hrow, hx⟩ := List.mem_map.1
    ((grouped_groupRows (fun x => (subscriber x).id) (s.withScopeNames subscriber xs)).shown g hg)
  obtain ⟨⟨a, o⟩, hjoin, heq⟩ := List.mem_map.1 hrow
  have hxa : a = g.1 := (congrArg Prod.fst heq).trans hx
  exact ⟨g.1, hxa ▸ (mem_outerJoin.1 hjoin).1, _, rfl⟩

/-- If rows are rewritten but for the ids of their subscribers, so are their records. -/
theorem gathered_map {f : α → α} {g : β → β} (s : Store)
    (hid : ∀ a, (subscriber (f a)).id = (subscriber a).id)
    (hrecord : ∀ a scope, record (f a) scope = g (record a scope)) (xs : List α) :
    s.gathered subscriber record (xs.map f) =
      (s.gathered subscriber record xs).arrange (List.map g) := by
  have hgroups : groupRows (fun a => (subscriber a).id)
        ((s.withScopeNames subscriber xs).map fun r => (f r.1, r.2)) =
      (groupRows (fun a => (subscriber a).id) (s.withScopeNames subscriber xs)).map
        fun g => (f g.1, g.2) := by
    apply groupRows_map
    exact hid
  unfold gathered
  rw [withScopeNames_map s hid, hgroups]
  exact Listing.ofGroups_map hrecord _

end Rows

/-! ## The views -/

section Views

variable (s : Store)

theorem subscribersIn_eq (project : Option Uuid) (accounts : List (Option String)) :
    s.subscribersIn project accounts = (s.gathered id subscriberRecord (s.subscribers.filter fun x =>
      some x.project == project && accounts.contains (some x.account))).arrange (sortById (·.id)) :=
  rfl

theorem subscriptionsWhere_eq (p : Subscriber × Project → Bool) :
    s.subscriptionsWhere p = (s.gathered Prod.fst subscriptionRecord (s.subscriptions.filter p)).arrange
      (List.mergeSort · fun a b => textPairLe (a.appDomain, a.account) (b.appDomain, b.account)) :=
  rfl

theorem accountScopesOf_eq (projectId : Option String) :
    s.accountScopesOf projectId = (s.gathered Prod.fst (fun x scope => ⟨x.1.account, scope⟩)
      (s.subscriptions.filter fun x => some x.2.projectId == projectId)).arrange
        (sortByText (·.account)) :=
  rfl

end Views

end Store

end SubscriptionRegistry
