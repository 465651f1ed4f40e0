import SubscriptionRegistry.View.Rows

/-!
# Rows of joins and groups

* `innerJoin_eq_map`, `map_fst_outerJoin`: if no row has two partners, a join has no row twice.
* `mem_innerJoin`, `mem_outerJoin`, `mem_partners`: the pairs that a join has.
* `filter_innerJoin`, `filter_fst_outerJoin`: rows that are left out before the join or after it.
* `Grouped`: each key of the rows has one group, with what the rows of that key have for it.
  `grouped_groupRows`: gathering the rows makes such groups, in whatever order the rows come.
* `flatMap_snd_groupRows`: gathering the rows loses nothing of them and takes nothing twice.
* `head_groupRows`: the first group is that of the first row.
* `innerJoin_map`, `outerJoin_map`, `groupRows_map`: rows that are rewritten but for what they are
  joined and grouped by.
-/

namespace SubscriptionRegistry

variable {α β κ : Type}

/-! ## Joins -/

section Joins

variable {on : α → β → Bool} {as : List α} {bs : List β} {a : α} {o : Option β}

/-- If every row has one partner, a join has each row with its partner. -/
theorem innerJoin_eq_map {f : α → β} (h : ∀ a ∈ as, bs.filter (on a) = [f a]) :
    innerJoin on as bs = as.map fun a => (a, f a) := by
  rw [innerJoin, List.map_eq_flatMap, List.flatMap_def, List.flatMap_def]
  refine congrArg List.flatten (List.map_congr_left fun a ha => ?_)
  rw [h a ha]
  rfl

/-- Rows of the first table that no pair which is kept has may be left out before the join. -/
theorem filter_innerJoin {p : α × β → Bool} {q : α → Bool}
    (h : ∀ a, ∀ b ∈ bs, on a b = true → p (a, b) = true → q a = true) :
    (innerJoin on as bs).filter p = (innerJoin on (as.filter q) bs).filter p := by
  unfold innerJoin
  induction as with
  | nil => rfl
  | cons a as ih =>
    rw [List.flatMap_cons, List.filter_append, ih]
    cases hq : q a with
    | true => rw [List.filter_cons_of_pos hq, List.flatMap_cons, List.filter_append]
    | false =>
      have hnone : ((bs.filter (on a)).map fun b => (a, b)).filter p = [] := by
        refine List.filter_eq_nil_iff.2 fun r hr hp => ?_
        obtain ⟨b, hb, rfl⟩ := List.mem_map.1 hr
        obtain ⟨hb, hon⟩ := List.mem_filter.1 hb
        rw [h a b hb hon hp] at hq
        cases hq
      rw [hnone, List.nil_append, List.filter_cons_of_neg (by rw [hq]; exact Bool.false_ne_true)]

theorem mem_innerJoin {b : β} : (a, b) ∈ innerJoin on as bs ↔ a ∈ as ∧ b ∈ bs ∧ on a b = true := by
  simp only [innerJoin, List.mem_flatMap, List.mem_map, List.mem_filter, Prod.mk.injEq]
  constructor
  · rintro ⟨_, ha, _, ⟨hb, hon⟩, rfl, rfl⟩
    exact ⟨ha, hb, hon⟩
  · rintro ⟨ha, hb, hon⟩
    exact ⟨a, ha, b, ⟨hb, hon⟩, rfl, rfl⟩

theorem mem_partners : o ∈ partners on bs a ↔
    (∃ b ∈ bs, on a b = true ∧ o = some b) ∨ (o = none ∧ ∀ b ∈ bs, on a b = false) := by
  unfold partners
  split
  · rename_i hnil
    have hno : ∀ b ∈ bs, on a b = false := fun b hb =>
      Bool.eq_false_iff.2 (List.filter_eq_nil_iff.1 hnil b hb)
    rw [List.mem_singleton]
    constructor
    · exact fun h => .inr ⟨h, hno⟩
    · rintro (⟨b, hb, hon, -⟩ | ⟨h, -⟩)
      · rw [hno b hb] at hon
        cases hon
      · exact h
  · rename_i hne
    simp only [List.mem_map, List.mem_filter]
    constructor
    · rintro ⟨b, ⟨hb, hon⟩, rfl⟩
      exact .inl ⟨b, hb, hon, rfl⟩
    · rintro (⟨b, hb, hon, rfl⟩ | ⟨-, hno⟩)
      · exact ⟨b, ⟨hb, hon⟩, rfl⟩
      · refine absurd (List.filter_eq_nil_iff.2 fun b hb => ?_) hne
        rw [hno b hb]
        exact Bool.false_ne_true

theorem mem_outerJoin : (a, o) ∈ outerJoin on as bs ↔ a ∈ as ∧ o ∈ partners on bs a := by
  simp only [outerJoin, List.mem_flatMap, List.mem_map, Prod.mk.injEq]
  constructor
  · rintro ⟨_, ha, _, ho, rfl, rfl⟩
    exact ⟨ha, ho⟩
  · rintro ⟨ha, ho⟩
    exact ⟨a, ha, o, ho, rfl, rfl⟩

/-- Each row of the first table is there once if it has one partner at most. -/
theorem map_fst_outerJoin (h : ∀ a ∈ as, (bs.filter (on a)).length ≤ 1) :
    (outerJoin on as bs).map Prod.fst = as := by
  unfold outerJoin
  induction as with
  | nil => rfl
  | cons a as ih =>
    have hone : ∃ o, partners on bs a = [o] := by
      unfold partners
      cases hb : bs.filter (on a) with
      | nil => exact ⟨none, rfl⟩
      | cons b rest =>
        have hlen := h a List.mem_cons_self
        rw [hb, List.length_cons] at hlen
        rw [List.length_eq_zero_iff.1 (by omega : rest.length = 0)]
        exact ⟨some b, rfl⟩
    obtain ⟨o, ho⟩ := hone
    rw [List.flatMap_cons, List.map_append, ih fun a' ha' => h a' (List.mem_cons_of_mem a ha'), ho]
    rfl

/-- Rows of the first table may be left out before the join or after it. -/
theorem filter_fst_outerJoin (p : α → Bool) :
    (outerJoin on as bs).filter (fun r => p r.1) = outerJoin on (as.filter p) bs := by
  unfold outerJoin
  induction as with
  | nil => rfl
  | cons a as ih =>
    rw [List.flatMap_cons, List.filter_append, ih, List.filter_map]
    cases hp : p a with
    | true =>
      have hall : (partners on bs a).filter ((fun r : α × Option β => p r.1) ∘ fun o => (a, o)) =
          partners on bs a := List.filter_eq_self.2 fun _ _ => hp
      rw [hall, List.filter_cons_of_pos hp, List.flatMap_cons]
    | false =>
      have hnone : (partners on bs a).filter ((fun r : α × Option β => p r.1) ∘ fun o => (a, o)) =
          [] := List.filter_eq_nil_iff.2 fun _ _ => by simp [hp]
      rw [hnone, List.filter_cons_of_neg (by simp [hp])]
      rfl

/-! ### Joins of rewritten rows -/

section Map

variable {α' β' : Type} {f : α → α'} {g : β → β'} {on' : α' → β' → Bool}

/-- Rows may be left out before they are rewritten, if the predicates agree. -/
theorem filter_map_of_agree {p : β → Bool} {q : β' → Bool} (h : ∀ b, q (g b) = p b) (bs : List β) :
    (bs.map g).filter q = (bs.filter p).map g := by
  rw [List.filter_map]
  exact congrArg (List.map g) (List.filter_congr fun b _ => h b)

/-- Rows that are rewritten but for what they are joined by are joined as they were. -/
theorem innerJoin_map (h : ∀ a b, on' (f a) (g b) = on a b) :
    innerJoin on' (as.map f) (bs.map g) = (innerJoin on as bs).map fun r => (f r.1, g r.2) := by
  unfold innerJoin
  rw [List.flatMap_map, List.map_flatMap, List.flatMap_def, List.flatMap_def]
  refine congrArg List.flatten (List.map_congr_left fun a _ => ?_)
  rw [filter_map_of_agree (h a), List.map_map, List.map_map]
  rfl

theorem partners_map (h : ∀ a b, on' (f a) (g b) = on a b) (a : α) :
    partners on' (bs.map g) (f a) = (partners on bs a).map (Option.map g) := by
  unfold partners
  rw [filter_map_of_agree (h a)]
  cases bs.filter (on a) with
  | nil => rfl
  | cons b rest =>
    simp only [List.map_cons, List.map_map]
    rfl

theorem outerJoin_map (h : ∀ a b, on' (f a) (g b) = on a b) :
    outerJoin on' (as.map f) (bs.map g) = (outerJoin on as bs).map fun r => (f r.1, r.2.map g) := by
  unfold outerJoin
  rw [List.flatMap_map, List.map_flatMap, List.flatMap_def, List.flatMap_def]
  refine congrArg List.flatten (List.map_congr_left fun a _ => ?_)
  rw [partners_map h, List.map_map, List.map_map]
  rfl

end Map

end Joins

/-! ## Groups -/

section Groups

variable [DecidableEq κ] {key : α → κ} {rows : List (α × β)} {gs : List (α × List β)}

/-- The groups of rows: one for each key, with the second parts of the rows that have it. -/
structure Grouped (key : α → κ) (rows : List (α × β)) (gs : List (α × List β)) : Prop where
  nodup : (gs.map fun g => key g.1).Nodup
  shown : ∀ g ∈ gs, g.1 ∈ rows.map Prod.fst
  members : ∀ g ∈ gs, g.2 = (rows.filter fun r => key r.1 = key g.1).map Prod.snd
  complete : ∀ r ∈ rows, ∃ g ∈ gs, key g.1 = key r.1

/-- A row is added to the group of its key, or a new group is put at the end. -/
theorem addToGroup_cases (key : α → κ) (a : α) (b : β) (gs : List (α × List β)) :
    (∃ before a' bs after, gs = before ++ (a', bs) :: after ∧ key a' = key a ∧
        addToGroup key a b gs = before ++ (a', bs ++ [b]) :: after) ∨
      ((∀ g ∈ gs, key g.1 ≠ key a) ∧ addToGroup key a b gs = gs ++ [(a, [b])]) := by
  induction gs with
  | nil => exact .inr ⟨nofun, rfl⟩
  | cons g gs ih =>
    obtain ⟨a', bs⟩ := g
    by_cases hk : key a' = key a
    · exact .inl ⟨[], a', bs, gs, rfl, hk, if_pos hk⟩
    · have hadd : addToGroup key a b ((a', bs) :: gs) = (a', bs) :: addToGroup key a b gs :=
        if_neg hk
      rcases ih with ⟨before, c, cs, after, rfl, hc, h⟩ | ⟨hno, h⟩
      · exact .inl ⟨(a', bs) :: before, c, cs, after, rfl, hc, by rw [hadd, h]; rfl⟩
      · refine .inr ⟨fun g hg => ?_, by rw [hadd, h]; rfl⟩
        rcases List.mem_cons.1 hg with rfl | hg
        · exact hk
        · exact hno g hg

theorem filter_snoc_of_eq {a : α} {b : β} {k : κ} (h : key a = k) :
    ((rows ++ [(a, b)]).filter fun r => key r.1 = k).map Prod.snd =
      (rows.filter fun r => key r.1 = k).map Prod.snd ++ [b] := by
  simp [List.filter_append, h]

theorem filter_snoc_of_ne {a : α} {b : β} {k : κ} (h : key a ≠ k) :
    ((rows ++ [(a, b)]).filter fun r => key r.1 = k).map Prod.snd =
      (rows.filter fun r => key r.1 = k).map Prod.snd := by
  simp [List.filter_append, h]

/-- A row joins the group of its key. -/
theorem Grouped.snoc_old {before after : List (α × List β)} {a a' : α} {bs : List β}
    (h : Grouped key rows (before ++ (a', bs) :: after)) (hk : key a' = key a) (b : β) :
    Grouped key (rows ++ [(a, b)]) (before ++ (a', bs ++ [b]) :: after) := by
  -- The keys of the groups stay as they are, and that of the row is among them only once.
  have hkeys : ((before ++ (a', bs ++ [b]) :: after).map fun g => key g.1) =
      (before ++ (a', bs) :: after).map fun g => key g.1 := by
    simp only [List.map_append, List.map_cons]
  have hother : ∀ g, g ∈ before ∨ g ∈ after → key g.1 ≠ key a' := by
    have hnodup := h.nodup
    rw [List.map_append, List.map_cons, List.nodup_append] at hnodup
    obtain ⟨-, hafter, hbefore⟩ := hnodup
    rintro g (hg | hg) hga
    · exact hbefore _ (List.mem_map_of_mem hg) _ List.mem_cons_self hga
    · refine (List.nodup_cons.1 hafter).1 ?_
      rw [← hga]
      exact List.mem_map_of_mem hg
  have hmem : ∀ {g}, g ∈ before ++ (a', bs ++ [b]) :: after →
      g = (a', bs ++ [b]) ∨ (g ∈ before ++ (a', bs) :: after ∧ key g.1 ≠ key a') := fun {g} hg => by
    rcases List.mem_append.1 hg with hg | hg
    · exact .inr ⟨List.mem_append_left _ hg, hother g (.inl hg)⟩
    · rcases List.mem_cons.1 hg with rfl | hg
      · exact .inl rfl
      · exact .inr ⟨List.mem_append_right _ (List.mem_cons_of_mem _ hg), hother g (.inr hg)⟩
  have hself : (a', bs) ∈ before ++ (a', bs) :: after :=
    List.mem_append_right _ List.mem_cons_self
  refine ⟨hkeys ▸ h.nodup, fun g hg => ?_, fun g hg => ?_, fun r hr => ?_⟩
  · rw [List.map_append]
    refine List.mem_append_left _ ?_
    rcases hmem hg with rfl | ⟨hg, -⟩
    · exact h.shown (a', bs) hself
    · exact h.shown g hg
  · rcases hmem hg with rfl | ⟨hg, hne⟩
    · rw [filter_snoc_of_eq hk.symm, ← h.members (a', bs) hself]
    · rw [filter_snoc_of_ne (hk ▸ hne.symm), h.members g hg]
  · have hin : key r.1 ∈ (before ++ (a', bs) :: after).map fun g => key g.1 := by
      rcases List.mem_append.1 hr with hr | hr
      · obtain ⟨g, hg, hgr⟩ := h.complete r hr
        exact hgr ▸ List.mem_map_of_mem hg
      · rw [List.mem_singleton.1 hr, ← hk]
        exact List.mem_map_of_mem hself
    rw [← hkeys] at hin
    obtain ⟨g, hg, hgr⟩ := List.mem_map.1 hin
    exact ⟨g, hg, hgr⟩

/-- A row whose key has no group makes one. -/
theorem Grouped.snoc_new {a : α} (h : Grouped key rows gs) (hno : ∀ g ∈ gs, key g.1 ≠ key a)
    (b : β) : Grouped key (rows ++ [(a, b)]) (gs ++ [(a, [b])]) := by
  refine ⟨?_, fun g hg => ?_, fun g hg => ?_, fun r hr => ?_⟩
  · rw [List.map_append, List.nodup_append]
    refine ⟨h.nodup, by simp, ?_⟩
    rintro _ hg _ hs rfl
    obtain ⟨g, hg, hgk⟩ := List.mem_map.1 hg
    exact hno g hg (hgk.trans (List.mem_singleton.1 hs))
  · rw [List.map_append, List.mem_append]
    rcases List.mem_append.1 hg with hg | hg
    · exact .inl (h.shown g hg)
    · rw [List.mem_singleton.1 hg]
      exact .inr List.mem_cons_self
  · rcases List.mem_append.1 hg with hg | hg
    · rw [filter_snoc_of_ne (hno g hg).symm, h.members g hg]
    · -- No row before had the key of the new group.
      have hnone : (rows.filter fun r => key r.1 = key a) = [] := by
        refine List.filter_eq_nil_iff.2 fun r hr hra => ?_
        obtain ⟨g', hg', hgr⟩ := h.complete r hr
        exact hno g' hg' (hgr.trans (of_decide_eq_true hra))
      rw [List.mem_singleton.1 hg, filter_snoc_of_eq rfl, hnone]
      rfl
  · rcases List.mem_append.1 hr with hr | hr
    · obtain ⟨g, hg, hgr⟩ := h.complete r hr
      exact ⟨g, List.mem_append_left _ hg, hgr⟩
    · rw [List.mem_singleton.1 hr]
      exact ⟨(a, [b]), List.mem_append_right _ List.mem_cons_self, rfl⟩

theorem Grouped.snoc (h : Grouped key rows gs) (a : α) (b : β) :
    Grouped key (rows ++ [(a, b)]) (addToGroup key a b gs) := by
  rcases addToGroup_cases key a b gs with ⟨before, a', bs, after, rfl, hk, hadd⟩ | ⟨hno, hadd⟩
  · rw [hadd]
    exact h.snoc_old hk b
  · rw [hadd]
    exact h.snoc_new hno b

/-- The rows that follow join the groups one after the other. -/
theorem Grouped.foldl (h : Grouped key rows gs) (rest : List (α × β)) :
    Grouped key (rows ++ rest) (rest.foldl (fun gs r => addToGroup key r.1 r.2 gs) gs) := by
  induction rest generalizing rows gs with
  | nil =>
    rw [List.append_nil]
    exact h
  | cons r rest ih =>
    rw [List.append_cons]
    exact ih (h.snoc r.1 r.2)

theorem grouped_groupRows (key : α → κ) (rows : List (α × β)) :
    Grouped key rows (groupRows key rows) := by
  have hnil : Grouped key ([] : List (α × β)) [] := ⟨List.nodup_nil, nofun, nofun, nofun⟩
  exact hnil.foldl rows

/-- A second part is added to those of all groups. -/
theorem flatMap_snd_addToGroup (key : α → κ) (a : α) (b : β) (gs : List (α × List β)) :
    ((addToGroup key a b gs).flatMap Prod.snd).Perm (gs.flatMap Prod.snd ++ [b]) := by
  rcases addToGroup_cases key a b gs with ⟨before, a', bs, after, rfl, -, h⟩ | ⟨-, h⟩
  · have hlast : ((bs ++ [b]) ++ after.flatMap Prod.snd).Perm
        (bs ++ (after.flatMap Prod.snd ++ [b])) := by
      rw [List.append_assoc]
      exact List.perm_append_comm.append_left bs
    simp only [h, List.flatMap_append, List.flatMap_cons, List.append_assoc] at hlast ⊢
    exact hlast.append_left _
  · simp [h]

/-- No second part is lost in gathering, and none comes twice. -/
theorem flatMap_snd_groupRows (key : α → κ) (rows : List (α × β)) :
    ((groupRows key rows).flatMap Prod.snd).Perm (rows.map Prod.snd) := by
  have hfold : ∀ gs : List (α × List β),
      ((rows.foldl (fun gs r => addToGroup key r.1 r.2 gs) gs).flatMap Prod.snd).Perm
        (gs.flatMap Prod.snd ++ rows.map Prod.snd) := by
    induction rows with
    | nil => simp
    | cons r rows ih =>
      intro gs
      have hadd := (flatMap_snd_addToGroup key r.1 r.2 gs).append_right (rows.map Prod.snd)
      rw [List.append_assoc] at hadd
      exact (ih (addToGroup key r.1 r.2 gs)).trans hadd
  exact hfold []

/-- The first group stays the first, and shows the same row. -/
theorem head_foldl_addToGroup (key : α → κ) (a : α) (rest : List (α × β)) (bs : List β)
    (gs : List (α × List β)) : ∃ bs' gs',
      rest.foldl (fun gs r => addToGroup key r.1 r.2 gs) ((a, bs) :: gs) = (a, bs') :: gs' := by
  induction rest generalizing bs gs with
  | nil => exact ⟨bs, gs, rfl⟩
  | cons r rest ih =>
    rw [List.foldl_cons, addToGroup]
    split
    · exact ih _ _
    · exact ih _ _

theorem head_groupRows (key : α → κ) (r : α × β) (rows : List (α × β)) :
    ∃ bs gs, groupRows key (r :: rows) = (r.1, bs) :: gs :=
  head_foldl_addToGroup key r.1 rows [r.2] []

/-- Rows that are rewritten but for their keys are grouped as they were. -/
theorem addToGroup_map {α' : Type} {f : α → α'} {key' : α' → κ} (h : ∀ a, key' (f a) = key a) (a : α)
    (b : β) (gs : List (α × List β)) :
    addToGroup key' (f a) b (gs.map fun g => (f g.1, g.2)) =
      (addToGroup key a b gs).map fun g => (f g.1, g.2) := by
  induction gs with
  | nil => rfl
  | cons g gs ih =>
    obtain ⟨a', bs⟩ := g
    simp only [List.map_cons, addToGroup, h]
    by_cases hk : key a' = key a
    · simp only [if_pos hk, List.map_cons]
    · simp only [if_neg hk, List.map_cons, ih]

theorem groupRows_map {α' : Type} {f : α → α'} {key' : α' → κ} (h : ∀ a, key' (f a) = key a)
    (rows : List (α × β)) :
    groupRows key' (rows.map fun r => (f r.1, r.2)) =
      (groupRows key rows).map fun g => (f g.1, g.2) := by
  have hfold : ∀ gs : List (α × List β),
      (rows.map fun r => (f r.1, r.2)).foldl (fun gs r => addToGroup key' r.1 r.2 gs)
          (gs.map fun g => (f g.1, g.2)) =
        (rows.foldl (fun gs r => addToGroup key r.1 r.2 gs) gs).map fun g => (f g.1, g.2) := by
    induction rows with
    | nil => exact fun gs => rfl
    | cons r rows ih =>
      intro gs
      rw [List.map_cons, List.foldl_cons, List.foldl_cons, addToGroup_map h, ih]
  exact hfold []

end Groups

end SubscriptionRegistry
