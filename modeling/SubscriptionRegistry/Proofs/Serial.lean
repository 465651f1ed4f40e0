import SubscriptionRegistry.Proofs.Atomicity
import SubscriptionRegistry.Proofs.Journal

/-!
# Runs are serial

Whatever sessions do, with units in units, rollbacks and faults, the committed store is what the
committed writes make of the first store when they are made one after the other, and a session
sees what the writes visible to it make.

* `Replays s₀ deeds s`: the deeds, made one after the other, turn `s₀` into `s`, and each
  succeeds with the reply that it had.
* `Journal.within`: the writes that a session would still see after undoing its levels above one.
* `Journal.Tells`: the invariant. Each level of each session holds what the writes up to it make,
  and only the writer has pending writes.
* `Journal.Tells.record`: every move keeps it. `Script.tells`: it holds at every point of a run.
* `Replays.run`: deeds can be made again, each in a unit of one session. `Script.run_serial`: made
  again, the committed writes of a run leave the store that the run leaves.
-/

namespace SubscriptionRegistry

/-- The deeds, made one after the other, turn `s₀` into the store, each with its reply. -/
inductive Replays (s₀ : Store) : List Deed → Store → Prop
  | nil : Replays s₀ [] s₀
  | snoc {deeds : List Deed} {deed : Deed} {s s' : Store} : Replays s₀ deeds s →
      deed.write.Turns deed.clock s s' deed.reply → Replays s₀ (deeds ++ [deed]) s'

/-- Of the deeds, made from `s₀` on, one has brought something about: that deed has `made` it, on a
store `without` it, and it is `present` in every store since. -/
def Emerged (s₀ : Store) (made : Deed → Prop) (without present : Store → Prop)
    (deeds : List Deed) : Prop :=
  ∃ before deed after, deeds = before ++ deed :: after ∧ made deed ∧
    (∃ s, Replays s₀ before s ∧ without s) ∧
    ∀ since rest, after = since ++ rest → ∃ s, Replays s₀ (before ++ deed :: since) s ∧ present s

namespace Emerged

variable {s₀ s s' : Store} {made : Deed → Prop} {without present : Store → Prop} {deeds : List Deed}
  {deed : Deed}

theorem new (hm : made deed) (hr : Replays s₀ deeds s) (hw : without s)
    (hr' : Replays s₀ (deeds ++ [deed]) s') (hp : present s') :
    Emerged s₀ made without present (deeds ++ [deed]) := by
  refine ⟨deeds, deed, [], rfl, hm, ⟨s, hr, hw⟩, fun since rest hnil => ?_⟩
  obtain ⟨rfl, -⟩ := List.append_eq_nil_iff.1 hnil.symm
  exact ⟨s', hr', hp⟩

/-- What is still present after one more deed has been so ever since. -/
theorem snoc (h : Emerged s₀ made without present deeds) (hr : Replays s₀ (deeds ++ [deed]) s')
    (hp : present s') : Emerged s₀ made without present (deeds ++ [deed]) := by
  obtain ⟨before, maker, after, rfl, hm, hw, hsince⟩ := h
  refine ⟨before, maker, after ++ [deed], by simp, hm, hw, fun since rest hafter => ?_⟩
  rcases List.eq_nil_or_concat rest with rfl | ⟨rest', last, rfl⟩
  · rw [List.append_nil] at hafter
    rw [← hafter]
    exact ⟨s', by simpa using hr, hp⟩
  · rw [List.concat_eq_append, ← List.append_assoc] at hafter
    obtain ⟨rfl, -⟩ := List.append_inj' hafter rfl
    exact hsince since rest' rfl

end Emerged

/-- A property of the store at each level, counted from the outermost, which comes last. -/
def EachLevel (P : Nat → Store → Prop) : List Store → Prop
  | [] => True
  | s :: outer => P outer.length s ∧ EachLevel P outer

theorem EachLevel.imp {P Q : Nat → Store → Prop} {l : List Store} (h : EachLevel P l)
    (hpq : ∀ n < l.length, ∀ s, P n s → Q n s) : EachLevel Q l := by
  induction l with
  | nil => trivial
  | cons s outer ih =>
    refine ⟨hpq _ (by simp) s h.1, ih h.2 fun n hn => hpq n ?_⟩
    simp only [List.length_cons]
    omega

theorem EachLevel.of_append {P : Nat → Store → Prop} {inner outer : List Store}
    (h : EachLevel P (inner ++ outer)) : EachLevel P outer := by
  induction inner with
  | nil => exact h
  | cons s inner ih => exact ih h.2

/-- The last store is that of level zero. -/
theorem EachLevel.last {P : Nat → Store → Prop} {inner : List Store} {s : Store}
    (h : EachLevel P (inner ++ [s])) : P 0 s :=
  h.of_append.1

theorem EachLevel.of_forall {P : Nat → Store → Prop} {l : List Store}
    (h : ∀ n, ∀ s ∈ l, P n s) : EachLevel P l := by
  induction l with
  | nil => trivial
  | cons s outer ih =>
    exact ⟨h _ s List.mem_cons_self, ih fun n t ht => h n t (List.mem_cons_of_mem _ ht)⟩

namespace Journal

variable {s₀ : Store} {j : Journal} {d d' : Database} {i k : SessionId} {n m : Nat}

/-! ## The writes up to a level -/

/-- Whether an entry is committed, or pending in session `i` at level `n` or further out. -/
def Entry.isWithin (i : SessionId) (n : Nat) (e : Entry) : Bool :=
  e.level.any fun l => l = 0 ∨ (e.session = i ∧ l ≤ n)

/-- The writes that session `i` would see if it had undone its levels above `n`. -/
def within (j : Journal) (i : SessionId) (n : Nat) : List Deed :=
  (j.entries.filter (·.isWithin i n)).map (·.deed)

theorem isWithin_zero (i : SessionId) (e : Entry) :
    e.isWithin i 0 = decide (e.level = some 0) := by
  rcases h : e.level with _ | l <;> simp [Entry.isWithin, h]

theorem within_zero (j : Journal) (i : SessionId) : j.within i 0 = j.durable := by
  unfold within durable
  simp only [isWithin_zero]

/-- Changing the levels of entries changes the writes up to a level as the test of it changes. -/
theorem map_deed_filter_map {f : Entry → Entry} {p q : Entry → Bool} {l : List Entry}
    (hd : ∀ e, (f e).deed = e.deed) (hpq : ∀ e ∈ l, p (f e) = q e) :
    ((l.map f).filter p).map (·.deed) = (l.filter q).map (·.deed) := by
  have hc : l.filter (p ∘ f) = l.filter q := List.filter_congr hpq
  rw [List.filter_map, List.map_map, hc]
  exact List.map_congr_left fun e _ => hd e

/-- Work that is kept at level `n` does not reach the levels further out. -/
theorem within_keep_of_lt (j : Journal) (i : SessionId) (hm : m < n) :
    (j.keep i n).within i m = j.within i m := by
  refine map_deed_filter_map (deed_relevel i _) fun e _ => ?_
  unfold Entry.relevel
  split
  · rename_i hi
    rcases hl : e.level with _ | l
    · simp [Entry.isWithin, hl]
    · simp only [Entry.isWithin, hl, hi, Option.bind_some, Option.any_some, true_and,
        decide_eq_decide]
      omega
  · rfl

/-- Work that is kept at level `n` is there with what the level had. -/
theorem within_keep_self (hb : ∀ e ∈ j.entries, ∀ l, e.level = some l → l ≤ j.depth e.session) :
    (j.keep i n).within i n = j.within i (j.depth i) := by
  refine map_deed_filter_map (deed_relevel i _) fun e he => ?_
  unfold Entry.relevel
  rcases hl : e.level with _ | l
  · split <;> simp [Entry.isWithin, hl]
  · have hle := hb e he l hl
    split
    · rename_i hi
      rw [hi] at hle
      have hmin : min n l ≤ n := Nat.min_le_left n l
      simp [Entry.isWithin, hl, hi, hle, hmin]
    · rename_i hi
      simp [Entry.isWithin, hl, hi]

/-- Undoing the levels above `n` loses nothing of the levels up to it. -/
theorem within_undo_of_le (j : Journal) (i : SessionId) (hm : m ≤ n) :
    (j.undo i n).within i m = j.within i m := by
  refine map_deed_filter_map (deed_relevel i _) fun e _ => ?_
  unfold Entry.relevel
  split
  · rename_i hi
    rcases hl : e.level with _ | l
    · simp [Entry.isWithin, hl]
    · by_cases hln : l ≤ n
      · simp [Entry.isWithin, hl, hi, hln]
      · have h0 : l ≠ 0 := by omega
        have hlm : ¬ l ≤ m := by omega
        simp [Entry.isWithin, hl, hi, hln, h0, hlm]
  · rfl

/-- Session `i` has no pending writes. -/
def Quiet (j : Journal) (i : SessionId) : Prop :=
  ∀ e ∈ j.entries, e.session = i → ∀ l, e.level = some l → l = 0

theorem Quiet.within (h : j.Quiet i) (n : Nat) : j.within i n = j.durable := by
  rw [← within_zero j i]
  unfold Journal.within
  congr 1
  refine List.filter_congr fun e he => ?_
  rcases hl : e.level with _ | l
  · simp [Entry.isWithin, hl]
  · by_cases hi : e.session = i
    · have h0 : l = 0 := h e he hi l hl
      simp [Entry.isWithin, hl, h0]
    · simp [Entry.isWithin, hl, hi]

/-- Without pending writes the end of levels moves none. -/
theorem Quiet.entries_endLevels {f : Nat → Option Nat} (h : j.Quiet i) (hf : f 0 = some 0) :
    (j.endLevels i n f).entries = j.entries := by
  refine (List.map_congr_left fun e he => ?_).trans (List.map_id _)
  unfold Entry.relevel
  split
  · rename_i hi
    obtain ⟨k, level, deed⟩ := e
    cases level with
    | none => rfl
    | some l =>
      have h0 : l = 0 := h _ he hi l rfl
      simp [h0, hf]
  · rfl

theorem within_wrote_of_le {deed : Deed} (hn : j.depth i ≤ n) :
    (j.record (.wrote i deed)).within i n = j.within i n ++ [deed] := by
  simp [within, record, Entry.isWithin, hn]

theorem within_wrote_of_lt {deed : Deed} (hn : n < j.depth i) :
    (j.record (.wrote i deed)).within i n = j.within i n := by
  have h0 : j.depth i ≠ 0 := by omega
  have hle : ¬ j.depth i ≤ n := by omega
  simp [within, record, Entry.isWithin, h0, hle]

theorem within_congr {j' : Journal} (h : j'.entries = j.entries) (k : SessionId) (n : Nat) :
    j'.within k n = j.within k n := by
  unfold within
  rw [h]

/-! ## The invariant -/

/-- What the journal `j` of a run from the store `s₀` tells of the database `d`. -/
structure Tells (s₀ : Store) (j : Journal) (d : Database) : Prop where
  valid : d.Valid
  depth : ∀ i, j.depth i = d.depth i
  bounded : ∀ e ∈ j.entries, ∀ l, e.level = some l → l ≤ j.depth e.session
  /-- Only the writer has pending writes. -/
  pending : ∀ e ∈ j.entries, ∀ l, e.level = some l → l ≠ 0 → d.isWriter e.session = true
  durable : Replays s₀ j.durable d.committed
  /-- Each level of the writer holds what the writes up to it make. -/
  writing : ∀ i, d.isWriter i = true →
    EachLevel (fun n s => Replays s₀ (j.within i n) s) (d.levels i)

theorem tells_ofStore (s : Store) : Tells s empty (.ofStore s) where
  valid := Database.valid_ofStore s
  depth _ := rfl
  bounded e he := by cases he
  pending e he := by cases he
  durable := .nil
  writing i hi := by cases hi

theorem Tells.quiet (h : Tells s₀ j d) (hi : d.isWriter i = false) : j.Quiet i := by
  intro e he hei l hl
  by_cases h0 : l = 0
  · exact h0
  · have hw := h.pending e he l hl h0
    rw [hei, hi] at hw
    cases hw

/-- Each level of each session, writer or not, holds what the writes up to it make. -/
theorem Tells.levels (h : Tells s₀ j d) (i : SessionId) :
    EachLevel (fun n s => Replays s₀ (j.within i n) s) (d.levels i) := by
  cases hi : d.isWriter i with
  | true => exact h.writing i hi
  | false =>
    refine .of_forall fun n s hs => ?_
    rw [(h.quiet hi).within, h.valid.eq_committed_of_mem_levels hi hs]
    exact h.durable

/-- Up to its innermost level a session sees all that is visible to it. -/
theorem within_of_le (hb : ∀ e ∈ j.entries, ∀ l, e.level = some l → l ≤ j.depth e.session)
    (hn : j.depth i ≤ n) : j.within i n = j.visible i := by
  unfold within visible
  congr 1
  refine List.filter_congr fun e he => ?_
  rcases hl : e.level with _ | l
  · simp [Entry.isWithin, hl]
  · have hle := hb e he l hl
    by_cases hi : e.session = i
    · rw [hi] at hle
      have hln : l ≤ n := by omega
      simp [Entry.isWithin, hl, hi, hln]
    · simp [Entry.isWithin, hl, hi]

/-- A session sees what the writes visible to it make. -/
theorem Tells.view (h : Tells s₀ j d) (i : SessionId) : Replays s₀ (j.visible i) (d.view i) := by
  obtain ⟨outer, ho, hn⟩ := Database.levels_eq_cons d i
  have hl := h.levels i
  rw [ho] at hl
  have hv := hl.1
  rwa [hn, ← h.depth i, within_of_le h.bounded (Nat.le_refl _)] at hv

/-- The committed store is the outermost level of any session. -/
theorem durable_of_levels (h : EachLevel (fun n s => Replays s₀ (j.within i n) s) (d.levels i)) :
    Replays s₀ j.durable d.committed := by
  obtain ⟨inner, hl⟩ := Database.levels_eq_append d i
  rw [hl] at h
  have hlast := h.last
  rwa [within_zero] at hlast

/-! ## Moves keep the invariant -/

theorem Tells.setDepth (h : Tells s₀ j d) (hd : d'.depth i = n)
    (ho : ∀ k, k ≠ i → d'.transaction? k = d.transaction? k) (k : SessionId) :
    setDepth j.depth i n k = d'.depth k := by
  by_cases hk : k = i
  · rw [hk, setDepth_self, hd]
  · rw [setDepth_ne j.depth n hk, Database.depth_congr (ho k hk), h.depth k]

/-- Session `i` ends its levels above `n`. It is enough that its own levels tell what they
should. -/
theorem Tells.endLevels {f : Nat → Option Nat} (h : Tells s₀ j d) (hv : d'.Valid)
    (hd : d'.depth i = n) (ho : ∀ k, k ≠ i → d'.transaction? k = d.transaction? k)
    (hw : n ≠ 0 → d.isWriter i = true → d'.isWriter i = true)
    (hc : d.isWriter i = false → d'.committed = d.committed)
    (hf : f 0 = some 0) (hfn : ∀ l m, f l = some m → m ≤ n ∧ (l = 0 → m = 0))
    (hlev : EachLevel (fun m s => Replays s₀ ((j.endLevels i n f).within i m) s) (d'.levels i)) :
    Tells s₀ (j.endLevels i n f) d' := by
  refine ⟨hv, h.setDepth hd ho, fun e he l hel => ?_, fun e he l hel h0 => ?_,
    durable_of_levels hlev, fun k hk => ?_⟩
  · obtain ⟨e₀, he₀, hs, -, ⟨hi, hlevel⟩ | ⟨hi, hlevel⟩⟩ := mem_endLevels he
    · rw [hlevel] at hel
      obtain ⟨l₀, -, hfl⟩ := Option.bind_eq_some_iff.1 hel
      rw [hs, hi, depth_endLevels, setDepth_self]
      exact (hfn l₀ l hfl).1
    · rw [hlevel] at hel
      rw [hs, depth_endLevels, setDepth_ne j.depth n hi]
      exact h.bounded e₀ he₀ l hel
  · obtain ⟨e₀, he₀, hs, -, ⟨hi, hlevel⟩ | ⟨hi, hlevel⟩⟩ := mem_endLevels he
    · rw [hlevel] at hel
      obtain ⟨l₀, hl₀, hfl⟩ := Option.bind_eq_some_iff.1 hel
      obtain ⟨hln, hl0⟩ := hfn l₀ l hfl
      have hwi := h.pending e₀ he₀ l₀ hl₀ fun heq => h0 (hl0 heq)
      rw [hi] at hwi
      rw [hs, hi]
      exact hw (by omega) hwi
    · rw [hlevel] at hel
      rw [hs, Database.isWriter_congr (ho _ hi)]
      exact h.pending e₀ he₀ l hel h0
  · by_cases hki : k = i
    · exact hki ▸ hlev
    · -- Another session is the writer, so `i` has no pending entry that could have moved.
      have hkw : d.isWriter k = true := by rwa [Database.isWriter_congr (ho k hki)] at hk
      have hiw : d.isWriter i = false := by
        rw [← Bool.not_eq_true]
        exact fun hi => hki (h.valid.single k i hkw hi)
      rw [Database.levels_congr (ho k hki) (hc hiw)]
      refine (h.writing k hkw).imp fun m _ s hs => ?_
      rwa [within_congr ((h.quiet hiw).entries_endLevels hf)]

/-- The levels above `n` are kept: of the levels, `outer` stay below what the session sees. -/
theorem Tells.keep (inner outer : List Store) (h : Tells s₀ j d) (hv : d'.Valid)
    (hd : d'.depth i = n) (ho : ∀ k, k ≠ i → d'.transaction? k = d.transaction? k)
    (hw : n ≠ 0 → d.isWriter i = true → d'.isWriter i = true)
    (hc : d.isWriter i = false → d'.committed = d.committed)
    (hl : d.levels i = d.view i :: (inner ++ outer)) (hl' : d'.levels i = d.view i :: outer) :
    Tells s₀ (j.keep i n) d' := by
  refine h.endLevels hv hd ho hw hc (by simp) (fun l m hlm => ?_) ?_
  · cases hlm
    omega
  · have hall := h.levels i
    have hlen := Database.length_levels d i
    have hlen' := Database.length_levels d' i
    rw [hl] at hall hlen
    rw [hl', hd] at hlen'
    simp only [List.length_cons] at hlen hlen'
    rw [hl']
    have hn : outer.length = n := by omega
    have hdepth : j.depth i = (inner ++ outer).length := by rw [h.depth i]; omega
    refine ⟨?_, hall.2.of_append.imp fun m hm s hs => ?_⟩
    · show Replays s₀ ((j.keep i n).within i outer.length) (d.view i)
      rw [hn, within_keep_self h.bounded, hdepth]
      exact hall.1
    · show Replays s₀ ((j.keep i n).within i m) s
      rw [within_keep_of_lt j i (by omega)]
      exact hs

/-- The levels above `n` are undone: of the levels, the last `n + 1` stay. -/
theorem Tells.undo (inner : List Store) (h : Tells s₀ j d) (hv : d'.Valid)
    (hd : d'.depth i = n) (ho : ∀ k, k ≠ i → d'.transaction? k = d.transaction? k)
    (hw : n ≠ 0 → d.isWriter i = true → d'.isWriter i = true)
    (hc : d'.committed = d.committed) (hl : d.levels i = inner ++ d'.levels i) :
    Tells s₀ (j.undo i n) d' := by
  refine h.endLevels hv hd ho hw (fun _ => hc) rfl (fun l m hlm => ?_) ?_
  · split at hlm
    · cases hlm
      omega
    · cases hlm
  · have hall := h.levels i
    have hlen' := Database.length_levels d' i
    rw [hl] at hall
    refine hall.of_append.imp fun m hm s hs => ?_
    show Replays s₀ ((j.undo i n).within i m) s
    rw [within_undo_of_le j i (by omega)]
    exact hs

/-- A move that changes no level of its session, nor another session, tells the same. It may take
the writer lock. -/
theorem Tells.same (h : Tells s₀ j d) (hv : d'.Valid) (ha : Database.Alike i d d')
    (hw : d.isWriter i = true → d'.isWriter i = true) : Tells s₀ j d' := by
  refine ⟨hv, fun k => ?_, h.bounded, fun e he l hel h0 => ?_, ?_, fun k hk => ?_⟩
  · by_cases hki : k = i
    · rw [hki, ha.depth, h.depth i]
    · rw [h.depth k, Database.depth_congr (ha.transaction?_ne hki)]
  · have hp := h.pending e he l hel h0
    by_cases hki : e.session = i
    · rw [hki] at hp ⊢
      exact hw hp
    · rwa [Database.isWriter_congr (ha.transaction?_ne hki)]
  · rw [ha.committed]
    exact h.durable
  · rw [ha.levels_all k]
    exact h.levels k

theorem Tells.opened (h : Tells s₀ j d) (i : SessionId) :
    Tells s₀ (j.record (.opened i)) (d.enter i) := by
  have ho : ∀ k, k ≠ i → (d.enter i).transaction? k = d.transaction? k := fun k hk =>
    Database.transaction?_congr Database.others_enter hk
  have hw : ∀ k, (d.enter i).isWriter k = d.isWriter k := fun k => by
    by_cases hk : k = i
    · subst hk
      cases ht : d.transaction? k with
      | none => simp [Database.enter_of_none ht, Database.isWriter, ht]
      | some t => simp [Database.enter_of_some ht, Database.isWriter, ht]
    · exact Database.isWriter_congr (ho k hk)
  have hd : (d.enter i).depth i = j.depth i + 1 := by rw [Database.depth_enter, h.depth i]
  refine ⟨h.valid.enter, h.setDepth hd ho, fun e he l hel => ?_, fun e he l hel h0 => ?_, ?_,
    fun k hk => ?_⟩
  · have hb := h.bounded e he l hel
    show l ≤ Journal.setDepth j.depth i (j.depth i + 1) e.session
    by_cases hk : e.session = i
    · rw [hk] at hb ⊢
      rw [setDepth_self]
      omega
    · rw [setDepth_ne j.depth _ hk]
      exact hb
  · rw [hw]
    exact h.pending e he l hel h0
  · rw [Database.committed_enter]
    exact h.durable
  · rw [hw] at hk
    have hall := h.writing k hk
    by_cases hki : k = i
    · subst hki
      rw [Database.levels_enter]
      refine ⟨?_, hall⟩
      show Replays s₀ (j.within k (d.levels k).length) (d.view k)
      rw [within_of_le h.bounded (by rw [Database.length_levels, h.depth k]; omega)]
      exact h.view k
    · rw [Database.levels_congr (ho k hki) Database.committed_enter]
      exact hall

theorem Tells.committed (h : Tells s₀ j d) (i : SessionId) :
    Tells s₀ (j.keep i 0) (d.commitAll i) := by
  obtain ⟨inner, hl, -⟩ := Database.levels_eq_cons d i
  refine h.keep inner [] h.valid.commitAll Database.depth_commitAll
    (fun k hk => Database.transaction?_congr Database.others_commitAll hk)
    (fun h0 => absurd rfl h0) (fun hi => ?_) (by rw [hl, List.append_nil]) Database.levels_commitAll
  rw [Database.committed_commitAll, h.valid.view_of_not_isWriter hi]

theorem Tells.rolledBack (h : Tells s₀ j d) (i : SessionId) :
    Tells s₀ (j.undo i 0) (d.close i) := by
  obtain ⟨inner, hl⟩ := Database.levels_eq_append d i
  refine h.undo inner h.valid.close (Database.depth_of_none Database.transaction?_close)
    (fun k hk => Database.transaction?_close_ne hk) (fun h0 => absurd rfl h0) rfl ?_
  rw [Database.levels_close, hl]

theorem Tells.kept (h : Tells s₀ j d) (i : SessionId) :
    Tells s₀ (j.keep i (d.depth i - 1)) (d.release i) := by
  by_cases hd : d.depth i ≤ 1
  · rw [Database.release_eq_commitAll hd, show d.depth i - 1 = 0 by omega]
    exact h.committed i
  · obtain ⟨w, x, xs, ht⟩ := Database.exists_nested (Nat.lt_of_not_le hd)
    have hr := Database.release_of_nested ht
    have ht' : (d.release i).transaction? i = some ⟨w, xs⟩ := by
      rw [hr, Database.transaction?_setTransaction]
    have hc : (d.release i).committed = d.committed := by rw [hr]; rfl
    refine h.keep [x.getD d.committed] _ h.valid.release ?_ (fun k hk => ?_) (fun _ hw => ?_)
      (fun _ => hc) (Database.levels_of_some ht) ?_
    · rw [Database.depth_of_some ht, Database.depth_of_some ht']
      rfl
    · rw [hr, Database.transaction?_setTransaction_ne hk]
    · rw [Database.isWriter_of_some ht'] at *
      rwa [Database.isWriter_of_some ht] at hw
    · rw [Database.levels_of_some ht', Database.view_of_some ht', Database.view_of_some ht, hc]
      rfl

theorem Tells.undone (h : Tells s₀ j d) (i : SessionId) :
    Tells s₀ (j.undo i (d.depth i - 1)) (d.undo i) := by
  by_cases hd : d.depth i ≤ 1
  · rw [Database.undo_eq_close hd, show d.depth i - 1 = 0 by omega]
    exact h.rolledBack i
  · obtain ⟨w, x, xs, ht⟩ := Database.exists_nested (Nat.lt_of_not_le hd)
    have hu := Database.undo_of_nested ht
    have ht' : (d.undo i).transaction? i = some ⟨x <|> w.map fun _ => d.committed, xs⟩ := by
      rw [hu, Database.transaction?_setTransaction]
    have hc : (d.undo i).committed = d.committed := by rw [hu]; rfl
    refine h.undo [d.view i] h.valid.undo ?_ (fun k hk => ?_) (fun _ hw => ?_) hc ?_
    · rw [Database.depth_of_some ht, Database.depth_of_some ht']
      rfl
    · rw [hu, Database.transaction?_setTransaction_ne hk]
    · rw [Database.isWriter_of_some ht'] at *
      rw [Database.isWriter_of_some ht] at hw
      cases w with
      | none => cases hw
      | some s => cases x <;> rfl
    · rw [Database.levels_of_some ht, Database.levels_of_some ht', Database.view_of_some ht', hc,
        Database.getD_undone]
      rfl

/-- A write that succeeds is the last one that its session sees, at its innermost level. -/
theorem Tells.levels_wrote {deed : Deed} {s : Store} (h : Tells s₀ j d)
    (hs : deed.write.Turns deed.clock (d.view i) s deed.reply) :
    EachLevel (fun n s => Replays s₀ ((j.record (.wrote i deed)).within i n) s)
      ((d.put i s).levels i) := by
  obtain ⟨outer, hlo, hlen⟩ := Database.levels_eq_cons d i
  have hall := h.levels i
  rw [hlo] at hall
  rw [Database.levels_put, hlo, List.tail_cons]
  have hn : outer.length = j.depth i := hlen.trans (h.depth i).symm
  refine ⟨?_, hall.2.imp fun m hm t ht => ?_⟩
  · show Replays s₀ ((j.record (.wrote i deed)).within i outer.length) s
    rw [within_wrote_of_le (by omega), within_of_le h.bounded (by omega)]
    exact (h.view i).snoc hs
  · show Replays s₀ ((j.record (.wrote i deed)).within i m) t
    rw [within_wrote_of_lt (by omega)]
    exact ht

theorem Tells.wrote {deed : Deed} {s : Store} (h : Tells s₀ j d) (hl : d.lockedFor i = false)
    (hs : deed.write.Turns deed.clock (d.view i) s deed.reply) :
    Tells s₀ (j.record (.wrote i deed)) (d.put i s) := by
  -- A write that is not locked out has no other writer beside it.
  have hother : ∀ k, k ≠ i → d.isWriter k = false := fun k hk => by
    rw [← Bool.not_eq_true]
    exact fun hw => by simp [h.valid.lockedFor_iff.2 ⟨k, hk, hw⟩] at hl
  have ho : ∀ k, k ≠ i → (d.put i s).transaction? k = d.transaction? k := fun k hk =>
    Database.transaction?_congr Database.others_put hk
  have hlev := h.levels_wrote hs
  refine ⟨h.valid.put hl, fun k => ?_, fun e he l hel => ?_, fun e he l hel h0 => ?_,
    durable_of_levels hlev, fun k hk => ?_⟩
  · by_cases hk : k = i
    · rw [hk, Database.depth_put]
      exact h.depth i
    · rw [Database.depth_congr (ho k hk)]
      exact h.depth k
  · rcases List.mem_append.1 he with he | he
    · exact h.bounded e he l hel
    · cases List.mem_singleton.1 he
      cases hel
      exact Nat.le_refl _
  · rcases List.mem_append.1 he with he | he
    · have hw := h.pending e he l hel h0
      have hei : e.session = i := Decidable.byContradiction fun hne => by
        rw [hother _ hne] at hw
        cases hw
      rw [hei] at hw ⊢
      rw [Database.isWriter_put]
      exact Database.inTransaction_of_isWriter hw
    · cases List.mem_singleton.1 he
      cases hel
      rw [Database.isWriter_put, Database.inTransaction_eq_decide, ← h.depth i]
      exact decide_eq_true (Nat.pos_of_ne_zero h0)
  · by_cases hki : k = i
    · exact hki ▸ hlev
    · rw [Database.isWriter_congr (ho k hki), hother k hki] at hk
      cases hk

/-- Every move keeps the invariant. -/
theorem Tells.record {m : Move} (h : Tells s₀ j d) (hm : m.Leads d d') :
    Tells s₀ (j.record m) d' := by
  cases m with
  | opened i => cases hm; exact h.opened i
  | kept i =>
    cases hm
    simp only [Journal.record, h.depth i]
    exact h.kept i
  | undone i =>
    cases hm
    simp only [Journal.record, h.depth i]
    exact h.undone i
  | committed i => cases hm; exact h.committed i
  | rolledBack i => cases hm; exact h.rolledBack i
  | wrote i deed =>
    obtain ⟨hl, s, hs, rfl⟩ := hm
    exact h.wrote hl hs
  | failed i clock w f =>
    rcases hm with ⟨-, rfl | rfl⟩ | ⟨-, hl, rfl⟩
    · exact h
    · exact h.same h.valid.rest (Database.alike_rest d i) Database.isWriter_rest.trans
    · exact h.same (h.valid.write hl) (Database.alike_write_view d i) fun hw =>
        Database.isWriter_write (Database.inTransaction_of_isWriter hw)
  | idle =>
    rcases hm with rfl | ⟨i, rfl⟩
    · exact h
    · exact h.same h.valid.rest (Database.alike_rest d i) Database.isWriter_rest.trans

theorem Tells.foldl {trail : Trail} {r : Registry} (h : Tells s₀ j r.database)
    (hf : r.Follows trail) :
    Tells s₀ ((trail.map (·.1)).foldl Journal.record j) (r.after trail).database := by
  induction trail generalizing r j with
  | nil => exact h
  | cons p trail ih =>
    obtain ⟨m, r'⟩ := p
    rw [Registry.after_cons]
    exact ih (h.record hf.1) hf.2

end Journal

/-! ## Points of a run -/

/-- The registry at the start of a run: the store `s`, and nobody who uses it. -/
def Registry.start (clock : Instant) (s : Store) : Registry := ⟨clock, .ofStore s⟩

/-- The journal tells the database at every point of a run. -/
theorem Script.tells (script : Script) (clock : Instant) (s : Store) (n : Nat) :
    Journal.Tells s (script.journalAt (.start clock s) n)
      (script.stateAt (.start clock s) n).database :=
  (Journal.tells_ofStore s).foldl ((script.follows_trail _).take n)

/-- The journal of a whole run tells the database that it leaves. -/
theorem Script.tells_end (script : Script) (clock : Instant) (s : Store) :
    Journal.Tells s (script.journal (.start clock s))
      (Script.run (.start clock s) script).2.database := by
  rw [← script.after_trail]
  exact (Journal.tells_ofStore s).foldl (script.follows_trail _)

/-! ## Calls that succeed -/

theorem Database.view_put {d : Database} {i : SessionId} {s : Store} : (d.put i s).view i = s := by
  cases h : d.transaction? i with
  | none =>
    rw [put_of_none h]
    exact view_of_none h
  | some t =>
    rw [put_of_some h, view_of_some transaction?_setTransaction]
    rfl

section
variable {r : Registry} {i : SessionId} {op : Operation}

/-- A call that writes and succeeds is not locked out, and puts what it makes of the store that its
session sees. -/
theorem Step.run_of_ok {answer : Answer} {events : List Event} (hw : op.isWrite = true)
    (h : ((Step.act i (.call op)).run r).1 = .leaf (.ok answer) events) :
    r.database.lockedFor i = false ∧ ∃ s,
      (Write.call op).Turns r.clock (r.database.view i) s ⟨answer, events⟩ ∧
      ((Step.act i (.call op)).run r).2 = r.withDatabase (r.database.put i s) := by
  have hreply : (r.database.call r.clock i op).1 = .ok ⟨answer, events⟩ := Report.ofReply_eq_ok.1 h
  have hleads := r.database.leads_call i r.clock op
  rw [Action.move, if_pos hw, hreply] at hleads
  obtain ⟨hl, s, hturns, hput⟩ := hleads
  exact ⟨hl, s, hturns, congrArg r.withDatabase hput⟩

theorem Step.turns_of_ok {answer : Answer} {events : List Event} (hw : op.isWrite = true)
    (h : ((Step.act i (.call op)).run r).1 = .leaf (.ok answer) events) :
    (Write.call op).Turns r.clock (r.database.view i)
      (((Step.act i (.call op)).run r).2.database.view i) ⟨answer, events⟩ := by
  obtain ⟨-, s, hturns, hrun⟩ := Step.run_of_ok hw h
  rw [hrun]
  show (Write.call op).Turns _ _ ((r.database.put i s).view i) _
  rwa [Database.view_put]

/-- A call that is not locked out does what it does to the store that its session sees. -/
theorem Step.run_call {s : Store} {reply : Reply} (hl : r.database.lockedFor i = false)
    (h : (Write.call op).Turns r.clock (r.database.view i) s reply) :
    (Step.act i (.call op)).run r =
      (.leaf (.ok reply.answer) reply.events, r.withDatabase (r.database.put i s)) := by
  obtain ⟨run, hp, hr⟩ := h
  have hop : op.prepare r.clock = .ok (.write run) := hp
  have hattempt : r.database.attempt i (.write run) = (.ok reply, r.database.put i s) := by
    simp only [Database.attempt, hl, hr, if_false, Bool.false_eq_true]
  simp only [Step.run, Action.run, Database.call_of_ok hop, hattempt]
  rfl

end

/-! ## Making writes again -/

/-- The steps that make a deed again: its time, and its write alone in a unit of session `i`. -/
def Deed.again (i : SessionId) (deed : Deed) : Script :=
  [.setClock (.ofInstant deed.clock), .unit i true none [deed.write.step i]]

/-- The reports of these steps if the write succeeds as it did. -/
def Deed.reports (deed : Deed) : List Report :=
  [.leaf (.ok .done) [], .unit none [.leaf (.ok deed.reply.answer) deed.reply.events]]

theorem Stamp.toUtc_ofInstant (t : Instant) : (Stamp.ofInstant t).toUtc = .ok t := by
  have hd : t.date.dayNumber = t.micros / microsPerDay := Date.dayNumber_ofDayNumber _ _
  have hm : (Stamp.ofInstant t).micros = t.micros := by
    have hdiv := Nat.div_add_mod' t.micros microsPerDay
    simp only [Stamp.micros, Stamp.ofInstant, hd, Instant.timeOfDay, hdiv, Option.getD_some]
    omega
  have hr := t.inRange
  unfold Stamp.toUtc Instant.ofMicros
  rw [hm, dif_pos ⟨by omega, by omega⟩]
  rfl

/-- The session that a write is made in: the sweep has the worker's. -/
def Write.owner (i : SessionId) : Write → SessionId
  | sweep => .worker
  | _ => i

/-- A write that is not locked out does what it does to the store that its session sees. -/
theorem Write.run_step {w : Write} {r : Registry} {i : SessionId} {s : Store} {reply : Reply}
    (ht : r.database.inTransaction i = true) (hl : r.database.lockedFor (w.owner i) = false)
    (hw : w.Turns r.clock (r.database.view (w.owner i)) s reply) :
    (w.step i).run r = (.leaf (.ok reply.answer) reply.events,
      r.withDatabase (r.database.put (w.owner i) s)) := by
  obtain ⟨run, hp, hr⟩ := hw
  cases w with
  | call op => exact Step.run_call hl ⟨run, hp, hr⟩
  | replaceScope subscriber scope =>
    cases hp
    have hl' : r.database.lockedFor i = false := hl
    have hr' : Operation.scopeReplacement subscriber scope (r.database.view i) = .ok (s, reply) := hr
    simp only [step, Step.run, Action.run, Database.replaceScope_eq, ht, hl', hr', if_true, if_false,
      Bool.false_eq_true]
    rfl
  | sweep =>
    cases hp
    have hattempt : r.database.attempt .worker (.write (Database.sweepTask r.clock)) =
        (.ok reply, r.database.put .worker s) := by
      have hl' : r.database.lockedFor .worker = false := hl
      have hr' : Database.sweepTask r.clock (r.database.view .worker) = .ok (s, reply) := hr
      simp only [Database.attempt, hl', Routine.whole_one, hr', if_false, Bool.false_eq_true]
    simp only [step, Step.run, Database.sweep_eq, hattempt]
    rfl

/-- A write in a unit of session `i`, which is alone on the store `s`, leaves the store that it
makes of `s`. -/
theorem Database.release_alone {i k : SessionId} (s s' : Store) :
    (((ofStore s).enter i).put k s').release i = ofStore s' := by
  have hi : (ofStore s).transaction? i = none := rfl
  have he : (ofStore s).enter i = (ofStore s).setTransaction i ⟨none, []⟩ := enter_of_none hi
  by_cases hk : k = i
  · subst hk
    have hput : ((ofStore s).enter k).put k s' = ((ofStore s).enter k).write k s' := by
      rw [he, put_of_some transaction?_setTransaction, write_of_some transaction?_setTransaction]
    rw [hput, release_write_enter, put_of_none hi]
    rfl
  · have hn : ((ofStore s).enter i).transaction? k = none := by
      rw [he, transaction?_setTransaction_ne hk]
      rfl
    have hput : ((ofStore s).enter i).put k s' = (ofStore s').enter i := by
      rw [put_of_none hn]
      rfl
    rw [hput, release_enter, rest_of_none rfl]

theorem Database.view_alone (s : Store) (i k : SessionId) : ((ofStore s).enter i).view k = s := by
  have he : (ofStore s).enter i = (ofStore s).setTransaction i ⟨none, []⟩ := enter_of_none rfl
  rw [he]
  by_cases hk : k = i
  · subst hk
    rw [view_of_some transaction?_setTransaction]
    rfl
  · rw [view_congr (transaction?_setTransaction_ne hk) rfl]
    rfl

theorem Database.lockedFor_alone (s : Store) (i k : SessionId) :
    ((ofStore s).enter i).lockedFor k = false := by
  have he : (ofStore s).enter i = (ofStore s).setTransaction i ⟨none, []⟩ := enter_of_none rfl
  rw [← Bool.not_eq_true, (valid_ofStore s).enter.lockedFor_iff, he]
  rintro ⟨m, -, hm⟩
  by_cases hmi : m = i
  · subst hmi
    rw [isWriter_of_some transaction?_setTransaction] at hm
    cases hm
  · rw [isWriter_congr (transaction?_setTransaction_ne hmi)] at hm
    cases hm

theorem Step.run_setClock {r : Registry} {time : Stamp} {t : Instant} (h : time.toUtc = .ok t) :
    (Step.setClock time).run r = (.leaf (.ok .done) [], { r with clock := t }) := by
  have hs : r.setClock time = (.ok ⟨.done, []⟩, { r with clock := t }) := by
    unfold Registry.setClock
    rw [h]
  unfold Step.run
  rw [hs]
  rfl

/-- A write alone in a unit. -/
theorem Write.run_unit {w : Write} {clock : Instant} {s s' : Store} {reply : Reply} (i : SessionId)
    (h : w.Turns clock s s' reply) :
    (Step.unit i true none [w.step i]).run (.start clock s) =
      (.unit none [.leaf (.ok reply.answer) reply.events], .start clock s') := by
  have hstep : (w.step i).run ⟨clock, (Database.ofStore s).enter i⟩ =
      (.leaf (.ok reply.answer) reply.events,
        ⟨clock, ((Database.ofStore s).enter i).put (w.owner i) s'⟩) := by
    refine Write.run_step (Database.inTransaction_enter _ i) (Database.lockedFor_alone s i _) ?_
    rw [Database.view_alone]
    exact h
  have hall : Step.runAll ⟨clock, (Database.ofStore s).enter i⟩ true [w.step i] =
      ([.leaf (.ok reply.answer) reply.events], none,
        ⟨clock, ((Database.ofStore s).enter i).put (w.owner i) s'⟩) := by
    simp only [Step.runAll, hstep, Report.fault?]
  unfold Step.run
  rw [Registry.start, Registry.withDatabase, hall]
  show (Report.unit none _, Registry.leave _ i none) = _
  rw [Registry.leave, Registry.withDatabase, Database.release_alone]
  rfl

namespace Script

theorem run_nil (r : Registry) : run r [] = ([], r) := rfl

theorem run_cons (r : Registry) (step : Step) (steps : Script) :
    run r (step :: steps) = ((step.run r).1 :: (run (step.run r).2 steps).1,
      (run (step.run r).2 steps).2) := by
  simp only [run, Step.runAll]

theorem run_append (r : Registry) (a b : Script) :
    run r (a ++ b) = ((run r a).1 ++ (run (run r a).2 b).1, (run (run r a).2 b).2) := by
  induction a generalizing r with
  | nil => rfl
  | cons step a ih =>
    rw [List.cons_append, run_cons, ih, run_cons]
    rfl

end Script

theorem Deed.run_again {deed : Deed} {clock : Instant} {s s' : Store} (i : SessionId)
    (h : deed.write.Turns deed.clock s s' deed.reply) :
    Script.run (.start clock s) (deed.again i) = (deed.reports, .start deed.clock s') := by
  have hunit := Write.run_unit i h
  rw [again, Script.run_cons, Step.run_setClock (Stamp.toUtc_ofInstant deed.clock)]
  show (_ :: (Script.run (.start deed.clock s) [_]).1, (Script.run (.start deed.clock s) [_]).2) = _
  rw [Script.run_cons, hunit, Script.run_nil]
  rfl

/-- What deeds made of a store, they make again, each in a unit of session `i`. -/
theorem Replays.run {s₀ s : Store} {deeds : List Deed} (h : Replays s₀ deeds s) (clock : Instant)
    (i : SessionId) : ∃ clock', Script.run (.start clock s₀) (deeds.flatMap (·.again i)) =
      (deeds.flatMap Deed.reports, .start clock' s) := by
  induction h with
  | nil => exact ⟨clock, rfl⟩
  | @snoc deeds deed s s' _ hd ih =>
    obtain ⟨clock', hrun⟩ := ih
    refine ⟨deed.clock, ?_⟩
    rw [List.flatMap_append, List.flatMap_append, Script.run_append, hrun, List.flatMap_singleton,
      List.flatMap_singleton, deed.run_again i hd]

/-- A run leaves the store that its committed writes leave, made again in the order of the run, each
alone in a unit of session `i` and at its own time; each succeeds with the answer and the events
that it had. -/
theorem Script.run_serial (script : Script) (clock clock' : Instant) (s : Store) (i : SessionId) :
    let surviving := (script.journal (.start clock s)).durable
    let replay := Script.run (.start clock' s) (surviving.flatMap (·.again i))
    replay.1 = surviving.flatMap Deed.reports ∧
      replay.2.settled = (Script.run (.start clock s) script).2.settled := by
  have htells := script.tells_end clock s
  obtain ⟨last, hrun⟩ := htells.durable.run clock' i
  intro surviving replay
  have hreplay : replay = (surviving.flatMap Deed.reports,
      .start last (Script.run (.start clock s) script).2.database.committed) := hrun
  rw [hreplay]
  exact ⟨rfl, rfl⟩

end SubscriptionRegistry
