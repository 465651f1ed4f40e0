import Mathlib.Data.List.Forall2
import SubscriptionRegistry.Proofs.DroppedTexts
import SubscriptionRegistry.Proofs.Spelling

/-!
# Decoding lists of scope texts

Decoding tells the items of a list apart: nulls, texts that spell an identifier, and the rest. It
keeps a set of the second and reports the third one by one. The set is one of identifiers and not of
texts, so that it does not show which spellings the list had, how often, or where.

* `Scope.Accepts`: an item is a text that spells an identifier. `Scope.isRefused_iff`: the other
  items but nulls are refused.
* `Scope.decode_append`: a list is decoded part by part.
* `Scope.Respells`: an item is left, or an accepted text is spelled in another way.
  `Scope.decode_respelled`: this cannot be told from what is decoded.
* `Scope.IsSpelledBy`: a list spells all members of a scope, and nothing else but what is passed
  over.
* `Scope.decoding_exact`: all of it together.
-/

namespace SubscriptionRegistry

namespace Scope

variable {a b scope : Scope} {item x y : Value} {items xs ys : List Value} {u v : Uuid}

/-! ## Items -/

/-- The item is a text that spells `u`. -/
def Accepts (item : Value) (u : Uuid) : Prop :=
  ∃ s, item = .text s ∧ Uuid.read? s = some u

theorem accepts_iff : Accepts item u ↔ readItem? item = some u := by
  cases item <;> simp [Accepts, readItem?]

/-- An item is null, accepted or refused. -/
theorem isRefused_iff : isRefused item = true ↔ item ≠ .null ∧ ∀ u, ¬ Accepts item u := by
  simp only [accepts_iff]
  cases item <;> simp [isRefused, readItem?, Option.eq_none_iff_forall_ne_some]

theorem not_isRefused_of_accepts (h : Accepts item u) : isRefused item = false := by
  rw [Bool.eq_false_iff]
  exact fun hrefused => (isRefused_iff.1 hrefused).2 u h

theorem mem_decode_iff : u ∈ (decode items).1 ↔ ∃ item ∈ items, Accepts item u := by
  simp only [mem_decode, accepts_iff]

/-! ## Lists -/

/-- The members of either scope. -/
instance : Union Scope := ⟨fun a b => .ofList (a.ids ++ b.ids)⟩

@[simp] theorem mem_union : u ∈ a ∪ b ↔ u ∈ a ∨ u ∈ b := by
  have hmem : u ∈ a ∪ b ↔ u ∈ a.ids ++ b.ids := mem_ofList
  rw [hmem, List.mem_append]
  exact Iff.rfl

/-- A list is decoded part by part. -/
theorem decode_append (xs ys : List Value) :
    decode (xs ++ ys) = ((decode xs).1 ∪ (decode ys).1, (decode xs).2 ++ (decode ys).2) := by
  have hscope : (decode (xs ++ ys)).1 = (decode xs).1 ∪ (decode ys).1 := by
    apply ext_mem
    intro u
    simp only [mem_union, mem_decode, List.mem_append, or_and_right, exists_or]
  have hrefused : (decode (xs ++ ys)).2 = (decode xs).2 ++ (decode ys).2 := by
    simp only [refused_decode, List.filter_append]
  exact Prod.ext hscope hrefused

/-- Neither the order of the items nor how often they come makes a difference to the set. -/
theorem decode_congr (h : ∀ item, item ∈ xs ↔ item ∈ ys) : (decode xs).1 = (decode ys).1 := by
  apply ext_mem
  intro u
  simp only [mem_decode, h]

theorem decode_cons_of_accepts (h : Accepts item u) (items : List Value) :
    decode (item :: items) = ((decode items).1.insert u, (decode items).2) := by
  rw [accepts_iff] at h
  simp only [decode, h]

/-- An item is left, or spells the same identifier in another way. -/
def Respells (x y : Value) : Prop :=
  x = y ∨ ∃ u, Accepts x u ∧ Accepts y u

theorem decode_respelled (h : List.Forall₂ Respells xs ys) : decode xs = decode ys := by
  induction h with
  | nil => rfl
  | cons hxy _ ih =>
    rcases hxy with rfl | ⟨u, hx, hy⟩
    · simp only [decode, ih]
    · rw [decode_cons_of_accepts hx, decode_cons_of_accepts hy, ih]

/-- The list spells every member of the scope, each at least once and in any way, among nulls and
items that are refused. -/
structure IsSpelledBy (scope : Scope) (items : List Value) : Prop where
  complete : ∀ u ∈ scope, ∃ s, .text s ∈ items ∧ u.IsSpelling s
  sound : ∀ item ∈ items, item = .null ∨ isRefused item = true ∨
    ∃ u ∈ scope, ∃ s, item = .text s ∧ u.IsSpelling s

/-- A list that spells a scope is decoded to it. -/
theorem IsSpelledBy.decode_eq (h : scope.IsSpelledBy items) : (decode items).1 = scope := by
  apply ext_mem
  intro u
  rw [mem_decode_iff]
  constructor
  · rintro ⟨item, hitem, hu⟩
    rcases h.sound item hitem with rfl | hrefused | ⟨v, hv, s, rfl, hs⟩
    · obtain ⟨s, hs, -⟩ := hu
      cases hs
    · exact absurd hrefused (Bool.eq_false_iff.1 (not_isRefused_of_accepts hu))
    · rw [accepts_iff] at hu
      have huv : v = u := Option.some.inj ((Uuid.read?_of_isSpelling hs).symm.trans hu)
      exact huv ▸ hv
  · intro hu
    obtain ⟨s, hs, hspelling⟩ := h.complete u hu
    exact ⟨.text s, hs, s, rfl, Uuid.read?_of_isSpelling hspelling⟩

/-- **Decoding a list.** The set has the identifiers that the texts of the list spell. Every other
item but nulls is refused, in the order of the list and as often as it is in it, and the warning of
it has the item itself. So a list is decoded part by part, and the set does not depend on how the
items are ordered, how often they come and how they are spelled. In particular a list that spells
the members of a scope, in any ways and among nulls and refused items, is decoded to that scope. -/
theorem decoding_exact :
    (∀ (items : List Value) (u : Uuid), u ∈ (decode items).1 ↔ ∃ item ∈ items, Accepts item u) ∧
    (∀ items : List Value, (decode items).2 = items.filter isRefused ∧
      ((decode items).2.map Event.scopeDropped).map (fun e => (e.name, e.severity, e.fields)) =
        (items.filter isRefused).map fun item =>
          ("scope.invalid_dropped", .warning, [("value", item)])) ∧
    (∀ item : Value, isRefused item = true ↔ item ≠ .null ∧ ∀ u, ¬ Accepts item u) ∧
    (∀ xs ys : List Value, decode (xs ++ ys) =
      ((decode xs).1 ∪ (decode ys).1, (decode xs).2 ++ (decode ys).2)) ∧
    (∀ xs ys : List Value, (∀ item, item ∈ xs ↔ item ∈ ys) → (decode xs).1 = (decode ys).1) ∧
    (∀ xs ys : List Value, List.Forall₂ Respells xs ys → decode xs = decode ys) ∧
    (∀ (u : Uuid) (s : String), u.IsSpelling s → Accepts (.text s) u) ∧
    ∀ (scope : Scope) (items : List Value), scope.IsSpelledBy items → (decode items).1 = scope := by
  refine ⟨fun items u => mem_decode_iff, fun items => ?_, fun item => isRefused_iff,
    decode_append, fun xs ys => decode_congr, fun xs ys => decode_respelled, fun u s h => ?_,
    fun scope items h => h.decode_eq⟩
  · rw [refused_decode, List.map_map]
    exact ⟨rfl, rfl⟩
  · exact ⟨s, rfl, Uuid.read?_of_isSpelling h⟩

/-- Two identifiers in several spellings, with a null and refused items between them; the same with
one of the spellings changed, and with all items in another order and one of them twice. -/
theorem decoding_exact_mixed :
    let u := Uuid.ofNat 0x0123456789abcdef0123456789abcdef
    let v := Uuid.ofNat 0xa
    let braced := "\x7b01234567-89AB-cdef-0123-456789ABCDEF\x7d"
    let named := "urn:uuid:\x7b0123456789abcdef0123456789abcdef\x7d"
    let plain := "0000000000000000000000000000000A"
    let items : List Value :=
      [.text braced, .null, .text "not-a-uuid", .text plain, .bool true, .text "not-a-uuid", .text named]
    let respelled : List Value :=
      [.text named, .null, .text "not-a-uuid", .text plain, .bool true, .text "not-a-uuid", .text named]
    u.IsSpelling braced ∧ u.IsSpelling named ∧ v.IsSpelling plain ∧
      (ofList [u, v]).IsSpelledBy items ∧ (decode items).1 = ofList [u, v] ∧
      (decode items).2 = [.text "not-a-uuid", .bool true, .text "not-a-uuid"] ∧
      Accepts (.text braced) u ∧ List.Forall₂ Respells items respelled ∧
      decode items = decode respelled ∧
      (∀ item, item ∈ items ↔ item ∈ .text plain :: items.reverse) ∧
      (decode items).1 = (decode (.text plain :: items.reverse)).1 := by
  intro u v braced named plain items respelled
  have hbraced : u.IsSpelling braced :=
    ⟨['\x7b'], [], [], "01234567-89AB-cdef-0123-456789ABCDEF".toList, ['\x7d'], by decide,
      by simp [Uuid.isBrace], by decide, by decide⟩
  have hnamed : u.IsSpelling named :=
    ⟨[], "urn:uuid:".toList, ['\x7b'], "0123456789abcdef0123456789abcdef".toList, ['\x7d'], by decide,
      by simp [Uuid.isBrace], by decide, by decide⟩
  have hplain : v.IsSpelling plain :=
    ⟨[], [], [], plain.toList, [], by decide, by simp, by decide, by decide⟩
  have hrefused : isRefused (.text "not-a-uuid") = true := by decide
  have hspelled : (ofList [u, v]).IsSpelledBy items := by
    constructor
    · intro w hw
      simp only [mem_ofList, List.mem_cons, List.not_mem_nil, or_false] at hw
      rcases hw with rfl | rfl
      · exact ⟨braced, by simp [items], hbraced⟩
      · exact ⟨plain, by simp [items], hplain⟩
    · intro item hitem
      simp only [items, List.mem_cons, List.not_mem_nil, or_false] at hitem
      rcases hitem with rfl | rfl | rfl | rfl | rfl | rfl | rfl
      · exact .inr (.inr ⟨u, by simp, braced, rfl, hbraced⟩)
      · exact .inl rfl
      · exact .inr (.inl hrefused)
      · exact .inr (.inr ⟨v, by simp, plain, rfl, hplain⟩)
      · exact .inr (.inl rfl)
      · exact .inr (.inl hrefused)
      · exact .inr (.inr ⟨u, by simp, named, rfl, hnamed⟩)
  obtain ⟨-, hwarned, -, -, hcongr, hrespelled, haccepts, hscope⟩ := decoding_exact
  have hchanged : List.Forall₂ Respells items respelled := by
    refine .cons (.inr ⟨u, haccepts u braced hbraced, haccepts u named hnamed⟩) ?_
    exact List.forall₂_same.2 fun item _ => .inl rfl
  have hmoved : ∀ item, item ∈ items ↔ item ∈ .text plain :: items.reverse := by
    intro item
    simp only [items, List.mem_cons, List.mem_reverse]
    grind
  refine ⟨hbraced, hnamed, hplain, hspelled, hscope _ _ hspelled, ?_, haccepts u braced hbraced,
    hchanged, hrespelled _ _ hchanged, hmoved, hcongr _ _ hmoved⟩
  have hkept : ∀ (w : Uuid) (s : String), w.IsSpelling s → isRefused (.text s) = false :=
    fun w s hs => not_isRefused_of_accepts (haccepts w s hs)
  rw [(hwarned items).1]
  simp only [items, List.filter_cons, List.filter_nil, hkept u braced hbraced, hkept u named hnamed,
    hkept v plain hplain, hrefused]
  rfl

end Scope

end SubscriptionRegistry
