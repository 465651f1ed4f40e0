import SubscriptionRegistry.Scope

/-!
# Canonical texts

What the text of an identifier looks like, and how a scope is written.

* `Text.foldDigits_hexDigits`: the digits of a number have its value.
* `Uuid.IsCanonical`: a text of 32 lower-case digits with hyphens between groups of 8, 4, 4, 4 and
  12, which have the value of the identifier. `Uuid.isCanonical_text`: `Uuid.text` is one, and
  `Uuid.IsCanonical.unique`: no other identifier has it.
* `Text.bytes?`: the bytes that a text of hexadecimal digits spells. `Text.bytes?_hexDigits`:
  written as two digits each, bytes are read back.
* `Scope.IsWritten`: texts are the canonical texts of a scope, each once.
-/

namespace SubscriptionRegistry

namespace Text

/-- A decimal digit or one of the letters from `a` to `f`. -/
def isLowerHex (c : Char) : Bool :=
  ('0' ≤ c ∧ c ≤ '9') ∨ ('a' ≤ c ∧ c ≤ 'f')

theorem isLowerHex_hexDigit {d : Nat} (h : d < 16) : isLowerHex (hexDigit d) = true := by
  have hall : ∀ d : Fin 16, isLowerHex (hexDigit d) = true := by decide
  exact hall ⟨d, h⟩

theorem isLowerHex_of_mem_hexDigits {c : Char} {w n : Nat} (h : c ∈ hexDigits w n) :
    isLowerHex c = true := by
  induction w generalizing n with
  | zero => cases h
  | succ w ih =>
    rcases List.mem_append.1 h with h | h
    · exact ih h
    · rw [List.mem_singleton.1 h]
      exact isLowerHex_hexDigit (Nat.mod_lt n (by decide))

theorem foldDigits_snoc (b : Nat) (ds : List Nat) (d : Nat) :
    foldDigits b (ds ++ [d]) = foldDigits b ds * b + d := by
  rw [foldDigits, List.foldl_append]
  rfl

/-- Hexadecimal digits have the value of the number that they are the last digits of. -/
theorem foldDigits_hexDigits (w n : Nat) :
    foldDigits 16 ((hexDigits w n).filterMap hexValue?) = n % Nat.pow 16 w := by
  induction w generalizing n with
  | zero => exact (Nat.mod_one n).symm
  | succ w ih =>
    have hd : [hexDigit (n % 16)].filterMap hexValue? = [n % 16] := by
      simp only [List.filterMap_cons, hexValue?_hexDigit (Nat.mod_lt n (by decide : 16 > 0)),
        List.filterMap_nil]
    have hpow : Nat.pow 16 (w + 1) = 16 * Nat.pow 16 w := Nat.mul_comm (Nat.pow 16 w) 16
    rw [hexDigits, List.filterMap_append, hd, foldDigits_snoc, ih, hpow, Nat.mod_mul]
    omega

/-- The bytes that pairs of hexadecimal digits spell. -/
def bytes? : List Char → Option (List UInt8)
  | [] => some []
  | [_] => none
  | high :: low :: cs => do
    let h ← hexValue? high
    let l ← hexValue? low
    let bytes ← bytes? cs
    some (.ofNat (16 * h + l) :: bytes)

theorem length_flatMap_hexDigits (bytes : List UInt8) :
    (bytes.flatMap fun b => hexDigits 2 b.toNat).length = 2 * bytes.length := by
  induction bytes with
  | nil => rfl
  | cons b bytes ih =>
    rw [List.flatMap_cons, List.length_append, ih, hexDigits_length, List.length_cons]
    omega

theorem bytes?_hexDigits (bytes : List UInt8) :
    bytes? (bytes.flatMap fun b => hexDigits 2 b.toNat) = some bytes := by
  induction bytes with
  | nil => rfl
  | cons b bytes ih =>
    have hpair : hexDigits 2 b.toNat = [hexDigit (b.toNat / 16 % 16), hexDigit (b.toNat % 16)] := rfl
    have hvalue : 16 * (b.toNat / 16 % 16) + b.toNat % 16 = b.toNat := by
      have hlt := b.toNat_lt
      omega
    have hdigit : ∀ n, hexValue? (hexDigit (n % 16)) = some (n % 16) := fun n =>
      hexValue?_hexDigit (Nat.mod_lt n (by decide))
    simp only [List.flatMap_cons, hpair, List.cons_append, List.nil_append, bytes?, hdigit, ih,
      Option.bind_eq_bind, Option.bind_some, hvalue, UInt8.ofNat_toNat]

end Text

namespace Uuid

/-- The text has the digits of `u` in lower case, with hyphens between the five groups. -/
def IsCanonical (u : Uuid) (text : String) : Prop :=
  ∃ a b c d e : List Char,
    text = String.ofList (a ++ '-' :: (b ++ '-' :: (c ++ '-' :: (d ++ '-' :: e)))) ∧
    a.length = 8 ∧ b.length = 4 ∧ c.length = 4 ∧ d.length = 4 ∧ e.length = 12 ∧
    (∀ x ∈ a ++ b ++ c ++ d ++ e, Text.isLowerHex x) ∧
    Text.foldDigits 16 ((a ++ b ++ c ++ d ++ e).filterMap Text.hexValue?) = u.value

theorem digits_length (u : Uuid) : u.digits.length = 32 :=
  Text.hexDigits_length 32 _

/-- Digits are the groups in which they are written. -/
theorem groups_eq (ds : List Char) :
    ds.take 8 ++ (ds.drop 8).take 4 ++ (ds.drop 12).take 4 ++ (ds.drop 16).take 4 ++ ds.drop 20 =
      ds := by
  have hgroup : ∀ n, (ds.drop n).take 4 ++ ds.drop (n + 4) = ds.drop n := fun n => by
    rw [← List.drop_drop, List.take_append_drop]
  rw [List.append_assoc, hgroup 16, List.append_assoc, hgroup 12, List.append_assoc, hgroup 8,
    List.take_append_drop]

theorem isCanonical_text (u : Uuid) : u.IsCanonical u.text := by
  have hlen := u.digits_length
  refine ⟨u.digits.take 8, (u.digits.drop 8).take 4, (u.digits.drop 12).take 4,
    (u.digits.drop 16).take 4, u.digits.drop 20, rfl, by simp [hlen], by simp [hlen],
    by simp [hlen], by simp [hlen], by simp [hlen], ?_, ?_⟩
  · rw [groups_eq]
    exact fun x hx => Text.isLowerHex_of_mem_hexDigits hx
  · rw [groups_eq, digits, Text.foldDigits_hexDigits, Nat.mod_eq_of_lt]
    exact u.value.isLt

theorem not_isLowerHex_hyphen : Text.isLowerHex '-' = false := by decide

theorem filter_hyphen {l : List Char} (h : ∀ x ∈ l, Text.isLowerHex x = true) :
    l.filter (· ≠ '-') = l := by
  refine List.filter_eq_self.2 fun x hx => ?_
  rw [decide_eq_true_eq]
  rintro rfl
  have hhex := h '-' hx
  rw [not_isLowerHex_hyphen] at hhex
  cases hhex

/-- A text is canonical for one identifier only. -/
theorem IsCanonical.unique {u v : Uuid} {text : String} (hu : u.IsCanonical text)
    (hv : v.IsCanonical text) : u = v := by
  have hvalue : ∀ {w : Uuid}, w.IsCanonical text → (w.value : Nat) =
      Text.foldDigits 16 ((text.toList.filter (· ≠ '-')).filterMap Text.hexValue?) := by
    rintro w ⟨a, b, c, d, e, rfl, -, -, -, -, -, hhex, hw⟩
    have hfilter : (a ++ '-' :: (b ++ '-' :: (c ++ '-' :: (d ++ '-' :: e)))).filter (· ≠ '-') =
        (a ++ b ++ c ++ d ++ e).filter (· ≠ '-') := by
      simp [List.filter_append]
    rw [String.toList_ofList, hfilter, filter_hyphen hhex, hw]
  exact Uuid.ext (Fin.ext ((hvalue hu).trans (hvalue hv).symm))

theorem text_injective {u v : Uuid} (h : u.text = v.text) : u = v := by
  have hu := u.isCanonical_text
  rw [h] at hu
  exact hu.unique v.isCanonical_text

end Uuid

namespace Scope

/-- The texts are the canonical texts of the members of the scope, each once. -/
structure IsWritten (scope : Scope) (texts : List String) : Prop where
  nodup : texts.Nodup
  sound : ∀ text ∈ texts, ∃ u ∈ scope, u.IsCanonical text
  complete : ∀ u, u ∈ scope → ∃ text ∈ texts, u.IsCanonical text

theorem isWritten_texts (scope : Scope) : scope.IsWritten scope.texts where
  nodup := by
    refine List.pairwise_map.2 (scope.ascending.imp fun {u v} hlt heq => ?_)
    rw [Uuid.text_injective heq] at hlt
    exact absurd hlt (Fin.lt_irrefl _)
  sound text h := by
    obtain ⟨u, hu, rfl⟩ := List.mem_map.1 h
    exact ⟨u, hu, u.isCanonical_text⟩
  complete u hu := ⟨u.text, List.mem_map_of_mem hu, u.isCanonical_text⟩

end Scope

end SubscriptionRegistry
