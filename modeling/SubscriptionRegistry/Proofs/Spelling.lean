import Mathlib.Algebra.Ring.Nat
import SubscriptionRegistry.Proofs.CanonicalText

/-!
# Spellings of identifiers

Which texts spell an identifier, said without the functions that read them.

* `Text.Without`: what is left of a text when every occurrence of a word is taken out.
  `Text.without_iff`: `Text.cut` takes them out.
* `Text.Stripped`: a text without the characters of a class at its ends. `Text.stripped_iff`:
  `Text.trim` strips it.
* `Text.Numeral`: hexadecimal digits with single underscores between them. `Text.Literal`: the same
  with blanks around it, a sign and a prefix. `Uuid.numeral?_eq_some`: these are the texts that are
  read, with their values.
* `Uuid.IsResidue`: what is left of a spelling without its wrapping.
* `Uuid.residueValue?_lt`: 32 characters write no number of more than 128 bits.
* `Uuid.IsSpelling`: the digits of an identifier in either case, with hyphens or without, in braces,
  after `urn:uuid:`. `Uuid.read?_of_isSpelling`: such a text is read. `Uuid.read?_text`: canonical
  texts are.
* `Uuid.spelling_exact`: the texts that a scope list keeps, and the identifiers that they spell.
-/

namespace SubscriptionRegistry

namespace Text

/-! ## Words that are taken out -/

section Without

variable {word cs ds before after : List Char} {c : Char}

/-- `ds` is what is left of a text when the occurrences of `word` are taken out one after the other,
from the first to the last. They do not overlap, and what a removal joins is not looked at again. -/
inductive Without (word : List Char) : List Char → List Char → Prop
  | clear {cs : List Char} (h : ¬ word <:+: cs) : Without word cs cs
  | taken {before after ds : List Char}
      (first : ∀ p q, before ++ word ++ after = p ++ word ++ q → before.length ≤ p.length)
      (rest : Without word after ds) : Without word (before ++ word ++ after) (before ++ ds)

/-- Characters that belong to an occurrence are skipped. -/
theorem cutFrom_eq_drop (word : List Char) (skip : Nat) (cs : List Char) :
    cutFrom word skip cs = cut word (cs.drop skip) := by
  induction cs generalizing skip with
  | nil => cases skip <;> simp [cut, cutFrom]
  | cons c cs ih =>
    cases skip with
    | zero => rfl
    | succ skip => simp only [cutFrom, List.drop_succ_cons, ih]

theorem cut_cons_of_not (h : ¬ word <+: c :: cs) : cut word (c :: cs) = c :: cut word cs := by
  have hw : word.isPrefixOf (c :: cs) = false := by
    rw [Bool.eq_false_iff, ne_eq, List.isPrefixOf_iff_prefix]
    exact h
  simp [cut, cutFrom, hw]

theorem cut_append (hword : word ≠ []) (after : List Char) :
    cut word (word ++ after) = cut word after := by
  obtain ⟨c, w, rfl⟩ := List.exists_cons_of_ne_nil hword
  have hw : (c :: w).isPrefixOf (c :: (w ++ after)) = true := by
    rw [List.isPrefixOf_iff_prefix]
    exact List.prefix_append (c :: w) after
  have hskip : cut (c :: w) (c :: (w ++ after)) = cutFrom (c :: w) w.length (w ++ after) := by
    simp [cut, cutFrom, hw]
  rw [List.cons_append, hskip, cutFrom_eq_drop, List.drop_left]

/-- Nothing is taken out of a text without the word. -/
theorem cut_eq_self (h : ¬ word <:+: cs) : cut word cs = cs := by
  induction cs with
  | nil => rfl
  | cons c cs ih =>
    rw [List.infix_cons_iff, not_or] at h
    rw [cut_cons_of_not h.1, ih h.2]

theorem cut_eq_of_not_mem (hw : c ∈ word) (hc : c ∉ cs) : cut word cs = cs :=
  cut_eq_self fun h => hc (h.subset hw)

/-- A word starts in no part of a text that its first character is not in. -/
theorem cut_append_of_not_mem (hw : word.head? = some c) (hc : c ∉ before) (after : List Char) :
    cut word (before ++ after) = before ++ cut word after := by
  induction before with
  | nil => rfl
  | cons b before ih =>
    rw [List.mem_cons, not_or] at hc
    have hnot : ¬ word <+: b :: (before ++ after) := by
      rintro ⟨rest, hrest⟩
      cases word with
      | nil => cases hw
      | cons a word =>
        cases hw
        exact hc.1 (List.cons.inj hrest).1
    rw [List.cons_append, cut_cons_of_not hnot, ih hc.2, List.cons_append]

/-- The first occurrence is taken out, and what stands before it is kept. -/
theorem cut_first (hword : word ≠ [])
    (first : ∀ p q, before ++ word ++ after = p ++ word ++ q → before.length ≤ p.length) :
    cut word (before ++ word ++ after) = before ++ cut word after := by
  induction before with
  | nil => exact cut_append hword after
  | cons c before ih =>
    have hnot : ¬ word <+: c :: (before ++ word ++ after) := by
      rintro ⟨q, hq⟩
      have hlen := first [] q hq.symm
      simp at hlen
    have hrest : cut word (before ++ word ++ after) = before ++ cut word after := by
      apply ih
      intro p q hpq
      have hlen := first (c :: p) q (congrArg (c :: ·) hpq)
      simpa using hlen
    simp only [List.cons_append, cut_cons_of_not hnot, hrest]

theorem Without.eq_cut (hword : word ≠ []) (h : Without word cs ds) : ds = cut word cs := by
  induction h with
  | clear h => exact (cut_eq_self h).symm
  | taken first _ ih => rw [cut_first hword first, ih]

theorem Without.cons (hnot : ¬ word <+: c :: cs) (h : Without word cs ds) :
    Without word (c :: cs) (c :: ds) := by
  cases h with
  | clear h =>
    apply Without.clear
    rw [List.infix_cons_iff, not_or]
    exact ⟨hnot, h⟩
  | @taken before after ds first rest =>
    refine @Without.taken word (c :: before) after ds (fun p q hpq => ?_) rest
    cases p with
    | nil => exact absurd ⟨q, hpq.symm⟩ hnot
    | cons c' p =>
      have htail : before ++ word ++ after = p ++ word ++ q := (List.cons.inj hpq).2
      have hlen := first p q htail
      simpa using hlen

theorem without_cut (hword : word ≠ []) (cs : List Char) : Without word cs (cut word cs) := by
  -- What is left after an occurrence is shorter, but is no tail by one character.
  induction hn : cs.length using Nat.strongRecOn generalizing cs with
  | ind n ih =>
    cases cs with
    | nil =>
      apply Without.clear
      rw [List.infix_nil]
      exact hword
    | cons c cs =>
      rw [List.length_cons] at hn
      by_cases hw : word <+: c :: cs
      · obtain ⟨after, hafter⟩ := hw
        have hpos := List.length_pos_iff.2 hword
        have hlen : word.length + after.length = cs.length + 1 := by
          rw [← List.length_append, hafter, List.length_cons]
        have hrest := ih after.length (by omega) after rfl
        rw [← hafter, cut_append hword]
        exact @Without.taken word [] after _ (fun p q _ => Nat.zero_le p.length) hrest
      · rw [cut_cons_of_not hw]
        exact (ih cs.length (by omega) cs rfl).cons hw

theorem without_iff (hword : word ≠ []) : Without word cs ds ↔ ds = cut word cs := by
  constructor
  · exact Without.eq_cut hword
  · rintro rfl
    exact without_cut hword cs

end Without

/-! ## Ends that are stripped -/

section Stripped

variable {p : Char → Bool} {cs ds before after : List Char}

/-- `ds` is a text without the characters of class `p` at its two ends. -/
structure Stripped (p : Char → Bool) (cs ds : List Char) : Prop where
  parts : ∃ before after, cs = before ++ ds ++ after ∧ (∀ c ∈ before, p c = true) ∧
    ∀ c ∈ after, p c = true
  head : ∀ c, ds.head? = some c → p c = false
  last : ∀ c, ds.getLast? = some c → p c = false

theorem head?_dropWhile (cs : List Char) (c : Char) (h : (cs.dropWhile p).head? = some c) :
    p c = false := by
  have hnot := List.head?_dropWhile_not p cs
  rw [h] at hnot
  exact hnot

theorem dropWhile_eq_self (h : ∀ c, ds.head? = some c → p c = false) : ds.dropWhile p = ds := by
  cases ds with
  | nil => rfl
  | cons c ds => simp [h c rfl]

theorem trim_append (hbefore : ∀ c ∈ before, p c = true) (hafter : ∀ c ∈ after, p c = true)
    (hhead : ∀ c, ds.head? = some c → p c = false)
    (hlast : ∀ c, ds.getLast? = some c → p c = false) :
    trim p (before ++ ds ++ after) = ds := by
  have hright : trimRight p (ds ++ after) = ds := by
    have hrev : ∀ c ∈ after.reverse, p c = true := fun c hc => hafter c (List.mem_reverse.1 hc)
    have hself : ds.reverse.dropWhile p = ds.reverse := by
      apply dropWhile_eq_self
      intro c hc
      rw [List.head?_reverse] at hc
      exact hlast c hc
    rw [trimRight, List.reverse_append, List.dropWhile_append_of_pos hrev, hself,
      List.reverse_reverse]
  rw [trim, List.append_assoc, List.dropWhile_append_of_pos hbefore]
  cases ds with
  | nil =>
    -- There is nothing in between that would stop the stripping from the left.
    have hnone : after.dropWhile p = [] := by
      have hall : (after ++ []).dropWhile p = [].dropWhile p := List.dropWhile_append_of_pos hafter
      simpa using hall
    rw [List.nil_append, hnone]
    rfl
  | cons c ds =>
    have hself : (c :: ds ++ after).dropWhile p = c :: ds ++ after := by
      apply dropWhile_eq_self
      intro c' hc'
      exact hhead c' hc'
    rw [hself, hright]

theorem stripped_trim (p : Char → Bool) (cs : List Char) : Stripped p cs (trim p cs) := by
  have hall : ∀ l : List Char, ∀ c ∈ l.takeWhile p, p c = true := fun l =>
    List.all_eq_true.1 List.all_takeWhile
  have hleft := List.takeWhile_append_dropWhile (p := p) (l := cs)
  have hright : trim p cs ++ ((cs.dropWhile p).reverse.takeWhile p).reverse = cs.dropWhile p := by
    rw [trim, trimRight, ← List.reverse_append, List.takeWhile_append_dropWhile,
      List.reverse_reverse]
  constructor
  · refine ⟨cs.takeWhile p, ((cs.dropWhile p).reverse.takeWhile p).reverse, ?_, hall cs, ?_⟩
    · rw [List.append_assoc, hright, hleft]
    · intro c hc
      exact hall _ c (List.mem_reverse.1 hc)
  · intro c hc
    apply head?_dropWhile cs c
    rw [← hright, List.head?_append, hc]
    rfl
  · intro c hc
    apply head?_dropWhile (cs.dropWhile p).reverse c
    rw [trim, trimRight, List.getLast?_reverse] at hc
    exact hc

theorem stripped_iff : Stripped p cs ds ↔ ds = trim p cs := by
  constructor
  · rintro ⟨⟨before, after, rfl, hbefore, hafter⟩, hhead, hlast⟩
    exact (trim_append hbefore hafter hhead hlast).symm
  · rintro rfl
    exact stripped_trim p cs

end Stripped

/-! ## Numerals -/

section Numeral

variable {cs before after sign pre digits : List Char} {ds : List Nat} {c : Char} {d n m : Nat}

/-- A text of hexadecimal digits of either case, with single underscores between them, and the
values of its digits. -/
inductive Numeral : List Char → List Nat → Prop
  | last {c : Char} {d : Nat} (h : hexValue? c = some d) : Numeral [c] [d]
  | digit {c : Char} {d : Nat} {cs : List Char} {ds : List Nat} (h : hexValue? c = some d)
      (rest : Numeral cs ds) : Numeral (c :: cs) (d :: ds)
  | underscore {c : Char} {d : Nat} {cs : List Char} {ds : List Nat} (h : hexValue? c = some d)
      (rest : Numeral cs ds) : Numeral (c :: '_' :: cs) (d :: ds)

/-- What may stand between the sign of a number in base sixteen and its digits. -/
def hexPrefixes : List (List Char) :=
  [[], ['0', 'x'], ['0', 'X'], ['0', 'x', '_'], ['0', 'X', '_']]

/-- The text of a number in base sixteen: a numeral, which a prefix `0x` with one underscore after
it or none, a plus sign, and blanks around it may accompany. -/
def Literal (cs : List Char) (n : Nat) : Prop :=
  ∃ before sign pre digits after : List Char, ∃ ds : List Nat,
    cs = before ++ (sign ++ pre ++ digits) ++ after ∧
      (∀ c ∈ before, isAsciiBlank c = true) ∧ (∀ c ∈ after, isAsciiBlank c = true) ∧
      sign ∈ [[], ['+']] ∧ pre ∈ hexPrefixes ∧ Numeral digits ds ∧
      n = foldDigits 16 ds

/-! ### Digits -/

theorem ne_of_hexValue? {c' : Char} (h : hexValue? c = some d) (hc' : hexValue? c' = none) :
    c ≠ c' := by
  rintro rfl
  rw [h] at hc'
  cases hc'

theorem digitsValue?_digit (h : hexValue? c = some d) (n : Nat) (b : Bool) (cs : List Char) :
    digitsValue? 16 n b (c :: cs) = digitsValue? 16 (16 * n + d) true cs := by
  have hne : c ≠ '_' := ne_of_hexValue? h (by decide)
  have hlt := hexValue?_lt h
  simp [digitsValue?, hne, h, hlt]

theorem digitsValue?_underscore (n : Nat) (cs : List Char) :
    digitsValue? 16 n true ('_' :: cs) = digitsValue? 16 n false cs := by
  simp [digitsValue?]

/-- The number is read digit by digit. -/
theorem digitsValue?_of_numeral (h : Numeral cs ds) (n : Nat) (b : Bool) :
    digitsValue? 16 n b cs = some (ds.foldl (fun n d => n * 16 + d) n) := by
  induction h generalizing n b with
  | last h =>
    rw [digitsValue?_digit h]
    simp [digitsValue?, Nat.mul_comm]
  | digit h _ ih => rw [digitsValue?_digit h, ih, List.foldl_cons, Nat.mul_comm]
  | underscore h _ ih =>
    rw [digitsValue?_digit h, digitsValue?_underscore, ih, List.foldl_cons, Nat.mul_comm]

/-- What stands first in a text that is read as digits. -/
theorem digitsValue?_cases {b : Bool} (h : digitsValue? 16 n b cs = some m) :
    (cs = [] ∧ b = true ∧ m = n) ∨
      (∃ rest, cs = '_' :: rest ∧ b = true ∧ digitsValue? 16 n false rest = some m) ∨
      ∃ c d rest, cs = c :: rest ∧ hexValue? c = some d ∧
        digitsValue? 16 (16 * n + d) true rest = some m := by
  cases cs with
  | nil => cases b <;> simp_all [digitsValue?]
  | cons c rest =>
    by_cases hc : c = '_'
    · subst hc
      cases b <;> simp_all [digitsValue?]
    · cases hd : hexValue? c with
      | none => simp [digitsValue?, hc, hd] at h
      | some d =>
        rw [digitsValue?_digit hd] at h
        exact .inr (.inr ⟨c, d, rest, rfl, hd, h⟩)

/-- A text that is read as digits from its start is a numeral. -/
theorem numeral_of_digitsValue? (h : digitsValue? 16 n false cs = some m) :
    ∃ ds, Numeral cs ds ∧ m = ds.foldl (fun n d => n * 16 + d) n := by
  -- An underscore takes two characters at once, so the induction is on the length.
  induction hlen : cs.length using Nat.strongRecOn generalizing cs n with
  | ind len ih =>
    rcases digitsValue?_cases h with ⟨-, hb, -⟩ | ⟨_, -, hb, -⟩ | ⟨c, d, rest, rfl, hd, hrest⟩
    · cases hb
    · cases hb
    · rw [List.length_cons] at hlen
      rcases digitsValue?_cases hrest with ⟨rfl, -, rfl⟩ | ⟨rest', rfl, -, hrest'⟩ |
        ⟨c', d', rest', rfl, hd', hrest'⟩
      · refine ⟨[d], .last hd, ?_⟩
        simp [Nat.mul_comm]
      · rw [List.length_cons] at hlen
        obtain ⟨ds, hds, rfl⟩ := ih rest'.length (by omega) hrest' rfl
        refine ⟨d :: ds, .underscore hd hds, ?_⟩
        rw [List.foldl_cons, Nat.mul_comm]
      · have hfalse : digitsValue? 16 (16 * n + d) false (c' :: rest') = some m := by
          rw [digitsValue?_digit hd']
          exact hrest'
        obtain ⟨ds, hds, rfl⟩ := ih (c' :: rest').length (by omega) hfalse rfl
        refine ⟨d :: ds, .digit hd hds, ?_⟩
        rw [List.foldl_cons, Nat.mul_comm]

theorem digitsValue?_eq_some :
    digitsValue? 16 0 false cs = some n ↔ ∃ ds, Numeral cs ds ∧ n = foldDigits 16 ds := by
  constructor
  · exact numeral_of_digitsValue?
  · rintro ⟨ds, h, rfl⟩
    exact digitsValue?_of_numeral h 0 false

/-- A numeral starts with a digit, and after it comes a digit or an underscore. -/
theorem Numeral.start (h : Numeral cs ds) : ∃ c rest, cs = c :: rest ∧ (hexValue? c).isSome ∧
    ∀ c', rest.head? = some c' → c' = '_' ∨ (hexValue? c').isSome := by
  cases h with
  | @last c d h => exact ⟨c, [], rfl, by simp [h], by simp⟩
  | @underscore c d cs ds h rest => exact ⟨c, '_' :: cs, rfl, by simp [h], by simp⟩
  | @digit c d cs ds h rest =>
    refine ⟨c, cs, rfl, by simp [h], ?_⟩
    cases rest <;> simp_all

theorem Numeral.mem (h : Numeral cs ds) : ∀ c ∈ cs, c = '_' ∨ (hexValue? c).isSome := by
  induction h with
  | last h => simp [h]
  | digit h _ ih => simpa [h] using ih
  | underscore h _ ih => simpa [h] using ih

theorem Numeral.length_le (h : Numeral cs ds) : ds.length ≤ cs.length := by
  induction h with
  | last h => simp
  | digit h _ ih => simpa using ih
  | underscore h _ ih =>
    simp only [List.length_cons]
    omega

theorem Numeral.lt (h : Numeral cs ds) : ∀ d ∈ ds, d < 16 := by
  induction h with
  | last h => simpa using hexValue?_lt h
  | digit h _ ih => simpa using ⟨hexValue?_lt h, ih⟩
  | underscore h _ ih => simpa using ⟨hexValue?_lt h, ih⟩

/-- Digits that are added to a number leave it below the next one, moved up by their places. -/
theorem foldl_digits_lt {b : Nat} (h : ∀ d ∈ ds, d < b) (n : Nat) :
    ds.foldl (fun n d => n * b + d) n < (n + 1) * b ^ ds.length := by
  induction ds generalizing n with
  | nil => simp
  | cons d ds ih =>
    have hd : d < b := h d List.mem_cons_self
    have hds := ih (fun d' hd' => h d' (List.mem_cons_of_mem d hd')) (n * b + d)
    have hle : n * b + d + 1 ≤ (n + 1) * b := by
      rw [Nat.add_mul]
      omega
    calc (d :: ds).foldl (fun n d => n * b + d) n
        < (n * b + d + 1) * b ^ ds.length := hds
      _ ≤ (n + 1) * b * b ^ ds.length := Nat.mul_le_mul_right _ hle
      _ = (n + 1) * b ^ (d :: ds).length := by
        rw [List.length_cons, Nat.pow_succ, Nat.mul_assoc, Nat.mul_comm b]

/-- A literal has as many binary places as four times its characters at most. -/
theorem Literal.lt (h : Literal cs n) : n < 16 ^ cs.length := by
  obtain ⟨before, sign, pre, digits, after, ds, rfl, -, -, -, -, hds, rfl⟩ := h
  have hfold := foldl_digits_lt hds.lt 0
  have hlen := hds.length_le
  simp only [Nat.zero_add, Nat.one_mul] at hfold
  refine Nat.lt_of_lt_of_le hfold (Nat.pow_le_pow_right (by decide) ?_)
  simp only [List.length_append]
  omega

end Numeral

end Text

namespace Uuid

open Text

/-! ## Literals are read -/

section Literal

variable {cs digits pre : List Char} {ds : List Nat} {n : Nat}

theorem unsigned?_numeral (h : Numeral digits ds) :
    unsigned? digits = digitsValue? 16 0 false digits := by
  obtain ⟨c, rest, rfl, -, hnext⟩ := h.start
  unfold unsigned?
  split
  · rename_i x cs heq
    have hx : x = '_' ∨ (hexValue? x).isSome := by
      apply hnext
      rw [(List.cons.inj heq).2]
      rfl
    have hno : (x == 'x' || x == 'X') = false := by
      rw [Bool.eq_false_iff]
      intro hxx
      simp only [Bool.or_eq_true, beq_iff_eq] at hxx
      rcases hxx with rfl | rfl <;> revert hx <;> decide
    rw [hno, heq]
    rfl
  · rfl

/-- A numeral after a prefix. -/
theorem unsigned?_append (hpre : pre ∈ hexPrefixes) (h : Numeral digits ds) :
    unsigned? (pre ++ digits) = digitsValue? 16 0 false digits := by
  obtain ⟨c, rest, rfl, hc, -⟩ := h.start
  have hne : c ≠ '_' := by
    rintro rfl
    revert hc
    decide
  simp only [hexPrefixes, List.mem_cons, List.not_mem_nil, or_false] at hpre
  rcases hpre with rfl | rfl | rfl | rfl | rfl
  · exact unsigned?_numeral h
  all_goals simp [unsigned?, hne]

theorem exists_of_unsigned? (h : unsigned? cs = some n) : ∃ pre digits, cs = pre ++ digits ∧
    pre ∈ hexPrefixes ∧ digitsValue? 16 0 false digits = some n := by
  unfold unsigned? at h
  split at h
  · rename_i x cs
    split at h
    · rename_i hx
      simp only [Bool.or_eq_true, beq_iff_eq] at hx
      split at h
      · rename_i ds
        refine ⟨['0', x, '_'], ds, rfl, ?_, h⟩
        rcases hx with rfl | rfl <;> decide
      · refine ⟨['0', x], cs, rfl, ?_, h⟩
        rcases hx with rfl | rfl <;> decide
    · exact ⟨[], _, rfl, by decide, h⟩
  · exact ⟨[], cs, rfl, by decide, h⟩

/-- A sign is read before a text that starts with none. -/
theorem numeral?_of_trim {sign : List Char} (ht : trim isAsciiBlank cs = sign ++ digits)
    (hs : sign ∈ [[], ['+']]) (hplus : ∀ c, digits.head? = some c → c ≠ '+') :
    numeral? cs = unsigned? digits := by
  unfold numeral?
  rw [ht]
  simp only [List.mem_cons, List.not_mem_nil, or_false] at hs
  rcases hs with rfl | rfl
  · cases digits with
    | nil => rfl
    | cons c rest =>
      have hc : c ≠ '+' := hplus c rfl
      simp [hc]
  · rfl

/-- The characters of a literal between its blanks. -/
theorem not_isAsciiBlank_of_mem {sign : List Char} {c : Char} (hs : sign ∈ [[], ['+']])
    (hpre : pre ∈ hexPrefixes) (h : Numeral digits ds) (hc : c ∈ sign ++ pre ++ digits) :
    isAsciiBlank c = false := by
  have hsign : ∀ sign ∈ [[], ['+']], ∀ c ∈ sign, isAsciiBlank c = false := by
    simp [isAsciiBlank]
  have hprefix : ∀ pre ∈ hexPrefixes, ∀ c ∈ pre, isAsciiBlank c = false := by
    simp [hexPrefixes, isAsciiBlank]
  simp only [List.mem_append] at hc
  rcases hc with (hc | hc) | hc
  · exact hsign sign hs c hc
  · exact hprefix pre hpre c hc
  · rcases h.mem c hc with rfl | hd
    · decide
    · rw [Bool.eq_false_iff]
      intro hb
      simp only [isAsciiBlank, Bool.or_eq_true, beq_iff_eq, Bool.and_eq_true,
        decide_eq_true_eq] at hb
      rcases hb with rfl | hb
      · revert hd
        decide
      · simp [hexValue?] at hd
        grind

theorem numeral?_of_literal (h : Literal cs n) : numeral? cs = some n := by
  obtain ⟨before, sign, pre, digits, after, ds, rfl, hbefore, hafter, hs, hpre, hds, rfl⟩ := h
  have hblank : ∀ c ∈ sign ++ pre ++ digits, isAsciiBlank c = false := fun c =>
    not_isAsciiBlank_of_mem hs hpre hds
  have ht : trim isAsciiBlank (before ++ (sign ++ pre ++ digits) ++ after) =
      sign ++ (pre ++ digits) := by
    rw [trim_append hbefore hafter (fun c hc => hblank c (List.mem_of_mem_head? hc))
      (fun c hc => hblank c (List.mem_of_getLast? hc)), List.append_assoc]
  have hplus : ∀ c, (pre ++ digits).head? = some c → c ≠ '+' := by
    obtain ⟨c', rest, rfl, hc', -⟩ := hds.start
    have hdigit : c' ≠ '+' := by
      rintro rfl
      revert hc'
      decide
    simp only [hexPrefixes, List.mem_cons, List.not_mem_nil, or_false] at hpre
    rcases hpre with rfl | rfl | rfl | rfl | rfl
    · intro c hc
      cases hc
      exact hdigit
    all_goals
      intro c hc
      cases hc
      decide
  rw [numeral?_of_trim ht hs hplus, unsigned?_append hpre hds, digitsValue?_of_numeral hds]
  rfl

theorem literal_of_numeral? (h : numeral? cs = some n) : Literal cs n := by
  obtain ⟨⟨before, after, hcs, hbefore, hafter⟩, -, -⟩ := stripped_trim isAsciiBlank cs
  have hsign : ∃ sign rest, trim isAsciiBlank cs = sign ++ rest ∧ sign ∈ [[], ['+']] ∧
      unsigned? rest = some n := by
    unfold numeral? at h
    split at h
    · rename_i rest heq
      exact ⟨['+'], rest, heq, by simp, h⟩
    · exact ⟨[], trim isAsciiBlank cs, rfl, by simp, h⟩
  obtain ⟨sign, rest, hrest, hs, hvalue⟩ := hsign
  obtain ⟨pre, digits, rfl, hpre, hdigits⟩ := exists_of_unsigned? hvalue
  obtain ⟨ds, hds, rfl⟩ := digitsValue?_eq_some.1 hdigits
  refine ⟨before, sign, pre, digits, after, ds, ?_, hbefore, hafter, hs, hpre, hds, rfl⟩
  rw [List.append_assoc sign, ← hrest]
  exact hcs

theorem numeral?_eq_some : numeral? cs = some n ↔ Literal cs n :=
  ⟨literal_of_numeral?, numeral?_of_literal⟩

end Literal

/-! ## Residues -/

section Residue

variable {cs r : List Char} {c : Char} {n : Nat}

/-- A curly bracket. -/
def isBrace (c : Char) : Bool :=
  c = '{' ∨ c = '}'

/-- `r` is what is left of a spelling without its wrapping: without `urn:`, then without `uuid:`,
then without the braces at its ends, then without hyphens. -/
def IsResidue (cs r : List Char) : Prop :=
  ∃ a b m : List Char, Without "urn:".toList cs a ∧ Without "uuid:".toList a b ∧
    Stripped isBrace b m ∧ r = m.filter (· ≠ '-')

theorem residue_eq (cs : List Char) : residue cs =
    (trim isBrace (cut "uuid:".toList (cut "urn:".toList cs))).filter (· ≠ '-') := by
  have hbrace : isBrace = fun c => c == '{' || c == '}' := by
    funext c
    simp [isBrace, Bool.beq_eq_decide_eq]
  rw [hbrace]
  apply List.filter_congr
  intro c _
  by_cases hc : c = '-' <;> simp [hc]

theorem isResidue_iff : IsResidue cs r ↔ r = residue cs := by
  have hurn : "urn:".toList ≠ [] := by decide
  have huuid : "uuid:".toList ≠ [] := by decide
  simp only [IsResidue, without_iff hurn, without_iff huuid, stripped_iff]
  rw [residue_eq]
  constructor
  · rintro ⟨a, b, m, rfl, rfl, rfl, rfl⟩
    rfl
  · rintro rfl
    exact ⟨_, _, _, rfl, rfl, rfl, rfl⟩

theorem isResidue_residue (cs : List Char) : IsResidue cs (residue cs) :=
  isResidue_iff.2 rfl

theorem mem_of_without {word ds : List Char} (h : Without word cs ds) (hc : c ∈ ds) : c ∈ cs := by
  induction h with
  | clear _ => exact hc
  | taken _ _ ih =>
    simp only [List.mem_append] at hc ⊢
    rcases hc with hc | hc
    · exact .inl (.inl hc)
    · exact .inr (ih hc)

/-- A residue has no characters but those of the spelling. -/
theorem mem_of_isResidue (h : IsResidue cs r) (hc : c ∈ r) : c ∈ cs := by
  obtain ⟨a, b, m, ha, hb, hm, rfl⟩ := h
  obtain ⟨before, after, rfl, -, -⟩ := hm.parts
  have hmem := (List.mem_filter.1 hc).1
  apply mem_of_without ha
  apply mem_of_without hb
  simp [hmem]

theorem length_of_mapM {f : Char → Option Char} {ds : List Char} (h : cs.mapM f = some ds) :
    ds.length = cs.length := by
  induction cs generalizing ds with
  | nil =>
    cases h
    rfl
  | cons c cs ih =>
    simp only [List.mapM_cons, Option.bind_eq_bind, Option.bind_eq_some_iff, Option.pure_def,
      Option.some.injEq] at h
    obtain ⟨d, -, ds, hds, rfl⟩ := h
    simp [ih hds]

theorem length_of_plainText? {ps : List Char} (h : plainText? cs = some ps) :
    ps.length = cs.length := by
  unfold plainText? at h
  split at h
  · cases h
    rfl
  · exact length_of_mapM h

/-- The check of the range can refuse nothing: 32 characters are too few for a larger number. -/
theorem residueValue?_lt (h : residueValue? cs = some n) : n < count := by
  unfold residueValue? at h
  split at h
  · rename_i hlen
    obtain ⟨ps, hps, hn⟩ := Option.bind_eq_some_iff.1 h
    have hlt := (numeral?_eq_some.1 hn).lt
    rw [length_of_plainText? hps, hlen] at hlt
    have hcount : count = 16 ^ 32 := by decide
    omega
  · cases h

theorem read?_eq_some {s : String} {u : Uuid} :
    read? s = some u ↔ residueValue? (residue s.toList) = some u.value.val := by
  unfold read?
  rw [Option.bind_eq_some_iff]
  constructor
  · rintro ⟨n, hn, hu⟩
    split at hu
    · cases hu
      exact hn
    · cases hu
  · intro h
    exact ⟨u.value, h, by simp⟩

/-- Of ASCII characters nothing is rewritten before the number is read. -/
theorem residueValue?_of_ascii (hcs : ∀ c ∈ cs, c.toNat < 128) :
    residueValue? cs = some n ↔ cs.length = 32 ∧ Literal cs n := by
  have hplain : plainText? cs = some cs := by
    unfold plainText?
    rw [if_pos]
    simpa using hcs
  simp [residueValue?, hplain, numeral?_eq_some]

end Residue

/-! ## Digits of either case -/

section Digits

variable {cs before tag rest body : List Char} {c : Char} {s : String} {u : Uuid}

theorem isLowerHex_iff : isLowerHex c = true ↔
    (48 ≤ c.toNat ∧ c.toNat ≤ 57) ∨ (97 ≤ c.toNat ∧ c.toNat ≤ 102) := by
  simp only [isLowerHex, decide_eq_true_eq]
  exact Iff.rfl

/-- A digit has the same value in either case. -/
theorem hexValue?_toLower (c : Char) : hexValue? c.toLower = hexValue? c := by
  unfold Char.toLower
  split
  · rename_i h
    have hge : 65 ≤ c.toNat := UInt32.le_iff_toNat_le.1 h.1
    have hle : c.toNat ≤ 90 := UInt32.le_iff_toNat_le.1 h.2
    have hlow : (c.toNat + 32) % 4294967296 = c.toNat + 32 := Nat.mod_eq_of_lt (by omega)
    simp [hexValue?, hlow]
    grind
  · rfl

theorem exists_hexValue? (h : isLowerHex c.toLower = true) : ∃ d, hexValue? c = some d := by
  rw [isLowerHex_iff] at h
  rw [← hexValue?_toLower]
  rcases h with h | h
  · exact ⟨c.toLower.toNat - 48, by simp only [hexValue?, if_pos h]⟩
  · have hno : ¬ (48 ≤ c.toLower.toNat ∧ c.toLower.toNat ≤ 57) := by omega
    exact ⟨c.toLower.toNat - 87, by simp only [hexValue?, if_neg hno, if_pos h]⟩

theorem toNat_lt_of_hexValue? {d : Nat} (h : hexValue? c = some d) : c.toNat < 128 := by
  unfold hexValue? at h
  grind

theorem numeral_of_digits (h : ∀ c ∈ cs, ∃ d, hexValue? c = some d) (hne : cs ≠ []) :
    Numeral cs (cs.filterMap hexValue?) := by
  induction cs with
  | nil => exact absurd rfl hne
  | cons c cs ih =>
    obtain ⟨d, hd⟩ := h c List.mem_cons_self
    rw [List.filterMap_cons_some hd]
    cases cs with
    | nil => exact .last hd
    | cons c' cs => exact .digit hd (ih (fun x hx => h x (List.mem_cons_of_mem c hx)) (by simp))

theorem isLowerHex_of_mem_digits (h : c ∈ u.digits) : isLowerHex c = true :=
  isLowerHex_of_mem_hexDigits h

/-- A text is read if its residue has the digits of an identifier, each in either case. -/
theorem read?_of_residue (h : (residue s.toList).map Char.toLower = u.digits) :
    read? s = some u := by
  have hdigit : ∀ c ∈ residue s.toList, ∃ d, hexValue? c = some d := by
    intro c hc
    have hmem : c.toLower ∈ u.digits := h ▸ List.mem_map_of_mem hc
    exact exists_hexValue? (isLowerHex_of_mem_digits hmem)
  have hascii : ∀ c ∈ residue s.toList, c.toNat < 128 := by
    intro c hc
    obtain ⟨d, hd⟩ := hdigit c hc
    exact toNat_lt_of_hexValue? hd
  have hlen : (residue s.toList).length = 32 := by
    rw [← u.digits_length, ← h, List.length_map]
  have hne : residue s.toList ≠ [] := by
    apply List.ne_nil_of_length_pos
    rw [hlen]
    decide
  have hlower : hexValue? ∘ Char.toLower = hexValue? := funext hexValue?_toLower
  have hvalue : foldDigits 16 ((residue s.toList).filterMap hexValue?) = u.value := by
    rw [← hlower, ← List.filterMap_map, h, digits, foldDigits_hexDigits, Nat.mod_eq_of_lt]
    exact u.value.isLt
  rw [read?_eq_some, residueValue?_of_ascii hascii]
  exact ⟨hlen, [], [], [], residue s.toList, [], _, by simp, by simp, by simp, by simp,
    by simp [hexPrefixes], numeral_of_digits hdigit hne, hvalue.symm⟩

/-! ## Wrapped digits -/

/-- The text has the digits of `u`, each in either case, with hyphens anywhere between them or none.
Braces may stand around them, and `urn:uuid:` before them, inside the braces or outside. -/
def IsSpelling (u : Uuid) (s : String) : Prop :=
  ∃ before tag inner body after : List Char,
    s.toList = before ++ tag ++ inner ++ body ++ after ∧
    (∀ c ∈ before ++ inner ++ after, isBrace c = true) ∧ tag ∈ [[], "urn:uuid:".toList] ∧
    (body.filter (· ≠ '-')).map Char.toLower = u.digits

/-- The first word goes, and the second is no part of it. -/
theorem cut_urn (hrest : 'u' ∉ rest) :
    cut "urn:".toList ("urn:uuid:".toList ++ rest) = "uuid:".toList ++ rest := by
  have hword : "urn:".toList ≠ [] := by decide
  have htail : 'u' ∉ "id:".toList ++ rest := by
    rw [List.mem_append, not_or]
    exact ⟨by decide, hrest⟩
  calc cut "urn:".toList ("urn:uuid:".toList ++ rest)
      = cut "urn:".toList ('u' :: 'u' :: ("id:".toList ++ rest)) :=
        cut_append hword ('u' :: 'u' :: ("id:".toList ++ rest))
    _ = 'u' :: 'u' :: cut "urn:".toList ("id:".toList ++ rest) := by
        rw [cut_cons_of_not (by simp), cut_cons_of_not (by simp)]
    _ = 'u' :: 'u' :: ("id:".toList ++ rest) := by
        rw [cut_eq_of_not_mem (by decide) htail]

/-- Both words are taken out, wherever they stand. -/
theorem cut_tag (hbefore : 'u' ∉ before) (hrest : 'u' ∉ rest)
    (htag : tag ∈ [[], "urn:uuid:".toList]) :
    cut "uuid:".toList (cut "urn:".toList (before ++ tag ++ rest)) = before ++ rest := by
  have hurn : "urn:".toList.head? = some 'u' := rfl
  have huuid : "uuid:".toList.head? = some 'u' := rfl
  have hword : "uuid:".toList ≠ [] := by decide
  have hnone : cut "uuid:".toList rest = rest := cut_eq_of_not_mem (by decide) hrest
  rw [List.append_assoc, cut_append_of_not_mem hurn hbefore, cut_append_of_not_mem huuid hbefore]
  simp only [List.mem_cons, List.not_mem_nil, or_false] at htag
  rcases htag with rfl | rfl
  · rw [List.nil_append, cut_eq_of_not_mem (by decide) hrest, hnone]
  · rw [cut_urn hrest, cut_append hword, hnone]

/-- Among hyphens and digits stands nothing that could belong to the wrapping. -/
theorem unwrapped_of_mem (hbody : (body.filter (· ≠ '-')).map Char.toLower = u.digits)
    (hc : c ∈ body) : c ≠ 'u' ∧ isBrace c = false := by
  by_cases hhyphen : c = '-'
  · subst hhyphen
    decide
  · have hmem : c.toLower ∈ u.digits := by
      rw [← hbody]
      apply List.mem_map_of_mem
      simp [hc, hhyphen]
    have hhex := isLowerHex_of_mem_digits hmem
    constructor
    · rintro rfl
      revert hhex
      decide
    · rw [Bool.eq_false_iff]
      intro hb
      simp only [isBrace, decide_eq_true_eq] at hb
      rcases hb with rfl | rfl <;> revert hhex <;> decide

theorem ne_of_isBrace (h : isBrace c = true) : c ≠ 'u' := by
  rintro rfl
  revert h
  decide

theorem read?_of_isSpelling (h : u.IsSpelling s) : read? s = some u := by
  obtain ⟨before, tag, inner, body, after, hs, hbrace, htag, hbody⟩ := h
  simp only [List.mem_append] at hbrace
  have hbefore : 'u' ∉ before := fun hc => ne_of_isBrace (hbrace 'u' (.inl (.inl hc))) rfl
  have hrest : 'u' ∉ inner ++ body ++ after := by
    simp only [List.mem_append]
    rintro ((hc | hc) | hc)
    · exact ne_of_isBrace (hbrace 'u' (.inl (.inr hc))) rfl
    · exact (unwrapped_of_mem hbody hc).1 rfl
    · exact ne_of_isBrace (hbrace 'u' (.inr hc)) rfl
  have hparts : s.toList = before ++ tag ++ (inner ++ body ++ after) := by
    rw [hs]
    simp only [List.append_assoc]
  have hjoined : before ++ (inner ++ body ++ after) = before ++ inner ++ body ++ after := by
    simp only [List.append_assoc]
  have htrim : trim isBrace (before ++ inner ++ body ++ after) = body := by
    apply trim_append
    · exact fun c hc => hbrace c (.inl (List.mem_append.1 hc))
    · exact fun c hc => hbrace c (.inr hc)
    · exact fun c hc => (unwrapped_of_mem hbody (List.mem_of_mem_head? hc)).2
    · exact fun c hc => (unwrapped_of_mem hbody (List.mem_of_getLast? hc)).2
  apply read?_of_residue
  rw [residue_eq, hparts, cut_tag hbefore hrest htag, hjoined, htrim, hbody]

/-! ## Canonical texts are read back -/

theorem filter_hyphenate (h : ∀ c ∈ cs, isLowerHex c = true) :
    (hyphenate cs).filter (· ≠ '-') = cs := by
  have hgroups : (hyphenate cs).filter (· ≠ '-') = (cs.take 8 ++ (cs.drop 8).take 4 ++
      (cs.drop 12).take 4 ++ (cs.drop 16).take 4 ++ cs.drop 20).filter (· ≠ '-') := by
    simp [hyphenate]
  rw [hgroups, groups_eq, filter_hyphen h]

theorem toLower_of_isLowerHex (h : isLowerHex c = true) : c.toLower = c := by
  rw [isLowerHex_iff] at h
  apply dif_neg
  rintro ⟨hge, hle⟩
  have hge' : 65 ≤ c.toNat := UInt32.le_iff_toNat_le.1 hge
  have hle' : c.toNat ≤ 90 := UInt32.le_iff_toNat_le.1 hle
  omega

/-- A canonical text has no wrapping. -/
theorem isSpelling_text (u : Uuid) : u.IsSpelling u.text := by
  have hhex : ∀ c ∈ u.digits, isLowerHex c = true := fun c hc => isLowerHex_of_mem_digits hc
  refine ⟨[], [], [], u.text.toList, [], by simp, by simp, by simp, ?_⟩
  rw [text, String.toList_ofList, filter_hyphenate hhex,
    List.map_congr_left fun c hc => toLower_of_isLowerHex (hhex c hc), List.map_id']

theorem read?_text (u : Uuid) : read? u.text = some u :=
  read?_of_isSpelling u.isSpelling_text

end Digits

end Uuid

/-! ## Scope lists -/

/-- A list of one text. -/
theorem Scope.decode_text (s : String) :
    (∀ u, decode [.text s] = (.ofList [u], []) ↔ Uuid.read? s = some u) ∧
      (decode [.text s] = (.empty, [.text s]) ↔ Uuid.read? s = none) := by
  have hone : ∀ {u v : Uuid}, Scope.ofList [u] = Scope.ofList [v] ↔ u = v := by
    intro u v
    constructor
    · intro h
      have hu : u ∈ Scope.ofList [v] := h ▸ mem_ofList.2 (by simp)
      simpa using hu
    · rintro rfl
      rfl
  cases h : Uuid.read? s with
  | none => simp [decode, readItem?, h]
  | some v =>
    have hdecode : decode [.text s] = (.ofList [v], []) := by
      simp only [decode, readItem?, h]
      rfl
    simp [hdecode, hone]

namespace Uuid

open Text

/-- An ASCII text is read if its residue has 32 characters and writes a number, which it is read
as. -/
theorem read?_of_ascii {s : String} {u : Uuid} (hs : ∀ c ∈ s.toList, c.toNat < 128) :
    read? s = some u ↔ ∃ r, IsResidue s.toList r ∧ r.length = 32 ∧ Literal r u.value := by
  have hascii : ∀ c ∈ residue s.toList, c.toNat < 128 := fun c hc =>
    hs c (mem_of_isResidue (isResidue_residue s.toList) hc)
  rw [read?_eq_some, residueValue?_of_ascii hascii]
  constructor
  · intro h
    exact ⟨residue s.toList, isResidue_residue s.toList, h⟩
  · rintro ⟨r, hr, h⟩
    rw [isResidue_iff.1 hr] at h
    exact h

/-- The texts that write a number have an identifier of that value. -/
theorem exists_value {r : List Char} {n : Nat} (hlen : r.length = 32) (h : Literal r n) :
    ∃ u : Uuid, u.value = n := by
  have hlt := h.lt
  rw [hlen] at hlt
  have hcount : count = 16 ^ 32 := by decide
  exact ⟨⟨⟨n, hcount ▸ hlt⟩⟩, rfl⟩

/-- **Which texts a scope list keeps.** An ASCII text is kept if what is left of it without its
wrapping has 32 characters and is the text of a number in base sixteen, and it spells the identifier
with that number; any other is refused. No text, of ASCII characters or not, writes a number of more
than 128 bits, so that none is refused for its size. The canonical text of an identifier, whatever
text spelled it, is kept and spells the same identifier, and no other identifier has that text. -/
theorem spelling_exact :
    (∀ s : String, (∀ c ∈ s.toList, c.toNat < 128) →
      (∀ u : Uuid, Scope.decode [.text s] = (.ofList [u], []) ↔
        ∃ r, IsResidue s.toList r ∧ r.length = 32 ∧ Literal r u.value) ∧
      (Scope.decode [.text s] = (.empty, [.text s]) ↔
        ¬ ∃ r n, IsResidue s.toList r ∧ r.length = 32 ∧ Literal r n)) ∧
    (∀ (s : String) (n : Nat), residueValue? (residue s.toList) = some n →
      n < 2 ^ 128 ∧ Scope.decode [.text s] = (.ofList [ofNat n], [])) ∧
    (∀ u : Uuid, u.IsCanonical u.text ∧ Scope.decode [.text u.text] = (.ofList [u], [])) ∧
    ∀ u v : Uuid, u ≠ v → u.text ≠ v.text := by
  refine ⟨fun s hs => ⟨fun u => ?_, ?_⟩, fun s n hn => ?_, fun u => ?_, fun u v hne htext => ?_⟩
  · rw [(Scope.decode_text s).1, read?_of_ascii hs]
  · rw [(Scope.decode_text s).2, Option.eq_none_iff_forall_not_mem, not_exists]
    constructor
    · rintro h r ⟨n, hr, hlen, hn⟩
      obtain ⟨u, rfl⟩ := exists_value hlen hn
      exact h u ((read?_of_ascii hs).2 ⟨r, hr, hlen, hn⟩)
    · intro h u hu
      obtain ⟨r, hr, hlen, hn⟩ := (read?_of_ascii hs).1 hu
      exact h r ⟨u.value, hr, hlen, hn⟩
  · have hlt := residueValue?_lt hn
    have hvalue : (ofNat n).value.val = n := Nat.mod_eq_of_lt hlt
    refine ⟨hlt, ((Scope.decode_text s).1 (ofNat n)).2 ?_⟩
    rw [read?_eq_some, hvalue, hn]
  · exact ⟨u.isCanonical_text, ((Scope.decode_text u.text).1 u).2 (read?_text u)⟩
  · exact hne (text_injective htext)

/-- A spelling with all that may stand around the digits: both words, braces, hyphens, a blank, a
sign, a prefix and underscores. -/
theorem spelling_exact_wrapped :
    let s := "urn:uuid:\x7b +0X_a_01234567-89abcdef-ABCDEF012\x7d"
    let u := ofNat 0xa0123456789abcdefABCDEF012
    (∀ c ∈ s.toList, c.toNat < 128) ∧ Scope.decode [.text s] = (.ofList [u], []) ∧
      residueValue? (residue s.toList) = some 0xa0123456789abcdefABCDEF012 ∧
      (0xa0123456789abcdefABCDEF012 : Nat) < 2 ^ 128 ∧
      Scope.decode [.text u.text] = (.ofList [u], []) ∧ u ≠ default ∧ u.text ≠ (default : Uuid).text := by
  intro s u
  have hascii : ∀ c ∈ s.toList, c.toNat < 128 := by simp [s]
  have hvalue : residueValue? (residue s.toList) = some 0xa0123456789abcdefABCDEF012 := by decide
  have hr : IsResidue s.toList " +0X_a_0123456789abcdefABCDEF012".toList :=
    isResidue_iff.2 (by decide)
  have hliteral : Literal " +0X_a_0123456789abcdefABCDEF012".toList u.value :=
    numeral?_eq_some.1 (by decide)
  have hkept : Scope.decode [.text s] = (.ofList [u], []) :=
    ((spelling_exact.1 s hascii).1 u).2 ⟨_, hr, by decide, hliteral⟩
  have hne : u ≠ default := by decide
  exact ⟨hascii, hkept, hvalue, (spelling_exact.2.1 s _ hvalue).1,
    (spelling_exact.2.2.1 u).2, hne, spelling_exact.2.2.2 u default hne⟩

end Uuid

end SubscriptionRegistry
