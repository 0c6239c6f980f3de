import EventLoop.Text.Numeral
import Mathlib.Data.List.Forall2
import Mathlib.Data.Nat.Digits.Defs
import Mathlib.Tactic.Ring

/-!
# What digits stand for

A numeral is one or more digits of a base, and it stands for the number that has these digits. Readers go through the
digits from the front and keep the number read so far; they accept exactly the numerals.

* `digitValue_eq_some_iff` — which characters are digits.
* `ofDigits?_eq_some_iff`, `natural?_eq_some_iff` — what is read, without a sign and with one.
-/

namespace EventLoop.Numeral

/-! ## Digits -/

/-- The digits below sixteen in small letters. -/
def smallDigits : List Char :=
  ['0', '1', '2', '3', '4', '5', '6', '7', '8', '9', 'a', 'b', 'c', 'd', 'e', 'f']

/-- The digits below sixteen in capital letters. -/
def capitalDigits : List Char :=
  ['0', '1', '2', '3', '4', '5', '6', '7', '8', '9', 'A', 'B', 'C', 'D', 'E', 'F']

/-- The character is a digit of the base and has this value. -/
def IsDigit (base : Nat) (c : Char) (d : Nat) : Prop :=
  d < base ∧ (smallDigits[d]? = some c ∨ capitalDigits[d]? = some c)

/-- The codes of the characters with a value run in three rows. -/
theorem toNat_of_digitValue {c : Char} {d : Nat} (h : digitValue c = some d) :
    d < 10 ∧ c.toNat = 0x30 + d ∨ 10 ≤ d ∧ d < 16 ∧ (c.toNat = 0x57 + d ∨ c.toNat = 0x37 + d) := by
  unfold digitValue at h
  dsimp only at h
  split at h
  · next hrow =>
    simp only [Bool.and_eq_true, decide_eq_true_eq, Option.some.injEq] at hrow h
    omega
  · split at h
    · next hrow =>
      simp only [Bool.and_eq_true, decide_eq_true_eq, Option.some.injEq] at hrow h
      omega
    · split at h
      · next hrow =>
        simp only [Bool.and_eq_true, decide_eq_true_eq, Option.some.injEq] at hrow h
        omega
      · cases h

/-- **The characters with a value are the digits below sixteen.** -/
theorem digitValue_eq_some_iff {c : Char} {d : Nat} :
    digitValue c = some d ↔ smallDigits[d]? = some c ∨ capitalDigits[d]? = some c := by
  constructor
  · intro h
    have hfigure : ∀ e ∈ List.range 10, smallDigits[e]? = some (Char.ofNat (0x30 + e)) := by decide
    have hletter : ∀ e ∈ List.range 16, 10 ≤ e → smallDigits[e]? = some (Char.ofNat (0x57 + e)) ∧
        capitalDigits[e]? = some (Char.ofNat (0x37 + e)) := by decide
    rw [← Char.ofNat_toNat c]
    rcases toNat_of_digitValue h with ⟨hd, hc⟩ | ⟨hten, hd, hc | hc⟩
    · rw [hc]
      exact Or.inl (hfigure d (List.mem_range.mpr hd))
    · rw [hc]
      exact Or.inl (hletter d (List.mem_range.mpr hd) hten).1
    · rw [hc]
      exact Or.inr (hletter d (List.mem_range.mpr hd) hten).2
  · have hvalue : ∀ l ∈ [smallDigits, capitalDigits], ∀ e ∈ List.range l.length,
        l[e]?.bind digitValue = some e := by decide
    have hread : ∀ l ∈ [smallDigits, capitalDigits], l[d]? = some c → digitValue c = some d := by
      intro l hl h
      obtain ⟨hlt, -⟩ := List.getElem?_eq_some_iff.mp h
      simpa only [h, Option.bind_some] using hvalue l hl d (List.mem_range.mpr hlt)
    rintro (h | h)
    · exact hread smallDigits (by simp) h
    · exact hread capitalDigits (by simp) h

theorem digitIn?_eq_some_iff {base d : Nat} {c : Char} : digitIn? base c = some d ↔ IsDigit base c d := by
  unfold digitIn? IsDigit
  rw [Option.filter_eq_some_iff, digitValue_eq_some_iff, decide_eq_true_eq, and_comm]

/-! ## Numerals -/

/-- One or more digits of a base, the most significant first, and the number that has them. -/
def IsNumeral (base : Nat) (s : List Char) (n : Nat) : Prop :=
  s ≠ [] ∧ ∃ ds, List.Forall₂ (IsDigit base) s ds ∧ n = Nat.ofDigits base ds.reverse

/-- A numeral, with or without a plus sign. -/
def IsNatural (base : Nat) (s : List Char) (n : Nat) : Prop :=
  IsNumeral base s n ∨ ∃ t, s = '+' :: t ∧ IsNumeral base t n

variable {base n m : Nat} {s t : List Char}

/-- The induction follows the digits from the front; those already read have become `n`. -/
theorem ofDigitsFrom?_eq_some_iff :
    ofDigitsFrom? base n s = some m ↔
      ∃ ds, List.Forall₂ (IsDigit base) s ds ∧ m = n * base ^ ds.length + Nat.ofDigits base ds.reverse := by
  induction s generalizing n with
  | nil =>
    rw [ofDigitsFrom?]
    constructor
    · rintro ⟨⟩
      exact ⟨[], .nil, by simp⟩
    · rintro ⟨ds, hds, rfl⟩
      cases hds
      simp
  | cons c s ih =>
    -- one digit more moves the number read so far by one place
    have hplace : ∀ d (ds : List Nat), (n * base + d) * base ^ ds.length + Nat.ofDigits base ds.reverse =
        n * base ^ (d :: ds).length + Nat.ofDigits base (d :: ds).reverse := by
      intro d ds
      rw [List.reverse_cons, Nat.ofDigits_append, Nat.ofDigits_singleton, List.length_reverse, List.length_cons]
      ring
    rw [ofDigitsFrom?]
    constructor
    · intro h
      split at h
      · next d hd =>
        obtain ⟨ds, hds, rfl⟩ := ih.mp h
        exact ⟨d :: ds, .cons (digitIn?_eq_some_iff.mp hd) hds, hplace d ds⟩
      · cases h
    · rintro ⟨_, hds, rfl⟩
      cases hds with
      | @cons _ d _ ds hd hds =>
        rw [digitIn?_eq_some_iff.mpr hd]
        exact ih.mpr ⟨ds, hds, (hplace d ds).symm⟩

/-- **What is read as digits are the numerals.** -/
theorem ofDigits?_eq_some_iff : ofDigits? base s = some n ↔ IsNumeral base s n := by
  unfold ofDigits? IsNumeral
  split
  · simp
  · next hne =>
    rw [ofDigitsFrom?_eq_some_iff, and_iff_right (by simpa using hne)]
    simp

/-- Every character of a numeral is a digit. -/
theorem IsNumeral.exists_isDigit (h : IsNumeral base s n) {c : Char} (hc : c ∈ s) : ∃ d, IsDigit base c d := by
  obtain ⟨-, ds, hds, -⟩ := h
  obtain ⟨i, hi, rfl⟩ := List.mem_iff_getElem.mp hc
  exact ⟨_, hds.get hi (hds.length_eq ▸ hi)⟩

/-- A character without a value is not in a numeral. -/
theorem IsNumeral.not_mem (h : IsNumeral base s n) {c : Char} (hc : digitIn? base c = none) : c ∉ s := by
  intro hmem
  obtain ⟨d, hd⟩ := h.exists_isDigit hmem
  rw [digitIn?_eq_some_iff.mpr hd] at hc
  cases hc

theorem digitIn?_plus (base : Nat) : digitIn? base '+' = none := rfl

/-- **What is read where a plus sign is allowed.** -/
theorem natural?_eq_some_iff : natural? base s = some n ↔ IsNatural base s n := by
  unfold natural? IsNatural
  split
  · next rest =>
    rw [ofDigits?_eq_some_iff]
    constructor
    · intro h
      exact Or.inr ⟨rest, rfl, h⟩
    · rintro (h | ⟨t, ht, h⟩)
      · exact absurd List.mem_cons_self (h.not_mem (digitIn?_plus base))
      · cases ht
        exact h
  · next hplus =>
    rw [ofDigits?_eq_some_iff]
    constructor
    · exact Or.inl
    · rintro (h | ⟨t, ht, -⟩)
      · exact h
      · exact absurd ht (hplus t)

end EventLoop.Numeral
