import EventLoop.Proofs.Text.Blank
import EventLoop.Text.Numeral

/-!
# Numerals that read back

The digits of a number stand for it. None of them is a sign or a blank, so nothing else is read into them, and
blanks around them are of no consequence.

* `ofDigits?_digits` — the digits of a number give the number.
* `natural?_digits`, `integer?_intText` — so do its digits where a sign is allowed, and the text of an integer.
-/

namespace EventLoop.Numeral

variable {base : Nat}

/-! ## Digits -/

theorem mem_digits (hbase : base ≤ 16) {n : Nat} {c : Char} (hc : c ∈ digits base n) :
    ∃ d < 16, c = digitChar d := by
  fun_induction digits base n with
  | case1 n hn => exact ⟨n, by omega, List.mem_singleton.mp hc⟩
  | case2 n hn ih =>
    have hlt := Nat.mod_lt n (show max base 2 > 0 by omega)
    rcases List.mem_append.mp hc with hc | hc
    · exact ih hc
    · exact ⟨_, by omega, List.mem_singleton.mp hc⟩

theorem digits_ne_nil (base n : Nat) : digits base n ≠ [] := by
  rw [digits]
  split
  · exact List.cons_ne_nil _ _
  · exact List.append_ne_nil_of_right_ne_nil _ (List.cons_ne_nil _ _)

/-- What is no digit is not among the digits of a number. -/
theorem not_mem_digits (hbase : base ≤ 16) {c : Char} (h : ∀ d ∈ List.range 16, c ≠ digitChar d) (n : Nat) :
    c ∉ digits base n := by
  intro hc
  obtain ⟨d, hd, heq⟩ := mem_digits hbase hc
  exact h d (List.mem_range.mpr hd) heq

theorem isWord_digits (hbase : base ≤ 16) (n : Nat) : Text.IsWord (digits base n) := by
  have hall : ∀ d ∈ List.range 16, Text.isBlank (digitChar d) = false := by decide
  refine ⟨digits_ne_nil base n, fun c hc => ?_⟩
  obtain ⟨d, hd, rfl⟩ := mem_digits hbase hc
  exact hall d (List.mem_range.mpr hd)

/-! ## Reading back -/

theorem digitIn?_digitChar {d : Nat} (hbase : base ≤ 16) (hd : d < base) :
    digitIn? base (digitChar d) = some d := by
  rw [digitIn?, digitValue_digitChar (by omega), Option.filter_some, if_pos (decide_eq_true hd)]

/-- One digit more. -/
theorem ofDigitsFrom?_concat (base n : Nat) (s : List Char) (c : Char) :
    ofDigitsFrom? base n (s ++ [c]) =
      (ofDigitsFrom? base n s).bind fun m => (digitIn? base c).map fun d => m * base + d := by
  induction s generalizing n with
  | nil =>
    rw [List.nil_append, ofDigitsFrom?, ofDigitsFrom?]
    cases digitIn? base c with
    | none => rfl
    | some d => rfl
  | cons x s ih =>
    rw [List.cons_append, ofDigitsFrom?, ofDigitsFrom?]
    cases digitIn? base x with
    | none => rfl
    | some d => exact ih _

/-- The induction follows the digits, from the last one back. -/
theorem ofDigitsFrom?_digits (hbase : base ≤ 16) (htwo : 2 ≤ base) (n : Nat) :
    ofDigitsFrom? base 0 (digits base n) = some n := by
  have hmax : max base 2 = base := by omega
  fun_induction digits base n with
  | case1 n hn =>
    have hdigit := digitIn?_digitChar hbase (show n < base by omega)
    rw [ofDigitsFrom?, hdigit]
    show some (0 * base + n) = some n
    rw [Nat.zero_mul, Nat.zero_add]
  | case2 n hn ih =>
    rw [hmax] at ih ⊢
    have hdigit := digitIn?_digitChar hbase (Nat.mod_lt n (show 0 < base by omega))
    rw [ofDigitsFrom?_concat, ih, hdigit]
    exact congrArg some (Nat.div_add_mod' n base)

/-- **The digits of a number stand for it.** -/
theorem ofDigits?_digits (hbase : base ≤ 16) (htwo : 2 ≤ base) (n : Nat) :
    ofDigits? base (digits base n) = some n := by
  have hread := ofDigitsFrom?_digits hbase htwo n
  unfold ofDigits?
  split
  · next hnil => exact absurd hnil (digits_ne_nil base n)
  · exact hread

/-- A sign would be allowed, but there is none. -/
theorem natural?_digits (hbase : base ≤ 16) (htwo : 2 ≤ base) (n : Nat) :
    natural? base (digits base n) = some n := by
  have hplus : '+' ∉ digits base n := not_mem_digits hbase (by decide) n
  unfold natural?
  split
  · next rest hrest =>
    rw [hrest] at hplus
    exact absurd List.mem_cons_self hplus
  · exact ofDigits?_digits hbase htwo n

theorem integer?_digits (n : Nat) : integer? (digits 10 n) = some (Int.ofNat n) := by
  have hminus : '-' ∉ digits 10 n := not_mem_digits (by decide) (by decide) n
  unfold integer?
  split
  · next rest hrest =>
    rw [hrest] at hminus
    exact absurd List.mem_cons_self hminus
  · rw [natural?_digits (by decide) (by decide)]
    rfl

/-- **The text of an integer stands for it.** -/
theorem integer?_intText (i : Int) : integer? (intText i).toList = some i := by
  unfold intText
  split
  · next hneg =>
    rw [String.toList_ofList, integer?, ofDigits?_digits (by decide) (by decide)]
    show some (-(i.natAbs : Int)) = some i
    congr 1
    omega
  · next hnonneg =>
    rw [natText, String.toList_ofList, integer?_digits]
    show some (i.natAbs : Int) = some i
    congr 1
    omega

theorem isWord_natText (n : Nat) : Text.IsWord (natText n).toList := by
  rw [natText, String.toList_ofList]
  exact isWord_digits (by decide) n

theorem isWord_intText (i : Int) : Text.IsWord (intText i).toList := by
  unfold intText
  split
  · rw [String.toList_ofList]
    exact (isWord_digits (by decide) i.natAbs).cons (by decide)
  · exact isWord_natText i.natAbs

end EventLoop.Numeral
