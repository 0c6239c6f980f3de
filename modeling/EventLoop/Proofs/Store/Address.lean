import EventLoop.Proofs.Text.Digits
import EventLoop.Store.Value

/-!
# How addresses are written

A pointer is read from a decimal number, or from digits to base sixteen behind `0x` or `0X`. The digits behind the mark
go through the reader that allows a plus sign as well, so a sign is taken there too, where none belongs.

* `IsAddress` — how an address is written.
* `IsSignedHex` — what is taken for one besides.
* `address?_eq_some_iff` — nothing else is.
* `addresses_and_signed_marks` — what becomes of every text that is read as a pointer.
* `sign_behind_mark` — a text that should be refused.
-/

namespace EventLoop.Value

/-! ## The grammar -/

/-- The letter that, behind a zero, announces digits to base sixteen. -/
def IsMark (x : Char) : Prop := x = 'x' ∨ x = 'X'

/-- An address is written as a decimal number, with or without a plus sign, or as digits to base sixteen behind their
mark. -/
inductive IsAddress : List Char → Nat → Prop
  | decimal {s : List Char} {n : Nat} (number : Numeral.IsNatural 10 s n) : IsAddress s n
  | hexadecimal {x : Char} {s : List Char} {n : Nat} (mark : IsMark x) (digits : Numeral.IsNumeral 16 s n) :
      IsAddress ('0' :: x :: s) n

/-- A plus sign stands between the mark and the digits. -/
inductive IsSignedHex : List Char → Nat → Prop
  | intro {x : Char} {s : List Char} {n : Nat} (mark : IsMark x) (digits : Numeral.IsNumeral 16 s n) :
      IsSignedHex ('0' :: x :: '+' :: s) n

variable {s : List Char} {n m : Nat} {x : Char}

/-- No decimal number has a mark in it. -/
theorem IsMark.not_isNatural (hx : IsMark x) : ¬Numeral.IsNatural 10 ('0' :: x :: s) n := by
  have hnone : Numeral.digitIn? 10 x = none := by
    rcases hx with rfl | rfl
    · rfl
    · rfl
  rintro (h | ⟨t, ht, -⟩)
  · exact h.not_mem hnone (List.mem_cons_of_mem _ List.mem_cons_self)
  · cases ht

/-- What has a sign behind its mark is not an address. -/
theorem IsSignedHex.not_isAddress (h : IsSignedHex s n) : ¬IsAddress s m := by
  obtain ⟨hx, -⟩ := h
  intro haddress
  cases haddress with
  | decimal number => exact hx.not_isNatural number
  | hexadecimal _ digits => exact digits.not_mem (Numeral.digitIn?_plus 16) List.mem_cons_self

/-! ## Reading addresses -/

theorem address?_of_mark (hx : IsMark x) (s : List Char) :
    address? ('0' :: x :: s) = Numeral.natural? 16 s := by
  rcases hx with rfl | rfl
  · rfl
  · rfl

theorem address?_of_not_mark (h : ¬∃ x t, IsMark x ∧ s = '0' :: x :: t) :
    address? s = Numeral.natural? 10 s := by
  unfold address?
  split
  · next rest => exact absurd ⟨'x', rest, Or.inl rfl, rfl⟩ h
  · next rest => exact absurd ⟨'X', rest, Or.inr rfl, rfl⟩ h
  · rfl

/-- **Addresses are read, and what has a sign behind its mark.** -/
theorem address?_eq_some_iff : address? s = some n ↔ IsAddress s n ∨ IsSignedHex s n := by
  by_cases hs : ∃ x t, IsMark x ∧ s = '0' :: x :: t
  · obtain ⟨x, t, hx, rfl⟩ := hs
    rw [address?_of_mark hx, Numeral.natural?_eq_some_iff]
    constructor
    · rintro (h | ⟨u, rfl, h⟩)
      · exact Or.inl (.hexadecimal hx h)
      · exact Or.inr (.intro hx h)
    · rintro (h | h)
      · cases h with
        | decimal number => exact absurd number hx.not_isNatural
        | hexadecimal _ digits => exact Or.inl digits
      · cases h with
        | intro _ digits => exact Or.inr ⟨_, rfl, digits⟩
  · rw [address?_of_not_mark hs, Numeral.natural?_eq_some_iff]
    constructor
    · exact fun h => Or.inl (.decimal h)
    · rintro (h | h)
      · cases h with
        | decimal number => exact number
        | hexadecimal hx _ => exact absurd ⟨_, _, hx, rfl⟩ hs
      · cases h with
        | intro hx _ => exact absurd ⟨_, _, hx, rfl⟩ hs

/-! ## Reading pointers -/

/-- A text is read as a pointer by a grammar: between the blanks around it, it has to write a number of 64 bits. That
number is the pointer, and any other text is refused as it stands. -/
structure PointerReadBy (grammar : List Char → Nat → Prop) (text : String) : Prop where
  ok_iff : ∀ v, ofText .pointer text = .ok v ↔
    ∃ w : UInt64, v = .pointer w ∧ grammar (Text.trim text.toList) w.toNat
  refused : (∀ w : UInt64, ¬grammar (Text.trim text.toList) w.toNat) →
    ofText .pointer text = .error (.invalidText .pointer text)

theorem ofText?_pointer_eq_some_iff {text : String} {v : Value} :
    ofText? .pointer text = some v ↔
      ∃ w : UInt64, v = .pointer w ∧ address? (Text.trim text.toList) = some w.toNat := by
  unfold ofText?
  dsimp only
  cases address? (Text.trim text.toList) with
  | none => simp
  | some n =>
    rw [Option.bind_some, inUnsigned?]
    constructor
    · intro h
      split at h
      · next hlt =>
        refine ⟨UInt64.ofNat n, (Option.some.inj h).symm, ?_⟩
        rw [UInt64.toNat_ofNat_of_lt' hlt]
      · cases h
    · rintro ⟨w, rfl, hn⟩
      cases hn
      rw [if_pos w.toNat_lt_size, Option.map_some, UInt64.ofNat_toNat]

variable {text : String} {grammar grammar' : List Char → Nat → Prop}

theorem PointerReadBy.congr (hread : PointerReadBy grammar text)
    (h : ∀ w : UInt64, grammar (Text.trim text.toList) w.toNat ↔ grammar' (Text.trim text.toList) w.toNat) :
    PointerReadBy grammar' text where
  ok_iff v := by simp only [hread.ok_iff, h]
  refused hnone := hread.refused fun w hw => hnone w ((h w).mp hw)

theorem pointerReadBy_address? (text : String) :
    PointerReadBy (fun s n => address? s = some n) text where
  ok_iff v := by rw [ofText_eq_ok_iff, ofText?_pointer_eq_some_iff]
  refused h := by
    refine ofText_eq_error_iff.mpr ⟨Option.eq_none_iff_forall_ne_some.mpr fun v hv => ?_, rfl⟩
    obtain ⟨w, -, hw⟩ := ofText?_pointer_eq_some_iff.mp hv
    exact h w hw

/-- **A text is read as a pointer if it writes an address or has a sign behind its mark.** So addresses alone are read
except where a sign stands behind the mark of a number of 64 bits. -/
theorem addresses_and_signed_marks (text : String) :
    PointerReadBy (fun s n => IsAddress s n ∨ IsSignedHex s n) text ∧
      (PointerReadBy IsAddress text ↔ ∀ w : UInt64, ¬IsSignedHex (Text.trim text.toList) w.toNat) := by
  have hread : PointerReadBy (fun s n => IsAddress s n ∨ IsSignedHex s n) text :=
    (pointerReadBy_address? text).congr fun _ => address?_eq_some_iff
  refine ⟨hread, fun h w hsigned => ?_, fun h => hread.congr fun w => or_iff_left (h w)⟩
  obtain ⟨u, -, hu⟩ := (h.ok_iff _).mp ((hread.ok_iff _).mpr ⟨w, rfl, Or.inr hsigned⟩)
  exact hsigned.not_isAddress hu

example : ofText .pointer " 0X00000000000000000000Ff\t" = .ok (.pointer 255) := by decide +kernel

/-- A sign behind the mark is no part of an address, and is read all the same. -/
theorem sign_behind_mark :
    ofText .pointer "0x+ff" = .ok (.pointer 255) ∧
      (∀ n, ¬IsAddress (Text.trim "0x+ff".toList) n) ∧ ¬PointerReadBy IsAddress "0x+ff" := by
  have htrim : Text.trim "0x+ff".toList = ['0', 'x', '+', 'f', 'f'] := by decide +kernel
  have hsigned : IsSignedHex (Text.trim "0x+ff".toList) 255 := by
    rw [htrim]
    exact .intro (Or.inl rfl) (Numeral.ofDigits?_eq_some_iff.mp rfl)
  have hok : ofText .pointer "0x+ff" = .ok (.pointer 255) := by decide +kernel
  refine ⟨hok, fun n => hsigned.not_isAddress, fun h => ?_⟩
  obtain ⟨w, -, hw⟩ := (h.ok_iff _).mp hok
  exact hsigned.not_isAddress hw

end EventLoop.Value
