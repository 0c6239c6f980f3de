import EventLoop.Console.Command
import EventLoop.Text.Lenient

/-!
# Lines and the newline that ends them

A line is read together with the newline that ends it, or without one at the end of the input. That makes no
difference to what it asks for: a newline begins no character and continues none, and around a command blanks
mean nothing.

* `decode_newline` — the text of a line with its newline is that of the line, and a newline.
* `ofLine_newline` — both ask for the same.
-/

namespace EventLoop

namespace Text

/-! ## Decoding -/

namespace Lenient

/-- What may come next in a character under way has its highest bit set. -/
def Begun.IsHigh (b : Begun) : Prop := 0x80 ≤ b.low

/-- Whatever is under way after a byte is under way properly. -/
theorem isHigh_of_opening {byte : Nat} {b : Begun} (h : opening byte = .begun b) : b.IsHigh := by
  unfold opening at h
  unfold Begun.IsHigh
  repeat' split at h
  all_goals first
    | (cases h; simp)
    | cases h

theorem isHigh_of_resume {b b' : Begun} {byte : Nat} (h : resume b byte = .begun b') : b'.IsHigh := by
  unfold resume at h
  unfold Begun.IsHigh
  split at h
  · cases h
  · dsimp only at h
    split at h
    · cases h
    · cases h
      exact Nat.le_refl _

theorem isHigh_of_start {byte : Nat} {b : Begun} (h : (start byte).2 = some b) : b.IsHigh := by
  unfold start at h
  split at h
  · cases h
  · next b' hb =>
    cases h
    exact isHigh_of_opening hb
  · cases h

theorem isHigh_of_step {under : Option Begun} {byte : Nat} {b : Begun}
    (h : (step under byte).2 = some b) : b.IsHigh := by
  unfold step at h
  split at h
  · exact isHigh_of_start h
  · split at h
    · cases h
    · next b' hb =>
      cases h
      exact isHigh_of_resume hb
    · exact isHigh_of_start h

/-- A newline ends what is under way, and is a character by itself. -/
theorem step_newline {under : Option Begun} (hu : ∀ b, under = some b → b.IsHigh) :
    step under 10 = (if under.isSome then [replacement, '\n'] else ['\n'], none) := by
  cases under with
  | none => rfl
  | some b =>
    have hlow := hu b rfl
    have hwrong : resume b 10 = .wrong := by
      unfold resume
      unfold Begun.IsHigh at hlow
      rw [if_pos]
      simp only [Bool.or_eq_true, decide_eq_true_eq]
      omega
    rw [step, hwrong]
    rfl

/-- The induction is on the bytes, with the character under way before them. -/
theorem decodeFrom_newline (bytes : List UInt8) {under : Option Begun}
    (hu : ∀ b, under = some b → b.IsHigh) :
    decodeFrom under (bytes ++ [10]) = decodeFrom under bytes ++ ['\n'] := by
  induction bytes generalizing under with
  | nil =>
    rw [List.nil_append, decodeFrom, decodeFrom, show (10 : UInt8).toNat = 10 from rfl, step_newline hu]
    cases under <;> rfl
  | cons byte rest ih =>
    rw [List.cons_append, decodeFrom, decodeFrom]
    dsimp only
    rw [ih fun b hb => isHigh_of_step hb, List.append_assoc]

/-- **The text of a line with its newline is that of the line, and a newline.** -/
theorem decode_newline (line : List UInt8) :
    (decode (line ++ [10])).toList = (decode line).toList ++ ['\n'] := by
  unfold decode
  rw [String.toList_ofList, String.toList_ofList]
  exact decodeFrom_newline line nofun

end Lenient

/-! ## Trimming -/

/-- A blank at the end is trimmed with those before it. -/
theorem trim_append_blank (s : List Char) {c : Char} (hc : isBlank c = true) :
    trim (s ++ [c]) = trim s := by
  unfold trim trimEnd trimStart
  rw [List.dropWhile_append]
  split
  · next hs =>
    rw [List.dropWhile_cons_of_pos hc, List.isEmpty_iff.mp hs]
    rfl
  · rw [List.reverse_append, List.reverse_singleton, List.singleton_append,
      List.dropWhile_cons_of_pos hc]

end Text

/-- **A line asks for the same with its newline and without.** -/
theorem Command.ofLine_newline (line : List UInt8) :
    ofLine (Text.Lenient.decode (line ++ [10])) = ofLine (Text.Lenient.decode line) := by
  unfold ofLine
  rw [Text.Lenient.decode_newline, Text.trim_append_blank _ (by decide)]

end EventLoop
