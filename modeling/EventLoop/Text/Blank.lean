/-!
# Blank characters

What separates words and surrounds values: the 25 characters with the Unicode property White_Space.

* `trim` takes the blanks off both ends.
* `cutAtBlank` cuts a text at its first blank, which belongs to neither part.
-/

namespace EventLoop.Text

/-- The blank code points, as closed ranges, ascending and apart. -/
def blankRanges : List (Nat × Nat) :=
  [(0x09, 0x0D), (0x20, 0x20), (0x85, 0x85), (0xA0, 0xA0), (0x1680, 0x1680), (0x2000, 0x200A),
   (0x2028, 0x2029), (0x202F, 0x202F), (0x205F, 0x205F), (0x3000, 0x3000)]

/-- Is the character blank? -/
def isBlank (c : Char) : Bool :=
  blankRanges.any fun r => r.1 ≤ c.toNat && c.toNat ≤ r.2

/-- The text without the blanks at its start. -/
def trimStart (s : List Char) : List Char := s.dropWhile isBlank

/-- The text without the blanks at its end. -/
def trimEnd (s : List Char) : List Char := (s.reverse.dropWhile isBlank).reverse

/-- The text without the blanks at either end. -/
def trim (s : List Char) : List Char := trimEnd (trimStart s)

/-- The parts before and after the first blank; none if there is no blank. -/
def cutAtBlank : List Char → Option (List Char × List Char)
  | [] => none
  | c :: rest =>
    if isBlank c then some ([], rest)
    else (cutAtBlank rest).map fun parts => (c :: parts.1, parts.2)

/-! ## What the cut does -/

/-- The cut loses the blank it is made at and nothing else. -/
theorem append_of_cutAtBlank {s a b : List Char} (h : cutAtBlank s = some (a, b)) :
    ∃ c, isBlank c = true ∧ s = a ++ c :: b := by
  induction s generalizing a b with
  | nil => simp [cutAtBlank] at h
  | cons x rest ih =>
    rw [cutAtBlank] at h
    split at h
    · next hx =>
      obtain ⟨rfl, rfl⟩ : [] = a ∧ rest = b := by simpa using h
      exact ⟨x, hx, rfl⟩
    · obtain ⟨⟨a', b'⟩, hp, he⟩ := Option.map_eq_some_iff.mp h
      obtain ⟨c, hc, hs⟩ := ih hp
      simp only [Prod.mk.injEq] at he
      exact ⟨c, hc, by rw [hs, ← he.1, ← he.2]; rfl⟩

/-- The part before the cut holds no blank. -/
theorem not_isBlank_of_cutAtBlank {s a b : List Char} (h : cutAtBlank s = some (a, b)) :
    ∀ c ∈ a, isBlank c = false := by
  induction s generalizing a b with
  | nil => simp [cutAtBlank] at h
  | cons x rest ih =>
    rw [cutAtBlank] at h
    split at h
    · obtain ⟨rfl, rfl⟩ : [] = a ∧ rest = b := by simpa using h
      simp
    · next hx =>
      obtain ⟨⟨a', b'⟩, hp, he⟩ := Option.map_eq_some_iff.mp h
      simp only [Prod.mk.injEq] at he
      rw [← he.1]
      intro c hc
      rcases List.mem_cons.mp hc with hc | hc
      · subst hc; simpa using hx
      · exact ih hp c hc

end EventLoop.Text
