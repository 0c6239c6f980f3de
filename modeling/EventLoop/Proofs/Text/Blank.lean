import EventLoop.Text.Blank
import Mathlib.Data.List.DropRight
import Mathlib.Data.List.TakeWhile

/-!
# Blanks around words and between them

A text with blanks around it is trimmed to what stands between them, and a word with blanks behind it is cut off
there, whichever blanks they are and however many.

* `trim_padded`, `trim_eq_nil_iff` — what is trimmed, and when nothing is left.
* `cutAtBlank_word` — what is cut off, and what is left behind the blanks.
* `IsBare.of_suffix` — what is left at the end of a text has no blank there either.
-/

namespace EventLoop.Text

/-- There are only blanks, or nothing. -/
def Blanks (s : List Char) : Prop := ∀ c ∈ s, isBlank c = true

/-- There is something, without a blank in it. -/
structure IsWord (s : List Char) : Prop where
  ne_nil : s ≠ []
  not_blank : ∀ c ∈ s, isBlank c = false

/-- There is no blank at the start and none at the end. -/
structure IsBare (s : List Char) : Prop where
  head : ∀ c ∈ s.head?, isBlank c = false
  last : ∀ c ∈ s.getLast?, isBlank c = false

variable {s t w w' : List Char}

instance : Decidable (Blanks s) := decidable_of_iff (s.all isBlank = true) List.all_eq_true

instance : Decidable (IsWord s) :=
  decidable_of_iff (s ≠ [] ∧ s.all (fun c => !isBlank c) = true)
    ⟨fun h => ⟨h.1, fun c hc => by simpa using List.all_eq_true.mp h.2 c hc⟩,
      fun h => ⟨h.ne_nil, List.all_eq_true.mpr fun c hc => by simpa using h.not_blank c hc⟩⟩

instance : Decidable (IsBare s) :=
  decidable_of_iff (s.head?.all (fun c => !isBlank c) = true ∧ s.getLast?.all (fun c => !isBlank c) = true)
    ⟨fun h => ⟨fun c hc => by simpa using (Option.all_eq_true _ _).mp h.1 c hc,
        fun c hc => by simpa using (Option.all_eq_true _ _).mp h.2 c hc⟩,
      fun h => ⟨(Option.all_eq_true _ _).mpr fun c hc => by simpa using h.head c hc,
        (Option.all_eq_true _ _).mpr fun c hc => by simpa using h.last c hc⟩⟩

theorem IsWord.cons {c : Char} (hc : isBlank c = false) (h : IsWord s) : IsWord (c :: s) :=
  ⟨List.cons_ne_nil c s, List.forall_mem_cons.mpr ⟨hc, h.not_blank⟩⟩

theorem IsWord.isBare (h : IsWord s) : IsBare s :=
  ⟨fun c hc => h.not_blank c (List.mem_of_head? hc), fun c hc => h.not_blank c (List.mem_of_getLast? hc)⟩

/-- What stands between two such texts makes no difference. -/
theorem IsBare.append (hs : IsBare s) (hsome : s ≠ []) (ht : IsBare t) (hsome' : t ≠ []) (w : List Char) :
    IsBare (s ++ (w ++ t)) := by
  refine ⟨fun c hc => hs.head c ?_, fun c hc => ht.last c ?_⟩
  · rwa [List.head?_append_of_ne_nil _ hsome] at hc
  · rwa [← List.append_assoc, List.getLast?_append_of_ne_nil _ hsome'] at hc

/-! ## Trimming -/

/-- Blanks at the start make no difference. -/
theorem trimStart_append (hw : Blanks w) (s : List Char) : trimStart (w ++ s) = trimStart s :=
  List.dropWhile_append_of_pos hw

theorem trimStart_of_head (h : ∀ c ∈ s.head?, isBlank c = false) : trimStart s = s := by
  cases s with
  | nil => rfl
  | cons c rest => exact List.dropWhile_cons_of_neg (by simp [h c rfl])

theorem head_trimStart (s : List Char) : ∀ c ∈ (trimStart s).head?, isBlank c = false := by
  intro c hc
  have hhead := List.head?_dropWhile_not isBlank s
  rw [show (s.dropWhile isBlank).head? = some c from hc] at hhead
  exact hhead

theorem trimStart_eq_nil_iff : trimStart s = [] ↔ Blanks s := List.dropWhile_eq_nil_iff

theorem trimEnd_eq (s : List Char) : trimEnd s = s.rdropWhile isBlank := rfl

theorem trimEnd_append (hw : Blanks w) (s : List Char) : trimEnd (s ++ w) = trimEnd s := by
  have hreverse : Blanks w.reverse := fun c hc => hw c (List.mem_reverse.mp hc)
  unfold trimEnd
  rw [List.reverse_append]
  exact congrArg List.reverse (trimStart_append hreverse s.reverse)

theorem trimEnd_of_last (h : ∀ c ∈ s.getLast?, isBlank c = false) : trimEnd s = s := by
  rw [trimEnd_eq, List.rdropWhile_eq_self_iff]
  intro hne
  simp [h _ (List.getLast?_eq_some_getLast hne)]

theorem last_trimEnd (s : List Char) : ∀ c ∈ (trimEnd s).getLast?, isBlank c = false := by
  rw [trimEnd, List.getLast?_reverse]
  exact head_trimStart s.reverse

/-- **What stands between blanks is all that is left of a text.** -/
theorem trim_padded (hw : Blanks w) (hw' : Blanks w') (hs : IsBare s) : trim (w ++ (s ++ w')) = s := by
  unfold trim
  rw [trimStart_append hw]
  cases s with
  | nil =>
    rw [List.nil_append, trimStart_eq_nil_iff.mpr hw']
    rfl
  | cons c rest =>
    have hhead : ∀ x ∈ (c :: rest ++ w').head?, isBlank x = false := hs.head
    rw [trimStart_of_head hhead, trimEnd_append hw', trimEnd_of_last hs.last]

/-- What is left has no blank at its end, and at its start there was none before. -/
theorem isBare_trim (s : List Char) : IsBare (trim s) := by
  refine ⟨fun c hc => head_trimStart s c ?_, last_trimEnd (trimStart s)⟩
  obtain ⟨rest, hrest⟩ := List.rdropWhile_prefix isBlank (l := trimStart s)
  rw [← hrest, List.head?_append, show (List.rdropWhile isBlank (trimStart s)).head? = some c from hc]
  rfl

/-- **Nothing is left of a text exactly if it is blank.** -/
theorem trim_eq_nil_iff : trim s = [] ↔ Blanks s := by
  rw [trim, trimEnd_eq, List.rdropWhile_eq_nil_iff, ← trimStart_eq_nil_iff]
  constructor
  · intro h
    by_contra hne
    -- what does not vanish starts with something that is not blank
    obtain ⟨c, rest, hcons⟩ := List.exists_cons_of_ne_nil hne
    have hhead := head_trimStart s c (by rw [hcons]; rfl)
    rw [h c (by rw [hcons]; exact List.mem_cons_self)] at hhead
    cases hhead
  · intro h c hc
    rw [h] at hc
    cases hc

/-! ## Cutting -/

/-- Where a text cannot be cut it has no blank. -/
theorem not_isBlank_of_cutAtBlank_eq_none (h : cutAtBlank s = none) : ∀ c ∈ s, isBlank c = false := by
  induction s with
  | nil => exact nofun
  | cons x rest ih =>
    rw [cutAtBlank] at h
    split at h
    · cases h
    · next hx =>
      rw [Option.map_eq_none_iff] at h
      exact List.forall_mem_cons.mpr ⟨eq_false_of_ne_true hx, ih h⟩

theorem cutAtBlank_append (h : ∀ c ∈ s, isBlank c = false) {b : Char} (hb : isBlank b = true)
    (t : List Char) : cutAtBlank (s ++ b :: t) = some (s, t) := by
  induction s with
  | nil => rw [List.nil_append, cutAtBlank, if_pos hb]
  | cons c rest ih =>
    rw [List.cons_append, cutAtBlank, h c List.mem_cons_self, ih fun x hx => h x (List.mem_cons_of_mem c hx)]
    rfl

/-- **A word is cut off at the blanks behind it**, and what follows them is left. -/
theorem cutAtBlank_word (hs : ∀ c ∈ s, isBlank c = false) (hw : Blanks w) (hne : w ≠ [])
    (ht : ∀ c ∈ t.head?, isBlank c = false) :
    ∃ rest, cutAtBlank (s ++ (w ++ t)) = some (s, rest) ∧ trimStart rest = t := by
  obtain ⟨b, gap, rfl⟩ := List.exists_cons_of_ne_nil hne
  refine ⟨gap ++ t, cutAtBlank_append hs (hw b List.mem_cons_self) _, ?_⟩
  rw [trimStart_append fun c hc => hw c (List.mem_cons_of_mem b hc), trimStart_of_head ht]

/-! ## What is left at the end -/

theorem trimStart_suffix (s : List Char) : trimStart s <:+ s := List.dropWhile_suffix isBlank

theorem suffix_of_cutAtBlank {a b : List Char} (h : cutAtBlank s = some (a, b)) : b <:+ s := by
  obtain ⟨c, -, rfl⟩ := append_of_cutAtBlank h
  exact ⟨a ++ [c], by simp⟩

/-- What a text ends with ends as the text does. -/
theorem IsBare.last_of_suffix (hs : IsBare s) (h : t <:+ s) : ∀ c ∈ t.getLast?, isBlank c = false := by
  intro c hc
  obtain ⟨front, rfl⟩ := h
  refine hs.last c ?_
  rw [List.getLast?_append, hc]
  rfl

theorem IsBare.of_suffix (hs : IsBare s) (h : t <:+ s) : IsBare (trimStart t) :=
  ⟨head_trimStart t, hs.last_of_suffix ((trimStart_suffix t).trans h)⟩

/-- Trimmed at its start, the end of a text without blanks there does not vanish. -/
theorem IsBare.trimStart_ne_nil (hs : IsBare s) (h : t <:+ s) (hne : t ≠ []) : trimStart t ≠ [] := by
  intro hnil
  have hlast := hs.last_of_suffix h _ (List.getLast?_eq_some_getLast hne)
  rw [trimStart_eq_nil_iff.mp hnil _ (List.getLast_mem hne)] at hlast
  cases hlast

end EventLoop.Text
