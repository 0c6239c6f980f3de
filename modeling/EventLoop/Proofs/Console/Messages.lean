import EventLoop.Console.Session
import EventLoop.Proofs.Store.Refusal
import EventLoop.Proofs.Text.Numeral

/-!
# Messages of one line

A message repeats words of the line it complains about, and texts between quotes. Neither brings a newline with
it.

* `CommandError.newline_not_mem_message` — a message has no newline unless a repeated word has one.
* `Session.newline_not_mem_message` — so what a session says of a line that fails is one line.
-/

namespace EventLoop

theorem Numeral.newline_not_mem_digits {base : Nat} (hbase : base ≤ 16) (n : Nat) :
    '\n' ∉ digits base n := not_mem_digits hbase (by decide) n

namespace Text

theorem newline_not_mem_quotedChar (c : Char) : '\n' ∉ quotedChar c := by
  unfold quotedChar
  split
  case h_7 _ _ hne _ _ _ =>
    split
    · rw [List.mem_singleton]
      exact fun h => hne h.symm
    · have hdigits := Numeral.newline_not_mem_digits (Nat.le_refl 16) c.toNat
      simp [hdigits]
  all_goals decide

theorem newline_not_mem_quoted (s : String) : '\n' ∉ (quoted s).toList := by
  have hchars : '\n' ∉ s.toList.flatMap quotedChar := by
    rw [List.mem_flatMap]
    rintro ⟨c, -, hc⟩
    exact newline_not_mem_quotedChar c hc
  simp [quoted, hchars]

theorem newline_not_mem_cutWord (s : List Char) : '\n' ∉ (Command.cutWord s).1 := by
  have hblank : isBlank '\n' = true := by decide
  intro hmem
  unfold Command.cutWord at hmem
  cases hcut : cutAtBlank s with
  | none =>
    rw [hcut] at hmem
    have hnot := not_isBlank_of_cutAtBlank_eq_none hcut _ hmem
    rw [hblank] at hnot
    cases hnot
  | some parts =>
    rw [hcut] at hmem
    have hnot := not_isBlank_of_cutAtBlank hcut _ hmem
    rw [hblank] at hnot
    cases hnot

end Text

/-! ## Messages -/

theorem Kind.newline_not_mem_name (k : Kind) : '\n' ∉ k.name.toList := by
  cases k <;> decide +kernel

theorem newline_not_mem_append {a b : String} (ha : '\n' ∉ a.toList) (hb : '\n' ∉ b.toList) :
    '\n' ∉ (a ++ b).toList := by
  rw [String.toList_append, List.mem_append, not_or]
  exact ⟨ha, hb⟩

theorem StoreError.newline_not_mem_message {e : StoreError}
    (h : ∀ name, e = .unknownName name → '\n' ∉ name.toList) : '\n' ∉ e.message.toList := by
  cases e with
  | outOfMemory => decide +kernel
  | unknownTag tag =>
    have hdigits : '\n' ∉ (Numeral.natText tag.toNat).toList := by
      rw [Numeral.natText, String.toList_ofList]
      exact Numeral.newline_not_mem_digits (by decide) _
    exact newline_not_mem_append (by decide +kernel) hdigits
  | unknownName name => exact newline_not_mem_append (by decide +kernel) (h name rfl)
  | kindMismatch expected found =>
    have hfirst := newline_not_mem_append (a := "type mismatch: expected ") (by decide +kernel)
      expected.newline_not_mem_name
    exact newline_not_mem_append (newline_not_mem_append hfirst (by decide +kernel))
      found.newline_not_mem_name
  | invalidText kind text =>
    have hfirst := newline_not_mem_append (a := "invalid ") (by decide +kernel) kind.newline_not_mem_name
    exact newline_not_mem_append (newline_not_mem_append hfirst (by decide +kernel))
      (Text.newline_not_mem_quoted text)
  | missingKey => decide +kernel

namespace CommandError

/-- The words that a message repeats as they are. -/
def words : CommandError → List String
  | keyUsage verb => [verb]
  | unknown verb => [verb]
  | store (.unknownName name) => [name]
  | _ => []

/-- **A message has no newline unless a repeated word has one.** -/
theorem newline_not_mem_message {e : CommandError} (h : ∀ w ∈ e.words, '\n' ∉ w.toList) :
    '\n' ∉ e.message.toList := by
  cases e with
  | setUsage => decide +kernel
  | keyUsage verb =>
    have hfirst := newline_not_mem_append (a := "usage: ") (by decide +kernel) (h verb List.mem_cons_self)
    exact newline_not_mem_append hfirst (by decide +kernel)
  | unknown verb => exact newline_not_mem_append (by decide +kernel) (h verb List.mem_cons_self)
  | store e =>
    refine StoreError.newline_not_mem_message fun name he => ?_
    subst he
    exact h name List.mem_cons_self

end CommandError

/-! ## What can fail -/

namespace Command

theorem newline_not_mem_of_ofSet {s : List Char} {e : CommandError} (h : ofSet s = .error e) :
    ∀ w ∈ e.words, '\n' ∉ w.toList := by
  unfold ofSet at h
  split at h
  · cases h
    exact nofun
  · next key rest hcut =>
    have hname := Text.newline_not_mem_cutWord (Text.trimStart rest)
    rcases hword : cutWord (Text.trimStart rest) with ⟨name, value⟩
    rw [hword] at h hname
    unfold Kind.ofName at h
    dsimp only at h hname
    cases hkind : Kind.ofName? (String.ofList name).toList with
    | none =>
      rw [hkind] at h
      cases h
      simp [CommandError.words, hname]
    | some kind =>
      rw [hkind] at h
      dsimp only at h
      split at h
      · cases h
        exact nofun
      · cases h

theorem newline_not_mem_of_ofWords {verb rest : List Char} (hverb : '\n' ∉ verb) {e : CommandError}
    (h : ofWords (String.ofList verb) rest = .error e) : ∀ w ∈ e.words, '\n' ∉ w.toList := by
  have hkey : ∀ {make : String → Command} {word : String}, '\n' ∉ word.toList →
      ofKey word make rest = .error e → ∀ w ∈ e.words, '\n' ∉ w.toList := by
    intro make word hword hof
    unfold ofKey at hof
    split at hof
    · cases hof
      simp [CommandError.words, hword]
    · cases hof
  unfold ofWords at h
  split at h
  · exact newline_not_mem_of_ofSet h
  · exact hkey (by simpa using hverb) h
  · exact hkey (by simpa using hverb) h
  · cases h
  · cases h
  · cases h
  · cases h
  · cases h
    simp [CommandError.words, hverb]

/-- A line is complained about with words of its own, which hold no blank. -/
theorem newline_not_mem_words {line : String} {e : CommandError} (h : ofLine line = .error e) :
    ∀ w ∈ e.words, '\n' ∉ w.toList := by
  unfold ofLine at h
  dsimp only at h
  split at h
  · cases h
  · have hverb := Text.newline_not_mem_cutWord (Text.trim line.toList)
    rcases hword : cutWord (Text.trim line.toList) with ⟨verb, rest⟩
    rw [hword] at h hverb
    dsimp only at h hverb
    cases hof : ofWords (String.ofList verb) (Text.trimStart rest) with
    | error e' =>
      rw [hof] at h
      cases h
      exact newline_not_mem_of_ofWords hverb hof
    | ok c =>
      rw [hof] at h
      cases h

end Command

namespace Session

theorem newline_not_mem_of_write {memory : Memory} {s : Session} {key : Option String} {v : Value}
    {e : CommandError} (h : (s.write memory key v).1 = .error e) : ∀ w ∈ e.words, '\n' ∉ w.toList := by
  unfold write at h
  rcases hset : s.store.set memory key v with ⟨e' | u, store⟩
  · rw [hset] at h
    cases h
    rcases (Store.error_of_set (congrArg Prod.fst hset)).2 with ⟨-, rfl⟩ | ⟨-, rfl⟩
    · exact nofun
    · exact nofun
  · rw [hset] at h
    cases h

/-- **What a session says of a line that fails is one line.** -/
theorem newline_not_mem_message {memory : Memory} {s : Session} {line : String} {e : CommandError}
    (h : (s.execute memory line).1 = .error e) : '\n' ∉ e.message.toList := by
  refine CommandError.newline_not_mem_message ?_
  unfold execute at h
  rcases hof : Command.ofLine line with e' | _ | c
  · rw [hof] at h
    cases h
    exact Command.newline_not_mem_words hof
  · rw [hof] at h
    cases h
  · rw [hof] at h
    dsimp only at h
    unfold perform at h
    cases c with
    | set key kind text =>
      dsimp only at h
      cases htext : Value.ofText kind text with
      | error e' =>
        rw [htext] at h
        cases h
        obtain ⟨-, rfl⟩ := Value.ofText_eq_error_iff.mp htext
        exact nofun
      | ok v =>
        rw [htext] at h
        exact newline_not_mem_of_write h
    | delete key => cases h
    | get key =>
      dsimp only at h
      cases hfind : s.store.find (some key) with
      | none =>
        rw [hfind] at h
        cases h
      | some entry =>
        rw [hfind] at h
        cases h
    | list => cases h
    | reset => exact newline_not_mem_of_write h
    | quit => cases h

end Session

end EventLoop
