import EventLoop.Console.Command
import EventLoop.Proofs.Text.Blank
import Mathlib.Data.List.Forall2

/-!
# Which lines ask for what

Words, kinds and keys may stand apart by any blanks, and a line may have blanks around it. Inside a value, and
inside a key that is deleted or looked up, blanks belong to the text.

* `Kind.IsSpelled` — the name of a kind, in any mix of capital and small letters.
* `ofLine_set`, `ofLine_key` — what is put together of words and blanks is read as it was meant.
* `words_of_ofLine` — what is read as a `set` was put together of words.
* `reads_words_and_blanks` — all this, and that nothing else is read from a line than from a blank one.
-/

namespace EventLoop

/-! ## Names of kinds -/

namespace Kind

/-- The name of the kind, each letter of it capital or small. -/
def IsSpelled (k : Kind) (name : String) : Prop :=
  List.Forall₂ (fun c d => c = d ∨ c = d.toUpper) name.toList k.name.toList

variable {k : Kind} {name : String}

instance : Decidable (k.IsSpelled name) :=
  inferInstanceAs (Decidable (List.Forall₂ (fun c d => c = d ∨ c = d.toUpper) name.toList k.name.toList))

/-- A name consists of small letters, which can be told from their capital forms. -/
theorem letters_of_name (k : Kind) : ∀ d ∈ k.name.toList,
    d.toLower = d ∧ d.toUpper.toLower = d ∧ Text.isBlank d = false ∧ Text.isBlank d.toUpper = false := by
  have hall : k.name.toList.all (fun d => decide (d.toLower = d ∧ d.toUpper.toLower = d ∧
      Text.isBlank d = false ∧ Text.isBlank d.toUpper = false)) = true := by
    cases k <;> decide
  exact fun d hd => of_decide_eq_true (List.all_eq_true.mp hall d hd)

theorem IsSpelled.map_toLower (h : k.IsSpelled name) : name.toList.map Char.toLower = k.name.toList := by
  have hletters := k.letters_of_name
  unfold IsSpelled at h
  generalize name.toList = s at h
  generalize k.name.toList = t at h hletters
  induction h with
  | nil => rfl
  | @cons c d s t hc _ ih =>
    obtain ⟨hlower, hupper, -⟩ := hletters d List.mem_cons_self
    rw [List.map_cons, ih fun x hx => hletters x (List.mem_cons_of_mem d hx)]
    rcases hc with rfl | rfl
    · rw [hlower]
    · rw [hupper]

/-- **A kind is known by its name, however that is spelled.** -/
theorem ofName_of_isSpelled (h : k.IsSpelled name) : Kind.ofName name = .ok k := by
  have hfind : all.find? (fun other => other.name.toList = k.name.toList) = some k := by
    cases k <;> decide
  unfold Kind.ofName ofName?
  rw [h.map_toLower, hfind]

theorem IsSpelled.isWord (h : k.IsSpelled name) : Text.IsWord name.toList := by
  constructor
  · intro hnil
    unfold IsSpelled at h
    rw [hnil, List.forall₂_nil_left_iff] at h
    cases k <;> cases h
  · have hletters := k.letters_of_name
    unfold IsSpelled at h
    generalize name.toList = s at h
    generalize k.name.toList = t at h hletters
    induction h with
    | nil => exact nofun
    | @cons c d s t hc _ ih =>
      obtain ⟨-, -, hlower, hupper⟩ := hletters d List.mem_cons_self
      rintro x (_ | ⟨_, hx⟩)
      · rcases hc with rfl | rfl
        · exact hlower
        · exact hupper
      · exact ih (fun x hx => hletters x (List.mem_cons_of_mem d hx)) x hx

end Kind

namespace Command

open Text

/-! ## Putting lines together -/

/-- A line is cut into its first word and what follows the blanks behind that. -/
theorem ofLine_words {w₀ w₁ w₂ verb rest : String} (hw₀ : Blanks w₀.toList) (hverb : IsWord verb.toList)
    (hw₁ : Blanks w₁.toList) (hne : w₁ ≠ "") (hw₂ : Blanks w₂.toList) (hrest : IsBare rest.toList)
    (hsome : rest ≠ "") :
    ofLine (w₀ ++ verb ++ w₁ ++ rest ++ w₂) = (ofWords verb rest.toList).map some := by
  have hbare : IsBare (verb.toList ++ (w₁.toList ++ rest.toList)) :=
    hverb.isBare.append hverb.ne_nil hrest (by simpa using hsome) _
  have htrim : trim (w₀ ++ verb ++ w₁ ++ rest ++ w₂).toList = verb.toList ++ (w₁.toList ++ rest.toList) := by
    rw [← trim_padded hw₀ hw₂ hbare]
    simp only [String.toList_append, List.append_assoc]
  obtain ⟨tail, hcut, htail⟩ := cutAtBlank_word hverb.not_blank hw₁ (by simpa using hne) hrest.head
  unfold ofLine cutWord
  dsimp only
  rw [htrim, if_neg (List.append_ne_nil_of_left_ne_nil hverb.ne_nil _), hcut]
  dsimp only [Option.getD_some]
  rw [htail, String.ofList_toList]

theorem ofSet_words {w₂ w₃ key name value : String} {kind : Kind}
    (hkey : IsWord key.toList) (hw₂ : Blanks w₂.toList) (hne₂ : w₂ ≠ "") (hname : kind.IsSpelled name)
    (hw₃ : Blanks w₃.toList) (hne₃ : w₃ ≠ "") (hvalue : IsBare value.toList) (hsome : value ≠ "") :
    ofSet (key ++ w₂ ++ name ++ w₃ ++ value).toList = .ok (.set key kind value) := by
  have hword := hname.isWord
  have hhead : ∀ c ∈ (name.toList ++ (w₃.toList ++ value.toList)).head?, isBlank c = false := by
    rw [List.head?_append_of_ne_nil _ hword.ne_nil]
    exact hword.isBare.head
  obtain ⟨tail, hcut, htail⟩ := cutAtBlank_word hkey.not_blank hw₂ (by simpa using hne₂) hhead
  obtain ⟨text, hcut', htext⟩ := cutAtBlank_word hword.not_blank hw₃ (by simpa using hne₃) hvalue.head
  have htext_ne : text ≠ [] := by
    rintro rfl
    exact hsome (String.toList_injective htext.symm)
  unfold ofSet cutWord
  simp only [String.toList_append, List.append_assoc]
  rw [hcut]
  dsimp only
  rw [htail, hcut']
  dsimp only [Option.getD_some]
  rw [String.ofList_toList, Kind.ofName_of_isSpelled hname, htext, String.ofList_toList, String.ofList_toList]
  dsimp only
  rw [if_neg fun h => htext_ne h.2]

/-! ## Taking lines apart -/

theorem cutWord_suffix (s : List Char) : (cutWord s).2 <:+ s := by
  unfold cutWord
  cases hcut : cutAtBlank s with
  | none => exact List.nil_suffix
  | some parts => exact suffix_of_cutAtBlank hcut

/-- What is set has a key without blanks, and a value without blanks around it. Only the kind void goes without a
value. -/
theorem words_of_ofSet {s : List Char} (hs : IsBare s) {key value : String} {kind : Kind}
    (h : ofSet s = .ok (.set key kind value)) :
    IsWord key.toList ∧ IsBare value.toList ∧ (value = "" → kind = .void) := by
  unfold ofSet at h
  split at h
  · cases h
  · next first rest hcut =>
    have hkey : IsWord first := by
      refine ⟨?_, not_isBlank_of_cutAtBlank hcut⟩
      rintro rfl
      obtain ⟨c, hc, rfl⟩ := append_of_cutAtBlank hcut
      rw [hs.head c rfl] at hc
      cases hc
    have hsuffix : (cutWord (trimStart rest)).2 <:+ s :=
      (cutWord_suffix _).trans ((trimStart_suffix rest).trans (suffix_of_cutAtBlank hcut))
    dsimp only at h
    split at h
    · cases h
    · split at h
      · cases h
      · next hneeded =>
        cases h
        rw [String.toList_ofList, String.toList_ofList]
        refine ⟨hkey, hs.of_suffix hsuffix, fun hempty => ?_⟩
        -- a value that is there does not vanish when it is trimmed
        by_contra hkind
        refine hs.trimStart_ne_nil hsuffix (fun hnil => hneeded ⟨hkind, hnil⟩) ?_
        simpa using congrArg String.toList hempty

theorem ofSet_of_ofWords {verb key value : String} {rest : List Char} {kind : Kind}
    (h : ofWords verb rest = .ok (.set key kind value)) : ofSet rest = .ok (.set key kind value) := by
  unfold ofWords ofKey at h
  split at h
  · exact h
  · split at h <;> cases h
  · split at h <;> cases h
  all_goals cases h

theorem words_of_ofLine {line key value : String} {kind : Kind}
    (h : ofLine line = .ok (some (.set key kind value))) :
    IsWord key.toList ∧ IsBare value.toList ∧ (value = "" → kind = .void) := by
  have hrest : IsBare (trimStart (cutWord (trim line.toList)).2) :=
    (isBare_trim line.toList).of_suffix (cutWord_suffix _)
  unfold ofLine at h
  dsimp only at h
  split at h
  · cases h
  · cases hwords : ofWords (String.ofList (cutWord (trim line.toList)).1)
      (trimStart (cutWord (trim line.toList)).2) with
    | error e =>
      rw [hwords] at h
      cases h
    | ok c =>
      rw [hwords] at h
      cases h
      exact words_of_ofSet hrest (ofSet_of_ofWords hwords)

theorem ofLine_eq_none_iff {line : String} : ofLine line = .ok none ↔ Blanks line.toList := by
  rw [← trim_eq_nil_iff]
  unfold ofLine
  dsimp only
  split
  · next hnil => exact iff_of_true rfl hnil
  · next hne =>
    refine iff_of_false ?_ hne
    cases ofWords (String.ofList (cutWord (trim line.toList)).1) (trimStart (cutWord (trim line.toList)).2) with
    | error e => exact nofun
    | ok c => exact nofun

/-! ## Lines -/

/-- What lines are read as. -/
structure ReadsLines : Prop where
  /-- A `set` that is put together of words and blanks gives the key, the kind, however that is spelled, and the
  value with the blanks inside it. -/
  set : ∀ (w₀ w₁ w₂ w₃ w₄ key name value : String) (kind : Kind),
    IsWord key.toList → kind.IsSpelled name → IsBare value.toList → value ≠ "" →
    Blanks w₀.toList → Blanks w₁.toList → Blanks w₂.toList → Blanks w₃.toList → Blanks w₄.toList →
    w₁ ≠ "" → w₂ ≠ "" → w₃ ≠ "" →
    ofLine (w₀ ++ "set" ++ w₁ ++ key ++ w₂ ++ name ++ w₃ ++ value ++ w₄) = .ok (some (.set key kind value))
  /-- Behind `del` and `get` everything is the key. -/
  key : ∀ w₀ w₁ w₂ key : String, IsBare key.toList → key ≠ "" →
    Blanks w₀.toList → Blanks w₁.toList → Blanks w₂.toList → w₁ ≠ "" →
    ofLine (w₀ ++ "del" ++ w₁ ++ key ++ w₂) = .ok (some (.delete key)) ∧
      ofLine (w₀ ++ "get" ++ w₁ ++ key ++ w₂) = .ok (some (.get key))
  /-- Whatever the line is, a key that is set is a word, and its value has no blanks around it and is missing only
  if the kind is void. -/
  words : ∀ (line key value : String) (kind : Kind), ofLine line = .ok (some (.set key kind value)) →
    IsWord key.toList ∧ IsBare value.toList ∧ (value = "" → kind = .void)
  /-- Blank lines and no others ask for nothing. -/
  blank : ∀ line, ofLine line = .ok none ↔ Blanks line.toList

/-- **Lines are read as the words that they are put together of, whatever the blanks between them.** -/
theorem reads_words_and_blanks : ReadsLines where
  set w₀ w₁ w₂ w₃ w₄ key name value kind hkey hname hvalue hsome hw₀ hw₁ hw₂ hw₃ hw₄ hne₁ hne₂ hne₃ := by
    have hverb : IsWord "set".toList := by decide
    have hnil : value.toList ≠ [] := by simpa using hsome
    have hrest : IsBare (key ++ w₂ ++ name ++ w₃ ++ value).toList := by
      have happend := hkey.isBare.append hkey.ne_nil hvalue hnil (w₂.toList ++ (name.toList ++ w₃.toList))
      simpa only [String.toList_append, List.append_assoc] using happend
    have hsome' : key ++ w₂ ++ name ++ w₃ ++ value ≠ "" := fun h => hsome (String.append_eq_empty_iff.mp h).2
    have hline : w₀ ++ "set" ++ w₁ ++ key ++ w₂ ++ name ++ w₃ ++ value ++ w₄ =
        w₀ ++ "set" ++ w₁ ++ (key ++ w₂ ++ name ++ w₃ ++ value) ++ w₄ := by
      simp only [String.append_assoc]
    rw [hline, ofLine_words hw₀ hverb hw₁ hne₁ hw₄ hrest hsome']
    exact congrArg (Except.map some) (ofSet_words hkey hw₂ hne₂ hname hw₃ hne₃ hvalue hsome)
  key w₀ w₁ w₂ key hkey hsome hw₀ hw₁ hw₂ hne₁ := by
    have hverb : IsWord "del".toList ∧ IsWord "get".toList := by decide
    have hnil : key.toList ≠ [] := by simpa using hsome
    rw [ofLine_words hw₀ hverb.1 hw₁ hne₁ hw₂ hkey hsome, ofLine_words hw₀ hverb.2 hw₁ hne₁ hw₂ hkey hsome]
    constructor
    · show (ofKey "del" .delete key.toList).map some = _
      rw [ofKey, if_neg hnil, String.ofList_toList]
      rfl
    · show (ofKey "get" .get key.toList).map some = _
      rw [ofKey, if_neg hnil, String.ofList_toList]
      rfl
  words _ _ _ _ := words_of_ofLine
  blank _ := ofLine_eq_none_iff

/-- Blanks of several kinds, and a kind that is shouted in part. -/
theorem reads_spaced_motto :
    (Kind.string).IsSpelled "STRing" ∧
      ofLine "\u3000 set\tmotto \u00a0STRing  hello   there\n" = .ok (some (.set "motto" .string "hello   there")) ∧
      ofLine "\u3000get\tmy motto\r\n" = .ok (some (.get "my motto")) ∧
      IsWord "motto".toList ∧ ofLine "\u2028 \u0085" = .ok none := by
  have hname : Kind.string.IsSpelled "STRing" := by decide
  have hset := reads_words_and_blanks.set "\u3000 " "\t" " \u00a0" "  " "\n" "motto" "STRing" "hello   there" .string
    (by decide) hname (by decide) (by decide) (by decide) (by decide)
    (by decide) (by decide) (by decide) (by decide) (by decide) (by decide)
  have hget := reads_words_and_blanks.key "\u3000" "\t" "\r\n" "my motto" (by decide) (by decide)
    (by decide) (by decide) (by decide) (by decide)
  exact ⟨hname, hset, hget.2, (reads_words_and_blanks.words _ _ _ _ hset).1,
    (reads_words_and_blanks.blank _).mpr (by decide)⟩

end Command

end EventLoop
