import EventLoop.Proofs.Store.Buffers
import EventLoop.Proofs.Store.Refusal
import EventLoop.Proofs.Text.Numeral

/-!
# Values that read back

The text of a whole number, a pointer or a string tells the value. Read as a value of the same kind it gives the
value back, and written to the store where the value stands it changes nothing.

* `Value.ofText?_padded`, `Value.ofText_text` — the text of a value gives the value, also with blanks around a
  number.
* `Reachable.settled` — every entry of a store has the buffer that its value needs.
* `set_same` — so what an entry holds can be written to it again, however little memory is granted.
* `setText` — writes a value that is given by its kind's name and its text.
* `reads_back_what_is_shown` — so every entry with such a value can be written again as it is shown.
-/

namespace EventLoop

namespace Kind

/-- Are the values whole numbers? -/
def isWhole : Kind → Bool
  | int | uint | long | ulong | pointer => true
  | _ => false

/-- Does the text of a value of this kind tell the value? -/
def showsAll (k : Kind) : Bool := k.isWhole || k = string

theorem ofName_name (k : Kind) : Kind.ofName k.name = .ok k := by cases k <;> rfl

end Kind

namespace Value

variable {v : Value}

/-! ## Reading back -/

/-- The text of an integer that a signed kind with so many bits has. -/
theorem inSigned?_intText {bits : Nat} {i : Int} (hlow : -(2 ^ (bits - 1) : Int) ≤ i) (hhigh : i < 2 ^ (bits - 1)) :
    (Numeral.integer? (Numeral.intText i).toList).bind (inSigned? bits) = some i := by
  rw [Numeral.integer?_intText, Option.bind_some, inSigned?, if_pos]
  simpa using ⟨hlow, hhigh⟩

/-- The text of a number that an unsigned kind with so many bits has. -/
theorem inUnsigned?_natText {bits n : Nat} (h : n < Nat.pow 2 bits) :
    (Numeral.natural? 10 (Numeral.natText n).toList).bind (inUnsigned? bits) = some n := by
  rw [Numeral.natText, String.toList_ofList, Numeral.natural?_digits (by decide) (by decide), Option.bind_some,
    inUnsigned?, if_pos h]

/-- An address is shown to base sixteen behind the mark that says so. -/
theorem address?_text (n : Nat) : address? ('0' :: 'x' :: Numeral.digits 16 n) = some n :=
  Numeral.natural?_digits (by decide) (by decide) n

theorem isWord_text (h : v.kind.isWhole = true) : Text.IsWord v.text.toList := by
  cases v with
  | int i => exact Numeral.isWord_intText i.toInt
  | long i => exact Numeral.isWord_intText i.toInt
  | uint n => exact Numeral.isWord_natText n.toNat
  | ulong n => exact Numeral.isWord_natText n.toNat
  | pointer n =>
    rw [text, String.toList_ofList]
    exact ((Numeral.isWord_digits (by decide) n.toNat).cons (by decide)).cons (by decide)
  | void => cases h
  | double x => cases h
  | blob bytes => cases h
  | string text => cases h

/-- **The text of a number gives the number, whatever blanks are around it.** -/
theorem ofText?_padded (h : v.kind.isWhole = true) {w w' : String} (hw : Text.Blanks w.toList)
    (hw' : Text.Blanks w'.toList) : ofText? v.kind (w ++ v.text ++ w') = some v := by
  have htrim : Text.trim (w ++ v.text ++ w').toList = v.text.toList := by
    rw [String.toList_append, String.toList_append, List.append_assoc]
    exact Text.trim_padded hw hw' (isWord_text h).isBare
  unfold ofText?
  rw [htrim]
  cases v with
  | int i =>
    dsimp only [kind, text]
    rw [inSigned?_intText i.le_toInt i.toInt_lt, Option.map_some, Int32.ofInt_toInt]
  | long i =>
    dsimp only [kind, text]
    rw [inSigned?_intText i.le_toInt i.toInt_lt, Option.map_some, Int64.ofInt_toInt]
  | uint n =>
    dsimp only [kind, text]
    rw [inUnsigned?_natText n.toNat_lt_size, Option.map_some, UInt32.ofNat_toNat]
  | ulong n =>
    dsimp only [kind, text]
    rw [inUnsigned?_natText n.toNat_lt_size, Option.map_some, UInt64.ofNat_toNat]
  | pointer n =>
    dsimp only [kind, text]
    rw [String.toList_ofList, address?_text, Option.bind_some, inUnsigned?, if_pos n.toNat_lt_size, Option.map_some,
      UInt64.ofNat_toNat]
  | void => cases h
  | double x => cases h
  | blob bytes => cases h
  | string text => cases h

/-- **The text of a value that it tells gives the value.** -/
theorem ofText_text (h : v.kind.showsAll = true) : ofText v.kind v.text = .ok v := by
  unfold Kind.showsAll at h
  rcases Bool.or_eq_true_iff.mp h with hwhole | hstring
  · have hpadded : ofText? v.kind ("" ++ v.text ++ "") = some v := ofText?_padded hwhole nofun nofun
    rw [String.empty_append, String.append_empty] at hpadded
    exact ofText_eq_ok_iff.mpr hpadded
  · cases v with
    | string text => rfl
    | _ => cases hstring

/-- The value is told by its text. -/
structure IsTold (v : Value) : Prop where
  /-- Read as a value of its kind the text gives the value, … -/
  reads : ofText v.kind v.text = .ok v
  /-- … if it is a number also with blanks around it. -/
  padded : v.kind.isWhole = true → ∀ w w' : String, Text.Blanks w.toList → Text.Blanks w'.toList →
    ofText v.kind (w ++ v.text ++ w') = .ok v
  /-- No other value of the kind has the same text. -/
  distinct : ∀ u : Value, u.kind = v.kind → u.text = v.text → u = v

theorem isTold_of_showsAll (h : v.kind.showsAll = true) : v.IsTold := by
  refine ⟨ofText_text h, fun hwhole w w' hw hw' => ofText_eq_ok_iff.mpr (ofText?_padded hwhole hw hw'), ?_⟩
  intro u hkind htext
  have hu : ofText u.kind u.text = .ok u := ofText_text (by rw [hkind]; exact h)
  rw [hkind, htext, ofText_text h] at hu
  exact (Except.ok.inj hu).symm

end Value

/-! ## Buffers that are large enough -/

/-- The entry has the buffer that its value needs, and none if its value needs none. -/
def Entry.Settled (e : Entry) : Prop := e.roomAfter e.value = e.room

theorem Entry.Replaces.settled {e : Entry} {old : Option Entry} {key : String} {v : Value}
    (h : e.Replaces old key v) : e.Settled := by
  have hroom := h.room_eq
  unfold Entry.Settled Entry.roomAfter at *
  rw [h.value_eq]
  cases hsize : v.bufferSize? with
  | none =>
    rw [hsize] at hroom
    exact hroom.symm
  | some size =>
    rw [hsize] at hroom
    have hle : size ≤ e.room := by
      rw [hroom]
      dsimp only
      split
      · exact Nat.le_max_left _ _
      · exact Nat.le_refl _
    exact Nat.max_eq_right hle

/-- No buffer has to be reserved for the value that the entry has. -/
theorem Entry.Settled.install {e : Entry} (h : e.Settled) (memory : Memory) : e.install memory e.value = .ok e := by
  have hroom : e.roomFor memory e.value = .ok e.room := by
    unfold Entry.Settled Entry.roomAfter at h
    unfold Entry.roomFor
    cases hsize : e.value.bufferSize? with
    | none =>
      rw [hsize] at h
      exact congrArg Except.ok h
    | some size =>
      rw [hsize] at h
      dsimp only [Option.isSome_some] at h ⊢
      rw [if_pos rfl] at h
      have hle : size ≤ e.room := by omega
      simp [hle]
  rw [Entry.install, hroom]
  rfl

/-- Writing to an object what it is already changes nothing. -/
theorem Pool.modify_of_get? {α : Type} {p : Pool α} {h : Handle} {v : α} (hget : p.get? h = some v) :
    p.modify h (fun _ => v) = p := by
  obtain ⟨s, hs, -, -, hval⟩ := get?_eq_some.mp hget
  have hslots : p.slots.modify h.index.toNat (fun s => { s with value := v }) = p.slots := by
    refine Array.ext_getElem? fun i => ?_
    rw [Array.getElem?_modify]
    split
    · next hi =>
      rw [← hi, hs, ← hval]
      rfl
    · rfl
  rw [modify, if_pos (contains_eq_true.mpr ⟨v, hget⟩), hslots]

namespace Store

variable {s : Store} {l : List Entry} {key : String}

/-- Every entry is settled. -/
def Settled (s : Store) : Prop := ∀ key e, s.find (some key) = some e → e.Settled

theorem settled_call (hs : s.Lists l) (h : s.Settled) (c : StoreCall) : (s.call c).2.Settled := by
  have hremove : ∀ key, (s.remove key).2.Settled := by
    intro key k e he
    rw [find_remove hs] at he
    split at he
    · cases he
    · exact h k e he
  have hclear : s.clear.Settled := by
    intro k e he
    rw [find_clear hs] at he
    cases he
  cases c with
  | remove key => exact hremove key
  | clear => exact hclear
  | set memory key v =>
    by_cases hv : v = .void
    · subst hv
      cases key with
      | none => exact hclear
      | some key => exact hremove key
    · cases key with
      | none => cases v <;> first | exact absurd rfl hv | exact h
      | some key =>
        intro k e he
        rcases find_set hs memory key hv with ⟨new, -, hnew, hfind⟩ | ⟨-, hfind⟩
        · rw [show (s.call (.set memory (some key) v)).2.find (some k) = _ from hfind k] at he
          split at he
          · cases he
            exact hnew.settled
          · exact h k e he
        · rw [show (s.call (.set memory (some key) v)).2.find (some k) = _ from hfind k] at he
          exact h k e he

theorem Reachable.settled (h : s.Reachable) : s.Settled := by
  induction h with
  | initial h =>
    intro key e he
    cases ((lists_of_initial h).find_eq_some_iff.mp he).1
  | call h c ih =>
    obtain ⟨l, hs⟩ := h.exists_lists
    exact settled_call hs ih c
  | limited _ limit ih => exact ih

/-- **What an entry holds can be written to it again. That changes nothing at all, and needs no memory.** -/
theorem set_same (hs : s.Lists l) (h : s.Settled) (memory : Memory) {e : Entry}
    (hfind : s.find (some key) = some e) (hv : e.value ≠ .void) :
    s.set memory (some key) e.value = (.ok (), s) := by
  have hcontains : s.contains key = true := hs.contains_iff.mpr ⟨e, hs.find_eq_some_iff.mp hfind⟩
  obtain ⟨handle, e', hfind', hget, hset⟩ := set_of_contains hs memory hv hcontains
  rw [hfind] at hfind'
  cases hfind'
  rw [hset, update, hget]
  dsimp only
  rw [(h key e hfind).install]
  dsimp only
  rw [Pool.modify_of_get? hget]

theorem find_set_same (hs : s.Lists l) (h : s.Settled) (memory : Memory) {e : Entry}
    (hfind : s.find (some key) = some e) (hv : e.value ≠ .void) :
    (s.set memory (some key) e.value).1 = .ok () ∧
      ∀ k, (s.set memory (some key) e.value).2.find (some k) = s.find (some k) := by
  rw [set_same hs h memory hfind hv]
  exact ⟨rfl, fun _ => rfl⟩

/-! ## Texts written to the store -/

/-- Writes what a text says under a key, as a value of the kind with a name. -/
def setText (memory : Memory) (s : Store) (key name text : String) : Except StoreError Unit × Store :=
  match (Kind.ofName name).bind fun kind => Value.ofText kind text with
  | .ok v => s.set memory (some key) v
  | .error e => (.error e, s)

/-- What is shown of an entry, its kind's name and its value's text, is written as the value itself. -/
theorem setText_name_text (memory : Memory) (s : Store) (key : String) {v : Value}
    (h : v.kind.showsAll = true) :
    s.setText memory key v.kind.name v.text = s.set memory (some key) v := by
  unfold setText
  rw [Kind.ofName_name]
  dsimp only [Except.bind]
  rw [Value.ofText_text h]

/-- Every text that tells its value gives the value back, and each entry with such a value can be written again as
it is shown, in any circumstances of memory, with no entry changed. -/
structure ReadsBack (s : Store) : Prop where
  told : ∀ v : Value, v.kind.showsAll = true → v.IsTold
  rewritten : ∀ (memory : Memory) (key : String) (e : Entry), s.find (some key) = some e →
    e.value.kind.showsAll = true →
    (s.setText memory key e.value.kind.name e.value.text).1 = .ok () ∧
      ∀ k, (s.setText memory key e.value.kind.name e.value.text).2.find (some k) = s.find (some k)

/-- **In every store that can come about, whole numbers, pointers and strings read back from what is shown.** -/
theorem reads_back_what_is_shown {s : Store} (h : s.Reachable) : s.ReadsBack where
  told _ := Value.isTold_of_showsAll
  rewritten memory key e hfind hshows := by
    obtain ⟨l, hs⟩ := h.exists_lists
    have hv : e.value ≠ .void := by
      intro hvoid
      rw [hvoid] at hshows
      cases hshows
    rw [setText_name_text memory s key hshows]
    exact find_set_same hs h.settled memory hfind hv

/-- Values at the ends of their ranges, and a text with blanks around it. -/
def extremes : List StoreCall :=
  [.set .unbounded (some "low") (.int (-2147483648)), .set .unbounded (some "high") (.ulong 18446744073709551615),
    .set .unbounded (some "at") (.pointer 18446744073709551615), .set .unbounded (some "text") (.string " a  b ")]

/-- The pointer is shown to base sixteen, and writing it again needs no memory. -/
theorem reads_back_extremes :
    (Store.empty.after extremes).Reachable ∧ (Store.empty.after extremes).ReadsBack ∧
      ((Store.empty.after extremes).get "low").map Value.text = some "-2147483648" ∧
      ((Store.empty.after extremes).get "at").map Value.text = some "0xffffffffffffffff" ∧
      ((Store.empty.after extremes).setText (.ofBlocks 0) "at" "pointer" "0xffffffffffffffff").2.get "at" =
        some (.pointer 18446744073709551615) ∧
      ((Store.empty.after extremes).setText (.ofBlocks 0) "text" "STRING" " a  b ").2.get "text" =
        some (.string " a  b ") :=
  have hreachable : (Store.empty.after extremes).Reachable :=
    ((((Reachable.initial .empty).call _).call _).call _).call _
  ⟨hreachable, reads_back_what_is_shown hreachable, by decide +kernel, by decide +kernel, by decide +kernel,
    by decide +kernel⟩

end Store

end EventLoop
