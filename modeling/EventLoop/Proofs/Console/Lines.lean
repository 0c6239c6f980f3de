import EventLoop.Console.Session
import EventLoop.Proofs.Console.Newline

/-!
# Lines and pieces

A session gets its input in pieces, and obeys each line when its newline has arrived. Here the pieces are shown
not to matter: `Session.obeyAll` is told the lines one after another.

* `obey_eq` — what a line does depends on the store alone.
* `feed_feed` — two pieces do the same as one that holds the bytes of both.
* `finish_feed` — all of the input, and its end, do what the lines do one after another.
-/

namespace EventLoop.Session

/-! ## What a line does -/

/-- A session on a store that has said nothing yet. -/
def fresh (store : Store) : Session := { store }

/-- Nothing changes when the tail becomes what it is. -/
theorem withTail_eq {s : Session} {tail : List UInt8} (h : s.tail = tail) :
    ({ s with tail } : Session) = s := by
  rw [← h]

/-- A session that goes on as another one has gone. -/
def followedBy (s r : Session) : Session :=
  { s with store := r.store, stopped := s.stopped || r.stopped, said := s.said ++ r.said }

theorem sayNotices_eq (ns : List Notice) (s : Session) :
    s.sayNotices ns = { s with said := s.said ++ (ns.map .notice).toArray } := by
  induction ns generalizing s with
  | nil => simp [sayNotices]
  | cons n ns ih =>
    have hrest := ih (s.sayNotice n)
    unfold sayNotices sayNotice at hrest ⊢
    rw [List.foldl_cons, hrest]
    simp

theorem sayLines_eq (ls : List String) (s : Session) :
    ls.foldl sayLine s = { s with said := s.said ++ (ls.map .line).toArray } := by
  induction ls generalizing s with
  | nil => simp
  | cons l ls ih =>
    rw [List.foldl_cons, ih]
    simp [sayLine]

/-- An answer changes nothing but what was said. -/
theorem answer_eq (s : Session) (ns : List Notice) (text : String) :
    (s.sayNotices ns).sayLine text =
      { s with said := (s.said ++ (ns.map Utterance.notice).toArray).push (.line text) } := by
  rw [sayNotices_eq]
  rfl

section

variable (memory : Memory) (s : Session)

theorem write_eq (key : Option String) (v : Value) :
    s.write memory key v =
      (((fresh s.store).write memory key v).1, s.followedBy ((fresh s.store).write memory key v).2) := by
  unfold write followedBy fresh
  dsimp only
  rcases s.store.set memory key v with ⟨e | u, store⟩
  · simp
  · simp [sayNotices_eq, sayLine]

theorem perform_eq (c : Command) :
    s.perform memory c =
      (((fresh s.store).perform memory c).1, s.followedBy ((fresh s.store).perform memory c).2) := by
  cases c with
  | set key kind text =>
    unfold perform
    dsimp only
    cases Value.ofText kind text with
    | error e => simp [followedBy, fresh]
    | ok v => exact write_eq memory s (some key) v
  | delete key =>
    unfold perform followedBy fresh
    dsimp only
    rcases s.store.remove key with ⟨there, store⟩
    simp [sayNotices_eq, sayLine]
  | get key =>
    unfold perform followedBy fresh
    dsimp only
    cases s.store.find (some key) <;> simp [sayLine]
  | list => simp [perform, followedBy, fresh, sayLines_eq]
  | reset => exact write_eq memory s none .void
  | quit => simp [perform, followedBy, fresh, stop]

theorem execute_eq (line : String) :
    s.execute memory line =
      (((fresh s.store).execute memory line).1,
        s.followedBy ((fresh s.store).execute memory line).2) := by
  unfold execute
  rcases Command.ofLine line with e | _ | c
  · simp [followedBy, fresh]
  · simp [followedBy, fresh]
  · exact perform_eq memory s c

/-- **What a line does depends on the store alone.** -/
theorem obey_eq (line : List UInt8) :
    s.obey memory line = s.followedBy ((fresh s.store).obey memory line) := by
  unfold obey
  rw [execute_eq]
  rcases (fresh s.store).execute memory (Text.Lenient.decode line) with ⟨e | u, r⟩
  · simp [followedBy, sayLine]
  · rfl

/-- A line is obeyed whatever has arrived of the next. -/
theorem obey_tail (tail line : List UInt8) :
    ({ s with tail } : Session).obey memory line = { s.obey memory line with tail } := by
  rw [obey_eq, obey_eq memory s]
  generalize (fresh s.store).obey memory line = r
  rfl

theorem tail_obey (line : List UInt8) : (s.obey memory line).tail = s.tail := by
  rw [obey_eq]
  generalize (fresh s.store).obey memory line = r
  rfl

/-- A line is obeyed the same with its newline and without. -/
theorem obey_newline (line : List UInt8) : s.obey memory (line ++ [newline]) = s.obey memory line := by
  unfold obey execute
  rw [newline, Command.ofLine_newline]

end

/-! ## Lines that stop -/

/-- Does a line ask to stop? -/
def Quits (line : List UInt8) : Prop := Command.ofLine (Text.Lenient.decode line) = .ok (some .quit)

theorem stopped_write (memory : Memory) (s : Session) (key : Option String) (v : Value) :
    (s.write memory key v).2.stopped = s.stopped := by
  unfold write
  rcases s.store.set memory key v with ⟨e | u, store⟩
  · rfl
  · dsimp only
    rw [answer_eq]

theorem stopped_perform (memory : Memory) (s : Session) (c : Command) :
    (s.perform memory c).2.stopped = (s.stopped || decide (c = .quit)) := by
  unfold perform
  cases c with
  | set key kind text =>
    dsimp only
    cases Value.ofText kind text with
    | error e => simp
    | ok v => simp [stopped_write]
  | delete key => simp [answer_eq]
  | get key =>
    dsimp only
    cases s.store.find (some key) <;> simp [sayLine]
  | list => simp [sayLines_eq]
  | reset => simp [stopped_write]
  | quit => simp [stop]

/-- A session is stopped by a line that asks for it, and by no other. -/
theorem stopped_obey (memory : Memory) (s : Session) (line : List UInt8) :
    (s.obey memory line).stopped = true ↔ s.stopped = true ∨ Quits line := by
  have hobey : (s.obey memory line).stopped = (s.execute memory (Text.Lenient.decode line)).2.stopped := by
    unfold obey
    rcases s.execute memory (Text.Lenient.decode line) with ⟨e | u, r⟩
    · rfl
    · rfl
  rw [hobey, execute, Quits]
  rcases Command.ofLine (Text.Lenient.decode line) with e | _ | c
  · simp
  · simp
  · simp [stopped_perform]

/-! ## Cutting lines off -/

theorem cutLine_eq_none {bytes : List UInt8} : cutLine bytes = none ↔ newline ∉ bytes := by
  induction bytes with
  | nil => simp [cutLine]
  | cons b rest ih =>
    unfold cutLine
    by_cases hb : b = newline
    · simp [hb]
    · simp [hb, Ne.symm hb, ih]

theorem cutLine_eq_some {bytes line rest : List UInt8} (h : cutLine bytes = some (line, rest)) :
    ∃ text, line = text ++ [newline] ∧ newline ∉ text ∧ bytes = text ++ newline :: rest := by
  induction bytes generalizing line with
  | nil => cases h
  | cons b bytes ih =>
    unfold cutLine at h
    split at h
    · next hb =>
      cases h
      exact ⟨[], by rw [hb]; rfl, List.not_mem_nil, by rw [hb]; rfl⟩
    · next hb =>
      obtain ⟨⟨line', rest'⟩, hcut, he⟩ := Option.map_eq_some_iff.mp h
      cases he
      obtain ⟨text, rfl, hnot, rfl⟩ := ih hcut
      refine ⟨b :: text, rfl, ?_, rfl⟩
      rw [List.mem_cons, not_or]
      exact ⟨Ne.symm hb, hnot⟩

theorem cutLine_of_not_mem {text : List UInt8} (ht : newline ∉ text) (rest : List UInt8) :
    cutLine (text ++ newline :: rest) = some (text ++ [newline], rest) := by
  induction text with
  | nil => rfl
  | cons b text ih =>
    rw [List.mem_cons, not_or] at ht
    rw [List.cons_append, cutLine, if_neg (Ne.symm ht.1), ih ht.2]
    rfl

theorem cutLine_append {bytes line rest : List UInt8} (h : cutLine bytes = some (line, rest))
    (more : List UInt8) : cutLine (bytes ++ more) = some (line, rest ++ more) := by
  induction bytes generalizing line with
  | nil => cases h
  | cons b bytes ih =>
    rw [List.cons_append]
    unfold cutLine at h ⊢
    split at h
    · next hb =>
      cases h
      rw [if_pos hb]
    · next hb =>
      obtain ⟨⟨line', rest'⟩, hcut, he⟩ := Option.map_eq_some_iff.mp h
      cases he
      rw [if_neg hb, ih hcut]
      rfl

/-! ## Pieces -/

section

variable {memory : Memory} {s : Session}

theorem obeyLines_of_stopped (hs : s.stopped = true) (bytes : List UInt8) :
    s.obeyLines memory bytes = { s with tail := bytes } := by
  rw [obeyLines, if_pos hs]

theorem obeyLines_of_not_mem {bytes : List UInt8} (hb : newline ∉ bytes) :
    s.obeyLines memory bytes = { s with tail := bytes } := by
  rw [obeyLines]
  split
  · rfl
  · split
    · rfl
    · next line rest hcut =>
      rw [cutLine_eq_none.mpr hb] at hcut
      cases hcut

theorem obeyLines_of_cut (hs : s.stopped = false) {bytes line rest : List UInt8}
    (hcut : cutLine bytes = some (line, rest)) :
    s.obeyLines memory bytes = (s.obey memory line).obeyLines memory rest := by
  rw [obeyLines, if_neg (by simp [hs])]
  split
  · next hnone =>
    rw [hcut] at hnone
    cases hnone
  · next line' rest' hsome =>
    rw [hcut] at hsome
    cases hsome
    rfl

/-- What was left of the input before does not matter. -/
theorem obeyLines_tail (tail bytes : List UInt8) :
    ({ s with tail } : Session).obeyLines memory bytes = s.obeyLines memory bytes := by
  fun_induction s.obeyLines memory bytes generalizing tail with
  | case1 s bytes hs => rw [obeyLines_of_stopped (s := { s with tail }) hs]
  | case2 s bytes hs hcut => rw [obeyLines_of_not_mem (cutLine_eq_none.mp hcut)]
  | case3 s bytes hs line rest hcut hlt ih =>
    rw [obeyLines_of_cut (s := { s with tail }) (eq_false_of_ne_true hs) hcut, obey_tail, ih]

/-- **Two pieces do the same as one that holds the bytes of both.** -/
theorem feed_feed (a b : List UInt8) : (s.feed memory a).feed memory b = s.feed memory (a ++ b) := by
  have hlines : ∀ (s : Session) (bytes : List UInt8),
      (s.obeyLines memory bytes).feed memory b = s.obeyLines memory (bytes ++ b) := by
    intro s bytes
    fun_induction s.obeyLines memory bytes with
    | case1 s bytes hs => exact obeyLines_tail _ _
    | case2 s bytes hs hcut => exact obeyLines_tail _ _
    | case3 s bytes hs line rest hcut hlt ih =>
      rw [ih, obeyLines_of_cut (eq_false_of_ne_true hs) (cutLine_append hcut b)]
  unfold feed at hlines ⊢
  rw [hlines, List.append_assoc]

/-- **However the input is cut into pieces, it does the same.** -/
theorem foldl_feed (pieces : List (List UInt8)) (hs : s.tail = []) :
    pieces.foldl (feed memory) s = s.feed memory pieces.flatten := by
  have hall : ∀ (pieces : List (List UInt8)) (first : List UInt8),
      pieces.foldl (feed memory) (s.feed memory first) = s.feed memory (first ++ pieces.flatten) := by
    intro pieces
    induction pieces with
    | nil => simp
    | cons p rest ih =>
      intro first
      rw [List.foldl_cons, feed_feed, ih, List.flatten_cons, List.append_assoc]
  have hnil : s.feed memory [] = s := by
    rw [feed, hs, List.append_nil, obeyLines_of_not_mem List.not_mem_nil, ← hs]
  have hfold := hall pieces []
  rwa [hnil] at hfold

end

/-! ## Lines -/

/-- The lines of some bytes: what stands between newlines, and what follows the last of them unless that is
nothing. -/
def lines (bytes : List UInt8) : List (List UInt8) :=
  let pieces := bytes.splitOn newline
  if pieces.getLast? = some [] then pieces.dropLast else pieces

/-- Obeys lines one after another, until the session is stopped. -/
def obeyAll (memory : Memory) (s : Session) : List (List UInt8) → Session
  | [] => s
  | line :: rest => if s.stopped then s else obeyAll memory (s.obey memory line) rest

/-- The lines that have ended. -/
def endedLines (bytes : List UInt8) : List (List UInt8) := (bytes.splitOn newline).dropLast

theorem lines_of_not_mem {bytes : List UInt8} (hb : newline ∉ bytes) :
    lines bytes = if bytes = [] then [] else [bytes] := by
  unfold lines
  rw [List.splitOn_eq_singleton hb]
  by_cases h : bytes = [] <;> simp [h]

theorem lines_of_cut {text : List UInt8} (ht : newline ∉ text) (rest : List UInt8) :
    lines (text ++ newline :: rest) = text :: lines rest := by
  have hne := List.splitOn_ne_nil newline rest
  unfold lines
  rw [List.splitOn_append_cons_self_of_not_mem ht]
  dsimp only
  rw [List.getLast?_cons_of_ne_nil hne]
  split
  · rw [List.dropLast_cons_of_ne_nil hne]
  · rfl

theorem endedLines_of_not_mem {bytes : List UInt8} (hb : newline ∉ bytes) : endedLines bytes = [] := by
  rw [endedLines, List.splitOn_eq_singleton hb]
  rfl

theorem endedLines_of_cut {text : List UInt8} (ht : newline ∉ text) (rest : List UInt8) :
    endedLines (text ++ newline :: rest) = text :: endedLines rest := by
  rw [endedLines, List.splitOn_append_cons_self_of_not_mem ht,
    List.dropLast_cons_of_ne_nil (List.splitOn_ne_nil newline rest)]
  rfl

section

variable {memory : Memory} {s : Session}

theorem obeyAll_of_stopped (hs : s.stopped = true) (ls : List (List UInt8)) :
    s.obeyAll memory ls = s := by
  cases ls with
  | nil => rfl
  | cons l ls => exact if_pos hs

theorem obeyAll_append (a b : List (List UInt8)) :
    s.obeyAll memory (a ++ b) = (s.obeyAll memory a).obeyAll memory b := by
  induction a generalizing s with
  | nil => rfl
  | cons line a ih =>
    rw [List.cons_append, obeyAll, obeyAll]
    split
    · next hs => rw [obeyAll_of_stopped hs]
    · exact ih

/-- Lines stop a session if one of them asks for it, and else do not. -/
theorem stopped_obeyAll (ls : List (List UInt8)) :
    (s.obeyAll memory ls).stopped = true ↔ s.stopped = true ∨ ∃ line ∈ ls, Quits line := by
  induction ls generalizing s with
  | nil => simp [obeyAll]
  | cons line ls ih =>
    rw [obeyAll]
    split
    · next hs => simp [hs]
    · next hs => simp [ih, stopped_obey, hs]

/-- **What follows a line that asks to stop has no effect.** -/
theorem obeyAll_of_quits {line : List UInt8} (hq : Quits line) (before after : List (List UInt8)) :
    s.obeyAll memory (before ++ line :: after) = s.obeyAll memory (before ++ [line]) := by
  have hstop : (s.obeyAll memory (before ++ [line])).stopped = true :=
    (stopped_obeyAll _).mpr (Or.inr ⟨line, by simp, hq⟩)
  rw [List.append_cons, obeyAll_append, obeyAll_of_stopped hstop]

/-- **What has arrived does what the lines do that have ended.** -/
theorem feed_eq_obeyAll (bytes : List UInt8) (hs : s.tail = []) :
    { s.feed memory bytes with tail := [] } = s.obeyAll memory (endedLines bytes) := by
  rw [feed, hs, List.nil_append]
  fun_induction s.obeyLines memory bytes with
  | case1 s bytes hstop =>
    rw [obeyAll_of_stopped hstop]
    exact withTail_eq hs
  | case2 s bytes hstop hcut =>
    rw [endedLines_of_not_mem (cutLine_eq_none.mp hcut)]
    exact withTail_eq hs
  | case3 s bytes hstop line rest hcut hlt ih =>
    obtain ⟨text, rfl, hnot, rfl⟩ := cutLine_eq_some hcut
    rw [ih (by rw [tail_obey, hs]), endedLines_of_cut hnot, obeyAll, if_neg hstop, obey_newline]

/-- Nothing is left to do at the end when the session has stopped. -/
theorem finish_of_stopped (hs : s.stopped = true) :
    { s.finish memory with tail := [] } = { s with tail := [] } := by
  unfold finish
  split
  · rfl
  · rw [feed, obeyLines_of_stopped hs]

/-- The end of the input ends a line that has begun. -/
theorem finish_of_not_mem (hstop : s.stopped = false) (hs : s.tail = []) {bytes : List UInt8}
    (hb : newline ∉ bytes) :
    { ({ s with tail := bytes } : Session).finish memory with tail := [] } =
      s.obeyAll memory (lines bytes) := by
  rw [lines_of_not_mem hb]
  unfold finish
  by_cases hnil : bytes = []
  · rw [if_pos hnil, if_pos hnil]
    exact withTail_eq hs
  · have hcut : cutLine (bytes ++ [newline]) = some (bytes ++ [newline], []) := cutLine_of_not_mem hb []
    have htail := (tail_obey memory s bytes).trans hs
    rw [if_neg hnil, if_neg hnil, feed, obeyLines_tail, obeyLines_of_cut hstop hcut,
      obeyLines_of_not_mem List.not_mem_nil, obey_newline, obeyAll, if_neg (by simp [hstop]), obeyAll]
    generalize s.obey memory bytes = r at htail
    exact withTail_eq htail

/-- **All of the input, and its end, do what its lines do one after another.** -/
theorem finish_feed (bytes : List UInt8) (hs : s.tail = []) :
    { (s.feed memory bytes).finish memory with tail := [] } = s.obeyAll memory (lines bytes) := by
  rw [feed, hs, List.nil_append]
  fun_induction s.obeyLines memory bytes with
  | case1 s bytes hstop =>
    rw [obeyAll_of_stopped hstop, finish_of_stopped (s := { s with tail := bytes }) hstop]
    exact withTail_eq hs
  | case2 s bytes hstop hcut =>
    exact finish_of_not_mem (eq_false_of_ne_true hstop) hs (cutLine_eq_none.mp hcut)
  | case3 s bytes hstop line rest hcut hlt ih =>
    obtain ⟨text, rfl, hnot, rfl⟩ := cutLine_eq_some hcut
    rw [ih (by rw [tail_obey, hs]), lines_of_cut hnot, obeyAll, if_neg hstop, obey_newline]

end

end EventLoop.Session
