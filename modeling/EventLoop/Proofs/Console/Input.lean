import EventLoop.Proofs.Console.Entries
import EventLoop.Proofs.Console.Loop
import EventLoop.Proofs.Console.Messages

/-!
# Input in lines

However the input of a console is cut into pieces, the console does what the lines of the input ask for, one
after another, and stops.

* `Session.finish_receiveAll` — the reads that the loop makes do what the lines do.
* `Terminal.obeys_line_by_line` — so do one read for each piece and one at the end; and the loop of a console
  whose input can always be read ends with the read that stops the session.
-/

namespace EventLoop

namespace Session

/-! ## All reads -/

/-- What can be seen of a session: its store, what it printed, and whether it was stopped. -/
def outcome (s : Session) : Session := { s.quiet with tail := [] }

/-- What a session is to do with some input: it obeys line after line, and stops at the end. -/
def obeyText (memory : Memory) (s : Session) (bytes : List UInt8) : Session :=
  (s.obeyAll memory (lines bytes)).stop

/-- The read after which nothing more is read: the one that brings the end of a line by which the session is
stopped, or the one that finds the end of the input. -/
structure StopsAfter (memory : Memory) (s : Session) (pieces : List (List UInt8)) (reads : Nat) : Prop where
  goes : ∀ j < reads, (s.obeyAll memory (endedLines (pieces.take j).flatten)).stopped = false
  stops : reads ≤ pieces.length ∧
      (s.obeyAll memory (endedLines (pieces.take reads).flatten)).stopped = true ∨
    reads = pieces.length + 1

variable {memory : Memory} {s : Session}

theorem stop_of_stopped (hs : s.stopped = true) : s.stop = s := by
  unfold stop
  rw [← hs]

/-- A session that was stopped takes nothing more in. -/
theorem feed_of_stopped (hs : s.stopped = true) (bytes : List UInt8) :
    s.feed memory bytes = { s with tail := s.tail ++ bytes } :=
  obeyLines_of_stopped hs _

theorem stopped_foldl_feed (hs : s.tail = []) (pieces : List (List UInt8)) :
    (pieces.foldl (feed memory) s).stopped = (s.obeyAll memory (endedLines pieces.flatten)).stopped := by
  rw [foldl_feed pieces hs, ← feed_eq_obeyAll _ hs]

/-- **The reads that are made do what the lines of the input do.** -/
theorem finish_receiveAll (memory : Memory) {pieces : List (List UInt8)} (hne : [] ∉ pieces) (hs : s.tail = []) :
    s.StopsAfter memory pieces (s.receiveAll memory (pieces ++ [[]])).1 ∧
      { (s.receiveAll memory (pieces ++ [[]])).2 with tail := [] } = s.obeyText memory pieces.flatten := by
  obtain ⟨reads, hgoes, hend⟩ := receiveAll_cases memory hne s
  have hbefore : ∀ j < reads, (s.obeyAll memory (endedLines (pieces.take j).flatten)).stopped = false := by
    intro j hj
    rw [← stopped_foldl_feed hs]
    exact hgoes j hj
  have hall : { (s.feed memory pieces.flatten).finish memory with tail := [] } =
      s.obeyAll memory (lines pieces.flatten) := finish_feed _ hs
  rcases hend with ⟨hle, hstop, heq⟩ | ⟨hlen, heq⟩
  · rw [heq]
    refine ⟨⟨hbefore, Or.inl ⟨hle, (stopped_foldl_feed hs _).symm.trans hstop⟩⟩, ?_⟩
    -- what is not read would not be obeyed
    have hrest : s.feed memory pieces.flatten =
        { (pieces.take reads).foldl (feed memory) s with
          tail := ((pieces.take reads).foldl (feed memory) s).tail ++ (pieces.drop reads).flatten } := by
      rw [← feed_of_stopped hstop, foldl_feed _ hs, feed_feed, ← List.flatten_append,
        List.take_append_drop]
    rw [hrest, finish_of_stopped (by exact hstop)] at hall
    rw [obeyText, ← hall]
    exact (stop_of_stopped (s := { (pieces.take reads).foldl (feed memory) s with tail := [] }) hstop).symm
  · rw [heq]
    refine ⟨⟨hbefore, Or.inr hlen⟩, ?_⟩
    rw [obeyText, ← hall, foldl_feed pieces hs]
    rfl

end Session

/-- The loop of a console ends after a number of ticks, and then the console, with all that is seen of a
session. -/
structure Machine.LoopEnds (host : Host Terminal Unit) (m : Machine Terminal Unit) (ticks : Nat)
    (s : Session) (y : System Terminal Unit) (last : Machine Terminal Unit) : Prop where
  answers : Reaches host m ⟨y, .answer (.ok ticks), [.caller afterLoop]⟩
  outcome : y.outside.session.outcome = s.outcome
  leaves : Reaches host ⟨y, .answer (.ok ticks), [.caller afterLoop]⟩ last
  isDone : last.isDone host = true
  same : last.system.outside.session.outcome = s.outcome

namespace Terminal

/-- The terminal for which some pieces have arrived, and the end of the input after them. -/
def given (t : Terminal) (pieces : List (List UInt8)) : Terminal :=
  { t with arrivals := pieces.map .ok ++ [.ok []] }

/-- What becomes of input that is read in pieces. -/
structure ObeysLines (memory : Memory) (t : Terminal) (pieces : List (List UInt8)) : Prop where
  /-- With each piece the lines are obeyed that have ended by then. -/
  begun : ∀ j ≤ pieces.length,
    { ((read memory)^[j] (t.given pieces)).session with tail := [] } =
      t.session.obeyAll memory (Session.endedLines (pieces.take j).flatten)
  /-- The read that finds the end has the last line obeyed, and stops. -/
  ended : { ((read memory)^[pieces.length + 1] (t.given pieces)).session with tail := [] } =
    (t.session.obeyText memory pieces.flatten).sayNotice (Driver.notice .info "stdin closed")
  /-- Lines stop a session if one of them asks for it, and else do not. -/
  stopped : ∀ ls, (t.session.obeyAll memory ls).stopped = true ↔ ∃ line ∈ ls, Session.Quits line
  /-- What follows such a line has no effect. -/
  ignored : ∀ before line after, Session.Quits line →
    t.session.obeyAll memory (before ++ line :: after) = t.session.obeyAll memory (before ++ [line])
  /-- A line that fails is answered with one line, leaves every entry as it was, and does not stop. -/
  failed : ∀ ls line e,
    ((t.session.obeyAll memory ls).execute memory (Text.Lenient.decode line)).1 = .error e →
    ((t.session.obeyAll memory ls).obey memory line).said =
        (t.session.obeyAll memory ls).said.push (.line ("error: " ++ e.message)) ∧
      '\n' ∉ ("error: " ++ e.message).toList ∧
      ((t.session.obeyAll memory ls).obey memory line).store.toList =
        (t.session.obeyAll memory ls).store.toList ∧
      ((t.session.obeyAll memory ls).obey memory line).stopped = (t.session.obeyAll memory ls).stopped
  /-- The loop ends with the tick that stops the session, and the console after it. -/
  loop : ∀ (host : Host Terminal Unit) (period : Span) (number : Int32) (settings : DriverSettings)
    (reactor : Reactor Unit), host.Supplies memory period number → settings.maxTicks = none →
    reactor.Initial → ∃ ticks y last, t.session.StopsAfter memory pieces ticks ∧
      (Machine.start ⟨reactor, t.given pieces⟩ (Console.program settings number)).LoopEnds host ticks
        (t.session.obeyText memory pieces.flatten) y last

variable {memory : Memory} {t : Terminal} {pieces : List (List UInt8)}

/-- What a read for each of the first pieces leaves. -/
theorem iterate_read_take (hne : [] ∉ pieces) {j : Nat} (hj : j ≤ pieces.length) :
    (read memory)^[j] (t.given pieces) =
      { t with
        session := (pieces.take j).foldl (Session.feed memory) t.session
        arrivals := (pieces.drop j).map .ok ++ [.ok []] } := by
  have hsplit : (t.given pieces).arrivals =
      (pieces.take j).map .ok ++ ((pieces.drop j).map .ok ++ [.ok []]) := by
    rw [← List.append_assoc, ← List.map_append, List.take_append_drop]
    rfl
  have hsome : [] ∉ pieces.take j := fun hmem => hne (List.mem_of_mem_take hmem)
  refine Eq.trans ?_ (iterate_read (t := t.given pieces) hsome hsplit)
  rw [List.length_take_of_le hj]

/-- The reads leave what the lines leave that have ended. -/
theorem session_iterate_read (htail : t.session.tail = []) (hne : [] ∉ pieces) {j : Nat}
    (hj : j ≤ pieces.length) :
    { ((read memory)^[j] (t.given pieces)).session with tail := [] } =
      t.session.obeyAll memory (Session.endedLines (pieces.take j).flatten) := by
  rw [iterate_read_take hne hj]
  dsimp only
  rw [Session.foldl_feed _ htail, Session.feed_eq_obeyAll _ htail]

/-- One read more leaves what all lines leave. -/
theorem session_iterate_read_end (htail : t.session.tail = []) (hne : [] ∉ pieces) :
    { ((read memory)^[pieces.length + 1] (t.given pieces)).session with tail := [] } =
      (t.session.obeyText memory pieces.flatten).sayNotice (Driver.notice .info "stdin closed") := by
  have hall : { (t.session.feed memory pieces.flatten).finish memory with tail := [] } =
      t.session.obeyAll memory (Session.lines pieces.flatten) := Session.finish_feed _ htail
  rw [Function.iterate_succ_apply', iterate_read_take hne (Nat.le_refl _), List.take_length,
    List.drop_length, Session.foldl_feed _ htail, read_of_end rfl, Session.obeyText, ← hall]
  rfl

/-- **Input is obeyed line by line**, however it is cut into pieces. -/
theorem obeys_line_by_line (memory : Memory) {t : Terminal} (hstore : t.session.store.Seeded)
    (htail : t.session.tail = []) (hfresh : t.session.stopped = false) {pieces : List (List UInt8)}
    (hne : [] ∉ pieces) : t.ObeysLines memory pieces where
  begun j hj := session_iterate_read htail hne hj
  ended := session_iterate_read_end htail hne
  stopped ls := by rw [Session.stopped_obeyAll, hfresh, or_iff_right Bool.false_ne_true]
  ignored before line after hq := Session.obeyAll_of_quits hq before after
  failed ls line e he := by
    obtain ⟨l, hl⟩ := Store.lists_of_seeded hstore
    obtain ⟨l', hl'⟩ := Session.lists_of_obeyAll memory hl ls
    obtain ⟨hsaid, hentries, hstopped⟩ := Session.obey_of_error memory hl' he
    have hline := newline_not_mem_append (a := "error: ") (by decide +kernel)
      (Session.newline_not_mem_message he)
    exact ⟨hsaid, hline, hentries, hstopped⟩
  loop host period number settings reactor hhost hunlimited hinitial := by
    obtain ⟨hstops, hall⟩ := Session.finish_receiveAll memory hne htail
    have hgiven : (t.given pieces).Holds t.session (pieces ++ [[]]) := ⟨rfl, by simp [given]⟩
    have hend : (t.session.receiveAll memory (pieces ++ [[]])).2.stopped = true :=
      congrArg (fun r : Session => r.stopped) hall
    obtain ⟨y₁, input, hstart, hread, hready⟩ :=
      Machine.reaches_of_start (y := ⟨reactor, t.given pieces⟩) hhost hinitial hgiven hfresh hunlimited
    obtain ⟨y, hloop, hsession⟩ :=
      Machine.reaches_of_driver [.caller Machine.afterLoop] hhost hread hready hend 0
    obtain ⟨y', hleave, hsession'⟩ := Machine.reaches_of_leave host y
      (t.session.receiveAll memory (pieces ++ [[]])).1
    have houtcome : y.outside.session.outcome = (t.session.obeyText memory pieces.flatten).outcome := by
      rw [Session.outcome, hsession, ← hall]
      rfl
    rw [Nat.zero_add] at hloop
    refine ⟨_, y, _, hstops, hstart.trans hloop, houtcome, .step rfl hleave, rfl, ?_⟩
    rw [Session.outcome, hsession']
    exact houtcome

/-- A terminal on a store that was seeded with one entry. -/
def ofSeed : Terminal :=
  { session := { store := (Store.empty.seed .unbounded [("port", .integer 80)]).2 }
    clock := .origin
    started := .origin }

/-- What to get, to quit and not to list any more, cut within the words. -/
def threePieces : List (List UInt8) :=
  [[103, 101, 116, 32, 112], [111, 114, 116, 10, 113, 117, 105], [116, 10, 108, 105, 115, 116]]

theorem obeys_three_pieces :
    ofSeed.session.store.Seeded ∧ ofSeed.session.tail = [] ∧ ofSeed.session.stopped = false ∧
      [] ∉ threePieces ∧ ofSeed.ObeysLines .unbounded threePieces ∧
      (ofSeed.session.obeyText .unbounded threePieces.flatten).said.toList = [.line "port (long) = 80"] ∧
      ∃ ticks y last, ofSeed.session.StopsAfter .unbounded threePieces ticks ∧
        (Machine.start ⟨.empty .zero, ofSeed.given threePieces⟩ (Console.program {} 3)).LoopEnds
          (host .unbounded .zero) ticks (ofSeed.session.obeyText .unbounded threePieces.flatten) y last := by
  have hseeded : ofSeed.session.store.Seeded :=
    @Store.Seeded.mk .unbounded .empty _ [("port", .integer 80)] 1 .empty rfl
  have hobeys : ofSeed.ObeysLines .unbounded threePieces :=
    obeys_line_by_line .unbounded hseeded rfl rfl (by decide)
  exact ⟨hseeded, rfl, rfl, by decide, hobeys, by decide +kernel,
    hobeys.loop _ _ 3 {} _ (supplies_host (fun _ _ => rfl) .zero 3) rfl (.empty .zero)⟩

end Terminal

end EventLoop
