import EventLoop.Console.Session
import EventLoop.Error
import EventLoop.Reactor.Program

/-!
# Terminals

A terminal is what surrounds the reactor of a console: a session, the pieces of input that have arrived but
were not read, and a clock. Two callbacks serve it. One reads a piece of input each time the input is
readable; the other shows at regular intervals that the loop is alive.
-/

namespace EventLoop

/-- A piece of input: the bytes of one read, none of them at the end of the input. -/
abbrev Arrival := Except Fault (List UInt8)

namespace Arrival

/-- The most bytes that one read takes. -/
def mostBytes : Nat := 4096

/-- The pieces in which input that is all there is read, and its end. -/
def ofBytes (bytes : List UInt8) : List Arrival :=
  if _h : bytes = [] then [.ok []]
  else .ok (bytes.take mostBytes) :: ofBytes (bytes.drop mostBytes)
termination_by bytes.length
decreasing_by
  have := List.length_pos_iff.mpr _h
  simp only [List.length_drop, mostBytes]
  omega

end Arrival

/-- What surrounds the reactor of a console. -/
structure Terminal where
  session : Session
  /-- What the next reads bring. -/
  arrivals : List Arrival := []
  clock : Instant
  /-- What the clock showed at the start. -/
  started : Instant
  /-- Why the console gave up. -/
  failure : Option Error := none

namespace Terminal

/-- A program of a console. -/
abbrev Play := Program Terminal Unit

/-- Says a notice. -/
def notify (n : Notice) (t : Terminal) : Terminal := { t with session := t.session.sayNotice n }

/-- Gives the stop signal. -/
def stop (t : Terminal) : Terminal := { t with session := t.session.stop }

/-- Gives up. -/
def fail (e : Error) (t : Terminal) : Terminal := { t with failure := some e }

/-! ## Input -/

/-- The callback that reads the input. -/
def inputCallback : Callback := ⟨0⟩

/-- Takes what a read has brought. A fault other than an interruption, and the end of the input, stop the
session. -/
def take (memory : Memory) (t : Terminal) : Arrival → Terminal
  | .ok [] =>
    stop (notify (Driver.notice .info "stdin closed") { t with session := t.session.finish memory })
  | .ok bytes => { t with session := t.session.feed memory bytes }
  | .error fault =>
    if fault.interrupted then t
    else stop (notify (Driver.notice .error ("Failed to read stdin: " ++ fault.text)) t)

/-- Reads the input once. A read before anything has arrived finds the end. -/
def read (memory : Memory) (t : Terminal) : Terminal :=
  match t.arrivals with
  | [] => t.take memory (.ok [])
  | a :: rest => { t with arrivals := rest }.take memory a

/-- Serves the input, and asks to be called again unless the session has stopped. -/
def onInput (memory : Memory) (e : Event Unit) : Play :=
  .outside (read memory) fun t =>
    if t.session.stopped then .done
    else
      .register (e.again .read .infinite) fun
        | .ok _ => .done
        | .error err =>
          .act (fun t => stop (notify (Driver.notice .error ("Failed to re-arm stdin: " ++ err.message)) t))
            .done

/-! ## Heartbeat -/

/-- The callback that shows that the loop is alive. -/
def heartbeatCallback : Callback := ⟨1⟩

/-- What a heartbeat reports. -/
def heartbeatNotice (s : Reactor.Status) (t : Terminal) : Notice :=
  Driver.notice .info
    ("heartbeat: " ++ Numeral.natText s.counters.ticks.toNat ++ " ticks, " ++
      Numeral.natText s.counters.dispatched.toNat ++ " dispatched, " ++
      Numeral.natText s.pending ++ " pending, " ++
      Numeral.natText t.session.store.size ++ " config entries, up " ++
      Numeral.natText (t.clock.since t.started).secs.toNat ++ "s")

/-- Reports, and asks to be called again after the period. -/
def onHeartbeat (period : Span) (e : Event Unit) : Play :=
  .status fun s =>
    .act (fun t => t.notify (heartbeatNotice s t))
      (.register (e.again .none (.after period)) fun
        | .ok _ => .done
        | .error err =>
          .act (notify (Driver.notice .error ("Failed to re-arm heartbeat: " ++ err.message))) .done)

/-! ## The host -/

/-- The callbacks of a console. -/
def callback (memory : Memory) (period : Span) (c : Callback) (e : Event Unit) : Play :=
  if c = inputCallback then onInput memory e
  else if c = heartbeatCallback then onHeartbeat period e
  else .done

/-- The state of the input, which is readable when something has arrived. -/
def inputEndpoint (t : Terminal) : Endpoint := if t.arrivals.isEmpty then .idle else .readable

/-- A terminal as surroundings of a reactor. Waiting takes no time here: whoever steps the machine sets the
clock and adds what arrives. -/
def host (memory : Memory) (period : Span) : Host Terminal Unit where
  memory _ := memory
  now t := (.ok t.clock, t)
  wait entries _ t := (.ok (entries.map fun e => t.inputEndpoint.report e.asked), t)
  notify := notify
  stopped t := t.session.stopped
  callback := callback memory period

end Terminal

end EventLoop
