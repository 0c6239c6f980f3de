import EventLoop.Proofs.Machine.Nesting

/-!
# The stages of the driver loop

The driver loop decides whether it makes one more tick, waits while its tick goes on, and learns how that went.
The frames below its own stay as they are, whatever its ticks and their callbacks do on top of them.

* `frames_of_step` — a step puts frames on top, or takes one off.
* `Machine.AtStage` — where the loop is, by the control and the frames.
* `exists_next` — one step of the machine goes on from stage to stage (`Stage.Next`).
-/

namespace EventLoop

variable {σ α : Type}

/-! ## Frames -/

namespace Machine

variable {host : Host σ α} {m m' : Machine σ α}

/-- A step puts frames on top, or takes one off. When a callback has returned, its tick goes on. -/
theorem frames_of_step (hs : m.step host = some m') :
    (∃ upper, m'.frames = upper ++ m.frames) ∨
      ∃ frame, m.frames = frame :: m'.frames ∧ ∀ c, frame = .drain c → m'.control = .drain c := by
  by_cases hb : m.begins host = true
  · obtain ⟨frame, -, hstep⟩ := step_of_begins hb
    rw [hstep, beginTick_eq] at hs
    cases hs
    exact Or.inl ⟨[frame], rfl⟩
  by_cases hd : m.isDraining = true
  · unfold isDraining at hd
    split at hd
    · next c hc =>
      unfold step at hs
      rw [hc] at hs
      cases hs
      unfold stepDrain
      split
      · exact Or.inl ⟨[], rfl⟩
      · exact Or.inl ⟨[], rfl⟩
      · exact Or.inl ⟨[.drain (c + 1)], rfl⟩
    · cases hd
  · cases reframes_of_step (eq_false_of_ne_true hb) (eq_false_of_ne_true hd) hs with
    | keeps frames => exact Or.inl ⟨[], frames⟩
    | @suspends frame _ frames => exact Or.inl ⟨[frame], frames⟩
    | resumes aside frames =>
      refine Or.inr ⟨_, frames, ?_⟩
      rintro c rfl
      cases aside
    | returns frames control =>
      refine Or.inr ⟨_, frames, ?_⟩
      rintro c ⟨⟩
      exact control

end Machine

/-! ## Stages -/

/-- Where the driver loop is. -/
inductive Stage where
  /-- It decides, after a number of ticks, whether to make one more. -/
  | deciding (made : Nat)
  /-- One more tick goes on. -/
  | ticking (made : Nat)
  /-- It learns how that went. -/
  | told (made : Nat) (result : Except ReactorError Nat)
  /-- It answers. -/
  | ended (result : Except ReactorError Nat)

namespace Stage

/-- The number of ticks after which the loop decides. -/
def decides? : Stage → Option Nat
  | deciding made => some made
  | _ => none

/-- How many ticks have ended, and how many have begun; none if the loop has answered. -/
def ticks? : Stage → Option (Nat × Nat)
  | deciding made => some (made, made)
  | ticking made => some (made, made + 1)
  | told made _ => some (made, made + 1)
  | ended _ => none

/-- What the loop is told of its tick. -/
def told? : Stage → Option (Except ReactorError Nat)
  | told _ result => some result
  | _ => none

/-- What the loop answers. -/
def ended? : Stage → Option (Except ReactorError Nat)
  | ended result => some result
  | _ => none

end Stage

/-- Does the driver loop go on after a tick that answers so? -/
def goesOn : Except ReactorError Nat → Bool
  | .ok _ => true
  | .error e => e = .interrupted

namespace Machine

/-- The driver loop is at a stage, above some frames. -/
inductive AtStage (below : List (Frame σ α)) (most : Option UInt64) (m : Machine σ α) : Stage → Prop
    where
  | deciding {made : Nat} (control : m.control = .driver made most) (frames : m.frames = below) :
      AtStage below most m (.deciding made)
  /-- Its tick looks at the ready queue. -/
  | looking {made c : Nat} (control : m.control = .drain c)
      (frames : m.frames = .driver made most :: below) : AtStage below most m (.ticking made)
  /-- A callback of its tick goes on, or a tick inside of that. -/
  | inside {made c : Nat} {upper : List (Frame σ α)}
      (frames : m.frames = upper ++ .drain c :: .driver made most :: below) :
      AtStage below most m (.ticking made)
  | told {made : Nat} {result : Except ReactorError Nat} (control : m.control = .answer result)
      (frames : m.frames = .driver made most :: below) : AtStage below most m (.told made result)
  | ended {result : Except ReactorError Nat} (control : m.control = .answer result)
      (frames : m.frames = below) : AtStage below most m (.ended result)

/-- May the driver loop make one more tick after a number of them? -/
def mayTick (host : Host σ α) (m : Machine σ α) (most : Option UInt64) (made : Nat) : Bool :=
  !host.stopped m.system.outside && !isLimit made most

/-- What is answered above a number of frames. -/
def answered (m : Machine σ α) (depth : Nat) : Option (Except ReactorError Nat) :=
  match m.control with
  | .answer result => if m.frames.length = depth then some result else none
  | _ => none

/-- Does the next step begin a tick above a number of frames? -/
def startsTick (host : Host σ α) (m : Machine σ α) (depth : Nat) : Bool :=
  m.begins host && decide (m.frames.length = depth)

theorem answered_of_answer {m : Machine σ α} {result : Except ReactorError Nat}
    (hc : m.control = .answer result) (depth : Nat) :
    m.answered depth = if m.frames.length = depth then some result else none := by
  unfold answered
  rw [hc]

theorem answered_of_not_answer {m : Machine σ α} (hc : ∀ result, m.control ≠ .answer result) (depth : Nat) :
    m.answered depth = none := by
  unfold answered
  split
  · next result hanswer => exact absurd hanswer (hc result)
  · rfl

theorem answered_of_length_ne {m : Machine σ α} {depth : Nat} (hlength : m.frames.length ≠ depth) :
    m.answered depth = none := by
  unfold answered
  split
  · rw [if_neg hlength]
  · rfl

theorem startsTick_of_length_ne {host : Host σ α} {m : Machine σ α} {depth : Nat}
    (hlength : m.frames.length ≠ depth) : m.startsTick host depth = false := by
  unfold startsTick
  rw [decide_eq_false hlength, Bool.and_false]

theorem startsTick_of_not_begins {host : Host σ α} {m : Machine σ α} (hb : m.begins host = false)
    (depth : Nat) : m.startsTick host depth = false := by
  unfold startsTick
  rw [hb, Bool.false_and]

end Machine

/-! ## From stage to stage -/

/-- What one step of the machine does to the stage of the driver loop. -/
inductive Stage.Next (host : Host σ α) (most : Option UInt64) (m m' : Machine σ α) : Stage → Stage → Prop
    where
  /-- The loop ends because of the signal or because it has made as many ticks as it may. -/
  | ends {made : Nat} (mayNot : m.mayTick host most made = false) :
      Next host most m m' (.deciding made) (.ended (.ok made))
  | begins {made : Nat} (may : m.mayTick host most made = true)
      (selected : (host.select m.system).1 = .ok ()) :
      Next host most m m' (.deciding made) (.ticking made)
  | fails {made : Nat} {e : ReactorError} (may : m.mayTick host most made = true)
      (failed : (host.select m.system).1 = .error e) :
      Next host most m m' (.deciding made) (.told made (.error e))
  | goes {made : Nat} : Next host most m m' (.ticking made) (.ticking made)
  /-- The tick has found the ready queue empty. -/
  | drained {made c : Nat} (empty : m.system.reactor.ready = []) (same : m'.system = m.system) :
      Next host most m m' (.ticking made) (.told made (.ok c))
  | resumes {made : Nat} {result : Except ReactorError Nat} (good : goesOn result = true) :
      Next host most m m' (.told made result) (.deciding (made + 1))
  | givesUp {made : Nat} {e : ReactorError} (bad : e ≠ .interrupted) :
      Next host most m m' (.told made (.error e)) (.ended (.error e))

theorem Reactor.ready_of_takeReady {r : Reactor α} (h : r.takeReady = none) : r.ready = [] := by
  unfold takeReady at h
  split at h
  · next hready => exact hready
  · split at h
    · cases h
    · split at h
      · cases h
      · cases h

namespace Machine

variable {host : Host σ α} {m : Machine σ α} {below : List (Frame σ α)} {most : Option UInt64}

theorem next_of_deciding {made : Nat} (hc : m.control = .driver made most) (hf : m.frames = below) :
    ∃ s', Stage.Next host most m ((m.step host).getD m) (.deciding made) s' ∧
      AtStage below most ((m.step host).getD m) s' := by
  have hstep : m.step host = some (stepDriver host m.system made most m.frames) := by
    unfold step
    rw [hc]
  rw [hstep, Option.getD_some, hf]
  unfold stepDriver
  split
  · next hstop => exact ⟨_, .ends (by simp [mayTick, hstop]), .ended rfl rfl⟩
  · next hstop =>
    split
    · next hlimit => exact ⟨_, .ends (by simp [mayTick, hlimit]), .ended rfl rfl⟩
    · next hlimit =>
      have hmay : m.mayTick host most made = true := by simp [mayTick, hstop, hlimit]
      rw [beginTick_eq]
      rcases hsel : (host.select m.system).1 with e | u
      · exact ⟨_, .fails hmay hsel, .told rfl rfl⟩
      · exact ⟨_, .begins hmay hsel, .looking rfl rfl⟩

theorem next_of_looking {made c : Nat} (hc : m.control = .drain c)
    (hf : m.frames = .driver made most :: below) :
    ∃ s', Stage.Next host most m ((m.step host).getD m) (.ticking made) s' ∧
      AtStage below most ((m.step host).getD m) s' := by
  have hstep : m.step host = some (stepDrain host m.system c m.frames) := by
    unfold step
    rw [hc]
  rw [hstep, Option.getD_some, hf]
  unfold stepDrain
  split
  · next hnone => exact ⟨_, .drained (Reactor.ready_of_takeReady hnone) rfl, .told rfl rfl⟩
  · exact ⟨_, .goes, .looking rfl rfl⟩
  · exact ⟨_, .goes, @AtStage.inside _ _ _ _ _ _ _ [] rfl⟩

/-- What a callback does leaves the frames of its tick and of the loop alone. -/
theorem next_of_inside {made c : Nat} {upper : List (Frame σ α)}
    (hf : m.frames = upper ++ .drain c :: .driver made most :: below) :
    AtStage below most ((m.step host).getD m) (.ticking made) := by
  cases hs : m.step host with
  | none => exact .inside hf
  | some m' =>
    rw [Option.getD_some]
    rcases frames_of_step hs with ⟨more, hmore⟩ | ⟨frame, htop, hback⟩
    · rw [hf, ← List.append_assoc] at hmore
      exact .inside hmore
    · rw [hf] at htop
      cases upper with
      | nil =>
        obtain ⟨rfl, hframes⟩ := List.cons.inj htop
        exact .looking (hback c rfl) hframes.symm
      | cons x rest =>
        obtain ⟨rfl, hframes⟩ := List.cons.inj htop
        exact .inside hframes.symm

theorem next_of_told {made : Nat} {result : Except ReactorError Nat} (hc : m.control = .answer result)
    (hf : m.frames = .driver made most :: below) :
    ∃ s', Stage.Next host most m ((m.step host).getD m) (.told made result) s' ∧
      AtStage below most ((m.step host).getD m) s' := by
  have hstep : m.step host = some (afterTick host m.system made most result below) := by
    unfold step
    rw [hc, hf]
  rw [hstep, Option.getD_some]
  unfold afterTick
  split
  · exact ⟨_, .resumes rfl, .deciding rfl rfl⟩
  · exact ⟨_, .resumes (by decide), .deciding rfl rfl⟩
  · next e hbad => exact ⟨_, .givesUp (fun he => hbad (by rw [he])), .ended rfl rfl⟩

/-- **The driver loop goes on from stage to stage, until it answers.** -/
theorem exists_next {s : Stage} (h : AtStage below most m s) (hopen : m.answered below.length = none) :
    ∃ s', Stage.Next host most m ((m.step host).getD m) s s' ∧
      AtStage below most ((m.step host).getD m) s' := by
  cases h with
  | deciding hc hf => exact next_of_deciding hc hf
  | looking hc hf => exact next_of_looking hc hf
  | inside hf => exact ⟨_, .goes, next_of_inside hf⟩
  | told hc hf => exact next_of_told hc hf
  | ended hc hf =>
    rw [answered_of_answer hc, if_pos (by rw [hf])] at hopen
    cases hopen

/-! ## What can be seen of a stage -/

theorem AtStage.exists_upper {s : Stage} (h : AtStage below most m s) :
    ∃ upper, m.frames = upper ++ below := by
  cases h with
  | deciding _ hf => exact ⟨[], hf⟩
  | @looking made _ _ hf => exact ⟨[.driver made most], hf⟩
  | @inside made c upper hf => exact ⟨upper ++ [.drain c, .driver made most], by simp [hf]⟩
  | @told made _ _ hf => exact ⟨[.driver made most], hf⟩
  | ended _ hf => exact ⟨[], hf⟩

theorem length_of_inside {made c : Nat} {upper : List (Frame σ α)}
    (hf : m.frames = upper ++ .drain c :: .driver made most :: below) :
    below.length + 1 < m.frames.length := by
  rw [hf, List.length_append, List.length_cons, List.length_cons]
  omega

theorem AtStage.answered_eq {s : Stage} (h : AtStage below most m s) : m.answered below.length = s.ended? := by
  cases h with
  | deciding hc _ => exact answered_of_not_answer (by rw [hc]; exact fun _ => nofun) _
  | looking hc _ => exact answered_of_not_answer (by rw [hc]; exact fun _ => nofun) _
  | inside hf => exact answered_of_length_ne (by have := length_of_inside hf; omega)
  | told _ hf => exact answered_of_length_ne (by rw [hf, List.length_cons]; omega)
  | ended hc hf => exact (answered_of_answer hc _).trans (if_pos (by rw [hf]))

theorem AtStage.answered_succ_eq {s : Stage} (h : AtStage below most m s) :
    m.answered (below.length + 1) = s.told? := by
  cases h with
  | deciding hc _ => exact answered_of_not_answer (by rw [hc]; exact fun _ => nofun) _
  | looking hc _ => exact answered_of_not_answer (by rw [hc]; exact fun _ => nofun) _
  | inside hf => exact answered_of_length_ne (by have := length_of_inside hf; omega)
  | told hc hf => exact (answered_of_answer hc _).trans (if_pos (by rw [hf, List.length_cons]))
  | ended _ hf => exact answered_of_length_ne (by rw [hf]; omega)

/-- The loop makes one more tick unless it is stopped or has made as many as it may. -/
theorem AtStage.startsTick_eq {s : Stage} (h : AtStage below most m s) :
    m.startsTick host below.length = s.decides?.any (m.mayTick host most) := by
  cases h with
  | deciding hc hf => simp [startsTick, begins, willTick, mayTick, Stage.decides?, hc, hf]
  | looking _ hf => exact startsTick_of_length_ne (by rw [hf, List.length_cons]; omega)
  | inside hf => exact startsTick_of_length_ne (by have := length_of_inside hf; omega)
  | told hc _ => exact startsTick_of_not_begins (by simp [begins, hc]) _
  | ended hc _ => exact startsTick_of_not_begins (by simp [begins, hc]) _

end Machine

end EventLoop
