import PicowDayClock.ClockFrames

/-! The ticks that `clock_task` handles, as an observer sees them: when the time
was read, and whether the panels have been redrawn since. -/
namespace PicowDayClock.Ticks
open Boot Ntp ClockTask ClockFrames

/-- The latest tick: what `time(NULL)` gave, the time since boot then, and
whether the loop over the panels was entered. -/
structure Tick where
  utcNow : Int
  bootMs : Nat
  redrawn : Bool
  deriving DecidableEq

/-- No tick yet. -/
def Tick.none : Tick := ⟨0, 0, false⟩

/-- What the observer writes down. -/
def note (clock : Clock) (event : Event) (tick : Tick) : Tick :=
  match event, clock.pc with
  | .task _ _, .readTime => ⟨clock.time, clock.bootMs, false⟩
  | .task _ _, .draw _ => { tick with redrawn := true }
  | _, _ => tick

/-- The clock while its ticks are observed. -/
def ticks : StepSystem (Clock × Tick) Event := running.observed note

theorem note_interrupt {clock : Clock} {event : Event} (interrupting : interrupts event = true)
    (tick : Tick) : note clock event tick = tick := by
  cases event with
  | task dns udp => cases interrupting
  | _ => rfl

/-- Only the reading of the time changes the times noted. -/
theorem note_times {clock : Clock} (dns : DnsReply) (udp : UdpReply) (tick : Tick)
    (reading : clock.pc ≠ .readTime) :
    (note clock (.task dns udp) tick).utcNow = tick.utcNow ∧
      (note clock (.task dns udp) tick).bootMs = tick.bootMs := by
  unfold note
  split
  · exact absurd ‹_› reading
  · exact ⟨rfl, rfl⟩
  · exact ⟨rfl, rfl⟩

/-- A statement that neither reads the time nor draws takes no notes. -/
theorem note_away {clock : Clock} (dns : DnsReply) (udp : UdpReply) (tick : Tick)
    (reading : clock.pc ≠ .readTime) (drawing : ∀ ii, clock.pc ≠ .draw ii) :
    note clock (.task dns udp) tick = tick := by
  unfold note
  split
  · exact absurd ‹_› reading
  · exact absurd ‹_› (drawing _)
  · rfl

/-- The time is the same from when it was read to the end of the call. -/
structure TimeRead (clock : Clock) (tick : Tick) : Prop where
  past : tick.bootMs ≤ clock.bootMs
  utcNow : handling clock = true → clock.locals.utcNow = tick.utcNow
  localEpoch : handling clock = true →
    clock.locals.localEpoch = calculateLocalTime tick.utcNow clock.state.flashConfig

theorem started_timeRead (started : Started clock) : TimeRead clock .none := by
  have begins := started_begins started
  have before : handling clock = false := by simp [handling, begins.pc, begins.starting]
  exact ⟨Nat.zero_le _, by simp [before], by simp [before]⟩

theorem statement_timeRead {clock next : Clock} (read : TimeRead clock tick)
    (happened : clock.statement dns udp = some next) :
    TimeRead next (note clock (.task dns udp) tick) := by
  have frame := statement_frame happened
  by_cases reading : clock.pc = .readTime
  · obtain ⟨state, persistent, hold, pc, locals, systemMs, bootMs⟩ := clock
    cases reading
    cases happened
    exact ⟨Nat.le_refl _, fun _ => rfl, fun _ => rfl⟩
  · obtain ⟨utcNow, localEpoch⟩ := frame.times reading
    have same := note_times dns udp tick reading
    refine ⟨?_, fun after => ?_, fun after => ?_⟩
    · rw [same.2, frame.bootMs]
      exact read.past
    · have within := (handling_enters happened after).resolve_right reading
      rw [utcNow, same.1]
      exact read.utcNow within
    · have within := (handling_enters happened after).resolve_right reading
      rw [localEpoch, same.1, frame.flashConfig]
      exact read.localEpoch within

theorem interrupt_handling {clock next : Clock} (frame : Interrupt clock next) :
    handling next = handling clock ∧ drawn next = drawn clock := by
  simp only [handling, drawn, frame.pc, frame.locals, and_self]

theorem step_timeRead {clock next : Clock} (read : TimeRead clock tick)
    (happened : running.step clock event = some next) : TimeRead next (note clock event tick) := by
  rcases step_cases happened with ⟨interrupting, frame⟩ | ⟨dns, udp, rfl, stepped⟩
  · rw [note_interrupt interrupting]
    refine ⟨Nat.le_trans read.past frame.later.2, ?_, ?_⟩
    · rw [(interrupt_handling frame).1, frame.locals]
      exact read.utcNow
    · rw [(interrupt_handling frame).1, frame.locals, frame.flashConfig]
      exact read.localEpoch
  · exact statement_timeRead read stepped

end PicowDayClock.Ticks
