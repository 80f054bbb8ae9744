import PicowDayClock.Firmware.ClockTask
import PicowDayClock.Library.Mailbox

/-! The hand-over of the NTP time from the network callback to `clock_task`.
Only the 64-bit value is protected; the flag and the order of four statements
do the rest. The clock is seen as a mailbox of one slot, and every statement
and every callback as a step of it or as none. -/
namespace PicowDayClock.NtpHandover
open Boot Ntp ClockTask Mailbox

/-- The times that callbacks delivered and the values given to `settimeofday`,
latest first. -/
structure Times where
  delivered : List Int
  applied : List Int

/-- The time an event delivers, if any. -/
def deliveredBy (clock : Clock) : Event → Option Int
  | .recv datagram => (ntpRecvCallback clock.state.ntpState datagram).2
  | .ntpTimer ntpTime => some ntpTime
  | _ => none

/-- The value a statement gives to `settimeofday`. -/
def appliedBy (clock : Clock) : Event → Option Int
  | .task _ _ => if clock.pc = .setTimeOfDay then some clock.locals.tvSec else none
  | _ => none

/-- What an observer of the two sides writes down. -/
def note (clock : Clock) (event : Event) (times : Times) : Times where
  delivered := (deliveredBy clock event).toList ++ times.delivered
  applied := (appliedBy clock event).toList ++ times.applied

/-- The clock while its hand-over is observed. -/
def handover : StepSystem (Clock × Times) Event := running.observed note

/-! ## The clock as a mailbox -/

/-- The stage of the consumer, from the next statement. -/
def stage (clock : Clock) : Stage Int :=
  match clock.pc with
  | .clearTimeUpdated => .seen
  | .readNtpTime => .lowered
  | .setTimeOfDay => .fetched clock.locals.tvSec
  | _ => .waiting

/-- The clock and the notes as a mailbox. -/
def view (pair : Clock × Times) : Mailbox Int where
  slot := pair.1.state.ntpTime
  flag := pair.1.state.ntpTimeUpdated
  stage := stage pair.1
  delivered := pair.2.delivered
  used := pair.2.applied

/-- The statements between testing the flag and returning from `settimeofday`. -/
def handing : Pc → Bool
  | .clearTimeUpdated | .readNtpTime | .setTimeOfDay => true
  | _ => false

private theorem waits_away {clock : Clock} (away : handing clock.pc = false) :
    stage clock = .waiting := by
  unfold stage
  split <;> simp_all [handing]

/-- Where a statement leaves the flag and the slot alone and is not one of the
hand-over, it is not seen. -/
private theorem unseen {clock next : Clock} (dns : DnsReply) (udp : UdpReply)
    (slot : next.state.ntpTime = clock.state.ntpTime)
    (flag : next.state.ntpTimeUpdated = clock.state.ntpTimeUpdated)
    (before : handing clock.pc = false) (after : handing next.pc = false) (times : Times) :
    view (next, note clock (.task dns udp) times) = view (clock, times) := by
  have applied : appliedBy clock (.task dns udp) = none := by
    simp only [appliedBy]
    rw [if_neg]
    intro set
    simp [set, handing] at before
  simp [view, note, slot, flag, waits_away before, waits_away after, applied, deliveredBy]

/-- A statement of the task is a step of the consumer or is not seen. -/
theorem statement_agrees {clock next : Clock} (stepped : clock.statement dns udp = some next)
    (times : Times) :
    view (next, note clock (.task dns udp) times) = view (clock, times) ∨
      ∃ action, (Mailbox.system Int).step (view (clock, times)) action =
        some (view (next, note clock (.task dns udp) times)) := by
  obtain ⟨state, persistent, hold, pc, locals, systemMs, bootMs⟩ := clock
  cases pc with
  | testTimeUpdated =>
    cases stepped
    cases raised : state.ntpTimeUpdated with
    | false =>
      left
      apply unseen dns udp
      · rfl
      · rfl
      · rfl
      · simp [Clock.goto, handing]
    | true =>
      refine .inr ⟨.notice, ?_⟩
      simp [view, raised, Mailbox.system, stage, Clock.goto, note, appliedBy, deliveredBy]
  | clearTimeUpdated =>
    cases stepped
    exact .inr ⟨.lower, rfl⟩
  | readNtpTime =>
    cases stepped
    exact .inr ⟨.fetch, rfl⟩
  | setTimeOfDay =>
    cases stepped
    exact .inr ⟨.use, rfl⟩
  | checkStatus =>
    cases stepped
    left
    rcases checkStatus_cases ⟨state, persistent, hold, .checkStatus, locals, systemMs, bootMs⟩ with
      on | ⟨ntpError, reset⟩ | ⟨-, kod⟩ | ⟨-, success⟩
    · rw [on]; rfl
    · rw [reset]; rfl
    · rw [kod]; rfl
    · rw [success]; rfl
  | draw ii =>
    cases stepped
    obtain ⟨lcdStates, digits, drawn⟩ := redraw_eq state (lcdDigits locals.localEpoch)
      locals.ntpAtomicState.error ii
    left
    apply unseen dns udp
    · rw [drawn]
    · rw [drawn]
    · rfl
    · dsimp only
      split <;> rfl
  | testTick | compareDigits | testInterval =>
    cases stepped
    left
    apply unseen dns udp
    · rfl
    · rfl
    · rfl
    · dsimp only [Clock.goto]
      split <;> rfl
  | requestResolve =>
    cases dns with
    | resolved address =>
      cases stepped
      exact .inl rfl
    | inProgress =>
      cases stepped
      left
      apply unseen .inProgress udp
      · rfl
      · rfl
      · rfl
      · dsimp only [Clock.requestDone, Clock.goto]
        split <;> rfl
    | failed =>
      cases stepped
      exact .inl rfl
  | requestSend =>
    cases stepped
    left
    apply unseen dns udp
    · rfl
    · rfl
    · rfl
    · dsimp only [Clock.requestDone, Clock.goto]
      split <;> rfl
  | returned =>
    simp only [Clock.statement] at stepped
    split at stepped
    · cases stepped
      exact .inl rfl
    · cases stepped
      exact .inl rfl
  | reset ntpError wifiError => cases stepped
  | accessPoint => cases stepped
  | snapshot | markSynced | clearTick | updateWatchdog | readTime | expireIcon | writeIdle
  | markRequested | requestStart | requestPending | firstTickDone =>
    cases stepped
    exact .inl rfl

/-- So is every callback, wherever it interrupts the task. -/
theorem step_agrees (stepped : handover.step pair event = some next) :
    view next = view pair ∨
      ∃ action, (Mailbox.system Int).step (view pair) action = some (view next) := by
  obtain ⟨clock, times⟩ := pair
  obtain ⟨reached, timesAfter⟩ := next
  obtain ⟨happened, rfl⟩ := StepSystem.observed_step stepped
  cases event with
  | task dns udp => exact statement_agrees happened times
  | recv datagram =>
    cases happened
    cases delivered : (ntpOutcome clock.state.ntpState datagram).time with
    | none =>
      refine .inl ?_
      simp [view, note, deliveredBy, appliedBy, ntpRecvCallback, delivered, deliver, stage]
    | some ntpTime =>
      refine .inr ⟨.deliver ntpTime, ?_⟩
      simp [view, note, deliveredBy, appliedBy, ntpRecvCallback, delivered, deliver, stage,
        Mailbox.system, ntpTimerCallback]
  | ntpTimer ntpTime =>
    cases happened
    exact .inr ⟨.deliver ntpTime, rfl⟩
  | dns ipaddr udp | elapse ms =>
    cases happened
    exact .inl rfl
  | clockTimer gpio =>
    cases happened
    obtain ⟨triggered, ticked⟩ :=
      clockTimerCallback_eq clock.state clock.buttonHoldSeconds gpio
    left
    rw [ticked]
    rfl

/-- In every run of a started clock the hand-over is sound. -/
theorem run_sound (started : Started clock)
    (ran : handover.run (clock, ⟨[], []⟩) events = some pair) : Mailbox.Sound (view pair) := by
  obtain ⟨gpio, watchdog, persistent, flash, systemMs, bootMs, -, rfl⟩ := started
  obtain ⟨actions, seen⟩ := StepSystem.run_simulates
    (fun _ _ _ stepped => step_agrees stepped) ran
  have begun : view (.start (clockInit gpio watchdog persistent flash) systemMs bootMs, ⟨[], []⟩) =
      Mailbox.empty (clockInit gpio watchdog persistent flash).state.ntpTime := by
    simp [view, Mailbox.empty, Clock.start, ClockState.onLcd, stage, clockInit_ntpTimeUpdated]
  rw [begun] at seen
  exact Mailbox.run_sound seen

/-- No time is lost and none is made up: in every run of a started clock, with
callbacks between any two statements, every value given to `settimeofday` was
delivered, and whenever the flag is down and the task is not between lowering
it and returning from `settimeofday`, the last value given to it is the time
that the latest callback delivered. -/
theorem no_time_is_lost (started : Started clock)
    (ran : handover.run (clock, ⟨[], []⟩) events = some (reached, times)) :
    (reached.state.ntpTimeUpdated = false → reached.pc ≠ .readNtpTime →
      reached.pc ≠ .setTimeOfDay → times.applied.head? = times.delivered.head?) ∧
    ∀ value ∈ times.applied, value ∈ times.delivered := by
  have sound := run_sound started ran
  refine ⟨?_, sound.genuine⟩
  intro down reading setting
  refine sound.up_to_date down ?_
  change stage reached = .waiting ∨ stage reached = .seen
  unfold stage
  cases at_pc : reached.pc <;> simp_all

/-- After the first request, a time arrives twice, the second one between two
statements of the hand-over. -/
def overtaken : List Event :=
  let task := Event.task (.resolved 1) .sent
  List.replicate 4 task ++ .ntpTimer 1710035999 :: List.replicate 4 task ++
    .ntpTimer 1710036000 :: List.replicate 10 task

theorem overtaking_time_is_applied :
    ∃ reached times, handover.run (coldStart, ⟨[], []⟩) overtaken = some (reached, times) ∧
      times.delivered = [1710036000, 1710035999] ∧
      times.applied.head? = times.delivered.head? ∧
      ∀ value ∈ times.applied, value ∈ times.delivered := by
  obtain ⟨reached, times, ran, delivered, down, next⟩ : ∃ reached times,
      handover.run (coldStart, ⟨[], []⟩) overtaken = some (reached, times) ∧
        times.delivered = [1710036000, 1710035999] ∧
        reached.state.ntpTimeUpdated = false ∧ reached.pc = .markSynced :=
    ⟨_, _, rfl, rfl, rfl, rfl⟩
  obtain ⟨latest, genuine⟩ := no_time_is_lost coldStart_started ran
  exact ⟨reached, times, ran, delivered, latest down (by simp [next]) (by simp [next]), genuine⟩

end PicowDayClock.NtpHandover
