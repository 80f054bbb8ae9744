import Mathlib.Data.List.Infix
import PicowDayClock.ClockFrames

/-! The button that leads to the access point. The timer counts the seconds it is
held and raises a flag, which the loop of `main` takes down when it leaves. No
statement of the task in between may lose either. -/
namespace PicowDayClock.HeldButton
open Boot Ntp ClockTask ClockFrames

/-! ## Samples in a row -/

/-- How many of the latest samples, which come first, read the button pressed. -/
def streak (samples : List Bool) : Nat := (samples.takeWhile id).length

/-- So many samples in a row read it pressed. -/
def Held (count : Nat) (samples : List Bool) : Prop := List.replicate count true <:+: samples

theorem streak_iff : ∀ {samples : List Bool} {count : Nat},
    List.replicate count true <+: samples ↔ count ≤ streak samples
  | samples, 0 => by simp
  | [], count + 1 => by simp [streak]
  | false :: samples, count + 1 => by simp [streak, List.replicate_succ]
  | true :: samples, count + 1 => by
    rw [List.replicate_succ, List.cons_prefix_cons, streak_iff]
    simp [streak]

theorem held_cons {count : Nat} {sample : Bool} {samples : List Bool} :
    Held count (sample :: samples) ↔ count ≤ streak (sample :: samples) ∨ Held count samples := by
  rw [Held, List.infix_cons_iff, streak_iff, Held]

@[simp] theorem streak_true (samples : List Bool) :
    streak (true :: samples) = streak samples + 1 := by simp [streak]

@[simp] theorem streak_false (samples : List Bool) : streak (false :: samples) = 0 := by
  simp [streak]

/-! ## What a statement does -/

/-- No statement but the last one of the loop of `main` touches the flag, and none
the counter. -/
theorem statement_button {clock next : Clock} (happened : clock.statement dns udp = some next) :
    next.buttonHoldSeconds = clock.buttonHoldSeconds ∧
      (clock.pc ≠ .returned → next.state.apModeTriggered = clock.state.apModeTriggered) := by
  obtain ⟨state, persistent, hold, pc, locals, systemMs, bootMs⟩ := clock
  cases pc with
  | checkStatus =>
    cases happened
    rcases checkStatus_cases ⟨state, persistent, hold, .checkStatus, locals, systemMs, bootMs⟩ with
      on | ⟨ntpError, reset⟩ | ⟨-, kod⟩ | ⟨-, success⟩
    · rw [on]
      exact ⟨rfl, fun _ => rfl⟩
    · rw [reset]
      exact ⟨rfl, fun _ => rfl⟩
    · rw [kod]
      exact ⟨rfl, fun _ => rfl⟩
    · rw [success]
      exact ⟨rfl, fun _ => rfl⟩
  | draw ii =>
    cases happened
    obtain ⟨lcdStates, digits, drawn⟩ := redraw_eq state (lcdDigits locals.localEpoch)
      locals.ntpAtomicState.error ii
    rw [drawn]
    exact ⟨rfl, fun _ => rfl⟩
  | requestResolve =>
    cases dns <;>
    · cases happened
      exact ⟨rfl, fun _ => rfl⟩
  | returned =>
    simp only [Clock.statement] at happened
    split at happened <;>
    · cases happened
      exact ⟨rfl, fun away => absurd rfl away⟩
  | reset ntpError wifiError => cases happened
  | accessPoint => cases happened
  | _ =>
    cases happened
    exact ⟨rfl, fun _ => rfl⟩

/-- The clock is on its way to the access point, or has left for it. -/
def Leaving (clock : Clock) : Prop :=
  clock.state.apModeTriggered = true ∨ clock.pc = .accessPoint

/-- Only the timer makes it leave, and nothing makes it stay. -/
theorem statement_leaving {clock next : Clock} (happened : clock.statement dns udp = some next) :
    Leaving next ↔ Leaving clock := by
  have follows := statement_follows happened
  by_cases returned : clock.pc = .returned
  · simp only [Clock.statement, returned] at happened
    split at happened
    · cases happened
      have triggered := ‹_ ∧ _›
      exact iff_of_true (.inr rfl) (.inl triggered.1)
    · cases happened
      simp [Leaving, Clock.goto, returned]
  · have flag := (statement_button happened).2 returned
    have away : next.pc ≠ .accessPoint := by
      intro leaves
      rw [leaves] at follows
      unfold Follows at follows
      cases starting : clock.locals.starting <;> grind
    have before : clock.pc ≠ .accessPoint := by
      intro left_
      simp only [Follows, left_] at follows
    simp only [Leaving, flag, away, before]

/-! ## Every run -/

/-- What the timer has read, latest first. -/
def note (_clock : Clock) (event : Event) (samples : List Bool) : List Bool :=
  match event with
  | .clockTimer gpio => decide (gpio = 0) :: samples
  | _ => samples

/-- The clock while its button is observed. -/
def pressed : StepSystem (Clock × List Bool) Event := running.observed note

/-- How many seconds the button has to be held. -/
def holdSeconds : Nat := factoryResetHoldTimeMs / 1000

/-- The clock leaves if the button was held, and else the counter counts how long it
has been. -/
structure Inv (clock : Clock) (samples : List Bool) : Prop where
  leaving : Leaving clock ↔ Held holdSeconds samples
  counts : ¬ Leaving clock →
    clock.buttonHoldSeconds = streak samples ∧ streak samples < holdSeconds

/-- Once the clock leaves, the timer does not make it stay. -/
theorem clockTimer_leaving {clock next : Clock} {gpio : Nat} (leaves : Leaving clock)
    (happened : running.step clock (.clockTimer gpio) = some next) : Leaving next := by
  cases happened
  refine leaves.imp_left fun up => ?_
  unfold clockTimerCallback
  split
  · split
    · rfl
    · exact up
  · exact up

/-- A second of the timer. -/
theorem clockTimer_inv {clock next : Clock} (inv : Inv clock samples) {gpio : Nat}
    (happened : running.step clock (.clockTimer gpio) = some next) :
    Inv next (decide (gpio = 0) :: samples) := by
  by_cases leaves : Leaving clock
  · have still := clockTimer_leaving leaves happened
    have held : Held holdSeconds (decide (gpio = 0) :: samples) :=
      held_cons.mpr (.inr (inv.leaving.mp leaves))
    exact ⟨iff_of_true still held, fun stays => absurd still stays⟩
  · obtain ⟨counted, few⟩ := inv.counts leaves
    have unheld : ¬ Held holdSeconds samples := fun held => leaves (inv.leaving.mpr held)
    cases happened
    unfold clockTimerCallback
    rw [counted]
    by_cases pressed : gpio = 0
    · rw [if_pos pressed, decide_eq_true pressed]
      by_cases enough : streak samples + 1 ≥ factoryResetHoldTimeMs / 1000
      · rw [if_pos enough]
        have held : Held holdSeconds (true :: samples) :=
          held_cons.mpr (.inl (by rw [streak_true]; exact enough))
        exact ⟨iff_of_true (.inl rfl) held, fun stays => absurd (.inl rfl) stays⟩
      · rw [if_neg enough]
        refine ⟨iff_of_false leaves ?_, fun _ => ⟨(streak_true samples).symm, ?_⟩⟩
        · rw [held_cons, streak_true]
          exact not_or.mpr ⟨enough, unheld⟩
        · rw [streak_true]
          exact Nat.lt_of_not_ge enough
    · rw [if_neg pressed, decide_eq_false pressed]
      refine ⟨iff_of_false leaves ?_, fun _ => ⟨(streak_false samples).symm, ?_⟩⟩
      · rw [held_cons, streak_false]
        exact not_or.mpr ⟨by decide, unheld⟩
      · rw [streak_false]
        decide

/-- What neither samples the button nor leaves the loop of `main`. -/
theorem Inv.frame {clock next : Clock} (inv : Inv clock samples)
    (leaving : Leaving next ↔ Leaving clock)
    (hold : next.buttonHoldSeconds = clock.buttonHoldSeconds) : Inv next samples where
  leaving := leaving.trans inv.leaving
  counts stays := by
    rw [hold]
    exact inv.counts fun leaves => stays (leaving.mpr leaves)

theorem step_inv {pair next : Clock × List Bool} {event : Event} (inv : Inv pair.1 pair.2)
    (stepped : pressed.step pair event = some next) : Inv next.1 next.2 := by
  obtain ⟨clock, samples⟩ := pair
  obtain ⟨reached, after⟩ := next
  obtain ⟨happened, rfl⟩ := StepSystem.observed_step stepped
  cases event with
  | task dns udp => exact inv.frame (statement_leaving happened) (statement_button happened).1
  | clockTimer gpio => exact clockTimer_inv inv happened
  | recv datagram =>
    cases happened
    cases (ntpRecvCallback clock.state.ntpState datagram).2 <;> exact inv.frame Iff.rfl rfl
  | dns ipaddr udp | ntpTimer ntpTime | elapse ms =>
    cases happened
    exact inv.frame Iff.rfl rfl

theorem started_inv (started : Started clock) : Inv clock [] := by
  have unheld : ¬ Held holdSeconds [] := by
    intro held
    have none_ := List.eq_nil_of_infix_nil held
    cases none_
  have stays : ¬ Leaving clock := by
    obtain ⟨gpio, watchdog, persistent, flash, systemMs, bootMs, returned, rfl⟩ := started
    rw [clockInit_eq returned]
    cases watchdog <;> simp [Leaving, Clock.start, ClockState.onLcd, reportReset, ClockState.zero]
  have counter : clock.buttonHoldSeconds = 0 := by
    obtain ⟨gpio, watchdog, persistent, flash, systemMs, bootMs, -, rfl⟩ := started
    rfl
  exact ⟨iff_of_false stays unheld, fun _ => ⟨counter, by decide⟩⟩

/-- In every run of a started clock, with any callbacks between any two statements,
the flag is up or the clock has left for the access point exactly if the timer has
found the button pressed in three samples in a row; and whenever the task has
returned, `main` leaves for the access point exactly then. It never leaves between
`clock_start` and the task. -/
theorem access_point_iff_held (started : Started clock)
    (ran : pressed.run (clock, []) events = some (reached, samples)) :
    (reached.state.apModeTriggered = true ∨ reached.pc = .accessPoint ↔
      List.replicate 3 true <:+: samples) ∧
    (reached.pc = .returned → ∀ dns udp next,
      running.step reached (.task dns udp) = some next →
        (next.pc = .accessPoint ↔
          reached.locals.starting = false ∧ List.replicate 3 true <:+: samples)) := by
  have inv : Inv reached samples :=
    @StepSystem.run_invariant _ _ pressed _ _ _ (fun pair => Inv pair.1 pair.2)
      (fun _ _ _ inv stepped => step_inv inv stepped) (started_inv started) ran
  refine ⟨inv.leaving, fun returned dns udp next stepped => ?_⟩
  have leaves := (statement_leaving stepped).trans inv.leaving
  simp only [running, Clock.statement, returned] at stepped
  split at stepped
  · cases stepped
    have triggered := ‹_ ∧ _›
    exact iff_of_true rfl ⟨triggered.2, leaves.mp (.inr rfl)⟩
  · cases stepped
    have passes := ‹¬ (_ ∧ _)›
    constructor
    · intro leaving
      cases leaving
    · rintro ⟨called, held⟩
      rcases leaves.mpr held with flag | leaving
      · exact absurd ⟨flag, called⟩ passes
      · cases leaving

/-- The button is held for two samples, released, and then held for three. The task
returns after them for the first time. -/
def pressedTwice : List Event :=
  let task := Event.task (.resolved 1) .sent
  List.replicate 4 task ++ [0, 0, 1, 0, 0, 0].map .clockTimer ++ List.replicate 19 task

theorem third_second_counts :
    ∃ reached next, pressed.run (coldStart, []) pressedTwice =
        some (reached, [true, true, true, false, true, true]) ∧
      running.step reached (.task .inProgress .sent) = some next ∧ next.pc = .accessPoint := by
  obtain ⟨reached, next, ran, returned, called, stepped⟩ : ∃ reached next,
      pressed.run (coldStart, []) pressedTwice =
          some (reached, [true, true, true, false, true, true]) ∧
        reached.pc = .returned ∧ reached.locals.starting = false ∧
        running.step reached (.task .inProgress .sent) = some next :=
    ⟨_, _, rfl, rfl, rfl, rfl⟩
  have leaves := (access_point_iff_held coldStart_started ran).2 returned _ _ _ stepped
  exact ⟨reached, next, ran, stepped, leaves.mpr ⟨called, [], [false, true, true], rfl⟩⟩

end PicowDayClock.HeldButton
