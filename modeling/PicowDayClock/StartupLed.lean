import PicowDayClock.Firmware.MainLoop
import PicowDayClock.NtpOutcomes

/-! What the green diagnostic LED says. It blinks while the clock waits for its first
answer and rests afterwards. `main` goes by the status alone, which is idle before the
first request as well, so that nothing is mistaken for an answer has to be shown. -/
namespace PicowDayClock.StartupLed
open Boot Ntp ClockTask ClockFrames NtpOutcomes MainLoop

/-! ## Before the first answer -/

/-- The server has answered, be it by a KoD. -/
def answers (clock : Clock) : ClockTask.Event → Bool
  | .recv datagram =>
    let status := (ntpOutcome clock.state.ntpState datagram).status
    status = .success ∨ status = .kod
  | _ => false

/-- A status of a request that has no answer. -/
def Unanswered (status : NtpStatus) : Prop := status = .pending ∨ status = .failed

/-- Before the first answer there is a request without one, or the first is about to
be made, and the task has seen no other. -/
structure Waits (clock : Clock) : Prop where
  status : Unanswered clock.state.ntpState.status ∨
    clock.locals.starting = true ∧ (clock.pc = .requestStart ∨ clock.pc = .requestPending)
  snapshot : deciding clock.pc = true → Unanswered clock.locals.ntpAtomicState.status
  writing : clock.pc ≠ .writeIdle

theorem started_waits (started : Started clock) : Waits clock := by
  have begins := started_begins started
  refine ⟨.inr ⟨begins.starting, .inl begins.pc⟩, ?_, ?_⟩
  · rw [begins.pc]
    nofun
  · rw [begins.pc]
    nofun

/-- A request that fails has no answer, and one that goes on is the same. -/
theorem ntpStartUdpRequest_unanswered {state : NtpState} (before : Unanswered state.status)
    (udp : UdpReply) : Unanswered (ntpStartUdpRequest state udp).status := by
  have stores := ntpStartUdpRequest_stores state udp
  cases stored : udpError udp with
  | none =>
    simp only [stored] at stores
    rw [stores]
    exact before
  | some error =>
    simp only [stored] at stores
    exact .inr stores.1

theorem statement_unanswered {clock next : Clock} (waits : Waits clock)
    (happened : clock.statement dns udp = some next) :
    Unanswered next.state.ntpState.status ∨
      next.locals.starting = true ∧ (next.pc = .requestStart ∨ next.pc = .requestPending) := by
  have status := waits.status
  cases at_pc : clock.pc with
  | requestStart =>
    have frame := statement_frame happened
    have follows := statement_follows happened
    simp only [Follows, at_pc] at follows
    rw [frame.ntpState (by rw [at_pc]; rfl), (frame.snapshot (by simp [at_pc])).2]
    exact status.imp_right fun starts => ⟨starts.1, .inr follows⟩
  | requestPending =>
    simp only [Clock.statement, at_pc, Option.some.injEq] at happened
    subst happened
    exact .inl (.inl rfl)
  | requestResolve =>
    rw [(requestResolve_stores at_pc happened).1]
    exact .inl (status.resolve_right (by simp [at_pc]))
  | requestSend =>
    have before := status.resolve_right (by simp [at_pc])
    simp only [Clock.statement, at_pc, Option.some.injEq] at happened
    subst happened
    exact .inl (ntpStartUdpRequest_unanswered before udp)
  | writeIdle => exact absurd at_pc waits.writing
  | _ =>
    rw [(statement_frame happened).ntpState (by rw [at_pc]; rfl)]
    exact .inl (status.resolve_right (by simp [at_pc]))

/-- Every statement before the first answer finds and leaves a request without one. -/
theorem statement_waits {clock next : Clock} (waits : Waits clock)
    (happened : clock.statement dns udp = some next) : Waits next where
  status := statement_unanswered waits happened
  snapshot after := by
    rcases deciding_enters happened after with within | snapping
    · by_cases snapping : clock.pc = .snapshot
      · rw [snapping] at within
        cases within
      · rw [((statement_frame happened).snapshot snapping).1]
        exact waits.snapshot within
    · have status := waits.status.resolve_right (by simp [snapping])
      simp only [Clock.statement, snapping, Option.some.injEq] at happened
      subst happened
      exact status
  writing writes := by
    have comes := statement_comes happened
    rw [writes] at comes
    have checks : clock.pc = .checkStatus := comes
    have seen := waits.snapshot (by rw [checks]; rfl)
    simp only [Clock.statement, checks, Option.some.injEq] at happened
    subst happened
    rcases checkStatus_cases clock with on | ⟨ntpError, reset⟩ | ⟨kod, -⟩ | ⟨success, -⟩
    · rw [on] at writes
      cases writes
    · rw [reset] at writes
      cases writes
    · rw [kod] at seen
      rcases seen with pending | failed
      · cases pending
      · cases failed
    · rw [success] at seen
      rcases seen with pending | failed
      · cases pending
      · cases failed

/-- A callback that is not an answer stores a failure at most. -/
theorem interrupt_status {clock next : Clock} {event : ClockTask.Event}
    (interrupting : interrupts event = true) (silent : answers clock event = false)
    (happened : running.step clock event = some next) :
    next.state.ntpState.status = clock.state.ntpState.status ∨
      next.state.ntpState.status = .failed := by
  cases event with
  | task dns udp => cases interrupting
  | recv datagram =>
    cases happened
    rw [deliver_ntpState, (ntpRecvCallback_stores clock.state.ntpState datagram).1]
    rcases ntpOutcome_spec clock.state.ntpState datagram with ⟨failed, -⟩ | ⟨answered, -⟩
    · exact .inr failed
    · simp [answers, answered.symm] at silent
  | dns ipaddr udp =>
    cases happened
    have stores := ntpDnsCallback_stores clock.state.ntpState ipaddr udp
    cases stored : dnsError ipaddr udp with
    | none =>
      simp only [stored] at stores
      exact .inl stores.1
    | some error =>
      simp only [stored] at stores
      exact .inr stores.1
  | ntpTimer second | elapse ms =>
    cases happened
    exact .inl rfl
  | clockTimer gpio =>
    cases happened
    obtain ⟨triggered, ticked⟩ := clockTimerCallback_eq clock.state clock.buttonHoldSeconds gpio
    rw [ticked]
    exact .inl rfl

theorem interrupt_waits {clock next : Clock} {event : ClockTask.Event} (waits : Waits clock)
    (interrupting : interrupts event = true) (silent : answers clock event = false)
    (happened : running.step clock event = some next) : Waits next := by
  have frame := interrupt_frame interrupting happened
  refine ⟨?_, ?_, ?_⟩
  · rw [frame.locals, frame.pc]
    rcases interrupt_status interrupting silent happened with same | failed
    · rw [same]
      exact waits.status
    · exact .inl (.inr failed)
  · rw [frame.locals, frame.pc]
    exact waits.snapshot
  · rw [frame.pc]
    exact waits.writing

/-- A clock that waits is not idle where `main` looks at it. -/
theorem Waits.not_idle {clock : Clock} (waits : Waits clock) (returned : clock.pc = .returned) :
    clock.state.ntpState.status ≠ .idle := by
  intro idle
  rcases waits.status with unanswered | ⟨-, starts | pends⟩
  · rw [idle] at unanswered
    rcases unanswered with pending | failed
    · cases pending
    · cases failed
  · rw [starts] at returned
    cases returned
  · rw [pends] at returned
    cases returned

theorem step_waits {clock next : Clock} {event : ClockTask.Event} (waits : Waits clock)
    (silent : answers clock event = false) (happened : running.step clock event = some next) :
    Waits next := by
  rcases step_cases happened with ⟨interrupting, -⟩ | ⟨dns, udp, rfl, ran⟩
  · exact interrupt_waits waits interrupting silent happened
  · exact statement_waits waits ran

/-! ## The LEDs -/

/-- `main`, back from a call of `clock_task`, stays in its loop and finds the client
idle. -/
def findsIdle (clock : Clock) : ClockTask.Event → Bool
  | .task _ _ => clock.pc = .returned ∧ clock.locals.starting = false ∧
      clock.state.apModeTriggered = false ∧ clock.state.ntpState.status = .idle
  | _ => false

/-- How often the timer has run, whether the server has answered, and whether `main`
has found the client idle. -/
structure Seen where
  blinks : Nat
  answered : Bool
  foundIdle : Bool

/-- What the observer writes down. -/
def note (board : Board) (event : MainLoop.Event) (seen : Seen) : Seen :=
  match event with
  | .clock event =>
    { seen with
      answered := seen.answered || answers board.clock event
      foundIdle := seen.foundIdle || findsIdle board.clock event }
  | .blink => { seen with blinks := seen.blinks + 1 }

/-- The board while it is observed. -/
def watched : StepSystem (Board × Seen) MainLoop.Event := board.observed note

/-- The LEDs as they have to be: the green one blinks, if there is a timer for it,
until the client has been found idle, and is as the configuration has it from then on. -/
def due (added : Bool) (config : FlashConfig) (seen : Seen) : DiagnosticLeds :=
  if added = true ∧ seen.foundIdle = true then
    { green := config.ledAlwaysOn, red := false, timer := false, startupLedActive := false }
  else
    { green := seen.blinks % 2 = 1, red := false, timer := added, startupLedActive := added }

/-- The client is found idle only if the server has answered, and without an answer
the clock still waits. -/
structure Inv (added : Bool) (config : FlashConfig) (board : Board) (seen : Seen) : Prop where
  same : board.clock.state.flashConfig = config
  waits : seen.answered = false → Waits board.clock
  found : seen.foundIdle = true → seen.answered = true
  leds : board.leds = due added config seen
  still : added = false → seen.blinks = 0

/-- Only what finds the client idle settles the LEDs. -/
theorem ledsAfter_eq (clock : Clock) (event : ClockTask.Event) (leds : DiagnosticLeds) :
    ledsAfter clock event leds =
      if findsIdle clock event = true ∧ leds.startupLedActive = true then
        { green := clock.state.flashConfig.ledAlwaysOn, red := false, timer := false
          startupLedActive := false }
      else leds := by
  cases event with
  | task dns udp =>
    by_cases looks : clock.pc = .returned ∧ clock.state.apModeTriggered = false ∧
        clock.locals.starting = false
    · obtain ⟨returned, stays, called⟩ := looks
      simp [ledsAfter, settleLeds, findsIdle, returned, stays, called, and_comm]
    · have passes : findsIdle clock (.task dns udp) = false := by
        refine decide_eq_false fun finds => looks ?_
        exact ⟨finds.1, finds.2.2.1, finds.2.1⟩
      rw [ledsAfter, if_neg looks, passes, if_neg (by simp)]
  | _ =>
    refine (if_neg ?_).symm
    rintro ⟨finds, -⟩
    cases finds

/-- The LEDs behind an event of the clock. -/
theorem ledsAfter_due {added : Bool} {config : FlashConfig} {board : Board} {seen : Seen}
    (inv : Inv added config board seen) (event : ClockTask.Event) :
    ledsAfter board.clock event board.leds = due added config (note board (.clock event) seen) := by
  rw [ledsAfter_eq, inv.same, inv.leds]
  cases finds : findsIdle board.clock event with
  | false => simp only [due, note, finds, Bool.or_false, Bool.false_eq_true, false_and, if_false]
  | true =>
    cases added with
    | false => rfl
    | true => cases found : seen.foundIdle <;> simp [due, note, finds, found]

/-- The timer runs only before the LEDs are settled. -/
theorem blink_due {added : Bool} {config : FlashConfig} {board : Board} {seen : Seen}
    (inv : Inv added config board seen) (runs : board.leds.timer = true) :
    added = true ∧ startupLedCallback board.leds = due added config (note board .blink seen) := by
  rw [inv.leds] at runs ⊢
  cases added with
  | false => simp [due] at runs
  | true =>
    cases found : seen.foundIdle with
    | true => simp [due, found] at runs
    | false =>
      rcases Nat.mod_two_eq_zero_or_one seen.blinks with even | odd
      · simp [due, note, startupLedCallback, found, even, Nat.add_mod]
      · simp [due, note, startupLedCallback, found, odd, Nat.add_mod]

/-- A client that is found idle has got its answer. -/
theorem findsIdle_answered {added : Bool} {config : FlashConfig} {board : Board} {seen : Seen}
    (inv : Inv added config board seen) {event : ClockTask.Event}
    (finds : findsIdle board.clock event = true) : seen.answered = true := by
  cases event with
  | task dns udp =>
    obtain ⟨returned, -, -, idle⟩ := of_decide_eq_true finds
    by_contra silent
    rw [Bool.not_eq_true] at silent
    exact (inv.waits silent).not_idle returned idle
  | _ => cases finds

theorem step_inv {pair next : Board × Seen} {event : MainLoop.Event}
    (inv : Inv added config pair.1 pair.2) (stepped : watched.step pair event = some next) :
    Inv added config next.1 next.2 := by
  obtain ⟨board, seen⟩ := pair
  obtain ⟨reached, after⟩ := next
  obtain ⟨happened, rfl⟩ := StepSystem.observed_step stepped
  cases event with
  | clock event =>
    obtain ⟨clock, ran, rfl⟩ := Option.map_eq_some_iff.mp happened
    refine ⟨?_, fun silent => ?_, fun found => ?_, ledsAfter_due inv event, inv.still⟩
    · rcases step_cases ran with ⟨-, frame⟩ | ⟨dns, udp, -, stated⟩
      · exact frame.flashConfig.trans inv.same
      · exact (statement_frame stated).flashConfig.trans inv.same
    · obtain ⟨before, quiet⟩ := Bool.or_eq_false_iff.mp silent
      exact step_waits (inv.waits before) quiet ran
    · have answered : seen.answered = true :=
        (Bool.or_eq_true_iff.mp found).elim inv.found (findsIdle_answered inv)
      exact Bool.or_eq_true_iff.mpr (.inl answered)
  | blink =>
    obtain ⟨runs, same⟩ := Option.ite_none_right_eq_some.mp happened
    cases same
    obtain ⟨added, blinks⟩ := blink_due inv runs
    exact ⟨inv.same, inv.waits, inv.found, blinks, fun none_ => absurd added (by simp [none_])⟩

theorem started_inv (started : Started clock) (added : Bool) :
    Inv added clock.state.flashConfig ⟨clock, initDiagnosticLed added⟩ ⟨0, false, false⟩ where
  same := rfl
  waits _ := started_waits started
  found := nofun
  leds := by simp [due, initDiagnosticLed]
  still _ := rfl

/-- LEDs without a timer that are settled stay as they are. -/
theorem run_rests {board final : Board} (settled : board.leds.startupLedActive = false)
    (stopped : board.leds.timer = false) (ran : MainLoop.board.run board later = some final) :
    final.leds = board.leds := by
  refine @StepSystem.run_invariant _ _ MainLoop.board _ _ _
    (fun reached => reached.leds = board.leds) ?_ rfl ran
  intro reached event next same stepped
  cases event with
  | clock event =>
    obtain ⟨clock, -, rfl⟩ := Option.map_eq_some_iff.mp stepped
    rw [← same] at settled ⊢
    dsimp only
    rw [ledsAfter_eq, if_neg fun settles => absurd settles.2 (by simp [settled])]
  | blink =>
    obtain ⟨runs, -⟩ := Option.ite_none_right_eq_some.mp stepped
    rw [same, stopped] at runs
    cases runs

/-- In every run of a started clock, with any callbacks in between, the green LED
blinks with its timer until `main`, back from `clock_task`, finds the client idle,
which it does only after a reply or a KoD of the server has been accepted; from then on
it is on or off as the configuration has it, whatever happens. The red one is off all
the time, and so is the green one without a timer. -/
theorem led_rests_after_answer (started : Started clock) (added : Bool)
    (ran : watched.run (⟨clock, initDiagnosticLed added⟩, ⟨0, false, false⟩) events =
      some (reached, seen)) :
    (seen.foundIdle = true → seen.answered = true) ∧
    reached.leds = (if added = true ∧ seen.foundIdle = true then
        { green := clock.state.flashConfig.ledAlwaysOn, red := false, timer := false
          startupLedActive := false }
      else
        { green := seen.blinks % 2 = 1, red := false, timer := added
          startupLedActive := added }) ∧
    (added = false → reached.leds.green = false) ∧
    (reached.leds.startupLedActive = false → ∀ later final,
      board.run reached later = some final → final.leds = reached.leds) := by
  have inv : Inv added clock.state.flashConfig reached seen :=
    @StepSystem.run_invariant _ _ watched _ _ _
      (fun pair => Inv added clock.state.flashConfig pair.1 pair.2)
      (fun _ _ _ inv stepped => step_inv inv stepped) (started_inv started added) ran
  refine ⟨inv.found, inv.leds, fun none_ => ?_, fun passive later final ranOn => ?_⟩
  · simp [inv.leds, due, none_, inv.still none_]
  · refine run_rests passive ?_ ranOn
    rw [inv.leds] at passive ⊢
    unfold due at passive ⊢
    split
    · rfl
    · rw [if_neg ‹_›] at passive
      exact passive

/-- A clock whose LED is to stay on. -/
def litStart : Clock :=
  .start (clockInit (fun _ => 1) false .zero { plainFlash with ledAlwaysOn := true }) 0 0

theorem litStart_started : Started litStart :=
  ⟨fun _ => 1, false, .zero, { plainFlash with ledAlwaysOn := true }, 0, 0, rfl, rfl⟩

/-- The LED blinks twice, a reply arrives, and the task handles it with the next tick. -/
def firstAnswer : List MainLoop.Event :=
  let task := MainLoop.Event.clock (.task (.resolved 1) .sent)
  List.replicate 4 task ++
    [.blink, .blink, .clock (.recv ⟨1, 123, 0x24 :: 1 :: List.replicate 46 0⟩),
      .clock (.clockTimer 1)] ++
    List.replicate 25 task

theorem first_answer_lights_led :
    ∃ reached, watched.run (⟨litStart, initDiagnosticLed true⟩, ⟨0, false, false⟩) firstAnswer =
        some (reached, ⟨2, true, true⟩) ∧ reached.leds.green = true ∧
      ∀ later final, board.run reached later = some final → final.leds.green = true := by
  obtain ⟨reached, ran⟩ : ∃ reached,
      watched.run (⟨litStart, initDiagnosticLed true⟩, ⟨0, false, false⟩) firstAnswer =
        some (reached, ⟨2, true, true⟩) := ⟨_, rfl⟩
  obtain ⟨-, leds, -, rests⟩ := led_rests_after_answer litStart_started true ran
  have settled : reached.leds = ⟨true, false, false, false⟩ := leds
  have green : reached.leds.green = true := by rw [settled]
  refine ⟨reached, ran, green, fun later final ranOn => ?_⟩
  rw [rests (by rw [settled]) later final ranOn]
  exact green

end PicowDayClock.StartupLed
