import PicowDayClock.DisplayRefresh
import PicowDayClock.NtpHandover

/-! How far the panels are from the true time. Between the server and the panels
a time is delayed in the network, waits for `clock_task`, loses its fraction of a
second twice, and may be overtaken by the next one at any statement. What is shown
is still late by no more than these delays together. -/
namespace PicowDayClock.TrueTime
open Boot Daylight Ntp ClockTask ClockFrames Ticks DisplayRefresh
open NtpHandover (deliveredBy appliedBy statement_agrees)

/-- The delays in milliseconds: of a reply, until it arrives, and of the task,
until it sets the time that has arrived. -/
structure Delays where
  reply : Nat
  task : Nat

/-- The true time, given the one at boot. -/
def trueMs (epochMs : Int) (bootMs : Nat) : Int := epochMs + bootMs

/-- A second that has begun, and was over no longer ago than this. -/
def Late (ms : Nat) (second now : Int) : Prop :=
  1000 * second ≤ now ∧ now < 1000 * second + 1000 + ms

instance : Decidable (Late ms second now) :=
  inferInstanceAs (Decidable (1000 * second ≤ now ∧ now < 1000 * second + 1000 + ms))

/-- When the latest time was delivered, when the one that the task has fetched was,
and whether the system time has been set, now and when the tick was read. -/
structure Sync where
  deliveredMs : Nat
  fetchedMs : Nat
  isSet : Bool
  tickIsSet : Bool

/-- What the observer writes down besides the ticks. -/
def noteSync (pair : Clock × Tick) (event : Event) (sync : Sync) : Sync :=
  match event, pair.1.pc with
  | .task _ _, .readNtpTime => { sync with fetchedMs := sync.deliveredMs }
  | .task _ _, .setTimeOfDay => { sync with isSet := true }
  | .task _ _, .readTime => { sync with tickIsSet := sync.isSet }
  | .task _ _, _ => sync
  | event, _ =>
    if (deliveredBy pair.1 event).isSome then { sync with deliveredMs := pair.1.bootMs } else sync

/-- The clock while its ticks and the times it gets are observed. -/
def timed : StepSystem ((Clock × Tick) × Sync) Event := ticks.observed noteSync

/-- No time yet. -/
def Sync.none : Sync := ⟨0, 0, false, false⟩

/-- A time that arrives is late by the reply at most, and one that is set has
arrived no longer ago than the task takes. -/
def Timely (epochMs : Int) (delays : Delays) (state : (Clock × Tick) × Sync) (event : Event) :
    Prop :=
  (∀ second ∈ deliveredBy state.1.1 event,
    Late delays.reply second (trueMs epochMs state.1.1.bootMs)) ∧
  ∀ _second ∈ appliedBy state.1.1 event, state.1.1.bootMs ≤ state.2.fetchedMs + delays.task

instance : Decidable (Timely epochMs delays state event) :=
  inferInstanceAs (Decidable (_ ∧ _))

/-! ## What a step does to the time that was delivered -/

/-- No statement writes the time that was delivered, and one lowers its flag. -/
theorem statement_slot {clock next : Clock} (happened : clock.statement dns udp = some next) :
    next.state.ntpTime = clock.state.ntpTime ∧
      (next.state.ntpTimeUpdated = true → clock.state.ntpTimeUpdated = true) := by
  rcases statement_agrees happened ⟨[], []⟩ with same | ⟨action, acts⟩
  · exact ⟨congrArg Mailbox.slot same, fun up => (congrArg Mailbox.flag same).symm.trans up⟩
  · exact Mailbox.step_undelivered acts rfl

/-- The time that was delivered is still to be fetched. -/
def Waiting (clock : Clock) : Prop :=
  clock.state.ntpTimeUpdated = true ∨ clock.pc = .clearTimeUpdated ∨ clock.pc = .readNtpTime

/-- A time that waits behind a statement has waited before it. -/
theorem statement_waiting {clock next : Clock} (happened : clock.statement dns udp = some next)
    (waiting : Waiting next) : Waiting clock := by
  have comes := statement_comes happened
  rcases waiting with up | clears | reads
  · exact .inl ((statement_slot happened).2 up)
  · rw [clears] at comes
    simp only [Clock.statement, Comes] at happened comes
    rw [comes] at happened
    simp only [Option.some.injEq] at happened
    subst happened
    simp only [Clock.goto] at clears
    split at clears
    · exact .inl ‹_›
    · cases clears
  · rw [reads] at comes
    exact .inr (.inl comes)

/-! ## The invariant -/

/-- A time on its way is late by the reply when it is delivered, and the system
time by the task as well; reading it takes off another fraction of a second. -/
structure OnTime (epochMs : Int) (delays : Delays) (clock : Clock) (tick : Tick) (sync : Sync) :
    Prop where
  past : sync.deliveredMs ≤ clock.bootMs
  slot : Waiting clock → Late delays.reply clock.state.ntpTime (trueMs epochMs sync.deliveredMs)
  fetchedPast : sync.fetchedMs ≤ clock.bootMs
  fetched : clock.pc = .setTimeOfDay →
    Late delays.reply clock.locals.tvSec (trueMs epochMs sync.fetchedMs)
  system : sync.isSet = true →
    clock.systemMs ≤ trueMs epochMs clock.bootMs ∧
      trueMs epochMs clock.bootMs < clock.systemMs + 1000 + (delays.reply + delays.task : Nat)
  read : sync.tickIsSet = true →
    Late (1000 + delays.reply + delays.task) tick.utcNow (trueMs epochMs tick.bootMs)

theorem started_onTime (started : Started clock) : OnTime epochMs delays clock .none .none := by
  obtain ⟨gpio, watchdog, persistent, flash, systemMs, bootMs, -, rfl⟩ := started
  refine ⟨Nat.zero_le _, ?_, Nat.zero_le _, nofun, nofun, nofun⟩
  rintro (up | clears | reads)
  · simp only [Clock.start, ClockState.onLcd, clockInit_ntpTimeUpdated] at up
    cases up
  · cases clears
  · cases reads

/-- A time is delivered. -/
theorem deliver_onTime {clock : Clock} {second : Int} (ontime : OnTime epochMs delays clock tick sync)
    (late : Late delays.reply second (trueMs epochMs clock.bootMs)) (ntpState : NtpState) :
    OnTime epochMs delays
      { clock with state := ntpTimerCallback { clock.state with ntpState := ntpState } second } tick
      { sync with deliveredMs := clock.bootMs } where
  past := Nat.le_refl _
  slot _ := late
  fetchedPast := ontime.fetchedPast
  fetched := ontime.fetched
  system := ontime.system
  read := ontime.read

/-- What neither delivers a time nor lets any pass. -/
theorem OnTime.frame {clock next : Clock} (ontime : OnTime epochMs delays clock tick sync)
    (times : after.utcNow = tick.utcNow ∧ after.bootMs = tick.bootMs)
    (bootMs : next.bootMs = clock.bootMs) (waiting : Waiting next → Waiting clock)
    (slot : next.state.ntpTime = clock.state.ntpTime)
    (fetched : next.pc = .setTimeOfDay →
      clock.pc = .setTimeOfDay ∧ next.locals.tvSec = clock.locals.tvSec)
    (systemMs : next.systemMs = clock.systemMs) : OnTime epochMs delays next after sync where
  past := by
    rw [bootMs]
    exact ontime.past
  slot waits := by
    rw [slot]
    exact ontime.slot (waiting waits)
  fetchedPast := by
    rw [bootMs]
    exact ontime.fetchedPast
  fetched sets := by
    rw [(fetched sets).2]
    exact ontime.fetched (fetched sets).1
  system set := by
    rw [systemMs, bootMs]
    exact ontime.system set
  read ticked := by
    rw [times.1, times.2]
    exact ontime.read ticked

/-- Nothing is late by more because the time goes on: both clocks go on alike. -/
theorem elapse_onTime {clock : Clock} (ontime : OnTime epochMs delays clock tick sync) (ms : Nat) :
    OnTime epochMs delays
      { clock with systemMs := clock.systemMs + ms, bootMs := clock.bootMs + ms } tick sync where
  past := Nat.le_add_right_of_le ontime.past
  slot := ontime.slot
  fetchedPast := Nat.le_add_right_of_le ontime.fetchedPast
  fetched := ontime.fetched
  system set := by
    obtain ⟨behind, within⟩ := ontime.system set
    simp only [trueMs, Nat.cast_add] at behind within ⊢
    omega
  read := ontime.read

theorem interrupt_onTime {clock next : Clock} {event : Event}
    (ontime : OnTime epochMs delays clock tick sync) (interrupting : interrupts event = true)
    (timely : Timely epochMs delays ((clock, tick), sync) event)
    (happened : running.step clock event = some next) :
    OnTime epochMs delays next tick (noteSync (clock, tick) event sync) := by
  cases event with
  | task dns udp => cases interrupting
  | recv datagram =>
    cases happened
    cases delivered : (ntpRecvCallback clock.state.ntpState datagram).2 with
    | none =>
      have quiet : noteSync (clock, tick) (.recv datagram) sync = sync := by
        simp only [noteSync, deliveredBy, delivered, Option.isSome_none, Bool.false_eq_true,
          if_false]
      rw [quiet]
      exact ontime.frame ⟨rfl, rfl⟩ rfl id rfl (fun sets => ⟨sets, rfl⟩) rfl
    | some second =>
      have noted : noteSync (clock, tick) (.recv datagram) sync =
          { sync with deliveredMs := clock.bootMs } := by
        simp only [noteSync, deliveredBy, delivered, Option.isSome_some, if_true]
      rw [noted]
      exact deliver_onTime ontime (timely.1 second delivered) _
  | ntpTimer second =>
    cases happened
    exact deliver_onTime ontime (timely.1 second rfl) clock.state.ntpState
  | dns ipaddr udp =>
    cases happened
    exact ontime.frame ⟨rfl, rfl⟩ rfl id rfl (fun sets => ⟨sets, rfl⟩) rfl
  | clockTimer gpio =>
    cases happened
    obtain ⟨triggered, ticked⟩ := clockTimerCallback_eq clock.state clock.buttonHoldSeconds gpio
    rw [ticked]
    exact ontime.frame ⟨rfl, rfl⟩ rfl id rfl (fun sets => ⟨sets, rfl⟩) rfl
  | elapse ms =>
    cases happened
    exact elapse_onTime ontime ms

theorem statement_onTime {clock next : Clock} (ontime : OnTime epochMs delays clock tick sync)
    (timely : Timely epochMs delays ((clock, tick), sync) (.task dns udp))
    (happened : clock.statement dns udp = some next) :
    OnTime epochMs delays next (note clock (.task dns udp) tick)
      (noteSync (clock, tick) (.task dns udp) sync) := by
  have slot := (statement_slot happened).1
  have waiting := statement_waiting happened
  have frame := statement_frame happened
  have comes := statement_comes happened
  obtain ⟨state, persistent, hold, pc, locals, systemMs, bootMs⟩ := clock
  cases pc with
  | readNtpTime =>
    cases happened
    exact { ontime with
      slot := fun waits => ontime.slot (waiting waits)
      fetchedPast := ontime.past
      fetched := fun _ => ontime.slot (.inr (.inr rfl)) }
  | setTimeOfDay =>
    cases happened
    have fetched := ontime.fetched rfl
    have past := ontime.fetchedPast
    have soon := timely.2 locals.tvSec rfl
    refine { ontime with
      slot := fun waits => ontime.slot (waiting waits)
      fetched := nofun
      system := fun _ => ?_ }
    simp only [Late, trueMs] at fetched past soon ⊢
    omega
  | readTime =>
    cases happened
    refine { ontime with
      slot := fun waits => ontime.slot (waiting waits)
      fetched := nofun
      read := fun set => ?_ }
    have system := ontime.system set
    simp only [Late, trueMs, note, Clock.time] at system ⊢
    omega
  | _ =>
    apply ontime.frame
    · exact note_times dns udp tick nofun
    · exact frame.bootMs
    · exact waiting
    · exact slot
    · intro sets
      rw [sets] at comes
      cases comes
    · exact frame.systemMs nofun

theorem step_onTime (ontime : OnTime epochMs delays state.1.1 state.1.2 state.2)
    (timely : Timely epochMs delays state event) (stepped : timed.step state event = some next) :
    OnTime epochMs delays next.1.1 next.1.2 next.2 := by
  obtain ⟨⟨clock, tick⟩, sync⟩ := state
  obtain ⟨⟨reached, tickAfter⟩, syncAfter⟩ := next
  obtain ⟨ticked, rfl⟩ := StepSystem.observed_step stepped
  obtain ⟨happened, rfl⟩ := StepSystem.observed_step ticked
  rcases step_cases happened with ⟨interrupting, -⟩ | ⟨dns, udp, rfl, ran⟩
  · rw [note_interrupt interrupting]
    exact interrupt_onTime ontime interrupting timely happened
  · exact statement_onTime ontime timely ran

/-! ## Every run -/

/-- In every run of a started clock in which replies and the task are late by no
more than this, each call that handles a tick after the system time has been set,
and that does not reset, returns with `DDDHHMM` of a local time on the panels that
was the true one, to the second, at most two seconds and these delays before the
tick. -/
theorem panels_show_true_time (started : Started clock)
    (timely : timed.EveryStep (Timely epochMs delays) ((clock, .none), .none) events)
    (ran : timed.run ((clock, .none), .none) events = some ((reached, tick), sync))
    (isSet : sync.tickIsSet = true) (last : reached.pc = .firstTickDone)
    (returns : running.step reached (.task dns udp) = some next) :
    ∃ second text, Reads (localTime second clock.state.flashConfig) text ∧
      (∀ ii : Fin numLcds, (next.state.lcdStates ii).digit = text[ii.val]?) ∧
      1000 * second ≤ trueMs epochMs tick.bootMs ∧
      trueMs epochMs tick.bootMs < 1000 * second + 2000 + (delays.reply + delays.task : Nat) := by
  have ontime : OnTime epochMs delays reached tick sync :=
    @StepSystem.run_invariant_where _ _ timed _ _ _
      (fun state => OnTime epochMs delays state.1.1 state.1.2 state.2) _
      (fun _ _ _ => step_onTime) (started_onTime started) timely ran
  have seen := StepSystem.run_of_observed ran
  have inv := run_inv started seen
  have away : ∀ ii, reached.pc ≠ .draw ii := by simp [last]
  have frame := statement_frame returns
  have localEpoch : reached.locals.localEpoch = localTime tick.utcNow clock.state.flashConfig := by
    rw [inv.read.localEpoch (by simp [handling, last]), run_flashConfig seen]
    unfold calculateLocalTime localTime
    dsimp only
    split <;> omega
  refine ⟨tick.utcNow, digitText reached.locals.localEpoch, ?_, fun ii => ?_, ?_⟩
  · rw [← localEpoch]
    exact digitText_reads _
  · rw [frame.digits away, (inv.drawn (by simp [drawn, handling, last]) ii).2, lcdDigits_eq]
  · have read := ontime.read isSet
    simp only [Late] at read
    omega

/-- After the first request, a time and a tick arrive, and 30 milliseconds pass before
the task comes to them. -/
def firstTime : List Event :=
  let task := Event.task (.resolved 1) .sent
  List.replicate 4 task ++ [.elapse 1300, .ntpTimer 1710036000, .clockTimer 1, .elapse 30] ++
    List.replicate 22 task

theorem first_tick_shows_true_time :
    ∃ reached tick sync next,
      timed.run ((coldStart, .none), .none) firstTime = some ((reached, tick), sync) ∧
      running.step reached (.task .inProgress .sent) = some next ∧
      trueMs 1710035999400 tick.bootMs = 1710036000730 ∧
      ∃ second text, Reads (localTime second plainFlash) text ∧
        (∀ ii : Fin numLcds, (next.state.lcdStates ii).digit = text[ii.val]?) ∧
        1000 * second ≤ 1710036000730 ∧ 1710036000730 < 1000 * second + 2000 + 750 := by
  have timely : timed.EveryStep (Timely 1710035999400 ⟨700, 50⟩) ((coldStart, .none), .none)
      firstTime := by decide +kernel
  obtain ⟨reached, tick, sync, next, ran, isSet, last, returns, then_⟩ : ∃ reached tick sync next,
      timed.run ((coldStart, .none), .none) firstTime = some ((reached, tick), sync) ∧
        sync.tickIsSet = true ∧ reached.pc = .firstTickDone ∧
        running.step reached (.task .inProgress .sent) = some next ∧
        trueMs 1710035999400 tick.bootMs = 1710036000730 := ⟨_, _, _, _, rfl, rfl, rfl, rfl, rfl⟩
  obtain ⟨second, text, reads, shown, begun, recent⟩ :=
    panels_show_true_time coldStart_started timely ran isSet last returns
  rw [then_] at begun recent
  exact ⟨reached, tick, sync, next, ran, returns, then_, second, text, reads, shown, begun, recent⟩

end PicowDayClock.TrueTime
