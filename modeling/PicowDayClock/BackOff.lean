import PicowDayClock.ClockFrames

/-! The back-off of the NTP client. Every kiss of death doubles an interval of 32
bits, without a limit; as long as the doubling fits, no interval is shorter than
the one before and no request comes early. -/
namespace PicowDayClock.BackOff
open Boot Ntp ClockTask ClockFrames

/-- A doubled interval is not smaller exactly while it fits into 32 bits. -/
theorem double_grows_iff {interval : UInt32} (positive : 0 < interval.toNat) :
    interval ≤ interval * 2 ↔ interval.toNat < 2 ^ 31 := by
  have bound := interval.toNat_lt
  rw [UInt32.le_iff_toNat_le, UInt32.toNat_mul]
  change interval.toNat ≤ interval.toNat * 2 % 2 ^ 32 ↔ _
  omega

theorem double_toNat {interval : UInt32} (fits : interval.toNat < 2 ^ 31) :
    (interval * 2).toNat = interval.toNat * 2 := by
  rw [UInt32.toNat_mul]
  change interval.toNat * 2 % 2 ^ 32 = _
  omega

/-- The check of the status handles a kiss of death next. -/
def HandlesKod (clock : Clock) : Prop :=
  clock.pc = .checkStatus ∧ clock.locals.ntpAtomicState.status = .kod

/-- A kiss of death is handled only while the interval can be doubled. -/
def Fits (clock : Clock) : Event → Prop
  | .task _ _ => HandlesKod clock → clock.state.ntpInterval.toNat < 2 ^ 31
  | _ => True

instance (clock : Clock) : Decidable (HandlesKod clock) := inferInstanceAs (Decidable (_ ∧ _))

instance (clock : Clock) : ∀ event, Decidable (Fits clock event)
  | .task _ _ => inferInstanceAs (Decidable (_ → _))
  | .recv _ | .dns _ _ | .ntpTimer _ | .clockTimer _ | .elapse _ => instDecidableTrue

/-- What holds of a clock whose doublings have all fitted. -/
structure Inv (clock : Clock) : Prop where
  floor : ntpSyncIntervalSec ≤ clock.state.ntpInterval.toNat
  past : handling clock = true → clock.locals.utcNow ≤ clock.time
  due : clock.pc = .markRequested →
    (clock.state.ntpInterval.toNat : Int) ≤ clock.locals.utcNow - clock.state.ntpLastSync

/-! ## The interval -/

/-- A statement leaves the interval alone or doubles it for a kiss of death. -/
theorem statement_ntpInterval {clock next : Clock}
    (happened : clock.statement dns udp = some next) :
    next.state.ntpInterval = clock.state.ntpInterval ∨
      (HandlesKod clock ∧ next.state.ntpInterval = clock.state.ntpInterval * 2) := by
  by_cases checks : clock.pc = .checkStatus
  · simp only [Clock.statement, checks, Option.some.injEq] at happened
    subst happened
    rcases checkStatus_cases clock with on | ⟨ntpError, reset⟩ | ⟨kod, doubled⟩ | ⟨-, success⟩
    · rw [on]
      exact .inl rfl
    · rw [reset]
      exact .inl rfl
    · rw [doubled]
      exact .inr ⟨⟨checks, kod⟩, rfl⟩
    · rw [success]
      exact .inl rfl
  · exact .inl ((statement_frame happened).ntpInterval checks)

/-- No step shortens the interval where the doubling fits. -/
theorem step_ntpInterval {clock next : Clock} {event : Event} (fits : Fits clock event)
    (happened : running.step clock event = some next) :
    clock.state.ntpInterval.toNat ≤ next.state.ntpInterval.toNat := by
  rcases step_cases happened with ⟨-, frame⟩ | ⟨dns, udp, rfl, stepped⟩
  · rw [frame.ntpInterval]
  · rcases statement_ntpInterval stepped with same | ⟨kod, doubled⟩
    · rw [same]
    · rw [doubled, double_toNat (fits kod)]
      omega

/-! ## The time -/

theorem statement_inv {clock next : Clock} (inv : Inv clock)
    (fits : HandlesKod clock → clock.state.ntpInterval.toNat < 2 ^ 31)
    (happened : clock.statement dns udp = some next) : Inv next := by
  have frame := statement_frame happened
  have longer := @step_ntpInterval clock next (.task dns udp) fits happened
  refine ⟨Nat.le_trans inv.floor longer, ?_, ?_⟩
  · intro after
    rcases handling_enters happened after with within | reading
    · obtain ⟨-, setting, -, reading⟩ := handling_away within
      rw [(frame.times reading).1, Clock.time, frame.systemMs setting]
      exact inv.past within
    · simp only [Clock.statement, reading, Option.some.injEq] at happened
      subst happened
      exact Int.le_refl _
  · intro requests
    have testing := statement_comes happened
    rw [requests] at testing
    obtain ⟨rfl, -, due⟩ := testInterval_asks testing happened requests
    exact due

theorem step_inv {clock next : Clock} {event : Event} (inv : Inv clock) (fits : Fits clock event)
    (happened : running.step clock event = some next) : Inv next := by
  rcases step_cases happened with ⟨-, frame⟩ | ⟨dns, udp, rfl, stepped⟩
  · refine ⟨by rw [frame.ntpInterval]; exact inv.floor, fun after => ?_, ?_⟩
    · rw [handling, frame.pc, frame.locals] at after
      have earlier := inv.past after
      have later := frame.later.1
      rw [frame.locals]
      unfold Clock.time at earlier ⊢
      omega
    · rw [frame.pc, frame.locals, frame.ntpInterval, frame.ntpLastSync]
      exact inv.due
  · exact statement_inv inv fits stepped

/-- `clock_init` sets the usual interval. -/
theorem started_inv (started : Started clock) : Inv clock := by
  have begins := started_begins started
  refine ⟨?_, ?_, ?_⟩
  · rw [begins.ntpInterval]
    exact Nat.le_refl _
  · simp [handling, begins.pc, begins.starting]
  · simp [begins.pc]

/-! ## Every run -/

/-- The step respects the back-off: the interval stays at or above the usual
one, handling a kiss of death does not shorten it, and a request starts only
when that many seconds of system time have passed since the last
synchronisation. -/
def Respects (clock : Clock) (event : Event) : Prop :=
  ∀ next ∈ running.step clock event,
    ntpSyncIntervalSec ≤ next.state.ntpInterval.toNat ∧
      (HandlesKod clock → clock.state.ntpInterval ≤ next.state.ntpInterval) ∧
      (clock.pc ≠ .requestStart → next.pc = .requestStart →
        (clock.state.ntpInterval.toNat : Int) ≤ clock.time - clock.state.ntpLastSync)

theorem Inv.waits {clock next : Clock} {event : Event} (inv : Inv clock)
    (happened : running.step clock event = some next) (before : clock.pc ≠ .requestStart)
    (starts : next.pc = .requestStart) :
    (clock.state.ntpInterval.toNat : Int) ≤ clock.time - clock.state.ntpLastSync := by
  rcases step_cases happened with ⟨-, frame⟩ | ⟨dns, udp, rfl, stepped⟩
  · exact absurd (frame.pc ▸ starts) before
  · have marking : clock.pc = .markRequested := by
      have comes := statement_comes stepped
      rwa [starts] at comes
    have due := inv.due marking
    have past := inv.past (by simp [handling, marking])
    omega

/-- Handling a kiss of death doubles the interval. -/
theorem handlesKod_step {clock : Clock} (kod : HandlesKod clock) (dns : DnsReply) (udp : UdpReply) :
    ∃ next, running.step clock (.task dns udp) = some next ∧
      next.state.ntpInterval = clock.state.ntpInterval * 2 := by
  obtain ⟨checks, status⟩ := kod
  refine ⟨clock.checkStatus, ?_, ?_⟩
  · simp [running, Clock.statement, checks]
  · simp [Clock.checkStatus, status]

/-- With the invariant, a step respects the back-off exactly if it does not
double an interval that is too long for it. -/
theorem respects_iff_fits {clock : Clock} {event : Event} (inv : Inv clock) :
    Respects clock event ↔ Fits clock event := by
  have positive : 0 < clock.state.ntpInterval.toNat := Nat.lt_of_lt_of_le (by decide) inv.floor
  constructor
  · intro respects
    cases event with
    | task dns udp =>
      intro kod
      obtain ⟨next, happened, doubled⟩ := handlesKod_step kod dns udp
      have grows := (respects next happened).2.1 kod
      rw [doubled] at grows
      exact (double_grows_iff positive).mp grows
    | _ => trivial
  · intro fits next happened
    have longer := step_ntpInterval fits happened
    exact ⟨Nat.le_trans inv.floor longer, fun _ => UInt32.le_iff_toNat_le.mpr longer,
      inv.waits happened⟩

theorem everyStep_respects_iff (inv : Inv clock) (events : List Event) :
    running.EveryStep Respects clock events ↔ running.EveryStep Fits clock events :=
  StepSystem.everyStep_iff_where (fun _ _ _ inv fits happened => step_inv inv fits happened)
    (fun _ _ inv => respects_iff_fits inv) inv

/-- The steps of a run of a started clock all respect the back-off exactly if no
kiss of death is handled while the interval is 2^31 seconds or longer. -/
theorem back_off_is_respected_iff (started : Started clock) (events : List Event) :
    running.EveryStep Respects clock events ↔ running.EveryStep Fits clock events :=
  everyStep_respects_iff (started_inv started) events

/-! ## Too many kisses of death -/

/-- The first tick, with its request still under way. -/
def opening : List Event :=
  let task := Event.task (.resolved 1) .sent
  List.replicate 4 task ++ .clockTimer 1 :: List.replicate 19 task

/-- A kiss of death arrives and the next tick handles it. -/
def kodTick : List Event :=
  .recv ⟨1, 123, [0x24, 0] ++ List.replicate 46 0⟩ :: .clockTimer 1 ::
    List.replicate 13 (.task (.resolved 1) .sent)

def kods (count : Nat) : List Event := opening ++ (List.replicate count kodTick).flatten

theorem fifteen_kods_are_respected : running.EveryStep Respects coldStart (kods 15) := by
  have fits : running.EveryStep Fits coldStart (kods 15) := by decide +kernel
  exact (back_off_is_respected_iff coldStart_started (kods 15)).mpr fits

/-- The sixteenth wraps the interval to less than half of what it was, and after
twenty-five it is 0. -/
theorem sixteenth_kod_shortens :
    (running.run coldStart (kods 15)).map (·.state.ntpInterval.toNat) = some 2831155200 ∧
      (running.run coldStart (kods 16)).map (·.state.ntpInterval.toNat) = some 1367343104 ∧
      (running.run coldStart (kods 25)).map (·.state.ntpInterval.toNat) = some 0 ∧
      ¬ running.EveryStep Respects coldStart (kods 16) := by
  refine ⟨by decide +kernel, by decide +kernel, by decide +kernel, fun respects => ?_⟩
  have fits := (everyStep_respects_iff (started_inv coldStart_started) (kods 16)).mp respects
  have unfit : ¬ running.EveryStep Fits coldStart (kods 16) := by decide +kernel
  exact unfit fits

end PicowDayClock.BackOff
