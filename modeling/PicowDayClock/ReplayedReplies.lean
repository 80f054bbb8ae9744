import PicowDayClock.BackOff
import PicowDayClock.NtpHandover
import PicowDayClock.NtpOutcomes

/-! Replies that nobody asked for. `ntp_recv_callback` never looks at the status,
so a late, repeated or replayed datagram is handled like the first answer. What
holds is a count: no time sets the clock twice, and no kiss of death doubles the
interval twice. -/
namespace PicowDayClock.ReplayedReplies
open Boot Ntp ClockTask ClockFrames BackOff

/-! ## The observer -/

/-- How often the clock asks for the time, what arrives, and what it leads to. -/
structure Counts where
  requests : Nat
  times : Nat
  kods : Nat
  sets : Nat
  doublings : Nat
  deriving DecidableEq

/-- Nothing counted yet. -/
def Counts.zero : Counts := ⟨0, 0, 0, 0, 0⟩

/-- The event is the call of `ntp_request_async`. -/
def requests (clock : Clock) : Event → Bool
  | .task _ _ => clock.pc = .requestStart
  | _ => false

/-- The event delivers a kiss of death. -/
def kodArrives (clock : Clock) : Event → Bool
  | .recv datagram => (ntpOutcome clock.state.ntpState datagram).status = .kod
  | _ => false

/-- The event doubles the interval. -/
def doubles (clock : Clock) : Event → Bool
  | .task _ _ => decide (HandlesKod clock)
  | _ => false

/-- What the observer counts at an event. -/
def note (clock : Clock) (event : Event) (counts : Counts) : Counts where
  requests := counts.requests + (requests clock event).toNat
  times := counts.times + (NtpHandover.deliveredBy clock event).toList.length
  kods := counts.kods + (kodArrives clock event).toNat
  sets := counts.sets + (NtpHandover.appliedBy clock event).toList.length
  doublings := counts.doublings + (doubles clock event).toNat

/-- The clock while it is observed. -/
def counted : StepSystem (Clock × Counts) Event := running.observed note

/-! ## Times -/

/-- The times that may still set the clock: one behind the flag, and one between
lowering the flag and `settimeofday`. -/
def timesWaiting (clock : Clock) : Nat :=
  (if clock.state.ntpTimeUpdated then 1 else 0) +
    match clock.pc with
    | .readNtpTime | .setTimeOfDay => 1
    | _ => 0

theorem unused_view (clock : Clock) (times : NtpHandover.Times) :
    (NtpHandover.view (clock, times)).unused = timesWaiting clock := by
  unfold Mailbox.unused timesWaiting NtpHandover.view NtpHandover.stage
  cases clock.pc <;> rfl

/-- With notes that fit, a step sets the clock only with a time that was waiting
or that it delivers. -/
theorem step_sets {clock next : Clock} {event : Event}
    (sound : Mailbox.Sound (NtpHandover.view (clock, times)))
    (happened : running.step clock event = some next) :
    Mailbox.Sound (NtpHandover.view (next, NtpHandover.note clock event times)) ∧
      (NtpHandover.appliedBy clock event).toList.length + timesWaiting next ≤
        timesWaiting clock + (NtpHandover.deliveredBy clock event).toList.length := by
  have stepped : NtpHandover.handover.step (clock, times) event =
      some (next, NtpHandover.note clock event times) :=
    StepSystem.observed_of_step times happened
  have used : (NtpHandover.view (next, NtpHandover.note clock event times)).used.length =
      (NtpHandover.appliedBy clock event).toList.length + times.applied.length :=
    List.length_append
  have delivered : (NtpHandover.view (next, NtpHandover.note clock event times)).delivered.length =
      (NtpHandover.deliveredBy clock event).toList.length + times.delivered.length :=
    List.length_append
  rw [← unused_view clock times, ← unused_view next (NtpHandover.note clock event times)]
  rcases NtpHandover.step_agrees stepped with unseen | ⟨action, acts⟩
  · rw [unseen] at used delivered ⊢
    dsimp only [NtpHandover.view] at used delivered
    exact ⟨sound, by omega⟩
  · have counts := Mailbox.step_unused sound acts
    rw [used, delivered] at counts
    dsimp only [NtpHandover.view] at counts
    refine ⟨Mailbox.step_sound sound acts, ?_⟩
    dsimp only [NtpHandover.view]
    omega

/-! ## Kisses of death -/

/-- The statements that are on their way to overwriting the status. -/
def overwrites : Pc → Bool
  | .writeIdle | .markRequested | .requestStart | .requestPending => true
  | _ => false

/-- A kiss of death may still double the interval: it is in the snapshot that is
being decided on, or stored, and no statement is about to overwrite it. -/
def KodWaits (clock : Clock) : Prop :=
  overwrites clock.pc = false ∧
    ((NtpOutcomes.deciding clock.pc = true ∧ clock.locals.ntpAtomicState.status = .kod) ∨
      clock.state.ntpState.status = .kod)

instance (clock : Clock) : Decidable (KodWaits clock) := inferInstanceAs (Decidable (_ ∧ _))

/-- The kiss of death that the check of the status acts on was waiting, and none
waits behind it. -/
theorem handlesKod_waits {clock next : Clock} (kod : HandlesKod clock)
    (happened : clock.statement dns udp = some next) : KodWaits clock ∧ ¬ KodWaits next := by
  obtain ⟨checks, status⟩ := kod
  refine ⟨⟨by simp [overwrites, checks], .inl ⟨by simp [NtpOutcomes.deciding, checks], status⟩⟩, ?_⟩
  simp only [Clock.statement, checks, Option.some.injEq] at happened
  subst happened
  simp [KodWaits, Clock.checkStatus, status, overwrites]

/-- The statements that leave the status alone keep what waits, or drop it. -/
theorem kodWaits_frame {clock next : Clock} (happened : clock.statement dns udp = some next)
    (stored : next.state.ntpState.status = clock.state.ntpState.status)
    (open_ : overwrites clock.pc = false) (snapping : clock.pc ≠ .snapshot)
    (waits : KodWaits next) : KodWaits clock := by
  have snapshot := ((statement_frame happened).snapshot snapping).1
  obtain ⟨-, later | later⟩ := waits
  · have within := (NtpOutcomes.deciding_enters happened later.1).resolve_right snapping
    rw [snapshot] at later
    exact ⟨open_, .inl ⟨within, later.2⟩⟩
  · rw [stored] at later
    exact ⟨open_, .inr later⟩

/-- No statement makes up a kiss of death. -/
theorem statement_kodWaits {clock next : Clock} (happened : clock.statement dns udp = some next)
    (waits : KodWaits next) : KodWaits clock := by
  have frame := statement_frame happened
  have follows := statement_follows happened
  unfold Follows at follows
  cases at_pc : clock.pc with
  | snapshot =>
    simp only [Clock.statement, at_pc, Option.some.injEq] at happened
    subst happened
    have stored : clock.state.ntpState.status = .kod := waits.2.elim (fun held => held.2) id
    exact ⟨by simp [overwrites, at_pc], .inr stored⟩
  | writeIdle =>
    simp only [Clock.statement, at_pc, Option.some.injEq] at happened
    subst happened
    simp [KodWaits, NtpOutcomes.deciding, ntpAtomicStatus] at waits
  | requestPending =>
    simp only [Clock.statement, at_pc, Option.some.injEq] at happened
    subst happened
    simp [KodWaits, NtpOutcomes.deciding, ntpAtomicStatus] at waits
  | markRequested | requestStart =>
    simp only [at_pc] at follows
    simp [KodWaits, overwrites, follows] at waits
  | requestResolve =>
    have stored := (NtpOutcomes.requestResolve_stores at_pc happened).1
    exact kodWaits_frame happened stored (by simp [overwrites, at_pc]) (by simp [at_pc]) waits
  | requestSend =>
    have stores := ntpStartUdpRequest_stores clock.state.ntpState udp
    simp only [Clock.statement, at_pc, Option.some.injEq] at happened
    subst happened
    refine ⟨by simp [overwrites, at_pc], .inr ?_⟩
    have stored : (ntpStartUdpRequest clock.state.ntpState udp).status = .kod :=
      waits.2.elim (fun held => by
        have decides := held.1
        simp only [Clock.requestDone, Clock.goto] at decides
        split at decides <;> cases decides) id
    cases failed : udpError udp with
    | none =>
      simp only [failed] at stores
      rwa [stores] at stored
    | some error =>
      simp [failed, stored] at stores
  | reset ntpError wifiError | accessPoint => simp [at_pc] at follows
  | _ =>
    have stored := congrArg NtpState.status (frame.ntpState (by simp [storesNtp, at_pc]))
    exact kodWaits_frame happened stored (by simp [overwrites, at_pc]) (by simp [at_pc]) waits

/-- A callback makes a kiss of death wait only by delivering one. -/
theorem interrupt_kodWaits {clock next : Clock} {event : Event}
    (interrupting : interrupts event = true)
    (happened : running.step clock event = some next) (waits : KodWaits next) :
    KodWaits clock ∨ kodArrives clock event = true := by
  have frame := interrupt_frame interrupting happened
  have stays : next.state.ntpState.status = clock.state.ntpState.status → KodWaits clock := by
    intro stored
    rw [KodWaits, frame.pc, frame.locals, stored] at waits
    exact waits
  cases event with
  | task dns udp => cases interrupting
  | recv datagram =>
    cases happened
    obtain ⟨open_, held | stored⟩ := waits
    · exact .inl ⟨open_, .inl held⟩
    · right
      rw [deliver_ntpState, (ntpRecvCallback_stores _ datagram).1] at stored
      exact decide_eq_true stored
  | dns ipaddr udp =>
    cases happened
    left
    have stores := ntpDnsCallback_stores clock.state.ntpState ipaddr udp
    cases failed : dnsError ipaddr udp with
    | none =>
      simp only [failed] at stores
      exact stays stores.1
    | some error =>
      simp only [failed] at stores
      obtain ⟨open_, held | stored⟩ := waits
      · exact ⟨open_, .inl held⟩
      · simp [stores.1] at stored
  | ntpTimer ntpTime | elapse ms =>
    cases happened
    exact .inl (stays rfl)
  | clockTimer gpio =>
    cases happened
    obtain ⟨triggered, ticked⟩ :=
      clockTimerCallback_eq clock.state clock.buttonHoldSeconds gpio
    left
    apply stays
    rw [ticked]

/-- How many kisses of death may still double the interval. -/
def kodsWaiting (clock : Clock) : Nat := (decide (KodWaits clock)).toNat

/-- A step doubles the interval only for a kiss of death that was waiting. -/
theorem step_doublings {clock next : Clock} {event : Event}
    (happened : running.step clock event = some next) :
    (doubles clock event).toNat + kodsWaiting next ≤
      kodsWaiting clock + (kodArrives clock event).toNat := by
  rcases step_cases happened with ⟨interrupting, -⟩ | ⟨dns, udp, rfl, stepped⟩
  · have quiet : doubles clock event = false := by
      cases event with
      | task dns udp => cases interrupting
      | _ => rfl
    have arrives := interrupt_kodWaits interrupting happened
    unfold kodsWaiting
    grind [Bool.toNat]
  · have stays := statement_kodWaits stepped
    have acts := fun kod => handlesKod_waits kod stepped
    unfold kodsWaiting doubles
    by_cases kod : HandlesKod clock
    · simp [kod, acts kod]
    · grind [Bool.toNat]

/-! ## Every stretch of a run -/

/-- What a datagram does to the clock: its status and error are stored and its
time, if it has one, is handed over, whatever the status was. -/
structure Received (clock : Clock) (datagram : Datagram) (next : Clock) : Prop where
  status : next.state.ntpState.status = (ntpOutcome clock.state.ntpState datagram).status
  error : next.state.ntpState.error = (ntpOutcome clock.state.ntpState datagram).error
  time : (next.state.ntpTime, next.state.ntpTimeUpdated) =
    match (ntpOutcome clock.state.ntpState datagram).time with
    | some ntpTime => (ntpTime, true)
    | none => (clock.state.ntpTime, clock.state.ntpTimeUpdated)
  /-- Only the address and the port of the server decide. -/
  alike : ∀ state : NtpState, state.ntpServerAddress = clock.state.ntpState.ntpServerAddress →
    state.ntpPort = clock.state.ntpState.ntpPort →
    ntpOutcome state datagram = ntpOutcome clock.state.ntpState datagram

theorem recv_received {clock next : Clock} {datagram : Datagram}
    (happened : running.step clock (.recv datagram) = some next) :
    Received clock datagram next := by
  cases happened
  obtain ⟨status, error⟩ := ntpRecvCallback_stores clock.state.ntpState datagram
  refine ⟨?_, ?_, ?_, ?_⟩
  · rw [deliver_ntpState]
    exact status
  · rw [deliver_ntpState]
    exact error
  · dsimp only [ntpRecvCallback]
    cases (ntpOutcome clock.state.ntpState datagram).time <;> rfl
  · intro state address port
    simp only [ntpOutcome, address, port]

/-- What holds of a clock and its counts, some way behind where counting began. -/
structure Inv (begun : Clock) (clock : Clock) (counts : Counts) : Prop where
  sound : ∃ times, Mailbox.Sound (NtpHandover.view (clock, times))
  sets : counts.sets + timesWaiting clock ≤ timesWaiting begun + counts.times
  doublings : counts.doublings + kodsWaiting clock ≤ kodsWaiting begun + counts.kods
  interval : clock.state.ntpInterval = begun.state.ntpInterval * 2 ^ counts.doublings

/-- The interval is doubled where a doubling is counted. -/
theorem step_interval {clock next : Clock} {event : Event}
    (happened : running.step clock event = some next) :
    next.state.ntpInterval =
      if doubles clock event then clock.state.ntpInterval * 2 else clock.state.ntpInterval := by
  rcases step_cases happened with ⟨interrupting, frame⟩ | ⟨dns, udp, rfl, stepped⟩
  · cases event with
    | task dns udp => cases interrupting
    | _ => exact frame.ntpInterval
  · by_cases kod : HandlesKod clock
    · obtain ⟨checked, ran, doubled⟩ := handlesKod_step kod dns udp
      cases ran.symm.trans happened
      simp [doubles, kod, doubled]
    · have same := (statement_ntpInterval stepped).resolve_right fun doubled => kod doubled.1
      simp [doubles, kod, same]

theorem step_inv {begun : Clock} {pair next : Clock × Counts} (inv : Inv begun pair.1 pair.2)
    (stepped : counted.step pair event = some next) : Inv begun next.1 next.2 := by
  obtain ⟨clock, counts⟩ := pair
  obtain ⟨reached, countsAfter⟩ := next
  obtain ⟨happened, rfl⟩ := StepSystem.observed_step stepped
  dsimp only at inv happened ⊢
  obtain ⟨times, sound⟩ := inv.sound
  obtain ⟨soundAfter, sets⟩ := step_sets sound happened
  have doublings := step_doublings happened
  have before := inv.sets
  have doubled := inv.doublings
  refine ⟨⟨_, soundAfter⟩, ?_, ?_, ?_⟩
  · dsimp only [note]
    omega
  · dsimp only [note]
    omega
  · rw [step_interval happened, inv.interval]
    dsimp only [note]
    cases doubles clock event with
    | false => rfl
    | true =>
      rw [if_pos rfl, UInt32.mul_assoc]
      rfl

/-- What `ntp_recv_callback` does with a datagram never depends on the status.
In every stretch of a run, between two requests as anywhere else, the clock is
set at most once for each time that arrives in it and for each that was waiting
at its start, and the interval is doubled at most once for each kiss of death
that arrives in it and for one that was waiting, of which a request leaves none. -/
theorem replies_count_once (started : Started clock)
    (ran : running.run clock events = some begun)
    (further : counted.run (begun, .zero) stretch = some (reached, counts)) :
    (∀ datagram next, running.step reached (.recv datagram) = some next →
      Received reached datagram next) ∧
    counts.sets ≤ counts.times + timesWaiting begun ∧
    counts.doublings ≤ counts.kods + kodsWaiting begun ∧
    (begun.pc = .requestStart → kodsWaiting begun = 0) ∧
    reached.state.ntpInterval = begun.state.ntpInterval * 2 ^ counts.doublings := by
  obtain ⟨times, observed⟩ := StepSystem.observed_run NtpHandover.note ⟨[], []⟩ ran
  have first : Inv begun begun .zero := by
    refine ⟨⟨times, NtpHandover.run_sound started observed⟩, ?_, ?_, ?_⟩
    · simp [Counts.zero]
    · simp [Counts.zero]
    · exact (UInt32.mul_one _).symm
  have inv : Inv begun reached counts :=
    @StepSystem.run_invariant _ _ counted _ _ _ (fun pair => Inv begun pair.1 pair.2)
      (fun _ _ _ inv stepped => step_inv inv stepped) first further
  refine ⟨fun datagram next happened => recv_received happened, ?_, ?_, ?_, inv.interval⟩
  · have sets := inv.sets
    omega
  · have doublings := inv.doublings
    omega
  · intro requesting
    simp [kodsWaiting, KodWaits, overwrites, requesting]

/-- A valid reply from the server, of February 2036. -/
def reply : Datagram := ⟨1, 123, [0x24, 1] ++ List.replicate 46 0⟩

/-- The first request, its answer, and the call that handles it. -/
def answered : List Event :=
  let task := Event.task (.resolved 1) .sent
  List.replicate 4 task ++ .recv reply :: .clockTimer 1 :: List.replicate 24 task

/-- The same reply arrives again while the client is idle. -/
def replayed : List Event :=
  .elapse 100000 :: .recv reply :: List.replicate 6 (.task .inProgress .sent)

theorem replay_counts_once :
    ∃ begun reached counts, running.run coldStart answered = some begun ∧
      counted.run (begun, .zero) replayed = some (reached, counts) ∧
      counts.sets ≤ counts.times + timesWaiting begun ∧
      counts.doublings ≤ counts.kods + kodsWaiting begun := by
  obtain ⟨begun, reached, counts, ran, further⟩ : ∃ begun reached counts,
      running.run coldStart answered = some begun ∧
        counted.run (begun, .zero) replayed = some (reached, counts) := ⟨_, _, _, rfl, rfl⟩
  obtain ⟨-, sets, doublings, -⟩ := replies_count_once coldStart_started ran further
  exact ⟨begun, reached, counts, ran, further, sets, doublings⟩

/-- A reply that was used to set the clock sets it back a hundred seconds later,
without another request. A kiss of death that is sent twice doubles the interval
twice. -/
theorem replay_sets_clock_back :
    (∃ idle counts, counted.run (coldStart, .zero) answered = some (idle, counts) ∧
      idle.pc = .returned ∧ idle.state.ntpState.status = .idle ∧
      idle.systemMs = 2085978496000 ∧ counts.requests = 1 ∧ counts.sets = 1) ∧
    (∃ hit counts, counted.run (coldStart, .zero) (answered ++ replayed.take 2) =
        some (hit, counts) ∧ counts.requests = 1 ∧ hit.systemMs = 2085978596000 ∧
      hit.state.ntpState.status = .success ∧ hit.state.ntpTimeUpdated = true) ∧
    (∃ reached counts, counted.run (coldStart, .zero) (answered ++ replayed) =
        some (reached, counts) ∧ counts.requests = 1 ∧ counts.sets = 2 ∧
      reached.systemMs = 2085978496000) ∧
    (∃ reached counts, counted.run (coldStart, .zero) (kods 2) = some (reached, counts) ∧
      counts.requests = 1 ∧ counts.doublings = 2) :=
  ⟨⟨_, _, rfl, rfl, rfl, rfl, rfl, rfl⟩, ⟨_, _, rfl, rfl, rfl, rfl, rfl⟩,
    ⟨_, _, rfl, rfl, rfl, rfl⟩, ⟨_, _, rfl, rfl, rfl⟩⟩

end PicowDayClock.ReplayedReplies
