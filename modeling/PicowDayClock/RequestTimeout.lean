import PicowDayClock.NtpOutcomes

/-! The timeout of an NTP request. The start of a request is kept in 32 bits of
the milliseconds since boot; a difference of two of them is exact for 49 days,
over any wrap of the counter, if the start was stored. -/
namespace PicowDayClock.RequestTimeout
open Boot Ntp ClockTask ClockFrames
open NtpOutcomes (deciding deciding_enters)

/-! ## The observer -/

/-- The time since boot at which the latest request read the counter, in full. -/
def note (clock : Clock) (event : Event) (requestedMs : Nat) : Nat :=
  match event, clock.pc with
  | .task _ _, .requestStart => clock.bootMs
  | _, _ => requestedMs

/-- The clock while its requests are observed. -/
def requests : StepSystem (Clock × Nat) Event := running.observed note

/-- A request that stores its start does store it: 0 is stored only over 0. -/
def Recorded (pair : Clock × Nat) : Event → Prop
  | .task _ _ => pair.1.pc = .requestPending →
      pair.1.locals.requestStartMs ≠ 0 ∨ pair.1.state.ntpState.requestStartMs = 0
  | _ => True

instance (pair : Clock × Nat) : ∀ event, Decidable (Recorded pair event)
  | .task _ _ => inferInstanceAs (Decidable (_ → _))
  | .recv _ | .dns _ _ | .ntpTimer _ | .clockTimer _ | .elapse _ => instDecidableTrue

/-! ## The counter -/

/-- Two readings of the counter give the time between them, if it fits. -/
theorem msSinceBoot_sub {start now : Nat} (order : start ≤ now) (near : now - start < 2 ^ 32) :
    (now.toUInt32 - start.toUInt32).toNat = now - start := by
  rw [UInt32.toNat_sub]
  change (2 ^ 32 - start % 2 ^ 32 + now % 2 ^ 32) % 2 ^ 32 = now - start
  omega

/-- If it does not fit, they give less. -/
theorem msSinceBoot_sub_le {start now : Nat} (order : start ≤ now) :
    (now.toUInt32 - start.toUInt32).toNat ≤ now - start := by
  rw [UInt32.toNat_sub]
  change (2 ^ 32 - start % 2 ^ 32 + now % 2 ^ 32) % 2 ^ 32 ≤ now - start
  omega

/-- The writes of `ntp_atomic_status` with a zero time keep the stored one. -/
theorem ntpAtomicStatus_requestStartMs (state : NtpState) (status : NtpStatus)
    (error : NtpError) (ms : UInt32) :
    (ntpAtomicStatus state status error ms).requestStartMs =
      if ms ≠ 0 then ms else state.requestStartMs := rfl

/-! ## The invariant -/

/-- The clock is making a request that `clock_task` has decided on. -/
def asking (clock : Clock) : Bool :=
  match clock.pc with
  | .markRequested => true
  | .requestStart | .requestPending | .requestResolve | .requestSend => !clock.locals.starting
  | _ => false

/-- The start of the latest request is fetched by the request that is about to store
it. If it is a start that is known to be stored, it is the one that is stored, or in the
snapshot. -/
structure Inv (Known : Nat → Prop) (clock : Clock) (requestedMs : Nat) : Prop where
  past : requestedMs ≤ clock.bootMs
  stored : Known requestedMs → clock.pc ≠ .requestPending →
    clock.state.ntpState.requestStartMs = requestedMs.toUInt32
  fetched : clock.pc = .requestPending → clock.locals.requestStartMs = requestedMs.toUInt32
  snapshot : Known requestedMs → deciding clock.pc = true →
    clock.locals.ntpAtomicState.requestStartMs = requestedMs.toUInt32
  idle : asking clock = true → clock.locals.ntpAtomicState.status = .idle

/-- Only an idle client is asked again. -/
theorem asking_enters {clock next : Clock} (happened : clock.statement dns udp = some next)
    (after : asking next = true) :
    asking clock = true ∨
      (clock.pc = .testInterval ∧ clock.locals.ntpAtomicState.status = .idle) := by
  have follows := statement_follows happened
  have frame := statement_frame happened
  unfold Follows at follows
  cases at_pc : clock.pc with
  | testInterval =>
    simp only [at_pc] at follows
    rcases follows with asks | done
    · exact .inr ⟨rfl, (testInterval_asks at_pc happened asks).2.1⟩
    · simp [asking, done] at after
  | requestStart | requestPending | requestResolve | requestSend =>
    left
    have same := (frame.snapshot (by simp [at_pc])).2
    cases starting : clock.locals.starting with
    | false => simp [asking, at_pc, starting]
    | true =>
      simp only [at_pc, starting] at follows
      rw [starting] at same
      grind [asking]
  | _ => grind [asking]

/-- Only a request writes the start. -/
theorem statement_requestStartMs {clock next : Clock}
    (happened : clock.statement dns udp = some next) (away : clock.pc ≠ .requestPending) :
    next.state.ntpState.requestStartMs = clock.state.ntpState.requestStartMs := by
  cases at_pc : clock.pc with
  | requestPending => exact absurd at_pc away
  | writeIdle =>
    simp only [Clock.statement, at_pc, Option.some.injEq] at happened
    subst happened
    rfl
  | requestResolve =>
    simp only [Clock.statement, at_pc] at happened
    cases dns <;>
    · cases happened
      rfl
  | requestSend =>
    simp only [Clock.statement, at_pc, Option.some.injEq] at happened
    subst happened
    unfold Clock.requestDone ntpStartUdpRequest
    dsimp only [Clock.goto]
    split <;> rfl
  | _ => rw [(statement_frame happened).ntpState (by rw [at_pc]; rfl)]

section known

variable {Known : Nat → Prop}

/-- The request reads the counter. -/
theorem requestStart_inv {clock next : Clock} (inv : Inv Known clock requestedMs)
    (at_pc : clock.pc = .requestStart) (happened : clock.statement dns udp = some next) :
    Inv Known next (note clock (.task dns udp) requestedMs) := by
  have notes : note clock (.task dns udp) requestedMs = clock.bootMs := by
    simp only [note, at_pc]
  have idle := inv.idle
  rw [notes]
  simp only [Clock.statement, at_pc, Option.some.injEq] at happened
  subst happened
  refine ⟨Nat.le_refl _, ?_, fun _ => rfl, ?_, ?_⟩
  · simp
  · simp [deciding]
  · simpa [asking, at_pc] using idle

/-- It stores what it has read, unless that is 0. -/
theorem requestPending_inv {clock next : Clock} (inv : Inv Known clock requestedMs)
    (recorded : Known requestedMs →
      clock.locals.requestStartMs ≠ 0 ∨ clock.state.ntpState.requestStartMs = 0)
    (at_pc : clock.pc = .requestPending) (happened : clock.statement dns udp = some next) :
    Inv Known next requestedMs := by
  have idle := inv.idle
  have fetched := inv.fetched at_pc
  simp only [Clock.statement, at_pc, Option.some.injEq] at happened
  subst happened
  refine ⟨inv.past, fun known _ => ?_, ?_, ?_, ?_⟩
  · dsimp only
    rw [ntpAtomicStatus_requestStartMs, fetched]
    split
    · rfl
    · rename_i zero
      rw [not_not] at zero
      rw [zero, (recorded known).resolve_left (by rw [fetched, zero]; exact not_not.mpr rfl)]
  · simp
  · simp [deciding]
  · simpa [asking, at_pc] using idle

theorem away_inv {clock next : Clock} (inv : Inv Known clock requestedMs)
    (starting : clock.pc ≠ .requestStart) (storing : clock.pc ≠ .requestPending)
    (happened : clock.statement dns udp = some next) : Inv Known next requestedMs := by
  have frame := statement_frame happened
  refine ⟨?_, fun known _ => ?_, fun fetching => ?_, fun known after => ?_, fun after => ?_⟩
  · rw [frame.bootMs]
    exact inv.past
  · rw [statement_requestStartMs happened storing]
    exact inv.stored known storing
  · have comes := statement_comes happened
    rw [fetching] at comes
    exact absurd comes starting
  · rcases deciding_enters happened after with within | snapping
    · have away : clock.pc ≠ .snapshot := by
        intro snapping
        simp [snapping, deciding] at within
      rw [(frame.snapshot away).1]
      exact inv.snapshot known within
    · have stored := inv.stored known storing
      simp only [Clock.statement, snapping, Option.some.injEq] at happened
      subst happened
      exact stored
  · have away : clock.pc ≠ .snapshot := by
      intro snapping
      have comes := statement_follows happened
      simp only [Follows, snapping] at comes
      simp [asking, comes] at after
    rw [(frame.snapshot away).1]
    rcases asking_enters happened after with within | ⟨-, idle⟩
    · exact inv.idle within
    · exact idle

/-- Other statements take no notes. -/
theorem note_away {clock : Clock} (dns : DnsReply) (udp : UdpReply) (requestedMs : Nat)
    (starting : clock.pc ≠ .requestStart) :
    note clock (.task dns udp) requestedMs = requestedMs := by
  unfold note
  split
  · exact absurd ‹_› starting
  · rfl

theorem statement_inv {clock next : Clock} (inv : Inv Known clock requestedMs)
    (recorded : Known requestedMs → Recorded (clock, requestedMs) (.task dns udp))
    (happened : clock.statement dns udp = some next) :
    Inv Known next (note clock (.task dns udp) requestedMs) := by
  by_cases starting : clock.pc = .requestStart
  · exact requestStart_inv inv starting happened
  · rw [note_away dns udp requestedMs starting]
    by_cases storing : clock.pc = .requestPending
    · exact requestPending_inv inv (fun known => recorded known storing) storing happened
    · exact away_inv inv starting storing happened

theorem interrupt_inv {clock next : Clock} (inv : Inv Known clock requestedMs)
    (frame : Interrupt clock next) : Inv Known next requestedMs where
  past := Nat.le_trans inv.past frame.later.2
  stored := by
    rw [frame.pc, frame.requestStartMs]
    exact inv.stored
  fetched := by
    rw [frame.pc, frame.locals]
    exact inv.fetched
  snapshot := by
    rw [frame.pc, frame.locals]
    exact inv.snapshot
  idle := by
    simp only [asking, frame.pc, frame.locals]
    exact inv.idle

theorem step_inv (inv : Inv Known pair.1 pair.2) (recorded : Known pair.2 → Recorded pair event)
    (stepped : requests.step pair event = some next) : Inv Known next.1 next.2 := by
  obtain ⟨clock, requestedMs⟩ := pair
  obtain ⟨reached, notes⟩ := next
  obtain ⟨happened, rfl⟩ := StepSystem.observed_step stepped
  rcases step_cases happened with ⟨interrupting, frame⟩ | ⟨dns, udp, rfl, ran⟩
  · have unnoted : note clock event requestedMs = requestedMs := by
      cases event with
      | task dns udp => cases interrupting
      | _ => rfl
    rw [unnoted]
    exact interrupt_inv inv frame
  · exact statement_inv inv recorded ran

theorem started_inv (started : Started clock) : Inv Known clock 0 := by
  have begins := started_begins started
  refine ⟨Nat.zero_le _, fun _ _ => ?_, ?_, ?_, ?_⟩
  · rw [begins.ntpState]
    rfl
  · simp [begins.pc]
  · simp [begins.pc, deciding]
  · simp [asking, begins.pc, begins.starting]

end known

/-! ## Resets -/

/-- A statement resets the chip where it checks the status, or where it resolves
the name for a request. -/
theorem statement_resets {clock next : Clock} (happened : clock.statement dns udp = some next)
    (resets : next.pc = .reset ntpError wifiError) :
    clock.pc = .checkStatus ∨ clock.pc = .requestResolve := by
  have follows := statement_follows happened
  unfold Follows at follows
  rw [resets] at follows
  cases at_pc : clock.pc with
  | checkStatus => exact .inl rfl
  | requestResolve => exact .inr rfl
  | requestSend =>
    cases starting : clock.locals.starting <;> simp [at_pc, starting] at follows
  | _ => simp [at_pc] at follows

/-- The check of a pending request resets the chip exactly when its time is over. -/
theorem checkStatus_resets_iff {clock : Clock} {requestedMs : Nat}
    (inv : Inv (fun _ => True) clock requestedMs)
    (checking : clock.pc = .checkStatus) (pending : clock.locals.ntpAtomicState.status = .pending)
    (near : clock.bootMs - requestedMs < 2 ^ 32) (ntpError : NtpError) (wifiError : WifiError) :
    clock.checkStatus.pc = .reset ntpError wifiError ↔
      ntpError = .timeoutError ∧ wifiError = .ok ∧
        clock.state.flashConfig.ntpTimeout < clock.bootMs - requestedMs := by
  have start := inv.snapshot trivial (by rw [checking]; rfl)
  have elapsed := msSinceBoot_sub inv.past near
  simp only [Clock.checkStatus, pending, start, Clock.msSinceBoot, elapsed]
  split
  · rename_i late
    simp only [Clock.fatalReset, Pc.reset.injEq]
    constructor
    · rintro ⟨rfl, rfl⟩
      exact ⟨rfl, rfl, late⟩
    · rintro ⟨rfl, rfl, -⟩
      exact ⟨rfl, rfl⟩
  · rename_i within
    simp only [Clock.goto, reduceCtorEq, false_iff]
    rintro ⟨-, -, late⟩
    exact within late

/-- In every run of a started clock whose requests store their start, a statement
of a call that handles a tick with a pending request resets the chip exactly if
it is the check of the status and more than `ntp_timeout` milliseconds have
passed since the latest request; it then resets with the timeout as the error.
The counter of 32 bits may wrap any number of times before and in between. -/
theorem timeout_is_exact (started : Started clock)
    (recorded : requests.EveryStep Recorded (clock, 0) events)
    (ran : requests.run (clock, 0) events = some (reached, requestedMs))
    (ticking : handling reached = true)
    (pending : reached.locals.ntpAtomicState.status = .pending)
    (near : reached.bootMs - requestedMs < 2 ^ 32)
    (happened : running.step reached (.task dns udp) = some next)
    (ntpError : NtpError) (wifiError : WifiError) :
    requestedMs ≤ reached.bootMs ∧
      (next.pc = .reset ntpError wifiError ↔
        ntpError = .timeoutError ∧ wifiError = .ok ∧ reached.pc = .checkStatus ∧
          reached.state.flashConfig.ntpTimeout < reached.bootMs - requestedMs) := by
  have inv : Inv (fun _ => True) reached requestedMs :=
    @StepSystem.run_invariant_where _ _ requests _ _ _ (fun pair => Inv _ pair.1 pair.2) _
      (fun _ _ _ inv allowed stepped => step_inv inv (fun _ => allowed) stepped)
      (started_inv started) recorded ran
  refine ⟨inv.past, ?_⟩
  by_cases checking : reached.pc = .checkStatus
  · have checked : next = reached.checkStatus := by
      simpa [running, Clock.statement, checking] using happened.symm
    rw [checked, checkStatus_resets_iff inv checking pending near]
    simp only [checking, true_and]
  · simp only [checking, false_and, and_false, iff_false]
    intro resets
    rcases statement_resets happened resets with check | resolving
    · exact checking check
    · have idle := inv.idle (by simpa [asking, handling, resolving] using ticking)
      simp [pending] at idle

/-- Without an answer the time is over in the first tick after ten seconds. -/
def unanswered : List Event :=
  let task := Event.task (.resolved 1) .sent
  List.replicate 4 task ++ .elapse 10001 :: .clockTimer 1 :: List.replicate 16 task

theorem unanswered_request_times_out :
    ∃ reached requestedMs next,
      requests.run (coldStart, 0) unanswered = some (reached, requestedMs) ∧
        running.step reached (.task .inProgress .sent) = some next ∧
        next.pc = .reset .timeoutError .ok := by
  obtain ⟨reached, requestedMs, next, ran, ticking, pending, checking, now, happened⟩ :
      ∃ reached requestedMs next,
        requests.run (coldStart, 0) unanswered = some (reached, requestedMs) ∧
          handling reached = true ∧ reached.locals.ntpAtomicState.status = .pending ∧
          reached.pc = .checkStatus ∧
          (reached.bootMs - requestedMs = 10001 ∧
            reached.state.flashConfig.ntpTimeout = 10000) ∧
          running.step reached (.task .inProgress .sent) = some next :=
    ⟨_, _, _, rfl, rfl, rfl, rfl, ⟨rfl, rfl⟩, rfl⟩
  have near : reached.bootMs - requestedMs < 2 ^ 32 := by omega
  have exact_ := (timeout_is_exact coldStart_started (by decide +kernel) ran ticking pending near
    happened .timeoutError .ok).2
  exact ⟨reached, requestedMs, next, ran, happened,
    exact_.mpr ⟨rfl, rfl, checking, by omega⟩⟩

/-- A clock whose first request starts twenty seconds after the boot. -/
def lateStart : Clock := .start (clockInit (fun _ => 1) false .zero plainFlash) 0 20000

theorem lateStart_started : Started lateStart :=
  ⟨fun _ => 1, false, .zero, plainFlash, 0, 20000, rfl, rfl⟩

/-- The first request is answered. The next one is made when the counter wraps
to 0, and one second later there is a tick. -/
def wrapped : List Event :=
  let task := Event.task (.resolved 1) .sent
  List.replicate 4 task ++ .recv ⟨1, 123, [0x24, 1] ++ List.replicate 46 0⟩ :: .clockTimer 1 ::
    List.replicate 24 task ++ .elapse 4294947296 :: .clockTimer 1 :: List.replicate 24 task ++
    .elapse 1000 :: .clockTimer 1 :: List.replicate 9 task

/-- The start of that request is 0 and not stored, so that it is taken for a
request made at the start of the first one, and times out after one second. -/
theorem wrapped_request_times_out :
    Started lateStart ∧ ∃ reached requestedMs next,
      requests.run (lateStart, 0) wrapped = some (reached, requestedMs) ∧
        reached.pc = .checkStatus ∧ reached.locals.ntpAtomicState.status = .pending ∧
        reached.locals.ntpAtomicState.requestStartMs = 20000 ∧
        requestedMs = 4294967296 ∧ reached.bootMs - requestedMs = 1000 ∧
        reached.state.flashConfig.ntpTimeout = 10000 ∧
        running.step reached (.task .inProgress .sent) = some next ∧
        next.pc = .reset .timeoutError .ok :=
  ⟨lateStart_started, _, _, _, rfl, rfl, rfl, rfl, rfl, rfl, rfl, rfl, rfl⟩

end PicowDayClock.RequestTimeout
