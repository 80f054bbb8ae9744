import PicowDayClock.RequestTimeout

/-! Why the running clock resets itself, and what it tells the user about it. The
error passes from a callback to the status, from there to a snapshot, and from the
snapshot to the memory that lasts over the reset, where the next boot finds it. -/
namespace PicowDayClock.ResetCauses
open Boot Ntp ClockTask ClockFrames
open NtpOutcomes (deciding deciding_enters)
open RequestTimeout (ntpAtomicStatus_requestStartMs statement_requestStartMs)

/-- A request made at this time, in full milliseconds since boot, has been pending for
longer than the configuration allows. -/
def overdue (clock : Clock) (requestedMs : Nat) : Bool :=
  clock.locals.ntpAtomicState.status = .pending ∧
    clock.bootMs - requestedMs > clock.state.flashConfig.ntpTimeout

/-- The failure that an event is, if any. -/
def failureOf (clock : Clock) (requestedMs : Nat) : Event → Option NtpError
  | .task dns udp =>
    match clock.pc with
    | .checkStatus => if overdue clock requestedMs then some .timeoutError else none
    | .requestResolve => if dns = .failed then some .dnsError else none
    | .requestSend => udpError udp
    | _ => none
  | .recv datagram =>
    let outcome := ntpOutcome clock.state.ntpState datagram
    if outcome.status = .failed then some outcome.error else none
  | .dns ipaddr udp => dnsError ipaddr udp
  | _ => none

/-- The time of the latest request, and the failures, latest first. -/
structure Seen where
  requestedMs : Nat
  errors : List NtpError

/-- What the observer writes down. -/
def note (clock : Clock) (event : Event) (seen : Seen) : Seen where
  requestedMs := RequestTimeout.note clock event seen.requestedMs
  errors := (failureOf clock seen.requestedMs event).toList ++ seen.errors

/-- The clock while its failures are observed. -/
def failing : StepSystem (Clock × Seen) Event := running.observed note

/-- The counter has come back to 0 at this time. A request does not store such a start. -/
def WrapsToZero (requestedMs : Nat) : Prop := 0 < requestedMs ∧ requestedMs % 2 ^ 32 = 0

theorem statement_stored {clock next : Clock} (happened : clock.statement dns udp = some next)
    (failed : next.state.ntpState.status = .failed) (requestedMs : Nat) :
    failureOf clock requestedMs (.task dns udp) = some next.state.ntpState.error ∨
      clock.state.ntpState.status = .failed ∧
        next.state.ntpState.error = clock.state.ntpState.error := by
  cases at_pc : clock.pc with
  | writeIdle | requestPending =>
    simp only [Clock.statement, at_pc, Option.some.injEq] at happened
    subst happened
    simp [ntpAtomicStatus] at failed
  | requestResolve =>
    obtain ⟨status, error⟩ := NtpOutcomes.requestResolve_stores at_pc happened
    exact .inr ⟨status.symm.trans failed, error⟩
  | requestSend =>
    simp only [Clock.statement, at_pc, Option.some.injEq] at happened
    subst happened
    have stores := ntpStartUdpRequest_stores clock.state.ntpState udp
    cases stored : udpError udp with
    | none =>
      simp only [stored] at stores
      simp only [Clock.requestDone, Clock.goto, stores] at failed ⊢
      exact .inr ⟨failed, trivial⟩
    | some error =>
      simp only [stored] at stores
      left
      simp only [failureOf, at_pc, stored]
      exact congrArg some stores.2.symm
  | _ =>
    have same := (statement_frame happened).ntpState (by rw [at_pc]; rfl)
    rw [same] at failed ⊢
    exact .inr ⟨failed, rfl⟩

/-- A status that says failed was stored by the event, with the error of the failure
that the event is, or was there before. -/
theorem step_stored {clock next : Clock} {event : Event}
    (happened : running.step clock event = some next)
    (failed : next.state.ntpState.status = .failed) (requestedMs : Nat) :
    failureOf clock requestedMs event = some next.state.ntpState.error ∨
      clock.state.ntpState.status = .failed ∧
        next.state.ntpState.error = clock.state.ntpState.error := by
  cases event with
  | task dns udp => exact statement_stored happened failed requestedMs
  | recv datagram =>
    cases happened
    obtain ⟨status, error⟩ := ntpRecvCallback_stores clock.state.ntpState datagram
    rw [deliver_ntpState] at failed ⊢
    dsimp only at failed ⊢
    left
    rw [error, failureOf]
    exact if_pos (status.symm.trans failed)
  | dns ipaddr udp =>
    cases happened
    have stores := ntpDnsCallback_stores clock.state.ntpState ipaddr udp
    cases stored : dnsError ipaddr udp with
    | none =>
      simp only [stored] at stores
      exact .inr ⟨stores.1.symm.trans failed, stores.2⟩
    | some error =>
      simp only [stored] at stores
      exact .inl (stored.trans (congrArg some stores.2.symm))
  | ntpTimer second | elapse ms =>
    cases happened
    exact .inr ⟨failed, rfl⟩
  | clockTimer gpio =>
    cases happened
    obtain ⟨triggered, ticked⟩ := clockTimerCallback_eq clock.state clock.buttonHoldSeconds gpio
    rw [ticked] at failed ⊢
    exact .inr ⟨failed, rfl⟩

/-! ## Where the clock resets -/

/-- What a reset leaves behind. -/
structure Explained (clock : Clock) (seen : Seen) (ntpError : NtpError)
    (wifiError : WifiError) : Prop where
  wifi : wifiError = .ok
  caused : ntpError ∈ seen.errors ∨ ntpError = .timeoutError ∧ WrapsToZero seen.requestedMs
  lasts : clock.persistent.ntpError = ntpError ∧ clock.persistent.wifiError = wifiError

theorem checkStatus_resets {clock : Clock}
    (resets : clock.checkStatus.pc = .reset ntpError wifiError) :
    clock.checkStatus = clock.fatalReset ntpError wifiError ∧ wifiError = .ok ∧
      (clock.locals.ntpAtomicState.status = .pending ∧ ntpError = .timeoutError ∧
          (clock.msSinceBoot - clock.locals.ntpAtomicState.requestStartMs).toNat >
            clock.state.flashConfig.ntpTimeout ∨
        clock.locals.ntpAtomicState.status = .failed ∧
          ntpError = clock.locals.ntpAtomicState.error) := by
  unfold Clock.checkStatus at resets ⊢
  cases status : clock.locals.ntpAtomicState.status with
  | pending =>
    simp only [status] at resets ⊢
    split at resets
    · rename_i late
      cases resets
      rw [if_pos late]
      exact ⟨rfl, rfl, .inl ⟨trivial, rfl, late⟩⟩
    · cases resets
  | failed =>
    simp only [status] at resets ⊢
    cases resets
    exact ⟨rfl, rfl, .inr ⟨trivial, rfl⟩⟩
  | kod | success | idle | nullStatus =>
    simp only [status] at resets
    cases resets

/-- The clock knows the time of a request whose start is stored. -/
abbrev Timed (clock : Clock) (requestedMs : Nat) : Prop :=
  RequestTimeout.Inv (fun requestedMs => ¬ WrapsToZero requestedMs) clock requestedMs

/-- A request that the counter finds overdue is, if its start was stored. -/
theorem overdue_of_counter {clock : Clock} (inv : Timed clock requestedMs)
    (stored : ¬ WrapsToZero requestedMs) (checking : clock.pc = .checkStatus)
    (pending : clock.locals.ntpAtomicState.status = .pending)
    (late : (clock.msSinceBoot - clock.locals.ntpAtomicState.requestStartMs).toNat >
      clock.state.flashConfig.ntpTimeout) : overdue clock requestedMs = true := by
  have start := inv.snapshot stored (by rw [checking]; rfl)
  rw [start, Clock.msSinceBoot] at late
  have elapsed := RequestTimeout.msSinceBoot_sub_le inv.past
  exact decide_eq_true ⟨pending, Nat.lt_of_lt_of_le late elapsed⟩

/-- Where an error may be on its way to the reset. -/
structure Inv (clock : Clock) (seen : Seen) : Prop where
  timed : Timed clock seen.requestedMs
  /-- No start has been stored at time 0. -/
  unset : seen.requestedMs = 0 → clock.state.ntpState.requestStartMs = 0
  stored : clock.state.ntpState.status = .failed → clock.state.ntpState.error ∈ seen.errors
  snapshot : deciding clock.pc = true → clock.locals.ntpAtomicState.status = .failed →
    clock.locals.ntpAtomicState.error ∈ seen.errors
  reset : ∀ ntpError wifiError, clock.pc = .reset ntpError wifiError →
    Explained clock seen ntpError wifiError

theorem started_inv (started : Started clock) : Inv clock ⟨0, []⟩ := by
  have begins := started_begins started
  refine ⟨RequestTimeout.started_inv started, fun _ => ?_, fun failed => ?_, fun decides => ?_,
    fun ntpError wifiError resets => ?_⟩
  · rw [begins.ntpState]
    rfl
  · rw [begins.ntpState] at failed
    cases failed
  · rw [begins.pc] at decides
    cases decides
  · rw [begins.pc] at resets
    cases resets

/-- A reset writes down the error of a failure that has been seen. -/
theorem statement_resets {clock next : Clock} {seen : Seen} (inv : Inv clock seen)
    (happened : clock.statement dns udp = some next)
    (resets : next.pc = .reset ntpError wifiError) :
    Explained next (note clock (.task dns udp) seen) ntpError wifiError := by
  have follows := statement_follows happened
  unfold Follows at follows
  rw [resets] at follows
  cases at_pc : clock.pc with
  | checkStatus =>
    simp only [Clock.statement, at_pc, Option.some.injEq] at happened
    subst happened
    obtain ⟨same, wifi, cause⟩ := checkStatus_resets resets
    refine ⟨wifi, ?_, by rw [same]; exact ⟨rfl, rfl⟩⟩
    have noted : (note clock (.task dns udp) seen).requestedMs = seen.requestedMs :=
      RequestTimeout.note_away dns udp seen.requestedMs (by rw [at_pc]; decide)
    rcases cause with ⟨pending, rfl, late⟩ | ⟨failed, rfl⟩
    · by_cases wraps : WrapsToZero seen.requestedMs
      · exact .inr ⟨rfl, noted.symm ▸ wraps⟩
      · have real := overdue_of_counter inv.timed wraps at_pc pending late
        left
        simp [note, failureOf, at_pc, real]
    · exact .inl (List.mem_append_right _ (inv.snapshot (by rw [at_pc]; rfl) failed))
  | requestResolve =>
    cases dns with
    | failed =>
      simp only [Clock.statement, at_pc, Option.some.injEq] at happened
      subst happened
      cases resets
      exact ⟨rfl, .inl (by simp [note, failureOf, at_pc]), rfl, rfl⟩
    | resolved address =>
      simp only [Clock.statement, at_pc, Option.some.injEq] at happened
      subst happened
      cases resets
    | inProgress =>
      simp only [Clock.statement, at_pc, Option.some.injEq] at happened
      subst happened
      simp only [Clock.requestDone, Clock.goto] at resets
      split at resets <;> cases resets
  | requestSend =>
    simp only [at_pc] at follows
    split at follows <;> cases follows
  | _ => simp [at_pc] at follows

/-- A callback resets nothing, and leaves alone what lasts. -/
theorem interrupt_persistent {clock next : Clock} {event : Event}
    (interrupting : interrupts event = true) (happened : running.step clock event = some next) :
    next.persistent = clock.persistent := by
  cases event with
  | task dns udp => cases interrupting
  | _ =>
    cases happened
    rfl

theorem interrupt_requestedMs {clock : Clock} {event : Event} (seen : Seen)
    (interrupting : interrupts event = true) :
    (note clock event seen).requestedMs = seen.requestedMs := by
  cases event with
  | task dns udp => cases interrupting
  | _ => rfl

/-- The time of a request stays known if its start is stored. -/
theorem step_timed {clock next : Clock} {event : Event} {seen : Seen} (inv : Inv clock seen)
    (happened : running.step clock event = some next) :
    Timed next (note clock event seen).requestedMs := by
  have stepped : RequestTimeout.requests.step (clock, seen.requestedMs) event =
      some (next, RequestTimeout.note clock event seen.requestedMs) :=
    congrArg (Option.map _) happened
  refine RequestTimeout.step_inv inv.timed (fun stays => ?_) stepped
  cases event with
  | task dns udp =>
    intro storing
    by_cases first : seen.requestedMs = 0
    · exact .inr (inv.unset first)
    · left
      rw [inv.timed.fetched storing]
      intro zero
      exact stays ⟨Nat.pos_of_ne_zero first, congrArg UInt32.toNat zero⟩
  | _ => trivial

theorem step_unset {clock next : Clock} {event : Event} {seen : Seen} (inv : Inv clock seen)
    (happened : running.step clock event = some next)
    (first : (note clock event seen).requestedMs = 0) :
    next.state.ntpState.requestStartMs = 0 := by
  rcases step_cases happened with ⟨interrupting, frame⟩ | ⟨dns, udp, rfl, ran⟩
  · rw [interrupt_requestedMs seen interrupting] at first
    rw [frame.requestStartMs]
    exact inv.unset first
  · by_cases starting : clock.pc = .requestStart
    · have now : clock.bootMs = 0 := by
        simpa only [note, RequestTimeout.note, starting] using first
      rw [statement_requestStartMs ran (by rw [starting]; decide)]
      exact inv.unset (Nat.eq_zero_of_le_zero (now ▸ inv.timed.past))
    · rw [note, RequestTimeout.note_away dns udp _ starting] at first
      by_cases storing : clock.pc = .requestPending
      · have fetched := inv.timed.fetched storing
        rw [first] at fetched
        simp only [Clock.statement, storing, Option.some.injEq] at ran
        subst ran
        dsimp only
        rw [ntpAtomicStatus_requestStartMs, fetched]
        exact inv.unset first
      · rw [statement_requestStartMs ran storing]
        exact inv.unset first

theorem step_inv {pair next : Clock × Seen} {event : Event} (inv : Inv pair.1 pair.2)
    (stepped : failing.step pair event = some next) : Inv next.1 next.2 := by
  obtain ⟨clock, seen⟩ := pair
  obtain ⟨reached, after⟩ := next
  obtain ⟨happened, rfl⟩ := StepSystem.observed_step stepped
  refine ⟨step_timed inv happened, step_unset inv happened, fun failed => ?_,
    fun decides failed => ?_, fun ntpError wifiError resets => ?_⟩
  · rcases step_stored happened failed seen.requestedMs with now | ⟨before, same⟩
    · simp only [note, now]
      exact List.mem_append_left _ List.mem_cons_self
    · rw [same]
      exact List.mem_append_right _ (inv.stored before)
  · rcases step_cases happened with ⟨interrupting, frame⟩ | ⟨dns, udp, rfl, ran⟩
    · rw [frame.locals, frame.pc] at *
      exact List.mem_append_right _ (inv.snapshot decides failed)
    · by_cases snapping : clock.pc = .snapshot
      · simp only [Clock.statement, snapping, Option.some.injEq] at ran
        subst ran
        exact List.mem_append_right _ (inv.stored failed)
      · have before := (deciding_enters ran decides).resolve_right snapping
        rw [((statement_frame ran).snapshot snapping).1] at failed ⊢
        exact List.mem_append_right _ (inv.snapshot before failed)
  · rcases step_cases happened with ⟨interrupting, frame⟩ | ⟨dns, udp, rfl, ran⟩
    · rw [frame.pc] at resets
      obtain ⟨wifi, caused, lasts⟩ := inv.reset ntpError wifiError resets
      rw [← interrupt_persistent interrupting happened] at lasts
      refine ⟨wifi, ?_, lasts⟩
      rw [interrupt_requestedMs seen interrupting]
      exact caused.imp_left (List.mem_append_right _)
    · exact statement_resets inv ran resets

/-- The second request is made at a 0 of the counter, and given up after one second
without any failure. -/
theorem unrecorded_request_is_given_up :
    ∃ reached seen, failing.run (RequestTimeout.lateStart, ⟨0, []⟩)
        (RequestTimeout.wrapped ++ [.task .inProgress .sent]) = some (reached, seen) ∧
      reached.pc = .reset .timeoutError .ok ∧ reached.bootMs - seen.requestedMs = 1000 ∧
      seen.requestedMs = 2 ^ 32 ∧ seen.errors = [] :=
  ⟨_, _, rfl, rfl, rfl, rfl, rfl⟩

end PicowDayClock.ResetCauses
