import PicowDayClock.ClockFrames

/-! The outcomes of NTP requests, from the callbacks that store them to the
task that acts on them. `clock_task` decides on a snapshot and writes `NTP_IDLE`
many statements later, so an outcome that a callback stores in between is
overwritten unseen. Without such a callback nothing is lost. -/
namespace PicowDayClock.NtpOutcomes
open Boot Ntp ClockTask ClockFrames

/-! ## The observer -/

/-- What the observer knows: the latest KoD or failure that nothing has
replaced or acted on (`unhandled`), the last status a callback stored since the
snapshot (`window`), and for each overwriting with `NTP_IDLE` the status that
was replaced with the one that was handled (`replaced`) and the outcome that
was lost (`lost`). -/
structure Notes where
  unhandled : Option (NtpStatus × NtpError)
  window : Option NtpStatus
  replaced : List (NtpStatus × NtpStatus)
  lost : List (NtpStatus × NtpError)

/-- Nothing observed yet. -/
def Notes.none : Notes := ⟨.none, .none, [], []⟩

/-- An outcome the task has to act on. -/
def outstanding (status : NtpStatus) (error : NtpError) : Option (NtpStatus × NtpError) :=
  if status = .kod ∨ status = .failed then some (status, error) else none

/-- What a callback stores. -/
def storedBy (clock : Clock) : Event → Option (NtpStatus × NtpError)
  | .recv datagram =>
    let outcome := ntpOutcome clock.state.ntpState datagram
    some (outcome.status, outcome.error)
  | .dns ipaddr udp => (dnsError ipaddr udp).map fun error => (.failed, error)
  | _ => none

/-- The check of the status acts on an outcome: it doubles the interval for a
KoD and resets with the error of a failure. -/
def ActsOn (clock : Clock) (outcome : NtpStatus × NtpError) : Prop :=
  match outcome.1 with
  | .kod => clock.checkStatus.state.ntpInterval = clock.state.ntpInterval * 2
  | .failed => clock.checkStatus.pc = .reset outcome.2 .ok
  | _ => False

instance (clock : Clock) (outcome : NtpStatus × NtpError) : Decidable (ActsOn clock outcome) := by
  unfold ActsOn
  split <;> infer_instance

/-- What the observer writes down at a statement of the task. -/
def noteStatement (clock : Clock) (udp : UdpReply) (notes : Notes) : Notes :=
  match clock.pc with
  | .snapshot => { notes with window := none }
  | .checkStatus =>
    -- an outcome stored after the snapshot is not the one acted on here
    { notes with unhandled := notes.unhandled.filter fun outcome =>
        ¬ (notes.window = none ∧ ActsOn clock outcome) }
  | .writeIdle =>
    { notes with
      unhandled := none
      replaced := (clock.state.ntpState.status, clock.locals.ntpAtomicState.status) ::
        notes.replaced
      lost := notes.unhandled.toList ++ notes.lost }
  | .requestPending => { notes with unhandled := none }
  | .requestSend =>
    match udpError udp with
    | some error => { notes with unhandled := some (.failed, error) }
    | none => notes
  | _ => notes

/-- What the observer writes down at any event. -/
def note (clock : Clock) (event : Event) (notes : Notes) : Notes :=
  match event with
  | .task _ udp => noteStatement clock udp notes
  | event =>
    match storedBy clock event with
    | some (status, error) =>
      { notes with unhandled := outstanding status error, window := some status }
    | none => notes

/-- The clock while its outcomes are observed. -/
def outcomes : StepSystem (Clock × Notes) Event := running.observed note

/-- Nothing is lost: every outcome that `NTP_IDLE` overwrote had been acted on,
every status it replaced was the one just handled, and an idle client has no
error. -/
structure NothingLost (clock : Clock) (notes : Notes) : Prop where
  outcomes : notes.lost = []
  statuses : ∀ pair ∈ notes.replaced, pair.1 = pair.2
  idle : clock.state.ntpState.status = .idle → clock.state.ntpState.error = .ok

/-- When the task overwrites the status, no callback has stored one since the
snapshot, or the last one to do so has stored a success over a success. -/
def Undisturbed (pair : Clock × Notes) (event : Event) : Prop :=
  match event with
  | .task _ _ =>
    pair.1.pc = .writeIdle →
      pair.2.window = none ∨
        (pair.2.window = some .success ∧ pair.1.locals.ntpAtomicState.status = .success)
  | _ => True

instance (pair : Clock × Notes) : ∀ event, Decidable (Undisturbed pair event)
  | .task _ _ => inferInstanceAs (Decidable (_ → _))
  | .recv _ | .dns _ _ | .ntpTimer _ | .clockTimer _ | .elapse _ => instDecidableTrue

/-! ## The invariant -/

/-- The statements from behind the snapshot up to the overwriting. -/
def deciding : Pc → Bool
  | .snapshot | .testInterval | .markRequested | .requestStart | .requestPending
  | .requestResolve | .requestSend | .firstTickDone | .returned | .reset _ _
  | .accessPoint => false
  | _ => true

/-- What holds of a clock whose run was undisturbed so far. -/
structure Inv (clock : Clock) (notes : Notes) : Prop where
  outcomes : notes.lost = []
  statuses : ∀ pair ∈ notes.replaced, pair.1 = pair.2
  errors : clock.state.ntpState.status ≠ .failed → clock.state.ntpState.error = .ok
  /-- An outcome not yet acted on is the one that is stored. -/
  tracks : ∀ outcome ∈ notes.unhandled,
    outcome = (clock.state.ntpState.status, clock.state.ntpState.error) ∧
      (outcome.1 = .kod ∨ outcome.1 = .failed)
  /-- Without a callback since then, the snapshot is up to date. -/
  current : deciding clock.pc = true → notes.window = none →
    clock.state.ntpState.status = clock.locals.ntpAtomicState.status ∧
      clock.state.ntpState.error = clock.locals.ntpAtomicState.error
  overtaken : deciding clock.pc = true → ∀ status ∈ notes.window,
    clock.state.ntpState.status = status
  handled : clock.pc = .writeIdle →
    (clock.locals.ntpAtomicState.status = .kod ∨ clock.locals.ntpAtomicState.status = .success) ∧
      (notes.window = none → notes.unhandled = none)

theorem Inv.nothingLost (inv : Inv clock notes) : NothingLost clock notes where
  outcomes := inv.outcomes
  statuses := inv.statuses
  idle := by
    intro idle
    exact inv.errors (by simp [idle])

/-! ## Callbacks -/

/-- A callback that stores a status opens the window or moves it on. -/
theorem callback_inv {clock next : Clock} (inv : Inv clock notes)
    (outcome : NtpStatus × NtpError)
    (status : next.state.ntpState.status = outcome.1)
    (error : next.state.ntpState.error = outcome.2)
    (clean : outcome.1 ≠ .failed → outcome.2 = .ok)
    (pc : next.pc = clock.pc) (locals : next.locals = clock.locals) :
    Inv next { notes with
      unhandled := outstanding outcome.1 outcome.2, window := some outcome.1 } where
  outcomes := inv.outcomes
  statuses := inv.statuses
  errors := by rw [status, error]; exact clean
  tracks := by
    intro stored member
    unfold outstanding at member
    split at member
    · cases member
      exact ⟨by rw [status, error], by assumption⟩
    · cases member
  current := by simp
  overtaken := by
    intro _ last member
    cases member
    exact status
  handled := by
    rw [pc, locals]
    intro writing
    exact ⟨(inv.handled writing).1, by simp⟩

/-- An event that touches none of what the invariant speaks about. -/
theorem frame_inv {clock next : Clock} (inv : Inv clock notes)
    (status : next.state.ntpState.status = clock.state.ntpState.status)
    (error : next.state.ntpState.error = clock.state.ntpState.error)
    (locals : next.locals.ntpAtomicState = clock.locals.ntpAtomicState)
    (decides : deciding next.pc = true → deciding clock.pc = true)
    (writing : next.pc = .writeIdle → clock.pc = .writeIdle) : Inv next notes where
  outcomes := inv.outcomes
  statuses := inv.statuses
  errors := by rw [status, error]; exact inv.errors
  tracks := by rw [status, error]; exact inv.tracks
  current := by rw [status, error, locals]; exact fun at_pc => inv.current (decides at_pc)
  overtaken := by rw [status]; exact fun at_pc => inv.overtaken (decides at_pc)
  handled := by rw [locals]; exact fun at_pc => inv.handled (writing at_pc)

/-! ## Statements -/

/-- A decision begins with a snapshot. -/
theorem deciding_enters {clock next : Clock} (happened : clock.statement dns udp = some next)
    (after : deciding next.pc = true) : deciding clock.pc = true ∨ clock.pc = .snapshot := by
  have follows := statement_follows happened
  unfold Follows at follows
  cases at_pc : clock.pc with
  | requestResolve | requestSend =>
    simp only [at_pc] at follows
    cases starting : clock.locals.starting <;> grind [deciding]
  | _ => grind [deciding]

theorem snapshot_inv (inv : Inv clock notes) :
    Inv { clock with
        locals := { clock.locals with
          ntpAtomicState := .of clock.state.ntpState, starting := false }
        pc := .testTimeUpdated }
      { notes with window := none } where
  outcomes := inv.outcomes
  statuses := inv.statuses
  errors := inv.errors
  tracks := inv.tracks
  current := fun _ _ => ⟨rfl, rfl⟩
  overtaken := by simp
  handled := fun writing => nomatch writing

theorem writeIdle_inv (inv : Inv clock notes) (at_pc : clock.pc = .writeIdle)
    (undisturbed : notes.window = none ∨
      (notes.window = some .success ∧ clock.locals.ntpAtomicState.status = .success)) :
    Inv { clock with
        state := { clock.state with
          ntpState := ntpAtomicStatus clock.state.ntpState .idle .nullError 0 }
        pc := .testInterval }
      { notes with
        unhandled := none
        replaced := (clock.state.ntpState.status, clock.locals.ntpAtomicState.status) ::
          notes.replaced
        lost := notes.unhandled.toList ++ notes.lost } := by
  obtain ⟨snapshot, settled⟩ := inv.handled at_pc
  have decides : deciding clock.pc = true := by rw [at_pc]; rfl
  have same : clock.state.ntpState.status = clock.locals.ntpAtomicState.status := by
    rcases undisturbed with quiet | ⟨success, handled⟩
    · exact (inv.current decides quiet).1
    · rw [handled]
      exact inv.overtaken decides .success success
  have nothing : notes.unhandled = none := by
    rcases undisturbed with quiet | ⟨success, handled⟩
    · exact settled quiet
    · cases held : notes.unhandled with
      | none => rfl
      | some outcome =>
        obtain ⟨stored, open_⟩ := inv.tracks outcome held
        simp [stored, same, handled] at open_
  have clean : clock.state.ntpState.error = .ok := by
    apply inv.errors
    rw [same]
    rcases snapshot with kod | success
    · simp [kod]
    · simp [success]
  exact {
    outcomes := by simp [nothing, inv.outcomes]
    statuses := by
      intro pair member
      cases member with
      | head => exact same
      | tail _ member => exact inv.statuses pair member
    errors := fun _ => clean
    tracks := by simp
    current := fun at_pc => nomatch at_pc
    overtaken := fun at_pc => nomatch at_pc
    handled := fun at_pc => nomatch at_pc }

private theorem checkStatus_answers (clock : Clock) :
    clock.checkStatus.state.ntpState = clock.state.ntpState ∧
      clock.checkStatus.locals = clock.locals ∧
      (clock.checkStatus.pc = .writeIdle →
        clock.locals.ntpAtomicState.status = .kod ∨
          clock.locals.ntpAtomicState.status = .success) := by
  rcases checkStatus_cases clock with on | ⟨ntpError, reset⟩ | ⟨status, kod⟩ | ⟨status, success⟩
  · rw [on]; exact ⟨rfl, rfl, nofun⟩
  · rw [reset]; exact ⟨rfl, rfl, nofun⟩
  · rw [kod]; exact ⟨rfl, rfl, fun _ => .inl status⟩
  · rw [success]; exact ⟨rfl, rfl, fun _ => .inr status⟩

/-- The check of the status goes on to the overwriting only after a success or
a KoD, and the KoD it has acted on is no longer unhandled. -/
theorem checkStatus_inv (inv : Inv clock notes) (at_pc : clock.pc = .checkStatus) :
    Inv clock.checkStatus { notes with unhandled := notes.unhandled.filter fun outcome =>
        ¬ (notes.window = none ∧ ActsOn clock outcome) } := by
  obtain ⟨ntpState, locals, answered⟩ := checkStatus_answers clock
  have before : deciding clock.pc = true := by rw [at_pc]; rfl
  exact {
    outcomes := inv.outcomes
    statuses := inv.statuses
    errors := by rw [ntpState]; exact inv.errors
    tracks := by
      intro outcome member
      rw [ntpState]
      exact inv.tracks outcome (Option.mem_filter_iff.mp member).1
    current := by rw [ntpState, locals]; exact fun _ => inv.current before
    overtaken := by rw [ntpState]; exact fun _ => inv.overtaken before
    handled := by
      intro writing
      rw [locals]
      refine ⟨answered writing, fun quiet => ?_⟩
      dsimp only at quiet ⊢
      cases held : notes.unhandled with
      | none => rfl
      | some outcome =>
        obtain ⟨stored, waiting⟩ := inv.tracks outcome held
        have snapshot := (inv.current before quiet).1
        have kod : clock.locals.ntpAtomicState.status = .kod := by
          rcases answered writing with kod | success
          · exact kod
          · simp [stored, snapshot, success] at waiting
        have acts : ActsOn clock outcome := by
          simp [ActsOn, stored, snapshot, kod, Clock.checkStatus]
        simp [quiet, acts] }

theorem requestPending_inv (inv : Inv clock notes) :
    Inv { clock with
        state := { clock.state with
          ntpState :=
            ntpAtomicStatus clock.state.ntpState .pending .ok clock.locals.requestStartMs }
        pc := .requestResolve }
      { notes with unhandled := none } where
  outcomes := inv.outcomes
  statuses := inv.statuses
  errors := fun _ => rfl
  tracks := by simp
  current := nofun
  overtaken := nofun
  handled := nofun

/-- A request that could not be sent is a failure of its own. -/
theorem requestSend_inv {clock next : Clock} (inv : Inv clock notes)
    (sent : next.state.ntpState = ntpStartUdpRequest clock.state.ntpState udp)
    (decides : deciding next.pc = false) (writing : next.pc ≠ .writeIdle)
    (locals : next.locals.ntpAtomicState = clock.locals.ntpAtomicState) :
    Inv next (match udpError udp with
      | some error => { notes with unhandled := some (.failed, error) }
      | none => notes) := by
  have stores := ntpStartUdpRequest_stores clock.state.ntpState udp
  cases failed : udpError udp with
  | none =>
    simp only [failed] at stores
    exact frame_inv inv (by rw [sent, stores]) (by rw [sent, stores]) locals
      (by simp [decides]) (fun at_pc => absurd at_pc writing)
  | some error =>
    simp only [failed] at stores
    exact {
      outcomes := inv.outcomes
      statuses := inv.statuses
      errors := by simp [sent, stores]
      tracks := by
        intro outcome member
        cases member
        simp [sent, stores]
      current := by simp [decides]
      overtaken := by simp [decides]
      handled := fun at_pc => absurd at_pc writing }

/-- Resolving the name stores no outcome. -/
theorem requestResolve_stores {clock next : Clock} (at_pc : clock.pc = .requestResolve)
    (stepped : clock.statement dns udp = some next) :
    next.state.ntpState.status = clock.state.ntpState.status ∧
      next.state.ntpState.error = clock.state.ntpState.error := by
  simp only [Clock.statement, at_pc] at stepped
  cases dns <;>
  · cases stepped
    exact ⟨rfl, rfl⟩

/-- A statement that stores nothing, takes no snapshot and checks no status is
not noted. -/
theorem quiet_inv {clock next : Clock} (inv : Inv clock notes)
    (stepped : clock.statement dns udp = some next)
    (status : next.state.ntpState.status = clock.state.ntpState.status)
    (error : next.state.ntpState.error = clock.state.ntpState.error)
    (snapping : clock.pc ≠ .snapshot) (checking : clock.pc ≠ .checkStatus) : Inv next notes := by
  have frame := statement_frame stepped
  have comes := statement_comes stepped
  apply frame_inv inv status error
  · exact (frame.snapshot snapping).1
  · intro after
    exact (deciding_enters stepped after).resolve_right snapping
  · intro writing
    rw [writing] at comes
    exact absurd comes checking

/-- Every statement of the task keeps the invariant, the overwriting where the
run is undisturbed. -/
theorem statement_inv {clock next : Clock} (inv : Inv clock notes)
    (stepped : clock.statement dns udp = some next)
    (undisturbed : clock.pc = .writeIdle → notes.window = none ∨
      (notes.window = some .success ∧ clock.locals.ntpAtomicState.status = .success)) :
    Inv next (noteStatement clock udp notes) := by
  unfold noteStatement
  cases at_pc : clock.pc with
  | snapshot =>
    simp only [Clock.statement, at_pc, Option.some.injEq] at stepped
    subst stepped
    exact snapshot_inv inv
  | checkStatus =>
    simp only [Clock.statement, at_pc, Option.some.injEq] at stepped
    subst stepped
    exact checkStatus_inv inv at_pc
  | writeIdle =>
    simp only [Clock.statement, at_pc, Option.some.injEq] at stepped
    subst stepped
    exact writeIdle_inv inv at_pc (undisturbed at_pc)
  | requestPending =>
    simp only [Clock.statement, at_pc, Option.some.injEq] at stepped
    subst stepped
    exact requestPending_inv inv
  | requestSend =>
    simp only [Clock.statement, at_pc, Option.some.injEq] at stepped
    subst stepped
    apply requestSend_inv inv
    · rfl
    · simp only [Clock.requestDone, Clock.goto]
      split <;> rfl
    · simp only [Clock.requestDone, Clock.goto]
      split <;> simp
    · rfl
  | requestResolve =>
    obtain ⟨status, error⟩ := requestResolve_stores at_pc stepped
    exact quiet_inv inv stepped status error (by simp [at_pc]) (by simp [at_pc])
  | _ =>
    have same := (statement_frame stepped).ntpState (by rw [at_pc]; rfl)
    exact quiet_inv inv stepped (by rw [same]) (by rw [same]) (by simp [at_pc]) (by simp [at_pc])

/-- So does every callback, wherever it interrupts the task. -/
theorem step_inv (inv : Inv pair.1 pair.2) (undisturbed : Undisturbed pair event)
    (stepped : outcomes.step pair event = some next) : Inv next.1 next.2 := by
  obtain ⟨clock, notes⟩ := pair
  obtain ⟨reached, notesAfter⟩ := next
  obtain ⟨happened, rfl⟩ := StepSystem.observed_step stepped
  cases event with
  | task dns udp => exact statement_inv inv happened undisturbed
  | recv datagram =>
    cases happened
    obtain ⟨status, error⟩ := ntpRecvCallback_stores clock.state.ntpState datagram
    let outcome := ntpOutcome clock.state.ntpState datagram
    apply callback_inv inv (outcome.status, outcome.error)
    · rw [deliver_ntpState, status]
    · rw [deliver_ntpState, error]
    · intro answered
      rcases ntpOutcome_spec clock.state.ntpState datagram with ⟨failed, -⟩ | ⟨-, ok⟩
      · exact absurd failed answered
      · exact ok
    · rfl
    · rfl
  | ntpTimer ntpTime | elapse ms =>
    cases happened
    exact frame_inv inv rfl rfl rfl id id
  | dns ipaddr udp =>
    cases happened
    have stores := ntpDnsCallback_stores clock.state.ntpState ipaddr udp
    simp only [note, storedBy]
    cases failed : dnsError ipaddr udp with
    | none =>
      simp only [failed] at stores
      exact frame_inv inv stores.1 stores.2 rfl id id
    | some error =>
      simp only [failed] at stores
      exact callback_inv inv (.failed, error) stores.1 stores.2 (by simp) rfl rfl
  | clockTimer gpio =>
    cases happened
    obtain ⟨triggered, ticked⟩ :=
      clockTimerCallback_eq clock.state clock.buttonHoldSeconds gpio
    exact frame_inv inv (by rw [ticked]) (by rw [ticked]) rfl id id

theorem start_inv : Inv (.start booted systemMs bootMs) .none where
  outcomes := rfl
  statuses := nofun
  errors := fun _ => rfl
  tracks := nofun
  current := nofun
  overtaken := nofun
  handled := nofun

/-- In every run of a started clock in which no callback stores a status
between the snapshot and the overwriting, other than a success over a success,
no outcome is lost, `NTP_IDLE` only ever replaces the status just handled, and
an idle client has no error. -/
theorem no_outcome_is_lost (started : Started clock)
    (undisturbed : outcomes.EveryStep Undisturbed (clock, .none) events)
    (ran : outcomes.run (clock, .none) events = some (reached, notes)) :
    NothingLost reached notes := by
  obtain ⟨gpio, watchdog, persistent, flash, systemMs, bootMs, -, rfl⟩ := started
  have inv : Inv reached notes :=
    @StepSystem.run_invariant_where _ _ outcomes _ _ _ (fun pair => Inv pair.1 pair.2) _
      (fun _ _ _ inv allowed stepped => step_inv inv allowed stepped) start_inv undisturbed ran
  exact inv.nothingLost

/-! ## One lost outcome -/

/-- The request is answered, a timer tick follows, and the task comes to the
statement that overwrites the success it has taken a snapshot of. -/
def answered : List Event :=
  let task := Event.task (.resolved 1) .sent
  List.replicate 4 task ++ .recv ⟨1, 123, [0x24, 1] ++ List.replicate 46 0⟩ :: .clockTimer 1 ::
    List.replicate 21 task

theorem answer_is_not_lost :
    ∃ reached notes, outcomes.run (coldStart, .none) (answered ++ [.task .inProgress .sent]) =
        some (reached, notes) ∧
      notes.replaced = [(.success, .success)] ∧ NothingLost reached notes := by
  obtain ⟨reached, notes, ran, replaced⟩ : ∃ reached notes,
      outcomes.run (coldStart, .none) (answered ++ [.task .inProgress .sent]) =
          some (reached, notes) ∧
        notes.replaced = [(.success, .success)] := ⟨_, _, rfl, rfl⟩
  exact ⟨reached, notes, ran, replaced,
    no_outcome_is_lost coldStart_started (by decide +kernel) ran⟩

/-- A datagram of the wrong length arrives just before the overwriting: the
failure it stores is lost, and the idle client keeps its error. -/
theorem late_failure_is_lost :
    ∃ reached notes, outcomes.run (coldStart, .none)
        (answered ++ [.recv ⟨1, 123, [0x24, 1]⟩, .task .inProgress .sent]) =
          some (reached, notes) ∧
      notes.lost = [(.failed, .protocolError)] ∧
      notes.replaced = [(.failed, .success)] ∧
      reached.state.ntpState.status = .idle ∧
      reached.state.ntpState.error = .protocolError ∧ ¬ NothingLost reached notes := by
  refine ⟨_, _, rfl, rfl, rfl, rfl, rfl, ?_⟩
  rintro ⟨outcomes⟩
  cases outcomes

end PicowDayClock.NtpOutcomes
