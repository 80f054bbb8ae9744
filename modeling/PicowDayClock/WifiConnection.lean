import PicowDayClock.Firmware.WifiConnect

/-! How joining the stored network ends. Each of the two budgets, the count of
refused passwords and the time since the start, is looked at only by its own
outcome; together they bound the attempts. -/
namespace PicowDayClock.WifiConnection
open WifiConnect

/-- What is known of the clock: it does not run backwards, and an attempt that
times out has taken its time. -/
structure Timeline (startTimeUs : Nat) (attempts : Nat → Attempt) : Prop where
  begun : startTimeUs ≤ (attempts 0).beginsUs
  forward : ∀ index, (attempts index).beginsUs ≤ (attempts index).endsUs
  next : ∀ index, (attempts index).endsUs ≤ (attempts (index + 1)).beginsUs
  slow : ∀ index, (attempts index).ret = picoErrorTimeout →
    (attempts index).beginsUs + wifiConnectTimeoutMs * 1000 ≤ (attempts index).endsUs

/-- How many of the first attempts got this answer. -/
def answered (attempts : Nat → Attempt) (ret : Int) (count : Nat) : Nat :=
  (List.range count).countP fun index => (attempts index).ret = ret

/-- The attempt decides on this verdict, whatever the others do. -/
def Decides (startTimeUs : Nat) (attempts : Nat → Attempt) (index : Nat) : WifiError → Prop
  | .ok => (attempts index).ret = 0
  | .authError => (attempts index).ret = picoErrorBadauth ∧
      answered attempts picoErrorBadauth (index + 1) = wifiBadAuthRetryCount
  | .timeoutError => (attempts index).ret = picoErrorTimeout ∧
      ((attempts index).endsUs : Int) - startTimeUs > wifiAbandonTimeoutMs * 1000
  | .connectError => (attempts index).ret = picoErrorConnectFailed
  | .unknownError => (attempts index).ret ∉
      [0, picoErrorTimeout, picoErrorBadauth, picoErrorConnectFailed]
  | .initError | .other _ => False

/-- The calls of the first attempts, all of which are followed by another. -/
def repeatedCalls (ssid password : Bytes) (attempts : Nat → Attempt) (count : Nat) : List Call :=
  (List.range count).flatMap fun index =>
    [.watchdogUpdate, .connectTimeoutMs ssid password wifiConnectTimeoutMs] ++
      if (attempts index).ret = picoErrorBadauth then [.sleepMs wifiBadAuthRetryDelayMs] else []

variable {ssid password : Bytes} {startTimeUs : Nat} {attempts : Nat → Attempt} {index : Nat}

theorem answered_succ (ret : Int) (count : Nat) :
    answered attempts ret (count + 1) =
      answered attempts ret count + if (attempts count).ret = ret then 1 else 0 := by
  simp only [answered, List.range_succ, List.countP_append, List.countP_singleton,
    decide_eq_true_eq]

/-! ## One attempt -/

/-- An attempt that decides nothing timed out early or was refused its password
for the first times. -/
theorem undecided_cases (undecided : ∀ verdict, ¬ Decides startTimeUs attempts index verdict) :
    (attempts index).ret = picoErrorTimeout ∧
        ((attempts index).endsUs : Int) - startTimeUs ≤ wifiAbandonTimeoutMs * 1000 ∨
      (attempts index).ret = picoErrorBadauth ∧
        answered attempts picoErrorBadauth (index + 1) ≠ wifiBadAuthRetryCount := by
  have connected := undecided .ok
  have timedOut := undecided .timeoutError
  have refused := undecided .authError
  have failed := undecided .connectError
  have strange := undecided .unknownError
  simp only [Decides, not_and, List.mem_cons, List.not_mem_nil, or_false, not_not] at *
  rcases strange with same | same | same | same
  · exact absurd same connected
  · exact .inl ⟨same, Int.not_lt.mp (timedOut same)⟩
  · exact .inr ⟨same, refused same⟩
  · exact absurd same failed

/-- Then the loop goes on, with the refusals counted. -/
theorem connectLoop_undecided
    (undecided : ∀ verdict, ¬ Decides startTimeUs attempts index verdict)
    (few : answered attempts picoErrorBadauth index < wifiBadAuthRetryCount) (fuel : Nat) :
    connectLoop ssid password startTimeUs attempts (fuel + 1)
        (answered attempts picoErrorBadauth index) index =
      (connectLoop ssid password startTimeUs attempts fuel
          (answered attempts picoErrorBadauth (index + 1)) (index + 1)).map
        fun (verdict, later) => (verdict, attemptCalls ssid password ++
          (if (attempts index).ret = picoErrorBadauth then [.sleepMs wifiBadAuthRetryDelayMs]
            else []) ++ later) := by
  rcases undecided_cases undecided with ⟨timedOut, early⟩ | ⟨refused, notLast⟩
  · have other : (attempts index).ret ≠ picoErrorBadauth := by
      rw [timedOut]
      decide
    have answer : (attempts index).ret ≠ 0 := by
      rw [timedOut]
      decide
    have counted : answered attempts picoErrorBadauth (index + 1) =
        answered attempts picoErrorBadauth index := by
      simp only [answered_succ, if_neg other, Nat.add_zero]
    rw [connectLoop, if_neg answer, if_pos timedOut, if_neg (Int.not_lt.mpr early), counted,
      if_neg other, List.append_nil]
  · have other : (attempts index).ret ≠ picoErrorTimeout := by
      rw [refused]
      decide
    have answer : (attempts index).ret ≠ 0 := by
      rw [refused]
      decide
    have counted : answered attempts picoErrorBadauth (index + 1) =
        answered attempts picoErrorBadauth index + 1 := by
      rw [answered_succ, if_pos refused]
    have fewer : ¬ (answered attempts picoErrorBadauth index + 1 ≥ wifiBadAuthRetryCount) := by
      omega
    rw [connectLoop, if_neg answer, if_neg other, if_pos refused]
    simp only [if_neg fewer, counted, if_pos refused]

/-- The attempt that decides ends the loop. -/
theorem connectLoop_decided {verdict : WifiError}
    (decided : Decides startTimeUs attempts index verdict) (fuel : Nat) :
    connectLoop ssid password startTimeUs attempts (fuel + 1)
        (answered attempts picoErrorBadauth index) index =
      some (verdict, attemptCalls ssid password) := by
  cases verdict with
  | ok =>
    have connected : (attempts index).ret = 0 := decided
    rw [connectLoop, if_pos connected]
  | timeoutError =>
    obtain ⟨timedOut, late⟩ := decided
    have answer : (attempts index).ret ≠ 0 := by
      rw [timedOut]
      decide
    rw [connectLoop, if_neg answer, if_pos timedOut, if_pos late]
  | authError =>
    obtain ⟨refused, last⟩ := decided
    have answer : (attempts index).ret ≠ 0 := by
      rw [refused]
      decide
    have other : (attempts index).ret ≠ picoErrorTimeout := by
      rw [refused]
      decide
    have many : answered attempts picoErrorBadauth index + 1 ≥ wifiBadAuthRetryCount := by
      rw [← last, answered_succ, if_pos refused]
    rw [connectLoop, if_neg answer, if_neg other, if_pos refused]
    exact if_pos many
  | connectError =>
    have failed : (attempts index).ret = picoErrorConnectFailed := decided
    rw [connectLoop, failed]
    rfl
  | unknownError =>
    simp only [Decides, List.mem_cons, List.not_mem_nil, or_false, not_or] at decided
    obtain ⟨answer, timedOut, refused, failed⟩ := decided
    rw [connectLoop, if_neg answer, if_neg timedOut, if_neg refused, if_neg failed]
  | initError => exact absurd decided id
  | other raw => exact absurd decided id

/-! ## All attempts -/

/-- What the first attempts have used up when none of them has decided. -/
structure Spent (startTimeUs : Nat) (attempts : Nat → Attempt) (count : Nat) : Prop where
  counted : count =
    answered attempts picoErrorBadauth count + answered attempts picoErrorTimeout count
  refused : answered attempts picoErrorBadauth count < wifiBadAuthRetryCount
  timedOut : answered attempts picoErrorTimeout count ≤ wifiAbandonTimeoutMs / wifiConnectTimeoutMs
  elapsed : startTimeUs + answered attempts picoErrorTimeout count * (wifiConnectTimeoutMs * 1000) ≤
    (attempts count).beginsUs

/-- Timeouts that have not yet taken longer than the time to give up are few. -/
theorem timeouts_fit {count nowUs : Nat}
    (elapsed : startTimeUs + count * (wifiConnectTimeoutMs * 1000) ≤ nowUs)
    (early : (nowUs : Int) - startTimeUs ≤ wifiAbandonTimeoutMs * 1000) :
    count ≤ wifiAbandonTimeoutMs / wifiConnectTimeoutMs := by
  have timeout : wifiConnectTimeoutMs * 1000 = 10000000 := rfl
  have limit : (wifiAbandonTimeoutMs : Int) * 1000 = 30000000 := rfl
  have quotient : wifiAbandonTimeoutMs / wifiConnectTimeoutMs = 3 := rfl
  rw [timeout] at elapsed
  rw [limit] at early
  rw [quotient]
  omega

theorem Spent.next (timeline : Timeline startTimeUs attempts)
    (spent : Spent startTimeUs attempts index)
    (undecided : ∀ verdict, ¬ Decides startTimeUs attempts index verdict) :
    Spent startTimeUs attempts (index + 1) := by
  obtain ⟨counted, refused, timedOut, elapsed⟩ := spent
  have forward := timeline.forward index
  have next := timeline.next index
  rcases undecided_cases undecided with ⟨answer, early⟩ | ⟨answer, notLast⟩
  · have slow := timeline.slow index answer
    have other : (attempts index).ret ≠ picoErrorBadauth := by
      rw [answer]
      decide
    have moreRefused : answered attempts picoErrorBadauth (index + 1) = _ := answered_succ _ _
    have moreTimedOut : answered attempts picoErrorTimeout (index + 1) = _ := answered_succ _ _
    rw [if_neg other] at moreRefused
    rw [if_pos answer] at moreTimedOut
    have later : startTimeUs +
        answered attempts picoErrorTimeout (index + 1) * (wifiConnectTimeoutMs * 1000) ≤
          (attempts index).endsUs :=
      calc
        startTimeUs + answered attempts picoErrorTimeout (index + 1) * (wifiConnectTimeoutMs * 1000)
            = startTimeUs + answered attempts picoErrorTimeout index *
                (wifiConnectTimeoutMs * 1000) + wifiConnectTimeoutMs * 1000 := by
              rw [moreTimedOut, Nat.succ_mul, Nat.add_assoc]
          _ ≤ (attempts index).beginsUs + wifiConnectTimeoutMs * 1000 :=
              Nat.add_le_add_right elapsed _
          _ ≤ (attempts index).endsUs := slow
    constructor
    · omega
    · omega
    · exact timeouts_fit later early
    · exact Nat.le_trans later next
  · have other : (attempts index).ret ≠ picoErrorTimeout := by
      rw [answer]
      decide
    have moreRefused : answered attempts picoErrorBadauth (index + 1) = _ := answered_succ _ _
    have moreTimedOut : answered attempts picoErrorTimeout (index + 1) = _ := answered_succ _ _
    rw [if_pos answer] at moreRefused
    rw [if_neg other] at moreTimedOut
    have same : answered attempts picoErrorTimeout (index + 1) =
        answered attempts picoErrorTimeout index := moreTimedOut
    constructor
    · omega
    · omega
    · rw [same]
      exact timedOut
    · rw [same]
      exact Nat.le_trans elapsed (Nat.le_trans forward next)

theorem spent_of_undecided (timeline : Timeline startTimeUs attempts) {count : Nat}
    (undecided : ∀ earlier < count, ∀ verdict, ¬ Decides startTimeUs attempts earlier verdict) :
    Spent startTimeUs attempts count := by
  induction count with
  | zero =>
    have begun := timeline.begun
    constructor
    · rfl
    · exact Nat.succ_pos 2
    · exact Nat.zero_le _
    · simpa [answered] using begun
  | succ count ih =>
    apply (ih fun earlier before => undecided earlier (Nat.lt_succ_of_lt before)).next timeline
    exact undecided count (Nat.lt_succ_self count)

/-- Some attempt within both budgets decides. -/
theorem decision_comes (timeline : Timeline startTimeUs attempts) :
    ∃ last < wifiBadAuthRetryCount + wifiAbandonTimeoutMs / wifiConnectTimeoutMs,
      ∃ verdict, Decides startTimeUs attempts last verdict := by
  by_contra never
  have spent : Spent startTimeUs attempts
      (wifiBadAuthRetryCount + wifiAbandonTimeoutMs / wifiConnectTimeoutMs) := by
    apply spent_of_undecided timeline
    intro earlier before verdict decided
    exact never ⟨earlier, before, verdict, decided⟩
  have counted := spent.counted
  have refused := spent.refused
  have timedOut := spent.timedOut
  omega

theorem repeatedCalls_succ (count : Nat) :
    repeatedCalls ssid password attempts (count + 1) =
      repeatedCalls ssid password attempts count ++ (attemptCalls ssid password ++
        if (attempts count).ret = picoErrorBadauth then [.sleepMs wifiBadAuthRetryDelayMs]
        else []) := by
  rw [repeatedCalls, List.range_succ, List.flatMap_append, List.flatMap_singleton, ← repeatedCalls,
    attemptCalls]

/-- Undecided attempts put their calls in front of those that follow. -/
theorem connectLoop_from_start (timeline : Timeline startTimeUs attempts) {count : Nat}
    (undecided : ∀ earlier < count, ∀ verdict, ¬ Decides startTimeUs attempts earlier verdict)
    (fuel : Nat) :
    connectLoop ssid password startTimeUs attempts (fuel + count) 0 0 =
      (connectLoop ssid password startTimeUs attempts fuel
          (answered attempts picoErrorBadauth count) count).map
        fun (verdict, later) => (verdict, repeatedCalls ssid password attempts count ++ later) := by
  induction count generalizing fuel with
  | zero => simp [answered, repeatedCalls]
  | succ count ih =>
    have before : ∀ earlier < count, ∀ verdict, ¬ Decides startTimeUs attempts earlier verdict :=
      fun earlier inside => undecided earlier (Nat.lt_succ_of_lt inside)
    have few := (spent_of_undecided timeline before).refused
    have more : fuel + (count + 1) = fuel + 1 + count := by omega
    rw [more, ih before, connectLoop_undecided (undecided count (Nat.lt_succ_self count)) few,
      Option.map_map, repeatedCalls_succ]
    simp only [Function.comp_def, List.append_assoc]

/-- On a chip that is up, `connect_to_wifi` returns after at most as many
attempts as both budgets allow. The earliest attempt that decides gives the
verdict, and each attempt comes right after the watchdog has been fed. -/
theorem connect_returns_verdict (timeline : Timeline startTimeUs attempts)
    {wifiInitialized : Bool} {archInit : Int}
    (initialised : wifiInitialized = true ∨ archInit = 0) (ssid password : Bytes) :
    ∃ last verdict,
      last + 1 ≤ wifiBadAuthRetryCount + wifiAbandonTimeoutMs / wifiConnectTimeoutMs ∧
      Decides startTimeUs attempts last verdict ∧
      (∀ earlier < last, ∀ other, ¬ Decides startTimeUs attempts earlier other) ∧
      ∀ fuel > last,
        connectToWifi fuel ssid password wifiInitialized archInit startTimeUs attempts =
          some (verdict, (if wifiInitialized then [] else [Call.archInit]) ++ [.enableStaMode] ++
            (repeatedCalls ssid password attempts last ++
              [.watchdogUpdate, .connectTimeoutMs ssid password wifiConnectTimeoutMs]), true) := by
  classical
  have some_ : ∃ index, ∃ verdict, Decides startTimeUs attempts index verdict := by
    obtain ⟨index, -, decided⟩ := decision_comes timeline
    exact ⟨index, decided⟩
  obtain ⟨verdict, decided⟩ := Nat.find_spec some_
  have first : ∀ earlier < Nat.find some_, ∀ other,
      ¬ Decides startTimeUs attempts earlier other :=
    fun earlier before other early => Nat.find_min some_ before ⟨other, early⟩
  refine ⟨Nat.find some_, verdict, ?_, decided, first, ?_⟩
  · obtain ⟨index, inside, early⟩ := decision_comes timeline
    exact Nat.lt_of_le_of_lt (Nat.find_min' some_ early) inside
  · intro fuel enough
    obtain ⟨more, rfl⟩ := Nat.exists_eq_add_of_lt enough
    have up : ¬ (¬ wifiInitialized = true ∧ archInit ≠ 0) := by
      rintro ⟨down, failed⟩
      rcases initialised with already | now
      · exact down already
      · exact failed now
    have order : Nat.find some_ + more + 1 = more + 1 + Nat.find some_ := by omega
    rw [connectToWifi, if_neg up, order, connectLoop_from_start timeline first,
      connectLoop_decided decided]
    rfl

/-- A network that times out and refuses the password by turns. -/
def alternating (index : Nat) : Attempt where
  beginsUs := index * 11000000
  endsUs := index * 11000000 + 10500000
  ret := if index % 2 = 0 then picoErrorTimeout else picoErrorBadauth

/-- It is given up at the third attempt, the second timeout. The watchdog is fed
before each of them, and the refusal between them is followed by a pause. -/
theorem alternating_given_up :
    (∃ last verdict, last + 1 ≤ 6 ∧ Decides 0 alternating last verdict ∧
      (∀ earlier < last, ∀ other, ¬ Decides 0 alternating earlier other) ∧
      ∀ fuel > last, connectToWifi fuel [] [] true 0 0 alternating =
        some (verdict, [.enableStaMode] ++ (repeatedCalls [] [] alternating last ++
          [.watchdogUpdate, .connectTimeoutMs [] [] 10000]), true)) ∧
    connectToWifi 3 [] [] true 0 0 alternating =
      some (.timeoutError, [.enableStaMode,
        .watchdogUpdate, .connectTimeoutMs [] [] 10000,
        .watchdogUpdate, .connectTimeoutMs [] [] 10000, .sleepMs 500,
        .watchdogUpdate, .connectTimeoutMs [] [] 10000], true) := by
  have timeline : Timeline 0 alternating := by
    constructor
    · exact Nat.zero_le _
    · exact fun index => Nat.le_add_right _ _
    · intro index
      simp only [alternating]
      omega
    · intro index _
      exact Nat.add_le_add_left (by decide) _
  refine ⟨?_, by decide⟩
  obtain ⟨last, verdict, few, decided, first, returned⟩ :=
    connect_returns_verdict timeline (.inl rfl : true = true ∨ (0 : Int) = 0) [] []
  exact ⟨last, verdict, few, decided, first, returned⟩

end PicowDayClock.WifiConnection
