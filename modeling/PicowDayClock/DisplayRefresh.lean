import PicowDayClock.Ticks

/-! What the seven panels show. Only changed digits are drawn again, so the
digits kept in memory have to stay what is on the panels; then a call that
handles a tick leaves the panels as a full redraw would. -/
namespace PicowDayClock.DisplayRefresh
open Boot Daylight Ntp ClockTask ClockFrames Ticks

/-! ## The text of a local time -/

/-- The days of the week from 1 January 1970, a Thursday. -/
def dayNames : List Bytes :=
  [ascii "Thu", ascii "Fri", ascii "Sat", ascii "Sun", ascii "Mon", ascii "Tue", ascii "Wed"]

/-- A number below 100 in two decimal digits. -/
def twoDigits (number : Nat) : Bytes :=
  [(ascii "0123456789").getD (number / 10) 0, (ascii "0123456789").getD (number % 10) 0]

/-- The text is `DDDHHMM` of a local time: its day of the week, hour and minute. -/
def Reads (localTime : Int) (text : Bytes) : Prop :=
  ∃ (day : Int) (hour minute second : Nat),
    localTime = 86400 * day + 3600 * hour + 60 * minute + second ∧
      hour < 24 ∧ minute < 60 ∧ second < 60 ∧
      text = dayNames.getD (day % 7).toNat [] ++ twoDigits hour ++ twoDigits minute

/-- The whole of `lcd_digits`. -/
def digitText (localEpoch : Int) : Bytes :=
  dayOfWeekStr (gmtimeWday localEpoch) ++
    [digitChar (gmtimeHour localEpoch / 10), digitChar (gmtimeHour localEpoch % 10),
      digitChar (gmtimeMin localEpoch / 10), digitChar (gmtimeMin localEpoch % 10)]

/-- The table of the code starts with Sunday. -/
theorem dayOfWeekStr_eq (day : Int) :
    dayOfWeekStr ((day + 4) % 7).toNat = dayNames.getD (day % 7).toNat [] := by
  have cases_ : day % 7 = 0 ∨ day % 7 = 1 ∨ day % 7 = 2 ∨ day % 7 = 3 ∨ day % 7 = 4 ∨
      day % 7 = 5 ∨ day % 7 = 6 := by omega
  have shifted : (day + 4) % 7 = (day % 7 + 4) % 7 := by omega
  rw [shifted]
  rcases cases_ with at_ | at_ | at_ | at_ | at_ | at_ | at_ <;> rw [at_] <;> rfl

theorem digitChar_eq (number : Nat) (small : number < 100) :
    [digitChar (number / 10), digitChar (number % 10)] = twoDigits number := by
  have single : ∀ digit < 10, digitChar digit = (ascii "0123456789").getD digit 0 := by decide
  rw [twoDigits, single (number / 10) (by omega), single (number % 10) (by omega)]

/-- The digits that `clock_task` computes are the text of the local time. -/
theorem digitText_reads (localEpoch : Int) : Reads localEpoch (digitText localEpoch) := by
  have hour : gmtimeHour localEpoch < 24 := by unfold gmtimeHour; omega
  have minute : gmtimeMin localEpoch < 60 := by unfold gmtimeMin; omega
  refine ⟨localEpoch / 86400, gmtimeHour localEpoch, gmtimeMin localEpoch,
    (localEpoch % 60).toNat, ?_, hour, minute, by omega, ?_⟩
  · unfold gmtimeHour gmtimeMin
    omega
  · rw [← dayOfWeekStr_eq, ← digitChar_eq _ (by omega), ← digitChar_eq _ (by omega),
      List.append_assoc]
    rfl

/-- A character that `lcd_print_clock_digit` draws. -/
def drawable (character : Byte) : Bool := !(character < 0x20 ∨ character > 0x7E)

theorem lcdPrintClockDigit_digit (lcd : LcdState) {character : Byte}
    (visible : drawable character = true) :
    (lcdPrintClockDigit lcd character).digit = some character := by
  have inside : ¬ (character < 0x20 ∨ character > 0x7E) := by simpa [drawable] using visible
  rw [lcdPrintClockDigit, if_neg inside]

/-- The text has a character for each panel, and each can be drawn. -/
theorem reads_shape (reads : Reads localTime text) :
    text.length = numLcds ∧ text.all drawable = true := by
  obtain ⟨day, hour, minute, second, -, early, below, -, rfl⟩ := reads
  have name : ∀ index < 7, (dayNames.getD index []).length = 3 ∧
      (dayNames.getD index []).all drawable = true := by decide
  have digits : ∀ number < 100, (twoDigits number).all drawable = true := by decide
  obtain ⟨length, letters⟩ := name (day % 7).toNat (by omega)
  constructor
  · rw [List.length_append, List.length_append, length]
    rfl
  · rw [List.all_append, List.all_append, letters, digits hour (by omega),
      digits minute (by omega)]
    rfl

theorem lcdDigits_eq (localEpoch : Int) (ii : Fin numLcds) :
    (digitText localEpoch)[ii.val]? = some (lcdDigits localEpoch ii) := by
  have length := (reads_shape (digitText_reads localEpoch)).1
  have inside : ii.val < (digitText localEpoch).length := by rw [length]; exact ii.isLt
  rw [List.getElem?_eq_getElem inside]
  change _ = some ((digitText localEpoch).getD ii 0)
  rw [List.getD_eq_getElem _ _ inside]

theorem lcdDigits_drawable (localEpoch : Int) (ii : Fin numLcds) :
    drawable (lcdDigits localEpoch ii) = true := by
  have all := (reads_shape (digitText_reads localEpoch)).2
  rw [List.all_eq_true] at all
  exact all _ (List.mem_of_getElem? (lcdDigits_eq localEpoch ii))

/-! ## One round of the loop -/

/-- The panel shows the digit kept for it. -/
def Shows (state : ClockState) (ii : Fin numLcds) : Prop :=
  (state.lcdStates ii).digit = some (state.currentLcdDigits ii)

/-- A round makes its own panel show its new digit, drawn again or not. -/
theorem redraw_self {state : ClockState} {digits : Fin numLcds → Byte} {ii : Fin numLcds}
    (shown : state.firstClockTick = true ∨ Shows state ii)
    (visible : drawable (digits ii) = true) (ntpError : NtpError) :
    (redraw state digits ntpError ii).currentLcdDigits ii = digits ii ∧
      ((redraw state digits ntpError ii).lcdStates ii).digit = some (digits ii) := by
  refine ⟨by simp [redraw], ?_⟩
  have drawnAgain : ∀ lcd, (lcdPrintClockDigit lcd (digits ii)).digit = some (digits ii) :=
    fun lcd => lcdPrintClockDigit_digit lcd visible
  by_cases changed : state.currentLcdDigits ii ≠ digits ii ∨ state.firstClockTick = true
  · by_cases first : ii = 0
    · subst first
      simp [redraw, changed, ClockState.onLcd, lcdUpdateIcons_frame, drawnAgain]
    · simp [redraw, changed, ClockState.onLcd, first, drawnAgain]
  · have same : state.currentLcdDigits ii = digits ii := by
      by_contra other
      exact changed (.inl other)
    have kept : (state.lcdStates ii).digit = some (digits ii) := by
      rw [← same]
      exact shown.resolve_left fun first => changed (.inr first)
    by_cases first : ii = 0
    · subst first
      simp [redraw, changed, ClockState.onLcd, lcdUpdateIcons_frame, kept]
    · simp [redraw, changed, first, kept]

/-- Every other panel and its digit stay as they are. -/
theorem redraw_other (state : ClockState) (digits : Fin numLcds → Byte) (ntpError : NtpError)
    {ii jj : Fin numLcds} (other : jj ≠ ii) :
    (redraw state digits ntpError ii).currentLcdDigits jj = state.currentLcdDigits jj ∧
      (redraw state digits ntpError ii).lcdStates jj = state.lcdStates jj := by
  by_cases first : ii = 0
  · subst first
    by_cases changed : state.currentLcdDigits 0 ≠ digits 0 ∨ state.firstClockTick = true
    · simp [redraw, changed, ClockState.onLcd, other]
    · simp [redraw, changed, ClockState.onLcd, other]
  · by_cases changed : state.currentLcdDigits ii ≠ digits ii ∨ state.firstClockTick = true
    · simp [redraw, changed, ClockState.onLcd, other, first]
    · simp [redraw, changed, other, first]

/-! ## Every run -/

/-- The panel shows the digit of the tick at hand. -/
def Current (clock : Clock) (ii : Fin numLcds) : Prop :=
  clock.state.currentLcdDigits ii = lcdDigits clock.locals.localEpoch ii ∧
    (clock.state.lcdStates ii).digit = some (lcdDigits clock.locals.localEpoch ii)

/-- Before the first tick nothing is promised. After it every panel shows the
digit kept for it, and behind the round of a panel that is the digit of the
tick at hand. -/
structure Inv (clock : Clock) (tick : Tick) : Prop where
  read : TimeRead clock tick
  shown : clock.state.firstClockTick = true ∨ ∀ ii, Shows clock.state ii
  drawing : ∀ jj, clock.pc = .draw jj → ∀ ii < jj, Current clock ii
  drawn : drawn clock = true → ∀ ii, Current clock ii

theorem Current.shows {clock : Clock} {ii : Fin numLcds} (current : Current clock ii) :
    Shows clock.state ii := by
  rw [Shows, current.1, current.2]

/-- What neither draws nor reads the time. -/
theorem Current.frame {clock next : Clock} {ii : Fin numLcds} (current : Current clock ii)
    (digits : next.state.currentLcdDigits = clock.state.currentLcdDigits)
    (panel : (next.state.lcdStates ii).digit = (clock.state.lcdStates ii).digit)
    (localEpoch : next.locals.localEpoch = clock.locals.localEpoch) : Current next ii := by
  rw [Current, digits, panel, localEpoch]
  exact current

/-- A round of the loop. -/
theorem draw_inv {clock next : Clock} (inv : Inv clock tick) {ii : Fin numLcds}
    (at_pc : clock.pc = .draw ii) (happened : clock.statement dns udp = some next) :
    Inv next (note clock (.task dns udp) tick) := by
  have read := statement_timeRead inv.read happened
  have follows := statement_follows happened
  have frame := statement_frame happened
  have localEpoch := (frame.times (by simp [at_pc])).2
  have first := frame.firstClockTick (by simp [at_pc])
  have state : next.state = redraw clock.state (lcdDigits clock.locals.localEpoch)
      clock.locals.ntpAtomicState.error ii := by
    simp only [Clock.statement, at_pc, Option.some.injEq] at happened
    rw [← happened]
  have self := redraw_self (inv.shown.imp_right fun shown => shown ii)
    (lcdDigits_drawable clock.locals.localEpoch ii) clock.locals.ntpAtomicState.error
  have other : ∀ jj, jj ≠ ii → next.state.currentLcdDigits jj = clock.state.currentLcdDigits jj ∧
      next.state.lcdStates jj = clock.state.lcdStates jj := by
    intro jj different
    rw [state]
    exact redraw_other _ _ _ different
  have own : Current next ii := by
    rw [Current, state, localEpoch]
    exact self
  have before : ∀ jj < ii, Current next jj := by
    intro jj earlier
    obtain ⟨digit, panel⟩ := other jj (ne_of_lt earlier)
    rw [Current, digit, panel, localEpoch]
    exact inv.drawing ii at_pc jj earlier
  refine ⟨read, ?_, ?_, ?_⟩
  · rw [first]
    refine inv.shown.imp_right fun shown jj => ?_
    by_cases same : jj = ii
    · rw [same]
      exact own.shows
    · obtain ⟨digit, panel⟩ := other jj same
      rw [Shows, digit, panel]
      exact shown jj
  · intro kk drawing jj earlier
    simp only [Follows, at_pc, drawing, Pc.draw.injEq, reduceCtorEq, and_false, or_false] at follows
    obtain ⟨_, up, rfl⟩ := follows
    rcases Nat.lt_or_ge jj.val ii.val with less | rest
    · exact before jj less
    · have same : jj = ii := Fin.ext (by omega)
      rw [same]
      exact own
  · intro behind jj
    simp only [Follows, at_pc] at follows
    rcases follows with ⟨kk, -, draws⟩ | ⟨last, -⟩
    · simp [ClockFrames.drawn, draws] at behind
    · rcases Nat.lt_or_ge jj.val ii.val with less | rest
      · exact before jj less
      · have same : jj = ii := Fin.ext (by omega)
        rw [same]
        exact own

/-- Without a change the loop is not entered, and the panels are right already. -/
theorem compareDigits_unchanged {clock next : Clock} (at_pc : clock.pc = .compareDigits)
    (happened : clock.statement dns udp = some next) (on : next.pc = .checkStatus) :
    clock.state.firstClockTick = false ∧
      ∀ ii, clock.state.currentLcdDigits ii = lcdDigits clock.locals.localEpoch ii := by
  simp only [Clock.statement, at_pc, Option.some.injEq] at happened
  subst happened
  simp only [Clock.goto] at on
  split at on
  · cases on
  · have none_ : ∀ ii, ¬ (clock.state.currentLcdDigits ii ≠
        lcdDigits clock.locals.localEpoch ii ∨ clock.state.firstClockTick = true) := by
      intro ii
      have unchanged := ‹¬ _›
      simp only [List.any_eq_true, decide_eq_true_eq, not_exists, not_and] at unchanged
      exact unchanged ii (List.mem_finRange ii)
    constructor
    · simpa using fun first => none_ 0 (.inr first)
    · intro ii
      by_contra different
      exact none_ ii (.inl different)

/-- The statements outside the loop. -/
theorem away_inv {clock next : Clock} (inv : Inv clock tick) (away : ∀ ii, clock.pc ≠ .draw ii)
    (happened : clock.statement dns udp = some next) :
    Inv next (note clock (.task dns udp) tick) := by
  have read := statement_timeRead inv.read happened
  have frame := statement_frame happened
  have digits := frame.currentLcdDigits away
  have panels := frame.digits away
  refine ⟨read, ?_, ?_, ?_⟩
  · by_cases done : clock.pc = .firstTickDone
    · right
      intro ii
      rw [Shows, digits, panels]
      exact (inv.drawn (by simp [ClockFrames.drawn, handling, done]) ii).shows
    · rw [frame.firstClockTick done]
      refine inv.shown.imp_right fun shown ii => ?_
      rw [Shows, digits, panels]
      exact shown ii
  · intro jj drawing ii earlier
    have comes := statement_comes happened
    rw [drawing] at comes
    rcases comes with ⟨rfl, -⟩ | ⟨kk, -, at_pc⟩
    · exact absurd earlier (Nat.not_lt_zero _)
    · exact absurd at_pc (away kk)
  · intro behind ii
    rcases drawn_enters happened behind with before | ⟨comparing, on⟩ | ⟨jj, at_pc, -⟩
    · have within := handling_away (handling_of_drawn before)
      exact (inv.drawn before ii).frame digits (panels ii) (frame.times within.2.2.2).2
    · obtain ⟨later, same⟩ := compareDigits_unchanged comparing happened on
      have shown := (inv.shown.resolve_left (by simp [later])) ii
      have current : Current clock ii := ⟨same ii, by rw [← same ii]; exact shown⟩
      exact current.frame digits (panels ii) (frame.times (by simp [comparing])).2
    · exact absurd at_pc (away jj)

/-- `clock_init` asks for a full redraw on the first tick. -/
theorem started_inv (started : Started clock) : Inv clock .none := by
  have begins := started_begins started
  refine ⟨started_timeRead started, .inl begins.firstClockTick, ?_, ?_⟩
  · simp [begins.pc]
  · simp [ClockFrames.drawn, handling, begins.pc, begins.starting]

/-- Callbacks draw nothing. -/
theorem interrupt_inv {clock next : Clock} (inv : Inv clock tick) (frame : Interrupt clock next)
    (read : TimeRead next tick) : Inv next tick where
  read := read
  shown := by
    simp only [Shows, frame.firstClockTick, frame.lcdStates, frame.currentLcdDigits]
    exact inv.shown
  drawing := by
    simp only [Current, frame.pc, frame.locals, frame.lcdStates, frame.currentLcdDigits]
    exact inv.drawing
  drawn := by
    simp only [Current, (interrupt_handling frame).2, frame.locals, frame.lcdStates,
      frame.currentLcdDigits]
    exact inv.drawn

theorem step_inv (inv : Inv pair.1 pair.2) (stepped : ticks.step pair event = some next) :
    Inv next.1 next.2 := by
  obtain ⟨clock, tick⟩ := pair
  obtain ⟨reached, tickAfter⟩ := next
  obtain ⟨happened, rfl⟩ := StepSystem.observed_step stepped
  have read := step_timeRead inv.read happened
  rcases step_cases happened with ⟨interrupting, frame⟩ | ⟨dns, udp, rfl, ran⟩
  · rw [note_interrupt interrupting] at read ⊢
    exact interrupt_inv inv frame read
  · by_cases drawing : ∃ ii, clock.pc = .draw ii
    · obtain ⟨ii, at_pc⟩ := drawing
      exact draw_inv inv at_pc ran
    · exact away_inv inv (fun ii at_pc => drawing ⟨ii, at_pc⟩) ran

theorem run_inv (started : Started clock)
    (ran : ticks.run (clock, .none) events = some (reached, tick)) : Inv reached tick :=
  @StepSystem.run_invariant _ _ ticks _ _ _ (fun pair => Inv pair.1 pair.2)
    (fun _ _ _ inv stepped => step_inv inv stepped) (started_inv started) ran

/-- No step changes the configuration. -/
theorem run_flashConfig (ran : ticks.run (clock, before) events = some (reached, tick)) :
    reached.state.flashConfig = clock.state.flashConfig := by
  refine @StepSystem.run_invariant _ _ ticks _ _ _
    (fun pair => pair.1.state.flashConfig = clock.state.flashConfig) ?_ rfl ran
  intro pair event next same stepped
  rcases step_cases (StepSystem.observed_step stepped).1 with ⟨-, frame⟩ | ⟨dns, udp, -, happened⟩
  · exact frame.flashConfig.trans same
  · exact (statement_frame happened).flashConfig.trans same

/-- The local time that the panels have to show. -/
def localTime (utcNow : Int) (config : FlashConfig) : Int :=
  utcNow + 60 * config.tzOffsetMins + if timeIsDst utcNow config ≠ 0 then 3600 else 0

/-- In every run of a started clock, with any times set and any ticks skipped,
each call that handles a tick and does not reset returns with `DDDHHMM` of the
local time of that tick on the panels and in `current_lcd_digits`, as if every
panel had been cleared and drawn again. -/
theorem panels_show_local_time (started : Started clock)
    (ran : ticks.run (clock, .none) events = some (reached, tick))
    (last : reached.pc = .firstTickDone)
    (returns : running.step reached (.task dns udp) = some next) :
    next.pc = .returned ∧
      ∃ text, Reads (localTime tick.utcNow clock.state.flashConfig) text ∧
        ∀ ii : Fin numLcds, ∃ character, text[ii.val]? = some character ∧
          next.state.currentLcdDigits ii = character ∧
          (next.state.lcdStates ii).digit = some character ∧
          ∀ lcd, (lcdPrintClockDigit (lcdClearScreen lcd) character).digit = some character := by
  have inv := run_inv started ran
  have frame := statement_frame returns
  have away : ∀ ii, reached.pc ≠ .draw ii := by simp [last]
  have follows := statement_follows returns
  simp only [Follows, last] at follows
  have localEpoch : reached.locals.localEpoch = localTime tick.utcNow clock.state.flashConfig := by
    rw [inv.read.localEpoch (by simp [handling, last]), run_flashConfig ran]
    unfold calculateLocalTime localTime
    dsimp only
    split <;> omega
  refine ⟨follows, digitText reached.locals.localEpoch, ?_, fun ii => ?_⟩
  · rw [← localEpoch]
    exact digitText_reads _
  · obtain ⟨digit, panel⟩ := inv.drawn (by simp [drawn, handling, last]) ii
    refine ⟨lcdDigits reached.locals.localEpoch ii, lcdDigits_eq _ ii, ?_, ?_, fun lcd => ?_⟩
    · rw [frame.currentLcdDigits away, digit]
    · rw [frame.digits away, panel]
    · exact lcdPrintClockDigit_digit _ (lcdDigits_drawable _ ii)

/-- The first request, a tick of the timer, and the task up to its last
statement. -/
def firstTick : List Event :=
  let task := Event.task (.resolved 1) .sent
  List.replicate 4 task ++ .clockTimer 1 :: List.replicate 18 task

theorem first_tick_shows_local_time :
    ∃ reached tick next, ticks.run (coldStart, .none) firstTick = some (reached, tick) ∧
      running.step reached (.task .inProgress .sent) = some next ∧ next.pc = .returned ∧
      ∃ text, Reads (localTime tick.utcNow plainFlash) text ∧
        ∀ ii : Fin numLcds, ∃ character, text[ii.val]? = some character ∧
          next.state.currentLcdDigits ii = character ∧
          (next.state.lcdStates ii).digit = some character ∧
          ∀ lcd, (lcdPrintClockDigit (lcdClearScreen lcd) character).digit = some character := by
  obtain ⟨reached, tick, next, ran, last, returns⟩ : ∃ reached tick next,
      ticks.run (coldStart, .none) firstTick = some (reached, tick) ∧
        reached.pc = .firstTickDone ∧
        running.step reached (.task .inProgress .sent) = some next := ⟨_, _, _, rfl, rfl, rfl⟩
  exact ⟨reached, tick, next, ran, returns,
    panels_show_local_time coldStart_started ran last returns⟩

end PicowDayClock.DisplayRefresh
