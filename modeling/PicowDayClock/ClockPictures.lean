import PicowDayClock.DisplayRefresh
import PicowDayClock.Firmware.ClockPanels
import PicowDayClock.PanelRuns

/-! The pictures behind the seven panels of the clock. What `lcd_states` is said
to show is drawn on the panels, whatever interrupts the task, and after each tick
they display the local time. -/
namespace PicowDayClock.ClockPictures
open Boot Checked LcdDriver LcdPanels ClockTask ClockFrames ClockPanels PanelController
open PanelDrawings PanelCalls PanelRuns Ticks

/-! ## Pictures that look the same -/

/-- Two pictures that cannot be told apart on a panel. -/
def Alike (canvas other : Canvas Color) : Prop :=
  ∀ column row, column < lcdWidth → row < lcdHeight → canvas column row = other column row

theorem Alike.refl (canvas : Canvas Color) : Alike canvas canvas := fun _ _ _ _ => rfl

/-- They still look the same with the same rectangles over them. -/
theorem Alike.over {canvas other : Canvas Color} (alike : Alike canvas other)
    (strokes : List Stroke) :
    Alike (strokes.foldl Stroke.over canvas) (strokes.foldl Stroke.over other) := by
  induction strokes generalizing canvas other with
  | nil => exact alike
  | cons stroke strokes ih =>
    apply ih
    intro column row narrow low
    by_cases inside :
        Canvas.Inside stroke.left stroke.top stroke.width stroke.height column row
    · rw [Stroke.over, Stroke.over, Canvas.paint_inside _ _ inside, Canvas.paint_inside _ _ inside]
    · rw [Stroke.over, Stroke.over, Canvas.paint_outside _ _ inside,
        Canvas.paint_outside _ _ inside]
      exact alike column row narrow low

/-- Nothing is left of what was there before a panel was cleared. -/
theorem cleared_alike (canvas : Canvas Color) :
    Alike ([clearStroke 0].foldl Stroke.over canvas) blank := by
  intro column row narrow low
  exact Canvas.paint_inside _ _ (inside_panel narrow low)

theorem Displays.alike {port : Port} {canvas other : Canvas Color}
    (displays : Displays port canvas) (alike : Alike canvas other) : Displays port other := by
  intro column row narrow low
  rw [displays column row narrow low, alike column row narrow low]

/-! ## Icons -/

/-- The picture with an icon in one of the three places, if there is one. -/
def inPlace (xOffset : Nat) (case : Option (Icon × Color)) (canvas : Canvas Color) :
    Canvas Color := (iconStrokes xOffset case).foldl Stroke.over canvas

/-- An icon is replaced by the next one in its place. -/
theorem inPlace_again (xOffset : Nat) (before after : Option (Icon × Color))
    (canvas : Canvas Color) :
    inPlace xOffset after (inPlace xOffset before canvas) =
      inPlace xOffset (after <|> before) canvas := by
  cases after with
  | none => rfl
  | some icon =>
    cases before with
    | none => rfl
    | some old => exact Canvas.paint_again canvas _ _ xOffset 0 iconSize iconSize

/-- The places are beside each other. -/
theorem inPlace_beside {left right : Nat} (beside : left + iconSize ≤ right)
    (first second : Option (Icon × Color)) (canvas : Canvas Color) :
    inPlace right second (inPlace left first canvas) =
      inPlace left first (inPlace right second canvas) := by
  cases first with
  | none => rfl
  | some icon =>
    cases second with
    | none => rfl
    | some other => exact Canvas.paint_beside canvas _ _ beside 0 iconSize iconSize 0 iconSize

/-- The three icons of `lcd_update_icons`. -/
def inPlaces (watchdog ntp wifi : Option (Icon × Color)) (canvas : Canvas Color) : Canvas Color :=
  inPlace wifiIconXOffset wifi (inPlace ntpIconXOffset ntp (inPlace watchdogIconXOffset watchdog
    canvas))

theorem inPlaces_again (watchdog ntp wifi newWatchdog newNtp newWifi : Option (Icon × Color))
    (canvas : Canvas Color) :
    inPlaces newWatchdog newNtp newWifi (inPlaces watchdog ntp wifi canvas) =
      inPlaces (newWatchdog <|> watchdog) (newNtp <|> ntp) (newWifi <|> wifi) canvas := by
  have watchdogNtp : watchdogIconXOffset + iconSize ≤ ntpIconXOffset := by decide
  have watchdogWifi : watchdogIconXOffset + iconSize ≤ wifiIconXOffset := by decide
  have ntpWifi : ntpIconXOffset + iconSize ≤ wifiIconXOffset := by decide
  unfold inPlaces
  rw [← inPlace_beside watchdogWifi, ← inPlace_beside watchdogNtp, inPlace_again,
    ← inPlace_beside ntpWifi, inPlace_again, inPlace_again]

/-! ## What a panel shows -/

/-- The rectangles of a digit. -/
def digitStrokes (bitmaps : Bitmaps) (ii : Fin numLcds) : Option Byte → List Stroke
  | some asciiChar => charStrokes bitmaps.clockDigitFont (digitColor ii)
      (digitPlace bitmaps.clockDigitFont asciiChar)
  | none => []

/-- A picture with the icons of a panel. -/
def withIcons (bitmaps : Bitmaps) (lcd : LcdState) (canvas : Canvas Color) : Canvas Color :=
  inPlaces (lcd.watchdogIcon.bind bitmaps.icons.watchdog) (lcd.ntpIcon.bind bitmaps.icons.ntp)
    (lcd.wifiIcon.bind bitmaps.icons.wifi) canvas

/-- The colour of a diagnostic line. -/
def lineColor : LcdStatusMessage → Color
  | .initOk | .wifiOk => .green
  | .flashError | .wifiError => .red

/-- The rectangles of the diagnostic lines, one below the other. -/
def lineStrokes (bitmaps : Bitmaps) (lines : List LcdStatusMessage) : List Stroke :=
  lines.zipIdx.flatMap fun line =>
    (lineWrites bitmaps.textFont line.2 (msgStr line.1)).flatMap
      (charStrokes bitmaps.textFont (lineColor line.1))

/-- What stands behind the icons. -/
def background (bitmaps : Bitmaps) (ii : Fin numLcds) (lcd : LcdState) : Canvas Color :=
  (lineStrokes bitmaps lcd.lines ++ digitStrokes bitmaps ii lcd.digit).foldl Stroke.over blank

/-- The picture of a panel: its diagnostic lines and its digit on black, and the
icons over them. -/
def picture (bitmaps : Bitmaps) (ii : Fin numLcds) (lcd : LcdState) : Canvas Color :=
  withIcons bitmaps lcd (background bitmaps ii lcd)

section Panel

variable {bitmaps : Bitmaps} {ii : Fin numLcds} {canvas : Canvas Color} {lcd : LcdState}

/-- `lcd_update_icons` on a panel. -/
theorem pictured_updateIcons (pictured : Alike canvas (picture bitmaps ii lcd)) (lineNumber : Nat)
    (watchdogError : WatchdogError) (ntpError : NtpError) (wifiError : WifiError) :
    Alike
      ((LcdCall.strokes bitmaps lineNumber
        (.updateIcons watchdogError ntpError wifiError)).foldl Stroke.over canvas)
      (picture bitmaps ii (lcdUpdateIcons lcd watchdogError ntpError wifiError)) := by
  obtain ⟨digit, lines⟩ := lcdUpdateIcons_frame lcd watchdogError ntpError wifiError
  have behind : background bitmaps ii (lcdUpdateIcons lcd watchdogError ntpError wifiError) =
      background bitmaps ii lcd := by rw [background, digit, lines, ← background]
  have watchdog : (lcdUpdateIcons lcd watchdogError ntpError wifiError).watchdogIcon.bind
      bitmaps.icons.watchdog =
        (bitmaps.icons.watchdog watchdogError <|> lcd.watchdogIcon.bind bitmaps.icons.watchdog) := by
    cases watchdogError <;> cases ntpError <;> cases wifiError <;> rfl
  have ntp : (lcdUpdateIcons lcd watchdogError ntpError wifiError).ntpIcon.bind
      bitmaps.icons.ntp =
        (bitmaps.icons.ntp ntpError <|> lcd.ntpIcon.bind bitmaps.icons.ntp) := by
    cases watchdogError <;> cases ntpError <;> cases wifiError <;> rfl
  have wifi : (lcdUpdateIcons lcd watchdogError ntpError wifiError).wifiIcon.bind
      bitmaps.icons.wifi =
        (bitmaps.icons.wifi wifiError <|> lcd.wifiIcon.bind bitmaps.icons.wifi) := by
    cases watchdogError <;> cases ntpError <;> cases wifiError <;> rfl
  have drawn := pictured.over
    (LcdCall.strokes bitmaps lineNumber (.updateIcons watchdogError ntpError wifiError))
  rw [picture, behind, withIcons, watchdog, ntp, wifi, ← inPlaces_again]
  simp only [LcdCall.strokes, List.foldl_append] at drawn ⊢
  exact drawn

/-- `lcd_clear_screen` and `lcd_print_clock_digit`, as a redraw calls them. -/
theorem pictured_redrawn (ii : Fin numLcds) (canvas : Canvas Color) (lcd : LcdState)
    (lineNumber : Nat) (character : Byte) :
    Alike
      ((LcdCall.strokes bitmaps lineNumber (.printClockDigit (digitColor ii) character)).foldl
        Stroke.over ([clearStroke 0].foldl Stroke.over canvas))
      (picture bitmaps ii (lcdPrintClockDigit (lcdClearScreen lcd) character)) := by
  have alike := (cleared_alike canvas).over
    (LcdCall.strokes bitmaps lineNumber (.printClockDigit (digitColor ii) character))
  unfold lcdPrintClockDigit
  split
  · have left_out : printable character = false := by
      rw [printable, decide_eq_false (not_not_intro ‹_›)]
    rw [LcdCall.strokes, charStrokes, digitPlace, left_out] at alike ⊢
    exact alike
  · exact alike

def NoIcons (lcd : LcdState) : Prop :=
  lcd.watchdogIcon = none ∧ lcd.ntpIcon = none ∧ lcd.wifiIcon = none

/-- A panel with nothing but lines, and the number of the next one. -/
structure OnlyLines (lcd : LcdState) (lineNumber : Nat) : Prop where
  digit : lcd.digit = none
  icons : NoIcons lcd
  next : lineNumber = lcd.lines.length

theorem OnlyLines.picture_eq {lineNumber : Nat} (only : OnlyLines lcd lineNumber) :
    picture bitmaps ii lcd = (lineStrokes bitmaps lcd.lines).foldl Stroke.over blank := by
  obtain ⟨digit, ⟨watchdog, ntp, wifi⟩, -⟩ := only
  rw [picture, withIcons, watchdog, ntp, wifi, background, digit, digitStrokes, List.append_nil]
  rfl

theorem lineStrokes_append (bitmaps : Bitmaps) (lines : List LcdStatusMessage)
    (message : LcdStatusMessage) :
    lineStrokes bitmaps (lines ++ [message]) = lineStrokes bitmaps lines ++
      LcdCall.strokes bitmaps lines.length (.printLine (lineColor message) message) := by
  simp only [lineStrokes, LcdCall.strokes, List.zipIdx_append, List.flatMap_append, Nat.zero_add,
    List.zipIdx_cons, List.zipIdx_nil, List.flatMap_singleton]

/-- `lcd_print_line`: a line comes before any digit or icon. -/
theorem pictured_line {lineNumber : Nat} (pictured : Alike canvas (picture bitmaps ii lcd))
    (only : OnlyLines lcd lineNumber) (message : LcdStatusMessage) :
    Alike
      ((LcdCall.strokes bitmaps lineNumber (.printLine (lineColor message) message)).foldl
        Stroke.over canvas)
      (picture bitmaps ii (lcdPrintLine lcd message)) := by
  have more : OnlyLines (lcdPrintLine lcd message) (lineNumber + 1) :=
    ⟨only.digit, only.icons, by rw [only.next, lcdPrintLine, List.length_append]; rfl⟩
  rw [only.picture_eq] at pictured
  rw [more.picture_eq, lcdPrintLine, lineStrokes_append, List.foldl_append, only.next]
  exact pictured.over _

end Panel

/-! ## All panels -/

/-- A panel has the picture of what `lcd_states` says of it. A digit is one of a
local time and stands on a panel that has been cleared of lines, and only the
first panel has icons. -/
structure Matches (bitmaps : Bitmaps) (ii : Fin numLcds) (canvas : Canvas Color)
    (lcd : LcdState) : Prop where
  pictured : Alike canvas (picture bitmaps ii lcd)
  timed : ∀ character, lcd.digit = some character →
    ∃ localEpoch, character = lcdDigits localEpoch ii
  plain : lcd.digit ≠ none → lcd.lines = []
  bare : ii ≠ 0 → NoIcons lcd

/-- Every panel has its picture. -/
def Drawn (bitmaps : Bitmaps) (lcdStates : Fin numLcds → LcdState) (screens : Screens) : Prop :=
  ∀ ii, Matches bitmaps ii (screens.pictures ii) (lcdStates ii)

theorem onLcd_own (state : ClockState) (ii : Fin numLcds) (draw : LcdState → LcdState) :
    (state.onLcd ii draw).lcdStates ii = draw (state.lcdStates ii) := if_pos rfl

theorem onLcd_other (state : ClockState) {ii jj : Fin numLcds} (apart : jj ≠ ii)
    (draw : LcdState → LcdState) : (state.onLcd ii draw).lcdStates jj = state.lcdStates jj :=
  if_neg apart

theorem onLcd_twice (state : ClockState) (ii : Fin numLcds) (draw later : LcdState → LcdState) :
    ((state.onLcd ii draw).onLcd ii later).lcdStates =
      (state.onLcd ii fun lcd => later (draw lcd)).lcdStates := by
  funext jj
  by_cases same : jj = ii
  · rw [same, onLcd_own, onLcd_own, onLcd_own]
  · rw [onLcd_other _ same, onLcd_other _ same, onLcd_other _ same]

/-- Calls for one panel. -/
theorem Drawn.onLcd {bitmaps : Bitmaps} {state : ClockState} {screens : Screens}
    (drawn : Drawn bitmaps state.lcdStates screens) {ii : Fin numLcds} {draw : LcdState → LcdState}
    {events : List (Fin numLcds × LcdCall)} (own : ∀ event ∈ events, event.1 = ii)
    (same : Matches bitmaps ii ((screens.run bitmaps events).pictures ii)
      (draw (state.lcdStates ii))) :
    Drawn bitmaps (state.onLcd ii draw).lcdStates (screens.run bitmaps events) := by
  have others : ∀ jj, jj ≠ ii → (screens.run bitmaps events).pictures jj = screens.pictures jj := by
    intro jj apart
    exact screens.run_other bitmaps fun event listed => by
      rw [own event listed]
      exact apart
  intro jj
  by_cases here : jj = ii
  · rw [here, onLcd_own]
    exact same
  · rw [others jj here, onLcd_other state here]
    exact drawn jj

theorem Drawn.updateIcons {bitmaps : Bitmaps} {state : ClockState} {screens : Screens}
    (drawn : Drawn bitmaps state.lcdStates screens) (watchdogError : WatchdogError)
    (ntpError : NtpError) (wifiError : WifiError) :
    Drawn bitmaps
      (state.onLcd 0 fun lcd => lcdUpdateIcons lcd watchdogError ntpError wifiError).lcdStates
      (screens.run bitmaps [(0, .updateIcons watchdogError ntpError wifiError)]) := by
  obtain ⟨digit, lines⟩ :=
    lcdUpdateIcons_frame (state.lcdStates 0) watchdogError ntpError wifiError
  refine drawn.onLcd (by simp) ⟨?_, ?_, ?_, fun behind => absurd rfl behind⟩
  · rw [Screens.run, List.foldl_cons, List.foldl_nil, Screens.call_own]
    exact pictured_updateIcons (drawn 0).pictured screens.lineNumber watchdogError ntpError
      wifiError
  · rw [digit]
    exact (drawn 0).timed
  · rw [digit, lines]
    exact (drawn 0).plain

/-- A line on the first panel, before its digit and its icons. -/
theorem Drawn.printLine {bitmaps : Bitmaps} {state : ClockState} {screens : Screens}
    (drawn : Drawn bitmaps state.lcdStates screens)
    (only : OnlyLines (state.lcdStates 0) screens.lineNumber) (message : LcdStatusMessage) :
    Drawn bitmaps (state.onLcd 0 fun lcd => lcdPrintLine lcd message).lcdStates
      (screens.run bitmaps [(0, .printLine (lineColor message) message)]) := by
  have early : (lcdPrintLine (state.lcdStates 0) message).digit = none := only.digit
  refine drawn.onLcd (by simp) ⟨?_, ?_, fun late => absurd early late,
    fun behind => absurd rfl behind⟩
  · rw [Screens.run, List.foldl_cons, List.foldl_nil, Screens.call_own]
    exact pictured_line (drawn 0).pictured only message
  · intro character shown
    rw [early] at shown
    cases shown

/-- A round of the loop over the panels. -/
theorem Drawn.redraw {bitmaps : Bitmaps} {state : ClockState} {screens : Screens}
    (drawn : Drawn bitmaps state.lcdStates screens) (localEpoch : Int) (ntpError : NtpError)
    (ii : Fin numLcds) :
    Drawn bitmaps (redraw state (lcdDigits localEpoch) ntpError ii).lcdStates
      (screens.run bitmaps (redrawCalls state (lcdDigits localEpoch) ntpError ii)) := by
  set digits := lcdDigits localEpoch with computed
  have digit : ∃ between, (between.watchdogResetError = state.watchdogResetError) ∧
      (between = if state.currentLcdDigits ii ≠ digits ii ∨ state.firstClockTick then
        state.onLcd ii fun lcd => lcdPrintClockDigit (lcdClearScreen lcd) (digits ii)
        else state) ∧
      Drawn bitmaps between.lcdStates (screens.run bitmaps
        (if state.currentLcdDigits ii ≠ digits ii ∨ state.firstClockTick then
          [(ii, .clearScreen 0), (ii, .printClockDigit (digitColor ii) (digits ii))] else [])) := by
    refine ⟨_, ?_, rfl, ?_⟩
    · split <;> rfl
    · split
      · refine drawn.onLcd (by simp) ⟨?_, fun character shown => ⟨localEpoch, ?_⟩, fun _ => ?_,
          fun _ => ?_⟩
        · simp only [Screens.run, List.foldl_cons, List.foldl_nil, Screens.call_own]
          exact pictured_redrawn ii _ _ _ _
        · have own := DisplayRefresh.lcdPrintClockDigit_digit
            (lcdClearScreen (state.lcdStates ii)) (DisplayRefresh.lcdDigits_drawable localEpoch ii)
          rw [← computed, shown] at own
          exact Option.some.inj own
        · unfold lcdPrintClockDigit
          split <;> rfl
        · unfold lcdPrintClockDigit
          split <;> exact ⟨rfl, rfl, rfl⟩
      · exact drawn
  obtain ⟨between, error, same, first⟩ := digit
  rw [redrawCalls, Screens.run_append]
  unfold ClockTask.redraw
  dsimp only
  rw [← same]
  by_cases front : ii = 0
  · rw [if_pos front, if_pos front, ← error]
    exact first.updateIcons _ ntpError .ok
  · rw [if_neg front, if_neg front]
    exact first

/-! ## Runs of the clock -/

/-- `fatal_reset` is the only other statement that draws. -/
theorem statement_resets {clock next : Clock} (away : ∀ ii, clock.pc ≠ .draw ii)
    (happened : clock.statement dns udp = some next) :
    (∃ ntpError, next.pc = .reset ntpError .ok ∧ next.state.lcdStates =
        (clock.state.onLcd 0 fun lcd => lcdUpdateIcons lcd .reset ntpError .ok).lcdStates) ∨
      (resetCalls next.pc = [] ∧ next.state.lcdStates = clock.state.lcdStates) := by
  obtain ⟨state, persistent, hold, pc, locals, systemMs, bootMs⟩ := clock
  cases pc with
  | draw ii => exact absurd rfl (away ii)
  | checkStatus =>
    cases happened
    rcases checkStatus_cases _ with on | ⟨ntpError, reset⟩ | ⟨-, kod⟩ | ⟨-, success⟩
    · rw [on]
      exact .inr ⟨rfl, rfl⟩
    · rw [reset]
      exact .inl ⟨ntpError, rfl, rfl⟩
    · rw [kod]
      exact .inr ⟨rfl, rfl⟩
    · rw [success]
      exact .inr ⟨rfl, rfl⟩
  | requestResolve =>
    cases dns with
    | resolved address =>
      cases happened
      exact .inr ⟨rfl, rfl⟩
    | inProgress =>
      cases happened
      right
      dsimp only [Clock.requestDone, Clock.goto]
      split
      · exact ⟨rfl, rfl⟩
      · exact ⟨rfl, rfl⟩
    | failed =>
      cases happened
      exact .inl ⟨_, rfl, rfl⟩
  | reset _ _ | accessPoint => cases happened
  | returned | testTimeUpdated | testTick | compareDigits | testInterval | requestSend =>
    right
    simp only [Clock.statement, Clock.requestDone, Clock.goto] at happened
    split at happened
    · cases happened
      exact ⟨rfl, rfl⟩
    · cases happened
      exact ⟨rfl, rfl⟩
  | _ =>
    cases happened
    exact .inr ⟨rfl, rfl⟩

/-- The clock while its ticks and its calls of `lcd.h` are observed. -/
def drawing : StepSystem ((Clock × Tick) × List (Fin numLcds × LcdCall)) Event :=
  ticks.observed fun pair event calls => calls ++ nextCalls pair.1 event

/-- A statement of the task keeps the pictures up to date. -/
theorem statement_drawn {bitmaps : Bitmaps} {clock next : Clock} {screens : Screens}
    (drawn : Drawn bitmaps clock.state.lcdStates screens)
    (happened : clock.statement dns udp = some next) :
    Drawn bitmaps next.state.lcdStates
      (screens.run bitmaps (nextCalls clock (.task dns udp))) := by
  by_cases redraws : ∃ ii, clock.pc = .draw ii
  · obtain ⟨ii, at_pc⟩ := redraws
    have calls : nextCalls clock (.task dns udp) = redrawCalls clock.state
        (lcdDigits clock.locals.localEpoch) clock.locals.ntpAtomicState.error ii := by
      simp only [nextCalls, at_pc]
    have state : next.state = redraw clock.state (lcdDigits clock.locals.localEpoch)
        clock.locals.ntpAtomicState.error ii := by
      simp only [Clock.statement, at_pc, Option.some.injEq] at happened
      rw [← happened]
    rw [calls, state]
    exact drawn.redraw clock.locals.localEpoch _ ii
  · have away : ∀ ii, clock.pc ≠ .draw ii := fun ii at_pc => redraws ⟨ii, at_pc⟩
    have calls : nextCalls clock (.task dns udp) = resetCalls next.pc := by
      rw [nextCalls, happened]
      split
      · exact absurd ‹_› (away _)
      · rename_i same _
        rw [← Option.some.inj same]
      · rename_i never _
        cases never
    rw [calls]
    rcases statement_resets away happened with ⟨ntpError, resets, panels⟩ | ⟨none_, panels⟩
    · rw [resets, panels]
      exact drawn.updateIcons .reset ntpError .ok
    · rw [none_, panels]
      exact drawn

theorem step_drawn {bitmaps : Bitmaps} {clock next : Clock} {screens : Screens}
    (drawn : Drawn bitmaps clock.state.lcdStates screens)
    (happened : running.step clock event = some next) :
    Drawn bitmaps next.state.lcdStates (screens.run bitmaps (nextCalls clock event)) := by
  rcases step_cases happened with ⟨interrupting, frame⟩ | ⟨dns, udp, rfl, ran⟩
  · have none_ : nextCalls clock event = [] := by
      cases event with
      | task dns udp => cases interrupting
      | _ => rfl
    rw [none_, frame.lcdStates]
    exact drawn
  · exact statement_drawn drawn ran

/-- The calls between the initialisation of the panels and the first request. -/
def bootCalls (booted : Booted) (persistent : PersistentState) : List (Fin numLcds × LcdCall) :=
  reportCalls booted persistent ++ startCalls booted

/-! The calls of the clock are ones that any panel can be given. -/

theorem bootCalls_later (booted : Booted) (persistent : PersistentState) :
    ∀ call ∈ bootCalls booted persistent, Later call.2 := by
  cases cold : booted.state.coldBoot <;>
    simp [bootCalls, reportCalls, startCalls, cold, Later, LcdCall.Fits]

theorem redrawCalls_later (state : ClockState) (digits : Fin numLcds → Byte)
    (ntpError : NtpError) (ii : Fin numLcds) :
    ∀ call ∈ redrawCalls state digits ntpError ii, Later call.2 := by
  rw [redrawCalls, List.forall_mem_append]
  constructor <;> split <;> simp [Later, LcdCall.Fits]

theorem resetCalls_later (pc : Pc) : ∀ call ∈ resetCalls pc, Later call.2 := by
  unfold resetCalls
  split <;> simp [Later, LcdCall.Fits]

theorem nextCalls_later (clock : Clock) (event : Event) :
    ∀ call ∈ nextCalls clock event, Later call.2 := by
  cases event with
  | task dns udp =>
    rw [nextCalls]
    split
    · exact redrawCalls_later _ _ _ _
    · exact resetCalls_later _
    · exact List.forall_mem_nil _
  | _ => exact List.forall_mem_nil _

/-- The panels have been cleared before the clock starts. -/
theorem zero_drawn (bitmaps : Bitmaps) :
    Drawn bitmaps ClockState.zero.lcdStates ⟨0, fun _ => blank⟩ :=
  fun _ => ⟨.refl blank, nofun, fun late => absurd rfl late, fun _ => ⟨rfl, rfl, rfl⟩⟩

/-- What `clock_init` draws when it returns. -/
theorem clockInit_drawn (bitmaps : Bitmaps) {gpio : Nat → Nat} {watchdog : Bool}
    {persistent : PersistentState} {flash : FlashConfig}
    (returned : (clockInit gpio watchdog persistent flash).progress = .returned) :
    let booted := clockInit gpio watchdog persistent flash
    let screens := Screens.run bitmaps ⟨0, fun _ => blank⟩ (reportCalls booted persistent)
    Drawn bitmaps booted.state.lcdStates screens ∧ (booted.state.coldBoot = true →
      OnlyLines (booted.state.lcdStates 0) screens.lineNumber) := by
  have begun := zero_drawn bitmaps
  rw [clockInit_eq returned]
  cases watchdog with
  | false =>
    have only : OnlyLines (ClockState.zero.lcdStates 0) 0 := ⟨rfl, ⟨rfl, rfl, rfl⟩, rfl⟩
    exact ⟨begun.printLine only .initOk, fun _ => ⟨rfl, ⟨rfl, rfl, rfl⟩, rfl⟩⟩
  | true =>
    have drawn := begun.updateIcons (reportReset false .zero persistent).1.watchdogResetError
      persistent.ntpError persistent.wifiError
    exact ⟨drawn, nofun⟩

/-- What `clock_start` adds. -/
theorem Drawn.start {bitmaps : Bitmaps} {booted : Booted} {screens : Screens}
    (drawn : Drawn bitmaps booted.state.lcdStates screens)
    (only : booted.state.coldBoot = true →
      OnlyLines (booted.state.lcdStates 0) screens.lineNumber) (systemMs : Int) (bootMs : Nat) :
    Drawn bitmaps (Clock.start booted systemMs bootMs).state.lcdStates
      (screens.run bitmaps (startCalls booted)) := by
  rw [startCalls, Screens.run_append]
  cases cold : booted.state.coldBoot with
  | true =>
    have line := drawn.printLine (only cold) .wifiOk
    have both := line.updateIcons booted.state.watchdogResetError .ok .ok
    rw [onLcd_twice] at both
    simpa [Clock.start, cold, lineColor] using both
  | false =>
    have icons := drawn.updateIcons booted.state.watchdogResetError .ok .ok
    simpa [Clock.start, cold, Screens.run] using icons

/-- In every run, all calls so far are on the panels. -/
theorem run_drawn {bitmaps : Bitmaps} {screens : Screens} {clock : Clock}
    {calls : List (Fin numLcds × LcdCall)}
    (begun : Drawn bitmaps clock.state.lcdStates (screens.run bitmaps calls))
    (later : ∀ call ∈ calls, Later call.2)
    (ran : drawing.run ((clock, before), calls) events = some ((reached, tick), made)) :
    Drawn bitmaps reached.state.lcdStates (screens.run bitmaps made) ∧
      ∀ call ∈ made, Later call.2 := by
  refine @StepSystem.run_invariant _ _ drawing _ _ _
    (fun pair => Drawn bitmaps pair.1.1.state.lcdStates (screens.run bitmaps pair.2) ∧
      ∀ call ∈ pair.2, Later call.2) ?_ ⟨begun, later⟩ ran
  rintro ⟨⟨clock, tick⟩, calls⟩ event ⟨⟨next, tickAfter⟩, callsAfter⟩ ⟨drawn, later⟩ stepped
  obtain ⟨ticked, rfl⟩ := StepSystem.observed_step stepped
  obtain ⟨happened, -⟩ := StepSystem.observed_step ticked
  rw [Screens.run_append, List.forall_mem_append]
  exact ⟨step_drawn drawn happened, later, nextCalls_later clock event⟩

/-- The digits on the panels when a tick has been handled. -/
theorem handled_digits {gpio : Nat → Nat} {watchdog : Bool} {persistent : PersistentState}
    {flash : FlashConfig}
    (returned : (clockInit gpio watchdog persistent flash).progress = .returned)
    (ran : ticks.run
      (Clock.start (clockInit gpio watchdog persistent flash) systemMs bootMs, .none) events =
      some (reached, tick)) (last : reached.pc = .firstTickDone) :
    reached.locals.localEpoch = DisplayRefresh.localTime tick.utcNow flash ∧
      ∀ ii, (reached.state.lcdStates ii).digit = some (lcdDigits reached.locals.localEpoch ii) := by
  have started : Started (Clock.start (clockInit gpio watchdog persistent flash) systemMs
      bootMs) := ⟨gpio, watchdog, persistent, flash, systemMs, bootMs, returned, rfl⟩
  have config : (Clock.start (clockInit gpio watchdog persistent flash) systemMs
      bootMs).state.flashConfig = flash := by rw [clockInit_eq returned]; rfl
  have inv := DisplayRefresh.run_inv started ran
  constructor
  · rw [inv.read.localEpoch (by simp [handling, last]), DisplayRefresh.run_flashConfig ran, config]
    unfold calculateLocalTime DisplayRefresh.localTime
    dsimp only
    split <;> omega
  · exact fun ii => (inv.drawn (by simp [ClockFrames.drawn, handling, last]) ii).2

/-- What all calls up to a state of a run have made of the panels. -/
theorem run_on_panels {bitmaps : Bitmaps} (formed : WellFormedBitmaps bitmaps)
    {display : Display} (long : display.driver.linebuf.length = lcdWidth * 2)
    {gpio : Nat → Nat} {watchdog : Bool} {persistent : PersistentState} {flash : FlashConfig}
    (returned : (clockInit gpio watchdog persistent flash).progress = .returned)
    (ran : drawing.run
      ((Clock.start (clockInit gpio watchdog persistent flash) systemMs bootMs, .none),
        bootCalls (clockInit gpio watchdog persistent flash) persistent) events =
      some ((reached, tick), calls)) :
    ∃ panels screens, display.run bitmaps (clockInitCalls ++ calls) = .ok panels ∧
      Shown panels screens ∧ Drawn bitmaps reached.state.lcdStates screens := by
  obtain ⟨first, only⟩ := clockInit_drawn bitmaps returned
  have begun := first.start only systemMs bootMs
  rw [← Screens.run_append] at begun
  obtain ⟨drawn, later⟩ := run_drawn begun (bootCalls_later _ persistent) ran
  obtain ⟨cleared, initialised, blanks⟩ := clock_init_clears formed long
  obtain ⟨panels, called, shown⟩ := run_shown formed blanks later
  refine ⟨panels, _, ?_, shown, drawn⟩
  rw [Display.run, List.foldlM_append, ← Display.run, initialised, ok_bind]
  exact called

/-- Whatever is on the panels and on the bus at power-on or at a reset, and
whatever interrupts the task: in every state of every run all calls so far have
had results and left the panels ready, and each panel displays the picture of
what `lcd_states` says of it, its lines, its digit and its icons on black and
nothing else; and whenever a tick has been handled, the seven panels have no
lines and the characters of the local time of that tick. -/
theorem panels_display_clock {bitmaps : Bitmaps} (formed : WellFormedBitmaps bitmaps)
    {display : Display} (long : display.driver.linebuf.length = lcdWidth * 2)
    {gpio : Nat → Nat} {watchdog : Bool} {persistent : PersistentState} {flash : FlashConfig}
    (returned : (clockInit gpio watchdog persistent flash).progress = .returned)
    (ran : drawing.run
      ((Clock.start (clockInit gpio watchdog persistent flash) systemMs bootMs, .none),
        bootCalls (clockInit gpio watchdog persistent flash) persistent) events =
      some ((reached, tick), calls)) :
    ∃ panels, display.run bitmaps (clockInitCalls ++ calls) = .ok panels ∧
      (∀ ii, Ready (panels.bus.ports ii) ∧
        Displays (panels.bus.ports ii) (picture bitmaps ii (reached.state.lcdStates ii))) ∧
      (reached.pc = .firstTickDone → ∃ text,
        DisplayRefresh.Reads (DisplayRefresh.localTime tick.utcNow flash) text ∧
        ∀ ii : Fin numLcds, (reached.state.lcdStates ii).lines = [] ∧
          ∃ character, text[ii.val]? = some character ∧
            (reached.state.lcdStates ii).digit = some character) := by
  obtain ⟨panels, screens, called, shown, drawn⟩ := run_on_panels formed long returned ran
  refine ⟨panels, called, fun ii => ⟨shown.ready ii, ?_⟩, fun last => ?_⟩
  · exact Displays.alike (shown.pictures ii) (drawn ii).pictured
  obtain ⟨localEpoch, digits⟩ := handled_digits returned (StepSystem.run_of_observed ran) last
  refine ⟨DisplayRefresh.digitText reached.locals.localEpoch, ?_, fun ii => ⟨?_, ?_⟩⟩
  · rw [← localEpoch]
    exact DisplayRefresh.digitText_reads _
  · exact (drawn ii).plain (by rw [digits ii]; exact Option.some_ne_none _)
  · exact ⟨_, DisplayRefresh.lcdDigits_eq _ ii, digits ii⟩

/-- After a cold boot the first panel has two lines, and after the first tick the
seven panels have the digits. -/
theorem first_tick_is_displayed :
    (∃ panels, poweredOn.run stripedBitmaps (clockInitCalls ++
        bootCalls (clockInit (fun _ => 1) false .zero plainFlash) .zero) = .ok panels ∧
      (coldStart.state.lcdStates 0).lines = [.initOk, .wifiOk] ∧
      Displays (panels.bus.ports 0) (picture stripedBitmaps 0 (coldStart.state.lcdStates 0))) ∧
    ∃ reached tick calls panels,
      drawing.run ((coldStart, .none), bootCalls (clockInit (fun _ => 1) false .zero plainFlash)
        .zero) DisplayRefresh.firstTick = some ((reached, tick), calls) ∧
      poweredOn.run stripedBitmaps (clockInitCalls ++ calls) = .ok panels ∧
      (∀ ii, Displays (panels.bus.ports ii)
        (picture stripedBitmaps ii (reached.state.lcdStates ii))) ∧
      ∃ text, DisplayRefresh.Reads (DisplayRefresh.localTime tick.utcNow plainFlash) text ∧
        ∀ ii : Fin numLcds, (reached.state.lcdStates ii).lines = [] ∧
          ∃ character, text[ii.val]? = some character ∧
            (reached.state.lcdStates ii).digit = some character := by
  have returned : (clockInit (fun _ => 1) false .zero plainFlash).progress = .returned := rfl
  constructor
  · have ran : drawing.run
        ((coldStart, .none), bootCalls (clockInit (fun _ => 1) false .zero plainFlash) .zero) [] =
        some ((coldStart, .none), _) := rfl
    obtain ⟨panels, called, shown, -⟩ :=
      panels_display_clock stripedBitmaps_formed poweredOn_linebuf returned ran
    exact ⟨panels, called, rfl, (shown 0).2⟩
  · obtain ⟨reached, tick, calls, ran, last⟩ : ∃ reached tick calls,
        drawing.run ((coldStart, .none), bootCalls (clockInit (fun _ => 1) false .zero plainFlash)
          .zero) DisplayRefresh.firstTick = some ((reached, tick), calls) ∧
        reached.pc = .firstTickDone := ⟨_, _, _, rfl, rfl⟩
    obtain ⟨panels, called, shown, handled⟩ :=
      panels_display_clock stripedBitmaps_formed poweredOn_linebuf returned ran
    exact ⟨reached, tick, calls, panels, ran, called, fun ii => (shown ii).2, handled last⟩

end PicowDayClock.ClockPictures
