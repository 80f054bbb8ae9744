import PicowDayClock.Firmware.ClockTask

/-! The diagnostic LEDs of `pico_main.c`: their timer, which runs from before
`clock_start` on, and what the loop of `main` does with them after each call of
`clock_task`. -/
namespace PicowDayClock.MainLoop
open ClockTask

/-- The levels of `DIAG_GREEN_LED_GPIO` and `DIAG_RED_LED_GPIO`, whether
`startup_led_timer` runs, and `startup_led_active`. -/
structure DiagnosticLeds where
  green : Bool
  red : Bool
  timer : Bool
  startupLedActive : Bool
  deriving DecidableEq

/-- `startup_led_callback`. -/
def startupLedCallback (leds : DiagnosticLeds) : DiagnosticLeds := { leds with green := !leds.green }

/-- `init_diagnostic_led`; `added` is what `add_repeating_timer_ms` returns. -/
def initDiagnosticLed (added : Bool) : DiagnosticLeds where
  green := false
  red := false
  timer := added
  startupLedActive := added

/-- The end of the body of the loop. -/
def settleLeds (clock : Clock) (leds : DiagnosticLeds) : DiagnosticLeds :=
  if leds.startupLedActive ∧ clock.state.ntpState.status = .idle then
    { green := clock.state.flashConfig.ledAlwaysOn
      red := false
      timer := false
      startupLedActive := false }
  else leds

/-- The clock and the LEDs. -/
structure Board where
  clock : Clock
  leds : DiagnosticLeds

inductive Event where
  | clock (event : ClockTask.Event)
  /-- `startup_led_callback`, while its timer runs. -/
  | blink

/-- The LEDs after an event of the clock. `main` looks at them where it goes on to the
next call of `clock_task`, except the first one, which follows `clock_start`. What a
callback does between the test of the flag for the access point, which goes on here, and
the one of the status, it does as well before both or after them. -/
def ledsAfter (clock : Clock) (event : ClockTask.Event) (leds : DiagnosticLeds) : DiagnosticLeds :=
  match event with
  | .task _ _ =>
    if clock.pc = .returned ∧ clock.state.apModeTriggered = false ∧
        clock.locals.starting = false then
      settleLeds clock leds
    else leds
  | _ => leds

/-- The board as time goes on. -/
def board : StepSystem Board Event where
  step board event :=
    match event with
    | .clock event =>
      (running.step board.clock event).map fun next =>
        { clock := next, leds := ledsAfter board.clock event board.leds }
    | .blink =>
      if board.leds.timer then some { board with leds := startupLedCallback board.leds } else none

end PicowDayClock.MainLoop
