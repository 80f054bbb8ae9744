import PicowDayClock.Firmware.Config

/-! The backlight of the panels: `backlight_timer_callback` of `clock.c`, which
blends the readings of the light sensor and sets the level from the blend. -/
namespace PicowDayClock.Backlight

/-- `AMBIENT_LIGHT_DARK` and `AMBIENT_LIGHT_BRIGHT`. -/
def ambientLightDark : Nat := 0x40
def ambientLightBright : Nat := 0x180

/-- The new `smoothed_adc`. 0 is also the mark of a filter without a sample. -/
def blend (smoothedAdc rawAdc : Nat) : Nat :=
  if smoothedAdc = 0 then rawAdc else (smoothedAdc * 7 + rawAdc) % 2 ^ 32 / 8

/-- `bl_percent`. Between the two bounds the code takes
`sqrtf((smoothed_adc - 64) / 320) * 100`, cut to an integer: the square is a
multiple of 1/4, which a root that is no integer misses by far more than the
rounding of a `float`, so that the integer root is the same. -/
def blPercent (smoothedAdc : Nat) : Nat :=
  if smoothedAdc ≤ ambientLightDark then 5
  else if smoothedAdc ≥ ambientLightBright then 100
  else Nat.sqrt ((smoothedAdc - ambientLightDark) * 10000 /
    (ambientLightBright - ambientLightDark))

/-- `lcd_set_backlight`: the level given to the PWM. -/
def lcdSetBacklight (level : Nat) : Nat := if level > 100 then 100 else level

/-- `backlight_timer_callback`: the new `smoothed_adc` and the level that is set. -/
def backlightTimerCallback (smoothedAdc rawAdc : Nat) : Nat × Nat :=
  let smoothedAdc := blend smoothedAdc rawAdc
  (smoothedAdc, lcdSetBacklight (blPercent smoothedAdc))

/-- Half of the bright level, as the tests have it. -/
example : backlightTimerCallback 0 (ambientLightBright / 2) = (192, 63) := by decide +kernel

end PicowDayClock.Backlight
