import PicowDayClock.Firmware.Boot
import PicowDayClock.Library.StepSystem

/-! Reset reports over sequences of boots. `fatal_reset` leaves its two errors
in `persistent_state`, and the next boot that takes the warm branch shows and
clears them. The factory-reset branch does neither: it keeps whatever the RAM
held, garbage after power-on or the errors of an earlier boot. The reports are
right exactly when no such boot stands in the wrong place. -/
namespace PicowDayClock.BootReports
open Boot

/-! ## Boots -/

/-- How a boot ends. Only a loss of power leaves the RAM undefined. -/
inductive Ending where
  | fatalReset (ntpError : NtpError) (wifiError : WifiError)
  | systemReboot
  | hardwareWatchdog
  | powerLoss (memory : PersistentState)
  deriving DecidableEq

/-- One boot: the levels of the button, what an access-point session stored
last, and the ending. -/
structure PastBoot where
  gpio : Nat → Nat
  stored : Option FlashConfig
  ending : Ending

/-- The button was held long enough. -/
def PastBoot.pressed (boot : PastBoot) : Bool := factoryResetHeld boot.gpio

/-- The RAM survives the ending, and `watchdog_caused_reboot` is true after it. -/
def PastBoot.keepsPower (boot : PastBoot) : Bool :=
  match boot.ending with
  | .powerLoss _ => false
  | _ => true

/-- The device between two boots. `initialised` (cleared since power-on by the
cold branch) and `past` (the boots so far, latest first) are not in the code. -/
structure Device where
  persistent : PersistentState
  flash : FlashConfig
  watchdogCausedReboot : Bool
  initialised : Bool
  past : List PastBoot

/-- Power-on for the first time, with anything in the RAM and in the flash. -/
def Device.powerOn (memory : PersistentState) (flash : FlashConfig) : Device where
  persistent := memory
  flash := flash
  watchdogCausedReboot := false
  initialised := false
  past := []

/-- `fatal_reset` is called after `clock_init` has returned, and only an
access-point session stores a configuration. -/
def possible (progress : Progress) (boot : PastBoot) : Bool :=
  match progress, boot.stored, boot.ending with
  | .factoryReset, some _, _ => false
  | .factoryReset, none, .fatalReset _ _ => false
  | .accessPoint, _, .fatalReset _ _ => false
  | _, _, _ => true

/-- What the ending leaves in the RAM. -/
def endingMemory (booted : Booted) : Ending → PersistentState
  | .fatalReset ntpError wifiError =>
    (fatalReset booted.state booted.persistent ntpError wifiError).2
  | .systemReboot | .hardwareWatchdog => booted.persistent
  | .powerLoss memory => memory

/-- `clock_init` as the next boot runs it. -/
def Device.boot (device : Device) (gpio : Nat → Nat) : Booted :=
  clockInit gpio device.watchdogCausedReboot device.persistent device.flash

/-- One boot from `clock_init` to its ending. -/
def lifetime : StepSystem Device PastBoot where
  step device boot :=
    let booted := device.boot boot.gpio
    if possible booted.progress boot then
      some {
        persistent := endingMemory booted boot.ending
        flash := boot.stored.elim booted.flash (configStoreHandler · false)
        watchdogCausedReboot := boot.keepsPower
        initialised :=
          boot.keepsPower &&
            (device.initialised || (!boot.pressed && !device.watchdogCausedReboot))
        past := boot :: device.past }
    else none

/-! ## What has to be reported -/

/-- The boots since power came on, latest first. -/
def sincePowerOn (past : List PastBoot) : List PastBoot := past.takeWhile PastBoot.keepsPower

/-- The errors a boot ended with. -/
def PastBoot.errors (boot : PastBoot) : NtpError × WifiError :=
  match boot.ending with
  | .fatalReset ntpError wifiError => (ntpError, wifiError)
  | _ => (.ok, .ok)

/-- The errors the immediately preceding boot ended with. -/
def precedingErrors (past : List PastBoot) : NtpError × WifiError :=
  (past.head?.map PastBoot.errors).getD (.ok, .ok)

/-- The boots since power-on that took the warm branch: all without the button
but the first, which is a cold one. -/
def warmBoots (past : List PastBoot) : Nat :=
  (sincePowerOn past).dropLast.countP fun boot => !boot.pressed

/-- What the next boot has to report if it takes the warm branch. -/
structure ReportsExactly (device : Device) (booted : Booted) : Prop where
  errors : (booted.state.ntpResetError, booted.state.wifiResetError) = precedingErrors device.past
  count : booted.persistent.bootCount.toNat = warmBoots device.past + 1
  initialised : device.initialised = true

/-- No factory reset stands in the way: power did not come on with the button
held, and no boot with the button held lies between a `fatal_reset` with an
error and now. The counter has 32 bits. -/
structure Undisturbed (past : List PastBoot) : Prop where
  first : ∀ boot ∈ (sincePowerOn past).getLast?, boot.pressed = false
  stale : ∀ boot ∈ past.head?, boot.pressed = true →
    ∀ earlier ∈ ((sincePowerOn past).dropWhile PastBoot.pressed).head?,
      earlier.errors = (.ok, .ok)
  count : warmBoots past + 1 < 2 ^ 32

/-! ## What one boot does -/

/-- The errors that lie in an initialised RAM: those of the latest boot
without the button. -/
def heldErrors (session : List PastBoot) : NtpError × WifiError :=
  ((session.dropWhile PastBoot.pressed).head?.map PastBoot.errors).getD (.ok, .ok)

/-- The state of the RAM in terms of the boots since power-on. -/
structure Tracks (device : Device) : Prop where
  watchdog : device.watchdogCausedReboot = !(sincePowerOn device.past).isEmpty
  initialised : device.initialised =
    (sincePowerOn device.past).getLast?.any fun boot => !boot.pressed
  errors : device.initialised = true →
    (device.persistent.ntpError, device.persistent.wifiError) =
      heldErrors (sincePowerOn device.past)
  count : device.initialised = true →
    device.persistent.bootCount = UInt32.ofNat (warmBoots device.past)
  quiet : ∀ boot ∈ device.past, boot.pressed = true → boot.errors = (.ok, .ok)

theorem clockInit_pressed (watchdog : Bool) (persistent : PersistentState) (flash : FlashConfig)
    (held : factoryResetHeld gpio = true) :
    (clockInit gpio watchdog persistent flash).persistent = persistent ∧
      (clockInit gpio watchdog persistent flash).progress = .factoryReset := by
  simp [clockInit, held]

/-- The cold branch clears the errors and the counter. -/
theorem clockInit_cold (persistent : PersistentState) (flash : FlashConfig)
    (free : factoryResetHeld gpio = false) :
    (clockInit gpio false persistent flash).persistent =
      { PersistentState.zero with magicMarker := configMagic.toUInt32 } := by
  simp only [clockInit, free, Bool.false_eq_true, if_false, Bool.not_false, reportReset, if_true]
  split <;> rfl

/-- The warm branch reports the errors, clears them and counts the boot. -/
theorem clockInit_warm (persistent : PersistentState) (flash : FlashConfig)
    (free : factoryResetHeld gpio = false) :
    (clockInit gpio true persistent flash).persistent =
        { persistent with
          bootCount := persistent.bootCount + 1
          ntpError := .ok
          wifiError := .ok } ∧
      (clockInit gpio true persistent flash).state.ntpResetError = persistent.ntpError ∧
      (clockInit gpio true persistent flash).state.wifiResetError = persistent.wifiError := by
  simp only [clockInit, free, Bool.false_eq_true, if_false, Bool.not_true, reportReset]
  split <;> exact ⟨rfl, rfl, rfl⟩

/-- Whatever the branch, an ending that keeps the power leaves the errors it
names, or none, behind a boot without the button. -/
theorem endingMemory_errors (powered : boot.keepsPower = true)
    (cleared : (booted.persistent.ntpError, booted.persistent.wifiError) = (.ok, .ok)) :
    ((endingMemory booted boot.ending).ntpError, (endingMemory booted boot.ending).wifiError) =
      PastBoot.errors boot := by
  unfold PastBoot.errors
  unfold PastBoot.keepsPower at powered
  cases ended : boot.ending with
  | fatalReset ntpError wifiError => simp [endingMemory, fatalReset]
  | systemReboot | hardwareWatchdog => simpa [endingMemory] using cleared
  | powerLoss memory => simp [ended] at powered

theorem endingMemory_bootCount (powered : boot.keepsPower = true) :
    (endingMemory booted (PastBoot.ending boot)).bootCount = booted.persistent.bootCount := by
  unfold PastBoot.keepsPower at powered
  cases ended : boot.ending with
  | fatalReset ntpError wifiError => simp [endingMemory, fatalReset]
  | systemReboot | hardwareWatchdog => simp [endingMemory]
  | powerLoss memory => simp [ended] at powered

/-- A boot with the button held ends without an error of its own. -/
theorem endingMemory_pressed (powered : boot.keepsPower = true)
    (can : possible .factoryReset boot = true) :
    endingMemory booted (PastBoot.ending boot) = booted.persistent := by
  unfold PastBoot.keepsPower at powered
  unfold possible at can
  cases ended : boot.ending with
  | fatalReset ntpError wifiError =>
    cases stored : boot.stored <;> simp [ended, stored] at can
  | systemReboot | hardwareWatchdog => rfl
  | powerLoss memory => simp [ended] at powered

theorem pressed_errors (can : possible .factoryReset boot = true) :
    PastBoot.errors boot = (.ok, .ok) := by
  unfold possible at can
  unfold PastBoot.errors
  cases ended : boot.ending with
  | fatalReset ntpError wifiError =>
    cases stored : boot.stored <;> simp [ended, stored] at can
  | systemReboot | hardwareWatchdog | powerLoss memory => rfl

/-! ## Runs -/

theorem sincePowerOn_cons (powered : PastBoot.keepsPower boot = true) (past : List PastBoot) :
    sincePowerOn (boot :: past) = boot :: sincePowerOn past := by
  simp [sincePowerOn, powered]

theorem sincePowerOn_powerLoss (lost : PastBoot.keepsPower boot = false) :
    sincePowerOn (boot :: past) = [] := by
  simp [sincePowerOn, lost]

theorem heldErrors_pressed (held : PastBoot.pressed boot = true) :
    heldErrors (boot :: session) = heldErrors session := by
  simp [heldErrors, held]

theorem heldErrors_unpressed (free : PastBoot.pressed boot = false) :
    heldErrors (boot :: session) = boot.errors := by
  simp [heldErrors, free]

theorem warmBoots_first (powered : PastBoot.keepsPower boot = true)
    (first : sincePowerOn past = []) : warmBoots (boot :: past) = 0 := by
  simp [warmBoots, sincePowerOn_cons powered, first]

theorem warmBoots_later (powered : PastBoot.keepsPower boot = true)
    (later : sincePowerOn past ≠ []) :
    warmBoots (boot :: past) = warmBoots past + if boot.pressed then 0 else 1 := by
  rw [warmBoots, sincePowerOn_cons powered, List.dropLast_cons_of_ne_nil later, List.countP_cons,
    warmBoots]
  cases boot.pressed <;> simp

theorem powerOn_tracks : Tracks (Device.powerOn memory flash) where
  watchdog := rfl
  initialised := rfl
  errors := by simp [Device.powerOn]
  count := by simp [Device.powerOn]
  quiet := by simp [Device.powerOn]

/-- The memory is initialised from the first boot since power-on or never. -/
private theorem initialised_cons (before : Tracks device) :
    (device.initialised || (!boot.pressed && !device.watchdogCausedReboot)) =
      (boot :: sincePowerOn device.past).getLast?.any fun first => !first.pressed := by
  rw [before.initialised, before.watchdog]
  cases sincePowerOn device.past with
  | nil => simp
  | cons latest earlier => simp

/-- A boot with the button held leaves the RAM as it is. -/
private theorem pressed_tracks (before : Tracks device) (powered : boot.keepsPower = true)
    (held : boot.pressed = true) (can : possible (device.boot boot.gpio).progress boot = true)
    (initialised : device.initialised = true) :
    let memory := endingMemory (device.boot boot.gpio) boot.ending
    (memory.ntpError, memory.wifiError) = heldErrors (boot :: sincePowerOn device.past) ∧
      memory.bootCount = UInt32.ofNat (warmBoots (boot :: device.past)) := by
  obtain ⟨kept, progress⟩ := clockInit_pressed device.watchdogCausedReboot
    device.persistent device.flash held
  have later : sincePowerOn device.past ≠ [] := by
    intro first
    have := before.initialised
    simp [first, initialised] at this
  simp only [Device.boot] at can ⊢
  rw [progress] at can
  rw [endingMemory_pressed powered can, kept, heldErrors_pressed held,
    warmBoots_later powered later, held]
  exact ⟨before.errors initialised, before.count initialised⟩

/-- A boot without the button clears the RAM or, in the warm branch, takes the
report out of it and counts. -/
private theorem unpressed_tracks (before : Tracks device) (powered : boot.keepsPower = true)
    (free : boot.pressed = false)
    (initialised : (device.initialised || !device.watchdogCausedReboot) = true) :
    let memory := endingMemory (device.boot boot.gpio) boot.ending
    (memory.ntpError, memory.wifiError) = heldErrors (boot :: sincePowerOn device.past) ∧
      memory.bootCount = UInt32.ofNat (warmBoots (boot :: device.past)) := by
  simp only [heldErrors_unpressed free, endingMemory_bootCount powered]
  have session := before.watchdog
  cases watchdog : device.watchdogCausedReboot with
  | false =>
    have first : sincePowerOn device.past = [] := by simpa [watchdog] using session
    have cold := clockInit_cold device.persistent device.flash free
    rw [Device.boot, watchdog, warmBoots_first powered first]
    refine ⟨endingMemory_errors powered ?_, ?_⟩
    · rw [cold]; rfl
    · rw [cold]; rfl
  | true =>
    have later : sincePowerOn device.past ≠ [] := by
      simpa [watchdog, List.isEmpty_iff] using session
    obtain ⟨warm, -, -⟩ := clockInit_warm device.persistent device.flash free
    rw [Device.boot, watchdog, warmBoots_later powered later, free]
    refine ⟨endingMemory_errors powered ?_, ?_⟩
    · rw [warm]
    · have counted := before.count (by simpa [watchdog] using initialised)
      rw [warm, counted]
      simp [UInt32.ofNat_add]

/-- Each boot keeps the account of the RAM, whichever branch it takes. -/
theorem boot_tracks (before : Tracks device) (stepped : lifetime.step device boot = some next) :
    Tracks next := by
  simp only [lifetime, Option.ite_none_right_eq_some, Option.some.injEq] at stepped
  obtain ⟨can, rfl⟩ := stepped
  have quiet : ∀ past ∈ boot :: device.past, past.pressed = true → past.errors = (.ok, .ok) := by
    intro past member held
    cases member with
    | head =>
      rw [Device.boot, (clockInit_pressed _ _ _ held).2] at can
      exact pressed_errors can
    | tail _ member => exact before.quiet past member held
  cases powered : boot.keepsPower with
  | false =>
    exact {
      watchdog := by simp [sincePowerOn_powerLoss powered]
      initialised := by simp [sincePowerOn_powerLoss powered]
      errors := by simp
      count := by simp
      quiet := quiet }
  | true =>
    have session := sincePowerOn_cons powered device.past
    have memory : (device.initialised || (!boot.pressed && !device.watchdogCausedReboot)) = true →
        let memory := endingMemory (device.boot boot.gpio) boot.ending
        (memory.ntpError, memory.wifiError) = heldErrors (boot :: sincePowerOn device.past) ∧
          memory.bootCount = UInt32.ofNat (warmBoots (boot :: device.past)) := by
      intro initialised
      cases held : boot.pressed with
      | true => exact pressed_tracks before powered held can (by simpa [held] using initialised)
      | false => exact unpressed_tracks before powered held (by simpa [held] using initialised)
    simp only [Bool.true_and]
    exact {
      watchdog := by simp [session]
      initialised := by rw [session]; exact initialised_cons before
      errors := by rw [session]; exact fun initialised => (memory initialised).1
      count := fun initialised => (memory initialised).2
      quiet := quiet }

theorem run_tracks (ran : lifetime.run (.powerOn memory flash) boots = some device) :
    Tracks device :=
  StepSystem.run_invariant (fun _ _ _ before stepped => boot_tracks before stepped)
    powerOn_tracks ran

/-! ## The report -/

/-- The errors in an initialised RAM are those of the preceding boot, unless
that boot had the button held and an earlier report is still there. -/
private theorem heldErrors_eq_preceding_iff (warm : sincePowerOn past ≠ [])
    (quiet : ∀ boot ∈ past, boot.pressed = true → boot.errors = (.ok, .ok)) :
    heldErrors (sincePowerOn past) = precedingErrors past ↔
      ∀ boot ∈ past.head?, boot.pressed = true →
        ∀ earlier ∈ ((sincePowerOn past).dropWhile PastBoot.pressed).head?,
          earlier.errors = (.ok, .ok) := by
  cases past with
  | nil => exact absurd rfl warm
  | cons boot past =>
    have powered : boot.keepsPower = true := by
      by_contra lost
      exact warm (sincePowerOn_powerLoss (by simpa using lost))
    simp only [sincePowerOn_cons powered, List.head?_cons, Option.mem_some_iff, forall_eq',
      precedingErrors, Option.map_some, Option.getD_some]
    cases held : boot.pressed with
    | false => simp [heldErrors_unpressed held]
    | true =>
      rw [heldErrors_pressed held, quiet boot List.mem_cons_self held,
        List.dropWhile_cons_of_pos held, heldErrors]
      cases (List.dropWhile PastBoot.pressed (sincePowerOn past)).head? with
      | none => simp
      | some earlier => simp

/-- In every run of boots from power-on, a boot that takes the warm branch
reports exactly the errors and the number of boots it has to if and only if no
factory reset stands in the way and the counter has not wrapped. -/
theorem warm_boot_reports_exactly_iff
    (ran : lifetime.run (.powerOn memory flash) boots = some device)
    (free : factoryResetHeld gpio = false) (warm : device.watchdogCausedReboot = true) :
    ReportsExactly device (device.boot gpio) ↔ Undisturbed device.past := by
  have tracked := run_tracks ran
  have session : sincePowerOn device.past ≠ [] := by
    simpa [warm, List.isEmpty_iff] using tracked.watchdog
  have stale := heldErrors_eq_preceding_iff session tracked.quiet
  obtain ⟨memoryAfter, ntpReport, wifiReport⟩ :=
    clockInit_warm device.persistent device.flash free
  have first : device.initialised = true ↔
      ∀ boot ∈ (sincePowerOn device.past).getLast?, boot.pressed = false := by
    rw [tracked.initialised]
    cases last : (sincePowerOn device.past).getLast? with
    | none => exact absurd (List.getLast?_eq_none_iff.mp last) session
    | some boot => simp
  rw [Device.boot, warm]
  constructor
  · intro report
    have errors := report.errors
    have count := report.count
    rw [ntpReport, wifiReport, tracked.errors report.initialised] at errors
    rw [memoryAfter] at count
    exact ⟨first.mp report.initialised, stale.mp errors,
      count ▸ (device.persistent.bootCount + 1).toNat_lt⟩
  · intro clear
    have initialised := first.mpr clear.first
    refine ⟨?_, ?_, initialised⟩
    · rw [ntpReport, wifiReport, tracked.errors initialised]
      exact stale.mpr clear.stale
    · rw [memoryAfter, tracked.count initialised]
      have one : (1 : UInt32).toNat = 1 := rfl
      rw [UInt32.toNat_add, UInt32.toNat_ofNat', one, Nat.mod_add_mod,
        Nat.mod_eq_of_lt clear.count]

/-- A released and a held button. -/
def released : Nat → Nat := fun _ => 1
def held : Nat → Nat := fun _ => 0

/-- A clock whose flash holds a configuration starts cold, resets itself after
a DNS error and reports exactly that. -/
theorem dns_error_is_reported :
    ∃ device, lifetime.run
        (.powerOn ⟨7, 41, .other 99, .ok⟩ { FlashConfig.zero with magicMarker := configMagic })
        [⟨released, none, .fatalReset .dnsError .ok⟩] = some device ∧
      ReportsExactly device (device.boot released) := by
  obtain ⟨device, ran, warm, past⟩ : ∃ device, lifetime.run
        (.powerOn ⟨7, 41, .other 99, .ok⟩ { FlashConfig.zero with magicMarker := configMagic })
        [⟨released, none, .fatalReset .dnsError .ok⟩] = some device ∧
      device.watchdogCausedReboot = true ∧
      device.past = [⟨released, none, .fatalReset .dnsError .ok⟩] := ⟨_, rfl, rfl, rfl⟩
  refine ⟨device, ran, (warm_boot_reports_exactly_iff ran rfl warm).mpr ?_⟩
  rw [past]
  refine ⟨?_, ?_, by decide⟩
  · intro boot member
    cases member
    rfl
  · intro boot member pressed
    cases member
    cases pressed

/-- Power comes on with the button held; the next boot takes the warm branch
and reports what the RAM happened to hold. -/
theorem garbage_is_reported :
    ∃ device, lifetime.run (.powerOn ⟨7, 41, .dnsError, .ok⟩ .zero)
        [⟨held, none, .systemReboot⟩] = some device ∧
      factoryResetHeld released = false ∧ device.watchdogCausedReboot = true ∧
      (device.boot released).state.ntpResetError = .dnsError ∧
      ¬ ReportsExactly device (device.boot released) := by
  refine ⟨_, rfl, rfl, rfl, rfl, ?_⟩
  intro report
  exact absurd report.initialised (by decide)

end PicowDayClock.BootReports
