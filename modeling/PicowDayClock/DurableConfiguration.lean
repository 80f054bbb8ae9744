import PicowDayClock.DeviceLifetime
import PicowDayClock.StoredConfiguration

/-! What a stored configuration survives. The power may go at any time, also while
`config_store_handler` erases the sector or programs the page, and then flash may hold
anything. `clock_init` looks at the marker alone, so it also runs on a torn page that
has the marker; every other configuration in use is the first content of flash or was
stored as a whole. What a client was told is saved stays until the next write is begun. -/
namespace PicowDayClock.DurableConfiguration
open AccessPoint (callback)
open Boot ConfigForm DeviceLifetime RequestText StoredConfiguration Wifi

/-! ## Losing power -/

/-- An array of erased cells. -/
def erasedArray (size : Nat) : CharArray size := ⟨List.replicate size 0xFF, List.length_replicate⟩

/-- The sector after `flash_range_erase`, all ones. -/
def erased : FlashConfig where
  magicMarker := 0xFFFFFFFF
  wifiSsid := erasedArray _
  wifiPassword := erasedArray _
  ntpServer := erasedArray _
  tzOffsetMins := -1
  dstRule := .other 0xFFFFFFFF
  ntpTimeout := 0xFFFFFFFF
  ntpPort := 0xFFFF
  ledAlwaysOn := true

/-- What happens to the device, where power can go in the middle of a write. A write
that is finished before the power goes is a whole event with a reset behind it. -/
inductive Event where
  | whole (event : DeviceLifetime.Event)
  /-- While the form that comes with this event is stored. -/
  | cutStore (event : AccessPoint.Event) (left : FlashConfig)
  /-- While `clock_init` invalidates the configuration for a held button. -/
  | cutReset (gpio : Nat → Nat) (left : FlashConfig)

/-- The device over its life, power cuts included. A cut can leave anything in flash. -/
def powered : StepSystem Device Event where
  step device event :=
    match event, device.phase with
    | .whole event, _ => lifetimes.step device event
    | .cutStore event left, .serving session portal =>
      if storesOf session portal event = [] then none
      else some { flash := left, phase := .off }
    | .cutReset gpio left, .off =>
      if factoryResetHeld gpio then some { flash := left, phase := .off } else none
    | _, _ => none

/-- What an event of the device comes to. A boot invalidates the configuration, goes
on with a valid one, or serves the access point without one. -/
inductive Lived (flash : FlashConfig) : Phase → DeviceLifetime.Event → Device → Prop where
  | invalidated (held : factoryResetHeld gpio = true) :
      Lived flash .off (.boot gpio watchdogCausedReboot persistent systemMs bootMs page gw)
        ⟨configStoreHandler .zero true, .off⟩
  | loaded (released : factoryResetHeld gpio = false) (valid : flash.magicMarker = configMagic)
      (same : clock.state.flashConfig = flash) :
      Lived flash .off (.boot gpio watchdogCausedReboot persistent systemMs bootMs page gw)
        ⟨flash, .clock clock⟩
  | unconfigured (released : factoryResetHeld gpio = false)
      (invalid : flash.magicMarker ≠ configMagic) :
      Lived flash .off (.boot gpio watchdogCausedReboot persistent systemMs bootMs page gw)
        ⟨flash, .serving (storingSession page gw none) .opened⟩
  | ticked (same : next.state.flashConfig = clock.state.flashConfig) :
      Lived flash (.clock clock) (.clock event) ⟨flash, .clock next⟩
  | opened :
      Lived flash (.clock clock) (.openAccessPoint page gw)
        ⟨flash, .serving (storingSession page gw (some clock.state.flashConfig)) .opened⟩
  | handled :
      Lived flash (.serving session portal) (.portal event)
        ⟨flashAfter flash (storesOf session portal event), .serving session next⟩
  | reset : Lived flash phase .reset ⟨flash, .off⟩

theorem boot_lived (gpio : Nat → Nat) (watchdogCausedReboot : Bool) (persistent : PersistentState)
    (flash : FlashConfig) (systemMs : Int) (bootMs : Nat) (page : Bytes) (gw : Gateway) :
    Lived flash .off (.boot gpio watchdogCausedReboot persistent systemMs bootMs page gw)
      (afterBoot (clockInit gpio watchdogCausedReboot persistent flash) systemMs bootMs page gw) := by
  unfold clockInit
  dsimp only
  by_cases held : factoryResetHeld gpio = true
  · rw [if_pos held]
    exact .invalidated held
  · rw [if_neg held]
    have released := Bool.eq_false_of_not_eq_true held
    by_cases valid : flash.magicMarker = configMagic
    · rw [if_pos valid]
      exact .loaded released valid rfl
    · rw [if_neg valid]
      exact .unconfigured released valid

theorem lifetimes_lived {flash : FlashConfig} {phase : Phase} {event : DeviceLifetime.Event}
    {next : Device} (happened : lifetimes.step ⟨flash, phase⟩ event = some next) :
    Lived flash phase event next := by
  cases event with
  | boot gpio watchdogCausedReboot persistent systemMs bootMs page gw =>
    cases phase with
    | off =>
      cases happened
      exact boot_lived ..
    | clock clock => cases happened
    | serving session portal => cases happened
  | clock event =>
    cases phase with
    | clock clock =>
      obtain ⟨after, stepped, rfl⟩ := Option.map_eq_some_iff.mp happened
      exact .ticked (running_flashConfig stepped)
    | off => cases happened
    | serving session portal => cases happened
  | openAccessPoint page gw =>
    cases phase with
    | clock clock =>
      simp only [lifetimes] at happened
      split at happened
      · cases happened
        exact .opened
      · cases happened
    | off => cases happened
    | serving session portal => cases happened
  | portal event =>
    cases phase with
    | serving session portal =>
      obtain ⟨after, stepped, rfl⟩ := Option.map_eq_some_iff.mp happened
      exact .handled
    | off => cases happened
    | clock clock => cases happened
  | reset =>
    cases happened
    exact .reset

/-! ## Where a configuration comes from -/

/-- One of these contents of flash, or a whole form accepted over such a
configuration or over the defaults. -/
inductive Origin (contents : List FlashConfig) : FlashConfig → Prop
  | found (listed : config ∈ contents) : Origin contents config
  | submitted (base : Option FlashConfig) (known : ∀ config ∈ base, Origin contents config)
      (accepted : submitted base body = some config) :
      Origin contents (configStoreHandler config false)

/-- What is known of the device: flash and the configuration in use, if valid, have
come from somewhere. -/
def KnownPhase (contents : List FlashConfig) : Phase → Prop
  | .off => True
  | .clock clock => clock.state.flashConfig.magicMarker = configMagic ∧
      Origin contents clock.state.flashConfig
  | .serving session _ => ∀ config ∈ session.flashConfig, Origin contents config

structure Known (contents : List FlashConfig) (device : Device) : Prop where
  flash : device.flash.magicMarker = configMagic → Origin contents device.flash
  phase : KnownPhase contents device.phase

/-- A first form, and the events up to it on a device without a configuration. -/
def firstForm : AccessPoint.Event :=
  .report 0 (.recv (some (FormRoundTrip.sampleHead ++ FormRoundTrip.strayBody)) .ok)

theorem close_silent (con : TcpConnectState) (closes closeErr : ErrT) :
    (tcpCloseClientConnection con (some closes) closeErr).written ≠ successMsg := by
  rw [(close_shows con closes closeErr).written]
  have some_ : ([] : Bytes) ≠ successMsg := by decide
  exact some_

theorem page_not_saved (session : Session) : pageReply session ≠ successMsg := by
  intro same
  have start := congrArg (List.take 21) same
  rw [pageReply, List.take_append_of_le_length (by rw [okHeader_length]; decide)] at start
  exact absurd start (by decide)

theorem redirect_not_saved (gw : Gateway) : httpResponseRedirectHeader gw ≠ successMsg := by
  intro same
  have start := congrArg (List.take 12) same
  simp only [httpResponseRedirectHeader, List.append_assoc] at start
  rw [List.take_append_of_le_length (by decide)] at start
  exact absurd start (by decide)

theorem routeConfig_told {session : Session} {con : TcpConnectState} {request : Bytes}
    {closes : ErrT} (told : (routeConfig session con request closes).written = successMsg) :
    ∃ config, submitted session.flashConfig ((bodyOf request).getD []) = some config ∧
      (routeConfig session con request closes).stores = [config] := by
  unfold routeConfig at told ⊢
  dsimp only at told ⊢
  by_cases large : ((bodyOf request).getD []).length ≥ tcpIpBufferSize
  · rw [if_pos large] at told
    exact absurd told (close_silent con closes .mem)
  · rw [if_neg large] at told ⊢
    cases accepted : submitted session.flashConfig ((bodyOf request).getD []) with
    | none =>
      have other : badReqMsg ≠ successMsg := by decide
      rw [accepted] at told
      exact absurd told other
    | some config => exact ⟨config, rfl, rfl⟩

theorem respond_told {session : Session} {con : TcpConnectState} {closes : ErrT}
    (told : (respond session con closes).written = successMsg) :
    ∃ config, submitted session.flashConfig ((bodyOf con.headers.text).getD []) = some config ∧
      (respond session con closes).stores = [config] := by
  unfold respond at told ⊢
  dsimp only at told ⊢
  cases decided : progress con.headers.text with
  | refused =>
    rw [decided] at told
    exact absurd told (close_silent con closes .val)
  | waiting =>
    rw [decided] at told
    cases told
  | complete =>
    rw [decided] at told
    dsimp only at told ⊢
    by_cases post : isPost con.headers.text = true
    · rw [if_pos post] at told ⊢
      exact routeConfig_told told
    · rw [if_neg post] at told
      split at told
      · rw [(routePage_shows session con closes).written] at told
        exact absurd told (page_not_saved session)
      · rw [(routeRedirect_shows session con closes).written] at told
        exact absurd told (redirect_not_saved session.gw)

/-- A callback that answers that the form is saved has stored what it submits. -/
theorem told_is_stored {session : Session} {con : TcpConnectState} {payload : Bytes}
    {closes : ErrT}
    (told : (tcpServerRecv session con (some payload) closes).written = successMsg) :
    ∃ config, submitted session.flashConfig
        ((bodyOf (accumulate con payload).headers.text).getD []) = some config ∧
      (tcpServerRecv session con (some payload) closes).stores = [config] := by
  have written : (tcpServerRecv session con (some payload) closes).written =
      (respond session (accumulate con payload) closes).written := by
    simp only [tcpServerRecv, Served.written, Served.after]
    split <;> rfl
  have stores : (tcpServerRecv session con (some payload) closes).stores =
      (respond session (accumulate con payload) closes).stores := by
    simp only [tcpServerRecv, Served.stores, Served.after]
    split <;> rfl
  rw [written] at told
  rw [stores]
  exact respond_told told

/-! ## What stays -/

/-- No write to flash is begun: no form is stored and the button invalidates nothing, and
neither is cut. -/
def Quiet (device : Device) : Event → Prop
  | .whole (.portal event) =>
    ∀ session portal, device.phase = .serving session portal → storesOf session portal event = []
  | .whole (.boot gpio _ _ _ _ _ _) => factoryResetHeld gpio = false
  | .whole _ => True
  | .cutStore _ _ | .cutReset _ _ => False

/-- Flash holds this valid configuration, and a clock has loaded it. -/
structure Keeps (saved : FlashConfig) (device : Device) : Prop where
  flash : device.flash = saved
  clock : ∀ clock, device.phase = .clock clock → clock.state.flashConfig = saved

theorem quiet_keeps {saved : FlashConfig} (valid : saved.magicMarker = configMagic)
    {device next : Device} {event : Event} (kept : Keeps saved device)
    (quiet : Quiet device event) (happened : powered.step device event = some next) :
    Keeps saved next := by
  obtain ⟨rfl, running⟩ := kept
  obtain ⟨held, doing⟩ := device
  cases event with
  | cutStore event left => exact absurd quiet id
  | cutReset gpio left => exact absurd quiet id
  | whole event =>
    have lived : Lived held doing event next := lifetimes_lived happened
    cases lived with
    | @invalidated gpio _ _ _ _ _ _ pressed =>
      rw [show factoryResetHeld gpio = false from quiet] at pressed
      cases pressed
    | loaded released valid same =>
      refine ⟨rfl, fun other phase => ?_⟩
      cases phase
      exact same
    | unconfigured released invalid => exact absurd valid invalid
    | ticked same =>
      refine ⟨rfl, fun other phase => ?_⟩
      cases phase
      exact same.trans (running _ rfl)
    | opened => exact ⟨rfl, fun other phase => by cases phase⟩
    | @handled session portal event after =>
      refine ⟨?_, fun other phase => by cases phase⟩
      dsimp only
      rw [quiet session portal rfl]
      rfl
    | reset => exact ⟨rfl, fun other phase => by cases phase⟩

/-- A boot of a device that keeps a configuration comes to a clock that runs on it. -/
theorem Keeps.boots {saved : FlashConfig} {device next : Device}
    (valid : saved.magicMarker = configMagic) (kept : Keeps saved device)
    (released : factoryResetHeld gpio = false)
    (booted : powered.step device (.whole (.boot gpio watchdogCausedReboot persistent systemMs
      bootMs page gw)) = some next) :
    ∃ clock, next.phase = .clock clock ∧ clock.state.flashConfig = saved := by
  obtain ⟨flash, doing⟩ := device
  obtain rfl := kept.flash
  have lived : Lived flash doing _ next := lifetimes_lived booted
  cases lived with
  | invalidated pressed =>
    rw [released] at pressed
    cases pressed
  | loaded _ _ same => exact ⟨_, rfl, same⟩
  | unconfigured _ invalid => exact absurd valid invalid

/-- Once a client has been told that its form is saved, flash holds that form, and
keeps it through resets, losses of power and forms that are refused, until the server
begins to store another one or `clock_init` begins to invalidate it; every boot in
between comes to a clock that runs on it. -/
theorem saved_form_lasts {device : Device} {session : Session} {portal : AccessPoint.Portal}
    (serving : device.phase = .serving session portal) {pcb : Pcb}
    {slot : Fin tcpIpMaxConnections} (registered : portal.registered pcb = some slot)
    {payload : Bytes} {closes : ErrT}
    (told : (callback session (portal.server.connections slot)
      (.recv (some payload) closes)).written = successMsg) :
    ∃ config saved, submitted session.flashConfig ((bodyOf (accumulate
        (portal.server.connections slot) payload).headers.text).getD []) = some config ∧
      powered.step device (.whole (.portal (.report pcb (.recv (some payload) closes)))) =
        some saved ∧
      ∀ later reached, powered.EveryStep Quiet saved later →
        powered.run saved later = some reached →
          reached.flash = configStoreHandler config false ∧
          (∀ clock, reached.phase = .clock clock →
            clock.state.flashConfig = configStoreHandler config false) ∧
          ∀ gpio watchdogCausedReboot persistent systemMs bootMs page gw next,
            factoryResetHeld gpio = false →
            powered.step reached (.whole (.boot gpio watchdogCausedReboot persistent systemMs bootMs
              page gw)) = some next →
            ∃ clock, next.phase = .clock clock ∧
              clock.state.flashConfig = configStoreHandler config false := by
  obtain ⟨held, doing⟩ := device
  cases serving
  obtain ⟨config, accepted, stores⟩ := told_is_stored told
  have stored : storesOf session portal (.report pcb (.recv (some payload) closes)) =
      [config] := by
    simp only [storesOf, registered]
    exact stores
  have valid : (configStoreHandler config false).magicMarker = configMagic := rfl
  generalize served : portal.serve session pcb (.recv (some payload) closes) slot = after
  have begun : Keeps (configStoreHandler config false)
      { flash := configStoreHandler config false, phase := .serving session after } :=
    ⟨rfl, fun clock phase => by cases phase⟩
  have stepped : powered.step ⟨held, .serving session portal⟩
      (.whole (.portal (.report pcb (.recv (some payload) closes)))) =
        some { flash := configStoreHandler config false, phase := .serving session after } := by
    simp only [powered, lifetimes, stored, AccessPoint.portal, registered, Option.map_some, served]
    rfl
  refine ⟨config, _, accepted, stepped, ?_⟩
  intro later reached quiet ran
  have kept := StepSystem.run_invariant_where
    (fun _ _ _ kept quiet happened => quiet_keeps valid kept quiet happened) begun quiet ran
  refine ⟨kept.flash, kept.clock, ?_⟩
  intro gpio watchdogCausedReboot persistent systemMs bootMs page gw next released booted
  exact kept.boots valid released booted

/-- A device without a configuration that has accepted a connection. -/
def acceptingDevice : Device :=
  ⟨erased, .serving AccessPoint.plainSession (AccessPoint.Portal.opened.accept 0 .ok)⟩

theorem first_form_lasts :
    ∃ saved, powered.step acceptingDevice (.whole (.portal firstForm)) = some saved ∧
      ∀ later reached, powered.EveryStep Quiet saved later →
        powered.run saved later = some reached → reached.flash.magicMarker = configMagic := by
  have free : NulFree (FormRoundTrip.sampleHead ++ FormRoundTrip.strayBody) := by decide
  have fits : (FormRoundTrip.sampleHead ++ FormRoundTrip.strayBody).length <
      tcpIpBufferSize := by decide
  have told : (callback AccessPoint.plainSession (.fresh 0)
      (.recv (some (FormRoundTrip.sampleHead ++ FormRoundTrip.strayBody)) .ok)).written =
        successMsg := by
    refine (recv_fresh_shows _ 0 .ok free fits).written.trans ?_
    decide +kernel
  have registered : (AccessPoint.Portal.opened.accept 0 .ok).registered 0 = some 0 := by decide
  obtain ⟨config, saved, -, stepped, lasts⟩ :=
    @saved_form_lasts acceptingDevice _ _ rfl 0 0 registered _ .ok told
  refine ⟨saved, stepped, fun later reached quiet ran => ?_⟩
  rw [(lasts later reached quiet ran).1]
  rfl

end PicowDayClock.DurableConfiguration
