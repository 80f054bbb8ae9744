import PicowDayClock.DeviceLifetime
import PicowDayClock.FormRoundTrip

/-! What lies in flash over the whole life of the device. Every configuration
stored was submitted over a sound one, and `strncpy` and `parse_long_bounded`
keep it sound; the last byte of a text field is never written, so what is kept
is that it holds a NUL. -/
namespace PicowDayClock.StoredConfiguration
open Boot ConfigForm DeviceLifetime Wifi
open FormRoundTrip (TextsEnd)

/-! ## Well-formed configurations -/

/-- The numbers of a configuration are in range, and its rule is one of the seven. -/
structure InRange (config : FlashConfig) : Prop where
  tzOffset : -720 ≤ config.tzOffsetMins ∧ config.tzOffsetMins ≤ 840
  dstRule : config.dstRule ∈ [DstRule.none, .na, .eu, .au, .nz, .cl, .il]
  ntpTimeout : 1000 ≤ config.ntpTimeout ∧ config.ntpTimeout ≤ 60000
  ntpPort : 1 ≤ config.ntpPort ∧ config.ntpPort ≤ 65535

/-- Texts, marker and light do not matter to it. -/
theorem InRange.keep {config next : FlashConfig} (inRange : InRange config)
    (tzOffset : next.tzOffsetMins = config.tzOffsetMins) (dstRule : next.dstRule = config.dstRule)
    (ntpTimeout : next.ntpTimeout = config.ntpTimeout) (ntpPort : next.ntpPort = config.ntpPort) :
    InRange next := by
  constructor
  · rw [tzOffset]
    exact inRange.tzOffset
  · rw [dstRule]
    exact inRange.dstRule
  · rw [ntpTimeout]
    exact inRange.ntpTimeout
  · rw [ntpPort]
    exact inRange.ntpPort

/-- A well-formed configuration: its texts end inside their fields too. -/
structure WellFormed (config : FlashConfig) : Prop extends InRange config where
  ssid : config.wifiSsid.Terminated
  password : config.wifiPassword.Terminated
  ntpServer : config.ntpServer.Terminated

/-- A well-formed configuration whose texts can be replaced: the last byte of
each field is a NUL. -/
structure Sound (config : FlashConfig) : Prop extends InRange config where
  texts : TextsEnd config

theorem Sound.wellFormed {config : FlashConfig} (sound : Sound config) : WellFormed config where
  toInRange := sound.toInRange
  ssid := sound.texts.ssid.terminated
  password := sound.texts.password.terminated
  ntpServer := sound.texts.ntpServer.terminated

/-! ## Submitting -/

theorem parseLongBounded_bounds {low high number : Int}
    (parsed : parseLongBounded value low high = some number) : low ≤ number ∧ number ≤ high := by
  unfold parseLongBounded at parsed
  dsimp only at parsed
  split at parsed
  · cases parsed
  · split at parsed
    · cases parsed
    · split at parsed
      · cases parsed
      · rename_i inside
        cases parsed
        omega

theorem dstRuleOf_known (value : Bytes) :
    dstRuleOf value ∈ [DstRule.none, .na, .eu, .au, .nz, .cl, .il] := by
  unfold dstRuleOf
  repeat' split
  all_goals decide

/-- The last byte of a text field is not written. -/
theorem strncpy_endsInNul {array : CharArray (count + 1)} (ended : array.EndsInNul)
    (value : Bytes) : (array.strncpy value count).EndsInNul := by
  rw [CharArray.strncpy_eq_overwritten array (Nat.le_succ count)]
  exact CharArray.overwritten_endsInNul ended (Nat.lt_succ_self count) value

/-- Whatever field is submitted, with whatever value, a sound configuration
stays sound. -/
theorem applyField_sound {config next : FlashConfig} (sound : Sound config)
    (applied : applyField config key value = some next) : Sound next := by
  obtain ⟨inRange, ⟨ssid, password, ntpServer⟩⟩ := sound
  unfold applyField at applied
  split at applied
  · cases applied
    exact ⟨inRange.keep rfl rfl rfl rfl, strncpy_endsInNul ssid value, password, ntpServer⟩
  split at applied
  · cases applied
    exact ⟨inRange.keep rfl rfl rfl rfl, ssid, strncpy_endsInNul password value, ntpServer⟩
  split at applied
  · cases applied
    exact ⟨inRange.keep rfl rfl rfl rfl, ssid, password, strncpy_endsInNul ntpServer value⟩
  split at applied
  · obtain ⟨tzMins, parsed, rfl⟩ := Option.map_eq_some_iff.mp applied
    exact ⟨{ inRange with tzOffset := parseLongBounded_bounds parsed }, ssid, password, ntpServer⟩
  split at applied
  · cases applied
    exact ⟨{ inRange with dstRule := dstRuleOf_known value }, ssid, password, ntpServer⟩
  split at applied
  · obtain ⟨timeoutMs, parsed, rfl⟩ := Option.map_eq_some_iff.mp applied
    have bounds : 1000 ≤ timeoutMs.toNat ∧ timeoutMs.toNat ≤ 60000 := by
      have := parseLongBounded_bounds parsed
      simp only [minNtpTimeoutMs, maxNtpTimeoutMs] at this
      omega
    exact ⟨{ inRange with ntpTimeout := bounds }, ssid, password, ntpServer⟩
  split at applied
  · obtain ⟨port, parsed, rfl⟩ := Option.map_eq_some_iff.mp applied
    have bounds : 1 ≤ port.toNat ∧ port.toNat ≤ 65535 := by
      have := parseLongBounded_bounds parsed
      omega
    exact ⟨{ inRange with ntpPort := bounds }, ssid, password, ntpServer⟩
  split at applied
  · cases applied
    exact ⟨inRange.keep rfl rfl rfl rfl, ssid, password, ntpServer⟩
  · cases applied
    exact ⟨inRange.keep rfl rfl rfl rfl, ssid, password, ntpServer⟩

theorem applyPairs_sound {config next : FlashConfig} (sound : Sound config)
    (applied : applyPairs config pairs = some next) : Sound next := by
  induction pairs generalizing config with
  | nil =>
    cases applied
    exact sound
  | cons pair pairs ih =>
    obtain ⟨after, first, rest⟩ := Option.bind_eq_some_iff.mp applied
    unfold applyPair at first
    split at first
    · exact ih (applyField_sound sound first) rest
    · cases first
      exact ih sound rest

theorem baseConfig_sound {flashConfig : Option FlashConfig}
    (sound : ∀ config ∈ flashConfig, Sound config) : Sound (baseConfig flashConfig) := by
  cases flashConfig with
  | some config => exact sound config rfl
  | none => exact ⟨⟨by decide, by decide, by decide, by decide⟩, FormRoundTrip.defaults_textsEnd⟩

/-- Whatever body is submitted over a sound base, what comes out is sound. -/
theorem submitted_sound {flashConfig : Option FlashConfig} {next : FlashConfig}
    (sound : ∀ config ∈ flashConfig, Sound config)
    (done : submitted flashConfig body = some next) : Sound next :=
  applyPairs_sound (baseConfig_sound sound) done

/-! ## Storing -/

theorem mem_stores {served : Served} {config : FlashConfig} :
    config ∈ served.stores ↔ .storeConfig config ∈ served.calls := by
  simp only [Served.stores, List.mem_filterMap]
  constructor
  · rintro ⟨call, member, found⟩
    cases call <;> cases found
    exact member
  · intro member
    exact ⟨_, member, rfl⟩

/-- Closing stores nothing. -/
theorem close_stores {config : FlashConfig} (con : TcpConnectState) (closes : Option ErrT)
    (closeErr : ErrT) : config ∉ (tcpCloseClientConnection con closes closeErr).stores := by
  rw [mem_stores]
  cases closes with
  | none => exact List.not_mem_nil
  | some answer =>
    simp only [tcpCloseClientConnection]
    split <;> simp

theorem routeConfig_stores {config : FlashConfig} {session : Session} {con : TcpConnectState}
    (stored : config ∈ (routeConfig session con request closes).stores) :
    ∃ body, submitted session.flashConfig body = some config := by
  unfold routeConfig at stored
  dsimp only at stored
  split at stored
  · exact absurd stored (close_stores _ _ _)
  · cases accepted : submitted session.flashConfig ((bodyOf request).getD []) with
    | none =>
      rw [accepted] at stored
      cases stored
    | some new =>
      rw [accepted, mem_stores] at stored
      simp only [List.mem_cons, Call.storeConfig.injEq, reduceCtorEq, List.not_mem_nil,
        or_false] at stored
      exact ⟨_, stored ▸ accepted⟩

theorem routePage_stores {config : FlashConfig} (session : Session) (con : TcpConnectState)
    (closes : ErrT) : config ∉ (routePage session con closes).stores := by
  unfold routePage
  dsimp only
  split
  · exact close_stores _ _ _
  · simp [mem_stores]

theorem routeRedirect_stores {config : FlashConfig} (session : Session) (con : TcpConnectState)
    (closes : ErrT) : config ∉ (routeRedirect session con closes).stores := by
  unfold routeRedirect
  dsimp only
  split
  · exact close_stores _ _ _
  · simp [mem_stores]

theorem respond_stores {config : FlashConfig} {session : Session} {con : TcpConnectState}
    (stored : config ∈ (respond session con closes).stores) :
    ∃ body, submitted session.flashConfig body = some config := by
  unfold respond at stored
  dsimp only at stored
  cases decided : progress con.headers.text with
  | refused =>
    rw [decided] at stored
    exact absurd stored (close_stores _ _ _)
  | waiting =>
    rw [decided] at stored
    cases stored
  | complete =>
    rw [decided] at stored
    dsimp only at stored
    split at stored
    · exact routeConfig_stores stored
    · split at stored
      · exact absurd stored (routePage_stores _ _ _)
      · exact absurd stored (routeRedirect_stores _ _ _)

/-- Every configuration a callback stores was submitted over the base. -/
theorem callback_stores {config : FlashConfig} {session : Session} {con : TcpConnectState}
    {report : AccessPoint.Report}
    (stored : config ∈ (AccessPoint.callback session con report).stores) :
    ∃ body, submitted session.flashConfig body = some config := by
  cases report with
  | recv p closes =>
    cases p with
    | none => exact absurd stored (close_stores _ _ _)
    | some payload =>
      have later : config ∈ (respond session (accumulate con payload) closes).stores := by
        rw [mem_stores] at stored ⊢
        rcases List.mem_append.mp stored with received | later
        · split at received <;> simp at received
        · exact later
      exact respond_stores later
  | sent len closes =>
    simp only [AccessPoint.callback, tcpServerSent] at stored
    split at stored
    · exact absurd stored (close_stores _ _ _)
    · cases stored
  | poll closes => exact absurd stored (close_stores _ _ _)
  | err err => exact absurd stored (close_stores _ _ _)

theorem storesOf_sound {session : Session} (sound : ∀ config ∈ session.flashConfig, Sound config)
    (portal : AccessPoint.Portal) (event : AccessPoint.Event) :
    ∀ config ∈ storesOf session portal event, Sound config := by
  intro config stored
  cases event with
  | accept clientPcb err => cases stored
  | report pcb report =>
    simp only [storesOf] at stored
    split at stored
    · cases stored
    · obtain ⟨body, done⟩ := callback_stores stored
      exact submitted_sound sound done

/-! ## The life of the device -/

/-- No valid marker, or a sound configuration. -/
def SoundFlash (flash : FlashConfig) : Prop := flash.magicMarker ≠ configMagic ∨ Sound flash

theorem flashAfter_sound {flash : FlashConfig} (begun : SoundFlash flash)
    (sound : ∀ config ∈ stores, Sound config) : SoundFlash (flashAfter flash stores) := by
  unfold flashAfter
  induction stores generalizing flash with
  | nil => exact begun
  | cons config stores ih =>
    rw [List.forall_mem_cons] at sound
    obtain ⟨⟨inRange, texts⟩, rest⟩ := sound
    have written : Sound (configStoreHandler config false) :=
      ⟨inRange.keep rfl rfl rfl rfl, texts.ssid, texts.password, texts.ntpServer⟩
    exact ih (.inr written) rest

/-- The configuration in use is sound: the one the clock has loaded, and the
base of an access-point session. -/
def SoundPhase : Phase → Prop
  | .off => True
  | .clock clock => Sound clock.state.flashConfig
  | .serving session _ => ∀ config ∈ session.flashConfig, Sound config

structure SoundDevice (device : Device) : Prop where
  flash : SoundFlash device.flash
  phase : SoundPhase device.phase

/-- `clock_init` returns with the configuration in flash, if that has its marker. -/
theorem clockInit_returned (returned :
      (clockInit gpio watchdogCausedReboot persistent flash).progress = .returned) :
    flash.magicMarker = configMagic ∧
      (clockInit gpio watchdogCausedReboot persistent flash).state.flashConfig = flash := by
  unfold clockInit at returned ⊢
  dsimp only at returned ⊢
  split at returned
  · cases returned
  · rename_i released
    rw [if_neg released]
    split at returned
    · rename_i valid
      rw [if_pos valid]
      exact ⟨valid, rfl⟩
    · cases returned

/-- A factory reset takes the marker away, any other boot leaves flash alone. -/
theorem clockInit_flash {flash : FlashConfig} (begun : SoundFlash flash) :
    SoundFlash (clockInit gpio watchdogCausedReboot persistent flash).flash := by
  have erased : (configStoreHandler .zero true).magicMarker ≠ configMagic := by decide
  unfold clockInit
  dsimp only
  split
  · exact .inl erased
  · split
    · exact begun
    · exact begun

theorem SoundFlash.loaded {flash : FlashConfig} (begun : SoundFlash flash)
    (returned : (clockInit gpio watchdogCausedReboot persistent flash).progress = .returned) :
    Sound (clockInit gpio watchdogCausedReboot persistent flash).state.flashConfig := by
  obtain ⟨valid, same⟩ := clockInit_returned returned
  rw [same]
  exact begun.resolve_left (fun invalid => invalid valid)

theorem boot_sound {flash : FlashConfig} (sound : SoundFlash flash) :
    SoundDevice (afterBoot (clockInit gpio watchdogCausedReboot persistent flash)
      systemMs bootMs page gw) where
  flash := clockInit_flash sound
  phase := by
    unfold afterBoot
    dsimp only
    split
    · rename_i returned
      exact sound.loaded returned
    · exact fun config absent => nomatch absent
    · exact trivial

/-- Whatever happens to a sound device, it is sound afterwards. -/
theorem step_sound {device next : Device} {event : Event} (sound : SoundDevice device)
    (happened : lifetimes.step device event = some next) : SoundDevice next := by
  obtain ⟨flash, phase⟩ := sound
  obtain ⟨held, doing⟩ := device
  cases event with
  | boot gpio watchdogCausedReboot persistent systemMs bootMs page gw =>
    cases doing with
    | off =>
      cases happened
      exact boot_sound flash
    | clock clock => cases happened
    | serving session portal => cases happened
  | clock event =>
    cases doing with
    | clock clock =>
      obtain ⟨after, stepped, rfl⟩ := Option.map_eq_some_iff.mp happened
      refine ⟨flash, ?_⟩
      have same := running_flashConfig stepped
      exact (congrArg Sound same).mpr phase
    | off => cases happened
    | serving session portal => cases happened
  | openAccessPoint page gw =>
    cases doing with
    | clock clock =>
      simp only [lifetimes] at happened
      split at happened
      · cases happened
        refine ⟨flash, ?_⟩
        intro config base
        cases base
        exact phase
      · cases happened
    | off => cases happened
    | serving session portal => cases happened
  | portal event =>
    cases doing with
    | serving session portal =>
      obtain ⟨after, stepped, rfl⟩ := Option.map_eq_some_iff.mp happened
      exact ⟨flashAfter_sound flash (storesOf_sound phase portal event), phase⟩
    | off => cases happened
    | clock clock => cases happened
  | reset =>
    cases happened
    exact ⟨flash, trivial⟩

/-- Over every life of the device, flash has no valid marker or holds a
well-formed configuration, the running clock has a well-formed one, and so has
every clock that `clock_init` returns to. -/
theorem flash_stays_wellFormed (device : Device) (off : device.phase = .off)
    (begun : device.flash.magicMarker ≠ configMagic ∨
      (WellFormed device.flash ∧ TextsEnd device.flash))
    (ran : lifetimes.run device events = some reached) :
    (reached.flash.magicMarker ≠ configMagic ∨ WellFormed reached.flash) ∧
      (∀ clock, reached.phase = .clock clock → WellFormed clock.state.flashConfig) ∧
      ∀ gpio watchdogCausedReboot persistent,
        (clockInit gpio watchdogCausedReboot persistent reached.flash).progress = .returned →
          WellFormed
            (clockInit gpio watchdogCausedReboot persistent reached.flash).state.flashConfig := by
  have first : SoundDevice device := by
    refine ⟨begun.imp_right fun ⟨formed, texts⟩ => ⟨formed.toInRange, texts⟩, ?_⟩
    rw [off]
    trivial
  obtain ⟨flash, phase⟩ := StepSystem.run_invariant
    (fun _ _ _ sound happened => step_sound sound happened) first ran
  refine ⟨flash.imp_right Sound.wellFormed, ?_, ?_⟩
  · intro clock running
    rw [running] at phase
    exact Sound.wellFormed phase
  · intro gpio watchdogCausedReboot persistent returned
    exact (flash.loaded returned).wellFormed

/-! ## A name of 32 bytes, posted over two configurations -/

/-- A flash with a valid marker and the defaults. -/
def defaultFlash : FlashConfig := { baseConfig none with magicMarker := configMagic }

/-- A flash with a valid marker and a well-formed configuration, where the last
byte of the name of the network is no NUL. -/
def strayFlash : FlashConfig := { FormRoundTrip.strayBase with magicMarker := configMagic }

/-- The events that lead from power-on to the access point: `clock_start` waits
for DNS, the task finds no tick, and the button is held for three seconds. -/
def holdButton : List Event :=
  let task := Event.clock (.task .inProgress .sent)
  .boot (fun _ => 1) false .zero 0 0 [] AccessPoint.plainSession.gw :: List.replicate 7 task ++
    [.clock (.clockTimer 0), .clock (.clockTimer 0), .clock (.clockTimer 0), task]

/-- A client that posts a name of 32 bytes. -/
def postName : List Event :=
  [.openAccessPoint [] AccessPoint.plainSession.gw, .portal (.accept (some 0) .ok),
    .portal (.report 0 (.recv (some (FormRoundTrip.sampleHead ++ FormRoundTrip.strayBody)) .ok)),
    .reset]

theorem name_over_defaults :
    ∃ reached, lifetimes.run ⟨defaultFlash, .off⟩ (holdButton ++ postName) = some reached ∧
      (reached.flash.magicMarker ≠ configMagic ∨ WellFormed reached.flash) := by
  have formed : WellFormed defaultFlash :=
    ⟨⟨by decide, by decide, by decide, by decide⟩, by decide, by decide, by decide⟩
  have texts : TextsEnd defaultFlash := ⟨by decide, by decide, by decide⟩
  have ends : (lifetimes.run ⟨defaultFlash, .off⟩ (holdButton ++ postName)).isSome = true := by
    decide +kernel
  obtain ⟨reached, ran⟩ := Option.isSome_iff_exists.mp ends
  exact ⟨reached, ran,
    (flash_stays_wellFormed ⟨defaultFlash, .off⟩ rfl (.inr ⟨formed, texts⟩) ran).1⟩

/-- Over the other configuration, what is stored under a valid marker does not
end inside its field. -/
theorem stray_byte_spreads :
    WellFormed strayFlash ∧ strayFlash.magicMarker = configMagic ∧
      ∃ reached, lifetimes.run ⟨strayFlash, .off⟩ (holdButton ++ postName) = some reached ∧
        reached.flash.magicMarker = configMagic ∧ ¬ reached.flash.wifiSsid.Terminated := by
  have formed : WellFormed strayFlash :=
    ⟨⟨by decide, by decide, by decide, by decide⟩, by decide, by decide, by decide⟩
  have ends : (lifetimes.run ⟨strayFlash, .off⟩ (holdButton ++ postName)).map
      (fun reached => (reached.flash.magicMarker, reached.flash.wifiSsid.cells)) =
        some (configMagic, List.replicate 32 0x61 ++ [0x58]) := by decide +kernel
  obtain ⟨reached, ran, shown⟩ := Option.map_eq_some_iff.mp ends
  obtain ⟨marker, cells⟩ := Prod.mk.inj shown
  refine ⟨formed, rfl, reached, ran, marker, ?_⟩
  rw [CharArray.Terminated, cells]
  decide

end PicowDayClock.StoredConfiguration
