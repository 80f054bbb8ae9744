import PicowDayClock.FormRoundTrip

/-! The form of the page as a browser submits it: every field of it once, in the
order of the page, and `led_on` only when its box is ticked. -/
namespace PicowDayClock.ServedForm
open ConfigForm FormUrlencoded Wifi RequestText FormRoundTrip
open AccessPoint (plainSession)

/-! ## The form of the page -/

/-- What the user has entered, and whether the box is ticked. -/
structure FormValues where
  ssid : Bytes
  pwd : Bytes
  tz : Bytes
  dst : Bytes
  bl : Bytes
  ticked : Bool
  ntp : Bytes
  port : Bytes
  cto : Bytes

/-- The names and values that are submitted. -/
def FormValues.fields (values : FormValues) : List (Bytes × Bytes) :=
  [(ascii "ssid", values.ssid), (ascii "pwd", values.pwd), (ascii "tz", values.tz),
      (ascii "dst", values.dst), (ascii "bl", values.bl)] ++
    (if values.ticked then [(ascii "led_on", ascii "1")] else []) ++
    [(ascii "ntp", values.ntp), (ascii "port", values.port), (ascii "cto", values.cto)]

/-- The body is an encoding of these fields. -/
structure FormValues.Submits (values : FormValues) (body : Bytes) : Prop where
  encoded : EncodedForm values.fields body
  nulFree : NulFree body

/-- The three numbers are in range. -/
structure FormValues.InRange (values : FormValues) : Prop where
  tz : ¬ Key.tz.Invalid (received values.tz)
  port : ¬ Key.port.Invalid (received values.port)
  cto : ¬ Key.cto.Invalid (received values.cto)

/-- A configuration with the form stored over it. Only a ticked box is stored. -/
def FormValues.storedOn (values : FormValues) (config : FlashConfig) : FlashConfig where
  magicMarker := config.magicMarker
  wifiSsid := config.wifiSsid.strncpy (received values.ssid) wifiSsidMaxLen
  wifiPassword := config.wifiPassword.strncpy (received values.pwd) wifiPasswordMaxLen
  ntpServer := config.ntpServer.strncpy (received values.ntp) hostnameMaxLen
  tzOffsetMins := (strtol (received values.tz)).1
  dstRule := ruleNamed (received values.dst)
  ntpTimeout := (strtol (received values.cto)).1.toNat
  ntpPort := (strtol (received values.port)).1.toNat
  ledAlwaysOn := values.ticked || config.ledAlwaysOn

theorem FormValues.fields_plain (values : FormValues) :
    ∀ pair ∈ values.fields, 0x26 ∉ pair.1 ∧ 0x3D ∉ pair.1 := by
  have names : values.fields.map (·.1) =
      [ascii "ssid", ascii "pwd", ascii "tz", ascii "dst", ascii "bl"] ++
        (if values.ticked then [ascii "led_on"] else []) ++
        [ascii "ntp", ascii "port", ascii "cto"] := by
    unfold FormValues.fields
    cases values.ticked <;> rfl
  have plain : ∀ ticked : Bool, ∀ name ∈
      [ascii "ssid", ascii "pwd", ascii "tz", ascii "dst", ascii "bl"] ++
        (if ticked then [ascii "led_on"] else []) ++
        [ascii "ntp", ascii "port", ascii "cto"], 0x26 ∉ name ∧ 0x3D ∉ name := by decide
  intro pair member
  apply plain values.ticked
  rw [← names]
  exact List.mem_map_of_mem member

/-- A number in range is stored. -/
theorem applyField_number {key : Key} (inRange : ¬ key.Invalid value) (config : FlashConfig) :
    applyField config key.name value = some (enter config key value) := by
  rw [applyField_eq, if_neg inRange]

/-- A box that is not ticked leaves what the configuration had. -/
theorem FormValues.applyFields_fields {values : FormValues} (inRange : values.InRange)
    (config : FlashConfig) :
    applyFields config values.fields = some (values.storedOn config) := by
  have tz := applyField_number inRange.tz
  have port := applyField_number inRange.port
  have cto := applyField_number inRange.cto
  have text := fun config => applyField_name config .ssid (received values.ssid)
  have password := fun config => applyField_name config .pwd (received values.pwd)
  have server := fun config => applyField_name config .ntp (received values.ntp)
  have rule := fun config => applyField_name config .dst (received values.dst)
  have brightness : ∀ config, applyField config (ascii "bl") (received values.bl) = some config :=
    fun config => rfl
  have box : ∀ config, applyField config (ascii "led_on") (received (ascii "1")) =
      some { config with ledAlwaysOn := true } := fun config => rfl
  simp only [Key.name, enter, dstRuleOf_eq] at tz port cto text password server rule
  unfold FormValues.fields applyFields FormValues.storedOn
  cases values.ticked <;>
    simp only [Bool.false_eq_true, if_true, if_false, List.append_nil, List.cons_append,
      List.nil_append, List.foldlM_cons, List.foldlM_nil, tz, port, cto, text, password, server,
      rule, brightness, box, Option.bind_eq_bind, Option.bind_some, Option.pure_def,
      Bool.true_or, Bool.false_or, wifiSsidMaxLen, wifiPasswordMaxLen, hostnameMaxLen]

/-- A form that is whole in the buffer is stored over the base configuration. -/
theorem form_stored (session : Session) (closes : ErrT) {con : TcpConnectState}
    (ended : con.headers.Terminated) (whole : appended con.headers.text payload = head ++ body)
    (posted : PostHead head body.length) {values : FormValues} (inRange : values.InRange)
    (submits : values.Submits body) :
    (tcpServerRecv session con (some payload) closes).stores =
      [values.storedOn (baseConfig session.flashConfig)] := by
  have short : (head ++ body).length < tcpIpBufferSize := by
    rw [← whole]
    exact appended_length_le (terminated_iff.mp ended) payload
  have shown := (recv_shows ended session payload closes).stores
  rw [shown, whole, posted.reaction session closes short]
  simp only [configReply, posted.bodyOf, Option.getD_some,
    submitted_encoded _ values.fields_plain submits.encoded, FormValues.applyFields_fields inRange]

/-! ## The checkbox -/

/-- The configuration given to `store_config` has the LED on just when the box
is ticked, exactly if it is ticked or the LED is off in the base configuration. -/
theorem led_follows_box_iff (session : Session) (closes : ErrT) {con : TcpConnectState}
    (ended : con.headers.Terminated) (whole : appended con.headers.text payload = head ++ body)
    (posted : PostHead head body.length) {values : FormValues} (inRange : values.InRange)
    (submits : values.Submits body) :
    ∃ config, (tcpServerRecv session con (some payload) closes).stores = [config] ∧
      ((config.ledAlwaysOn = true ↔ values.ticked = true) ↔
        values.ticked = true ∨ (baseConfig session.flashConfig).ledAlwaysOn = false) := by
  refine ⟨_, form_stored session closes ended whole posted inRange submits, ?_⟩
  simp only [FormValues.storedOn]
  cases values.ticked <;> cases (baseConfig session.flashConfig).ledAlwaysOn <;> decide

/-- The form as it is served without a stored configuration, with a name and a
password entered. -/
def plainForm (ticked : Bool) : FormValues where
  ssid := ascii "home"
  pwd := ascii "secret"
  tz := ascii "0"
  dst := ascii "NONE"
  bl := ascii "100"
  ticked := ticked
  ntp := ascii "pool.ntp.org"
  port := ascii "123"
  cto := ascii "10000"

/-- Its body: every value is sent as it is. -/
def plainBody (ticked : Bool) : Bytes :=
  [0x26].intercalate ((plainForm ticked).fields.map fun pair => pair.1 ++ 0x3D :: pair.2)

def plainHead (ticked : Bool) : Bytes :=
  ascii "POST /clock-config HTTP/1.1" ++ crlf ++ contentLengthKey ++
    ascii (if ticked then "86" else "77") ++ crlf ++ crlf

theorem plainForm_inRange (ticked : Bool) : (plainForm ticked).InRange := by
  cases ticked <;> exact ⟨by decide, by decide, by decide⟩

theorem plainForm_submits (ticked : Bool) : (plainForm ticked).Submits (plainBody ticked) := by
  refine ⟨encodedForm_itself ?_, ?_⟩ <;> cases ticked <;> decide

theorem plainHead_posted (ticked : Bool) :
    PostHead (plainHead ticked) (plainBody ticked).length := by
  cases ticked with
  | true =>
    refine ⟨by decide, by decide, ?_, ?_⟩
    · exact ⟨ascii "POST /clock-config HTTP/1.1" ++ crlf, ascii "86", crlf, by decide⟩
    · exact ⟨ascii "POST /clock-config HTTP/1.1" ++ crlf ++ contentLengthKey ++ ascii "86",
        by decide⟩
  | false =>
    refine ⟨by decide, by decide, ?_, ?_⟩
    · exact ⟨ascii "POST /clock-config HTTP/1.1" ++ crlf, ascii "77", crlf, by decide⟩
    · exact ⟨ascii "POST /clock-config HTTP/1.1" ++ crlf ++ contentLengthKey ++ ascii "77",
        by decide⟩

theorem plainRequest_whole (ticked : Bool) :
    appended (TcpConnectState.fresh 0).headers.text (plainHead ticked ++ plainBody ticked) =
      plainHead ticked ++ plainBody ticked := by
  have short : (plainHead ticked ++ plainBody ticked).length ≤ 140 := by
    cases ticked <;> decide +kernel
  have size : tcpIpBufferSize = 8192 := rfl
  rw [fresh_text]
  apply appended_of_fits
  · cases ticked <;> decide
  · rw [List.length_nil]
    omega

theorem ticked_box_is_stored :
    ∃ config, (tcpServerRecv plainSession (.fresh 0)
        (some (plainHead true ++ plainBody true)) .ok).stores = [config] ∧
      ((config.ledAlwaysOn = true ↔ (plainForm true).ticked = true) ↔
        (plainForm true).ticked = true ∨ (baseConfig none).ledAlwaysOn = false) :=
  led_follows_box_iff plainSession .ok (fresh_terminated 0) (plainRequest_whole true)
    (plainHead_posted true) (plainForm_inRange true) (plainForm_submits true)

/-- A session over a stored configuration with the LED on. -/
def lightSession : Session :=
  { plainSession with flashConfig := some { baseConfig none with ledAlwaysOn := true } }

/-- There, the box is not ticked, and the LED stays on. -/
theorem unticked_box_is_ignored :
    (plainForm false).InRange ∧ (plainForm false).Submits (plainBody false) ∧
      (plainForm false).ticked = false ∧
      (tcpServerRecv lightSession (.fresh 0)
        (some (plainHead false ++ plainBody false)) .ok).stores.map (·.ledAlwaysOn) = [true] := by
  refine ⟨plainForm_inRange false, plainForm_submits false, rfl, ?_⟩
  rw [form_stored lightSession .ok (fresh_terminated 0) (plainRequest_whole false)
    (plainHead_posted false) (plainForm_inRange false) (plainForm_submits false)]
  rfl

end PicowDayClock.ServedForm
