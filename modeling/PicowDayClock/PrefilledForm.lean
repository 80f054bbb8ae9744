import PicowDayClock.Firmware.HtmlTemplate
import PicowDayClock.Library.CharacterReference
import PicowDayClock.ServedForm

/-! The page with the stored texts in it, as a browser reads it. The texts are
copied into the page as they are, and a browser takes a quote for the end of a
value and replaces character references. -/
namespace PicowDayClock.PrefilledForm
open Wifi HtmlTemplate RequestText FormRoundTrip ServedForm
open AccessPoint (plainSession)

/-- The double quote. -/
def quote : Byte := 0x22

/-! ## The template -/

/-- The template around its three placeholders, each of which is the whole value
of an attribute. -/
structure FormTemplate where
  head : Bytes
  ssidToPwd : Bytes
  pwdToNtp : Bytes
  tail : Bytes
  /-- There are no other placeholders. -/
  plain : ∀ piece ∈ [head, ssidToPwd, pwdToNtp, tail], strstr piece templateOpen = none
  opens : ∀ piece ∈ [head, ssidToPwd, pwdToNtp], ascii "value=\"" <:+ piece
  closes : ∀ piece ∈ [ssidToPwd, pwdToNtp, tail], [quote] <+: piece

/-- `html_form_template`. -/
def FormTemplate.text (template : FormTemplate) : Bytes :=
  template.head ++ (templateOpen ++ (ascii "SSID" ++ templateClose ::
    (template.ssidToPwd ++ (templateOpen ++ (ascii "PWD" ++ templateClose ::
      (template.pwdToNtp ++ (templateOpen ++ (ascii "NTP" ++ templateClose ::
        template.tail))))))))

/-- The page with three texts in the places of the placeholders. -/
def FormTemplate.filled (template : FormTemplate) (ssid pwd ntp : Bytes) : Bytes :=
  template.head ++ (ssid ++ (template.ssidToPwd ++ (pwd ++ (template.pwdToNtp ++
    (ntp ++ template.tail)))))

/-- The page of a stored configuration fits, and has its texts in it. -/
theorem expand_filled (template : FormTemplate) {config : FlashConfig}
    (ssid : config.wifiSsid.Terminated) (password : config.wifiPassword.Terminated)
    (ntpServer : config.ntpServer.Terminated) :
    expandHtmlTemplate template.text (some config) = .ok (template.filled config.wifiSsid.text
      config.wifiPassword.text config.ntpServer.text) := by
  have plain := template.plain
  simp only [List.forall_mem_cons] at plain
  obtain ⟨head, ssidToPwd, pwdToNtp, tail, -⟩ := plain
  have keys := replacementFor_keys config
  have ssidFits := config.wifiSsid.text_length_lt ssid
  have passwordFits := config.wifiPassword.text_length_lt password
  have ntpFits := config.ntpServer.text_length_lt ntpServer
  have sizes : wifiSsidMaxLen = 32 ∧ wifiPasswordMaxLen = 63 ∧ hostnameMaxLen = 64 := ⟨rfl, rfl, rfl⟩
  have names : templateOpen.length = 10 ∧ (ascii "SSID").length = 4 ∧ (ascii "PWD").length = 3 ∧
      (ascii "NTP").length = 3 := ⟨rfl, rfl, rfl, rfl⟩
  have limit : htmlFormMaxLength template.text.length = template.head.length +
      template.ssidToPwd.length + template.pwdToNtp.length + template.tail.length + 202 := by
    simp only [htmlFormMaxLength, FormTemplate.text, List.length_append, List.length_cons]
    omega
  rw [expandHtmlTemplate, limit, FormTemplate.text,
    expandFrom_placeholder head (by decide) (keys _).1 (by simp only [List.length_nil]; omega),
    expandFrom_placeholder ssidToPwd (by decide) (keys _).2.1
      (by simp only [List.length_append, List.length_nil]; omega),
    expandFrom_placeholder pwdToNtp (by decide) (keys _).2.2
      (by simp only [List.length_append, List.length_nil]; omega),
    expandFrom_tail _ tail (by simp only [List.length_append, List.length_nil]; omega)]
  simp only [FormTemplate.filled, List.nil_append, List.append_assoc]

/-! ## What a browser reads -/

/-- The values of the three inputs, and the page around them. -/
structure Reading where
  ssid : Bytes
  pwd : Bytes
  ntp : Bytes
  markup : List Bytes

/-- Reads a page from its front. A value goes from behind its opening quote to
the next quote, with the references in it replaced; from there on the page is
markup for as long as it is in the template. -/
def FormTemplate.read (template : FormTemplate) (refs : References Byte) (page : Bytes) :
    Reading :=
  let ssidOn := page.drop template.head.length
  let ssidEnd := ssidOn.dropWhile (· ≠ quote)
  let pwdOn := ssidEnd.drop template.ssidToPwd.length
  let pwdEnd := pwdOn.dropWhile (· ≠ quote)
  let ntpOn := pwdEnd.drop template.pwdToNtp.length
  { ssid := refs.valueOf quote ssidOn
    pwd := refs.valueOf quote pwdOn
    ntp := refs.valueOf quote ntpOn
    markup := [page.take template.head.length, ssidEnd.take template.ssidToPwd.length,
      pwdEnd.take template.pwdToNtp.length, ntpOn.dropWhile (· ≠ quote)] }

/-- The reading that shows three texts, with the markup of the template. -/
def FormTemplate.shown (template : FormTemplate) (ssid pwd ntp : Bytes) : Reading where
  ssid := ssid
  pwd := pwd
  ntp := ntp
  markup := [template.head, template.ssidToPwd, template.pwdToNtp, template.tail]

/-- A text that has neither a quote nor a character reference in it. -/
def Literal (refs : References Byte) (text : Bytes) : Prop :=
  quote ∉ text ∧ refs.NoReference text

theorem valueOf_iff_literal {refs : References Byte} (closes : [quote] <+: rest) (text : Bytes) :
    refs.valueOf quote (text ++ rest) = text ↔ Literal refs text := by
  obtain ⟨more, rfl⟩ := closes
  exact References.valueOf_eq_iff

theorem Literal.ends {refs : References Byte} (literal : Literal refs text)
    (closes : [quote] <+: rest) : (text ++ rest).dropWhile (· ≠ quote) = rest := by
  obtain ⟨more, rfl⟩ := closes
  exact References.dropWhile_quote literal.1

/-- Three texts are read back, and nothing else changes, exactly if each of them
is literal. -/
theorem read_filled_iff (template : FormTemplate) (refs : References Byte) (ssid pwd ntp : Bytes) :
    template.read refs (template.filled ssid pwd ntp) = template.shown ssid pwd ntp ↔
      Literal refs ssid ∧ Literal refs pwd ∧ Literal refs ntp := by
  have closes := template.closes
  simp only [List.forall_mem_cons] at closes
  obtain ⟨ssidCloses, pwdCloses, ntpCloses, -⟩ := closes
  have behindSsid := ssidCloses.trans (List.prefix_append template.ssidToPwd
    (pwd ++ (template.pwdToNtp ++ (ntp ++ template.tail))))
  have behindPwd := pwdCloses.trans (List.prefix_append template.pwdToNtp (ntp ++ template.tail))
  constructor
  · intro shown
    have ssidShown := congrArg Reading.ssid shown
    have pwdShown := congrArg Reading.pwd shown
    have ntpShown := congrArg Reading.ntp shown
    simp only [FormTemplate.read, FormTemplate.filled, FormTemplate.shown,
      List.drop_left] at ssidShown pwdShown ntpShown
    have ssidLiteral := (valueOf_iff_literal behindSsid ssid).mp ssidShown
    rw [ssidLiteral.ends behindSsid, List.drop_left] at pwdShown ntpShown
    have pwdLiteral := (valueOf_iff_literal behindPwd pwd).mp pwdShown
    rw [pwdLiteral.ends behindPwd, List.drop_left] at ntpShown
    exact ⟨ssidLiteral, pwdLiteral, (valueOf_iff_literal ntpCloses ntp).mp ntpShown⟩
  · rintro ⟨ssidLiteral, pwdLiteral, ntpLiteral⟩
    simp only [FormTemplate.read, FormTemplate.filled, FormTemplate.shown, List.drop_left,
      List.take_left, ssidLiteral.ends behindSsid, pwdLiteral.ends behindPwd,
      ntpLiteral.ends ntpCloses, (valueOf_iff_literal behindSsid ssid).mpr ssidLiteral,
      (valueOf_iff_literal behindPwd pwd).mpr pwdLiteral,
      (valueOf_iff_literal ntpCloses ntp).mpr ntpLiteral]

/-! ## Submitting the page again -/

/-- A stored configuration whose texts end within their capacities and not in a
line break. -/
structure Stored (config : FlashConfig) : Prop where
  ssidEnds : config.wifiSsid.Terminated
  passwordEnds : config.wifiPassword.Terminated
  ntpServerEnds : config.ntpServer.Terminated
  ssid : Submittable config.wifiSsid.text
  password : Submittable config.wifiPassword.text
  ntpServer : Submittable config.ntpServer.text

/-- Whatever else is entered, the form with the three values as they were read
stores the three texts that were stored before. -/
def Resubmits (config : FlashConfig) (reading : Reading) : Prop :=
  ∀ (session : Session) (closes : ErrT) (con : TcpConnectState) (payload head body : Bytes)
    (values : FormValues), session.flashConfig = some config → con.headers.Terminated →
    appended con.headers.text payload = head ++ body → PostHead head body.length →
    values.InRange → values.Submits body →
    values.ssid = reading.ssid → values.pwd = reading.pwd → values.ntp = reading.ntp →
    ∃ next, (tcpServerRecv session con (some payload) closes).stores = [next] ∧
      next.wifiSsid.text = config.wifiSsid.text ∧
      next.wifiPassword.text = config.wifiPassword.text ∧
      next.ntpServer.text = config.ntpServer.text

/-- A text that is stored over itself stays. -/
theorem stored_again {array : CharArray (count + 1)} (ended : array.Terminated)
    (kept : Submittable array.text) :
    (array.strncpy (received array.text) count).text = array.text := by
  rw [kept.received]
  have short := array.text_length_lt ended
  exact CharArray.text_strncpy_self ended (Nat.le_succ count) (Nat.le_of_lt_succ short)

theorem shown_resubmits (template : FormTemplate) {config : FlashConfig} (stored : Stored config) :
    Resubmits config (template.shown config.wifiSsid.text config.wifiPassword.text
      config.ntpServer.text) := by
  intro session closes con payload head body values base ended whole posted inRange submits
    ssid pwd ntp
  refine ⟨_, form_stored session closes ended whole posted inRange submits, ?_⟩
  simp only [FormValues.storedOn, base, ConfigForm.baseConfig, ssid, pwd, ntp, FormTemplate.shown]
  exact ⟨stored_again stored.ssidEnds stored.ssid, stored_again stored.passwordEnds stored.password,
    stored_again stored.ntpServerEnds stored.ntpServer⟩

/-- The page of a stored configuration always fits. A browser reads the stored
texts in it, with the markup of the template around them, and stores them again
when the form is submitted with them, exactly if none of the three has a double
quote or a character reference in it. -/
theorem page_shows_stored_iff (template : FormTemplate) (refs : References Byte)
    {config : FlashConfig} (stored : Stored config) :
    ∃ page, expandHtmlTemplate template.text (some config) = .ok page ∧
      (template.read refs page = template.shown config.wifiSsid.text config.wifiPassword.text
            config.ntpServer.text ∧
          Resubmits config (template.read refs page) ↔
        Literal refs config.wifiSsid.text ∧ Literal refs config.wifiPassword.text ∧
          Literal refs config.ntpServer.text) := by
  refine ⟨_, expand_filled template stored.ssidEnds stored.passwordEnds stored.ntpServerEnds, ?_⟩
  rw [read_filled_iff]
  refine ⟨And.left, fun literal => ⟨literal, ?_⟩⟩
  rw [(read_filled_iff template refs _ _ _).mpr literal]
  exact shown_resubmits template stored

/-- `&amp;` and `&quot;` of the table of HTML. -/
def basicReferences : References Byte where
  mark := 0x26
  lookup rest :=
    if ascii "amp;" <+: rest then some (4, [0x26])
    else if ascii "quot;" <+: rest then some (5, [quote])
    else none
  named := by
    intro rest count replacement found
    split_ifs at found with amp quot
    · cases found
      exact ⟨by decide, amp.length_le⟩
    · cases found
      exact ⟨by decide, quot.length_le⟩
  oneMark := by
    intro rest count replacement found
    split_ifs at found with amp quot
    · cases found
      obtain ⟨more, rfl⟩ := amp
      change 0x26 ∉ ascii "amp;"
      decide
    · cases found
      obtain ⟨more, rfl⟩ := quot
      change 0x26 ∉ ascii "quot;"
      decide
  replaced := by
    intro rest count replacement found
    split_ifs at found
    · cases found
      exact .inl rfl
    · cases found
      exact .inr (by decide)

/-- The three inputs of `form.html`, without the page around them. -/
def inputs : FormTemplate where
  head := ascii "<input type=\"text\" id=\"ssid\" name=\"ssid\" maxlength=\"32\" value=\""
  ssidToPwd := ascii "\" required> <input type=\"password\" id=\"pwd\" name=\"pwd\" value=\""
  pwdToNtp := ascii "\" required> <input type=\"text\" id=\"ntp\" name=\"ntp\" value=\""
  tail := ascii "\">"
  plain := by decide +kernel
  opens := by decide +kernel
  closes := by decide +kernel

/-- The defaults with the name of a network. -/
def network (ssid : Bytes) : FlashConfig :=
  { ConfigForm.baseConfig none with wifiSsid := .ofText _ ssid }

theorem home_is_shown :
    ∃ page, expandHtmlTemplate inputs.text (some (network (ascii "home"))) = .ok page ∧
      inputs.read basicReferences page =
        inputs.shown (ascii "home") [] (ascii "pool.ntp.org") ∧
      Resubmits (network (ascii "home")) (inputs.read basicReferences page) := by
  have stored : Stored (network (ascii "home")) := by
    constructor <;> decide +kernel
  have plain : ∀ text : Bytes, quote ∉ text ∧ 0x26 ∉ text → Literal basicReferences text :=
    fun text clean => ⟨clean.1, References.noReference_of_not_mem clean.2⟩
  obtain ⟨page, expanded, shown⟩ := page_shows_stored_iff inputs basicReferences stored
  refine ⟨page, expanded, shown.mpr ⟨plain _ ?_, plain _ ?_, plain _ ?_⟩⟩ <;> decide +kernel

/-- A name with a quote in it is cut short there, and one with a reference is
read as what the reference stands for. -/
theorem quote_cuts_value :
    (Stored (network (ascii "Tom\"s")) ∧
      ∃ page, expandHtmlTemplate inputs.text (some (network (ascii "Tom\"s"))) = .ok page ∧
        (inputs.read basicReferences page).ssid = ascii "Tom") ∧
    (Stored (network (ascii "R&amp;D")) ∧
      ∃ page, expandHtmlTemplate inputs.text (some (network (ascii "R&amp;D"))) = .ok page ∧
        (inputs.read basicReferences page).ssid = ascii "R&D") := by
  have first : Stored (network (ascii "Tom\"s")) := by
    constructor <;> decide +kernel
  have second : Stored (network (ascii "R&amp;D")) := by
    constructor <;> decide +kernel
  refine ⟨⟨first, _, expand_filled inputs first.ssidEnds first.passwordEnds first.ntpServerEnds, ?_⟩,
    ⟨second, _, expand_filled inputs second.ssidEnds second.passwordEnds second.ntpServerEnds, ?_⟩⟩
  · decide +kernel
  · decide +kernel

end PicowDayClock.PrefilledForm
