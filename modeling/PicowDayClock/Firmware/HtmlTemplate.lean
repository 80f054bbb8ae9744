import PicowDayClock.Firmware.Wifi
import PicowDayClock.Library.Checked

/-! The page of the access point: `expand_html_template` of `wifi.c`, which puts
the texts of the stored configuration into the template that
`create-html-blob.py` makes of `form.html`. -/
namespace PicowDayClock.HtmlTemplate
open Wifi

/-- `HTML_FORM_MAX_LENGTH`, from the length of the template. -/
def htmlFormMaxLength (templateLength : Nat) : Nat :=
  templateLength + wifiSsidMaxLen + wifiPasswordMaxLen + hostnameMaxLen

/-- `tolower` in the C locale. -/
def tolower (c : Byte) : Byte := if 0x41 ≤ c ∧ c ≤ 0x5A then c + 0x20 else c

/-- `strncasecmp(text, literal, count) == 0`. -/
def equalsIgnoreCase (text literal : Bytes) (count : Nat) : Bool :=
  (text.take count).map tolower = (literal.take count).map tolower

/-- What opens a placeholder, and the brace that closes it behind its key. -/
def templateOpen : Bytes := ascii "\x7bTEMPLATE:"
def templateClose : Byte := 0x7D

/-- The text a key stands for. A key may be cut short and in any case; without a
configuration, and for every other key, it is the empty text. -/
def replacementFor (flashConfig : Option FlashConfig) (keyStart : Bytes) (keyLen : Nat) : Bytes :=
  match flashConfig with
  | some flashConfig =>
    if keyLen = 0 then []
    else if equalsIgnoreCase keyStart (ascii "ssid") keyLen then flashConfig.wifiSsid.text
    else if equalsIgnoreCase keyStart (ascii "pwd") keyLen then flashConfig.wifiPassword.text
    else if equalsIgnoreCase keyStart (ascii "ntp") keyLen then flashConfig.ntpServer.text
    else []
  | none => []

/-- The loop of `expand_html_template`, with what is left of the template and
what has been written so far. -/
def expandFrom (limit : Nat) (flashConfig : Option FlashConfig) (curr out : Bytes) :
    Except ErrT Bytes :=
  if _done : curr = [] then .ok out
  else
    match strstr curr templateOpen with
    | none => if out.length + curr.length ≥ limit then .error .mem else .ok (out ++ curr)
    | some start =>
      if out.length + start ≥ limit then .error .mem
      else
        let out := out ++ curr.take start
        let keyStart := curr.drop (start + templateOpen.length)
        match strchr keyStart templateClose with
        | none => .error .val
        | some keyLen =>
          let replacement := replacementFor flashConfig keyStart keyLen
          if out.length + replacement.length ≥ limit then .error .mem
          else expandFrom limit flashConfig (keyStart.drop (keyLen + 1)) (out ++ replacement)
termination_by curr.length
decreasing_by
  have : 0 < curr.length := List.length_pos_iff.mpr _done
  simp only [List.length_drop]
  omega

/-- `expand_html_template`. -/
def expandHtmlTemplate (buffer : Bytes) (flashConfig : Option FlashConfig) : Except ErrT Bytes :=
  expandFrom (htmlFormMaxLength buffer.length) flashConfig buffer []

/-! ## Into an array -/

/-- `replacementFor`, read from the arrays of the configuration. -/
def replacementIn (flashConfig : Option FlashConfig) (keyStart : Bytes) (keyLen : Nat) :
    Checked Bytes :=
  match flashConfig with
  | some flashConfig =>
    if keyLen = 0 then .ok []
    else if equalsIgnoreCase keyStart (ascii "ssid") keyLen then flashConfig.wifiSsid.memory.string
    else if equalsIgnoreCase keyStart (ascii "pwd") keyLen then
      flashConfig.wifiPassword.memory.string
    else if equalsIgnoreCase keyStart (ascii "ntp") keyLen then flashConfig.ntpServer.memory.string
    else .ok []
  | none => .ok []

/-- The loop of `expand_html_template` with the copies it makes and the NUL at
the end. `outLen` cells of `bufferOut` have been written before. -/
def expandInto (limit : Nat) (flashConfig : Option FlashConfig) (bufferOut : Memory)
    (curr : Bytes) (outLen : Nat) : Checked (Except ErrT Memory) :=
  if _done : curr = [] then do
    let bufferOut ← bufferOut.store outLen 0
    .ok (.ok bufferOut)
  else
    match strstr curr templateOpen with
    | none =>
      let tailLen := curr.length
      if outLen + tailLen ≥ limit then .ok (.error .mem)
      else do
        let bufferOut ← bufferOut.write outLen curr
        let bufferOut ← bufferOut.store (outLen + tailLen) 0
        .ok (.ok bufferOut)
    | some start =>
      if outLen + start ≥ limit then .ok (.error .mem)
      else do
        let bufferOut ← bufferOut.write outLen (curr.take start)
        let outLen := outLen + start
        let keyStart := curr.drop (start + templateOpen.length)
        match strchr keyStart templateClose with
        | none => .ok (.error .val)
        | some keyLen => do
          let replacement ← replacementIn flashConfig keyStart keyLen
          let replLen := replacement.length
          if outLen + replLen ≥ limit then .ok (.error .mem)
          else do
            let bufferOut ← bufferOut.write outLen replacement
            expandInto limit flashConfig bufferOut (keyStart.drop (keyLen + 1)) (outLen + replLen)
termination_by curr.length
decreasing_by
  have : 0 < curr.length := List.length_pos_iff.mpr _done
  simp only [List.length_drop]
  omega

/-- `start_wifi_access_point` up to its waiting loop: the error it returns, or
the page that is served. `archInit` is what `cyw43_arch_init` answers and
`opened` what `tcp_server_open` does. -/
def startWifiAccessPoint (htmlFormTemplate : Bytes) (htmlFormExpanded : Memory)
    (flashConfig : Option FlashConfig) (wifiInitialized : Bool) (archInit : Int) (opened : Bool) :
    Checked (Except WifiError Memory) :=
  if ¬ wifiInitialized ∧ archInit ≠ 0 then .ok (.error .initError)
  else do
    let expanded ← expandInto (htmlFormMaxLength htmlFormTemplate.length) flashConfig
      htmlFormExpanded htmlFormTemplate 0
    match expanded with
    | .error _ => .ok (.error .initError)
    | .ok page => if opened then .ok (.ok page) else .ok (.error .initError)

/-! ## One round of the loop -/

/-- Without another placeholder, the rest of the template is the end of the page. -/
theorem expandFrom_tail (flashConfig : Option FlashConfig)
    (absent : strstr tail templateOpen = none) (fits : out.length + tail.length < limit) :
    expandFrom limit flashConfig tail out = .ok (out ++ tail) := by
  rw [expandFrom]
  split
  · rename_i empty
    rw [empty, List.append_nil]
  · simp only [absent]
    rw [if_neg (by omega)]

/-- A placeholder is replaced by the text of its key. -/
theorem expandFrom_placeholder {flashConfig : Option FlashConfig} {piece key rest : Bytes}
    (absent : strstr piece templateOpen = none) (plain : templateClose ∉ key)
    (replaced : replacementFor flashConfig (key ++ templateClose :: rest) key.length = replacement)
    (fits : out.length + piece.length + replacement.length < limit) :
    expandFrom limit flashConfig (piece ++ (templateOpen ++ (key ++ templateClose :: rest))) out =
      expandFrom limit flashConfig rest (out ++ piece ++ replacement) := by
  have found : strstr (piece ++ (templateOpen ++ (key ++ templateClose :: rest))) templateOpen =
      some piece.length := strstr_past absent (by decide) _
  have behind : (piece ++ (templateOpen ++ (key ++ templateClose :: rest))).drop
      (piece.length + templateOpen.length) = key ++ templateClose :: rest := by
    rw [← List.drop_drop, List.drop_left, List.drop_left]
  have ends : (key ++ templateClose :: rest).drop (key.length + 1) = rest := by
    rw [← List.drop_drop, List.drop_left, List.drop_one, List.tail_cons]
  have several : piece ++ (templateOpen ++ (key ++ templateClose :: rest)) ≠ [] := by
    simp [templateOpen, ascii]
  rw [expandFrom, dif_neg several]
  simp only [found, behind, strchr_behind plain, List.take_left, replaced, ends,
    List.length_append]
  rw [if_neg (by omega), if_neg (by omega)]

/-- A key is compared with as much of a name as it is long. -/
theorem equalsIgnoreCase_append (key rest literal : Bytes) :
    equalsIgnoreCase (key ++ rest) literal key.length =
      decide (key.map tolower = (literal.take key.length).map tolower) := by
  rw [equalsIgnoreCase, List.take_left]

/-- The keys of the template. -/
theorem replacementFor_keys (config : FlashConfig) (rest : Bytes) :
    replacementFor (some config) (ascii "SSID" ++ rest) (ascii "SSID").length =
        config.wifiSsid.text ∧
      replacementFor (some config) (ascii "PWD" ++ rest) (ascii "PWD").length =
        config.wifiPassword.text ∧
      replacementFor (some config) (ascii "NTP" ++ rest) (ascii "NTP").length =
        config.ntpServer.text := by
  simp only [replacementFor, equalsIgnoreCase_append]
  exact ⟨rfl, rfl, rfl⟩

end PicowDayClock.HtmlTemplate
