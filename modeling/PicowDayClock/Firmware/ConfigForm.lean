import PicowDayClock.Firmware.Config
import PicowDayClock.Library.CString

/-! How `wifi.c` reads a submitted form: percent decoding, bounded numbers, and
the fields of the new configuration. -/
namespace PicowDayClock.ConfigForm

def minTzOffsetMins : Int := -12 * 60
def maxTzOffsetMins : Int := 14 * 60
def minNtpTimeoutMs : Int := 1000
def maxNtpTimeoutMs : Int := 60000

/-- `parse_long_bounded`: the whole of a non-empty text, as a number in range. -/
def parseLongBounded (value : Bytes) (minVal maxVal : Int) : Option Int :=
  let (parsed, endptr) := strtol value
  if value = [] then none
  else if endptr ≠ [] then none
  else if parsed < minVal ∨ parsed > maxVal then none
  else some parsed

/-! ## Percent decoding -/

/-- `hex_to_int`: other characters count as 0. -/
def hexToInt (c : Byte) : Byte :=
  if 0x30 ≤ c ∧ c ≤ 0x39 then c - 0x30
  else if 0x61 ≤ c ∧ c ≤ 0x66 then c - 0x61 + 10
  else if 0x41 ≤ c ∧ c ≤ 0x46 then c - 0x41 + 10
  else 0

/-- A character outside an escape. -/
def decodePlain (c : Byte) : Byte := if c = 0x2B then 0x20 else c

/-- The first loop of `urldecode_inplace`. An escape is a `%` with two more
characters behind it. -/
def urldecode : Bytes → Bytes
  | c :: hi :: lo :: rest =>
    if c = 0x25 then ((hexToInt hi <<< 4) ||| hexToInt lo) :: urldecode rest
    else decodePlain c :: urldecode (hi :: lo :: rest)
  | c :: rest => decodePlain c :: urldecode rest
  | [] => []

/-- Carriage return or line feed. -/
def isCrLf (c : Byte) : Bool := c = 0x0D ∨ c = 0x0A

/-- `urldecode_inplace`, and the C string it leaves: an escaped NUL ends it. -/
def urldecodeInplace (str : Bytes) : Bytes := cstr ((urldecode str).rdropWhile isCrLf)

/-! ## Fields -/

/-- The names of the rules in the form; any other one is no rule. -/
def dstRuleOf (value : Bytes) : DstRule :=
  if value = ascii "NA" then .na
  else if value = ascii "EU" then .eu
  else if value = ascii "AU" then .au
  else if value = ascii "NZ" then .nz
  else if value = ascii "CL" then .cl
  else if value = ascii "IL" then .il
  else .none

/-- One field of the form stored in the configuration. No configuration is left
of an invalid number. -/
def applyField (config : FlashConfig) (key value : Bytes) : Option FlashConfig :=
  if key = ascii "ssid" then
    some { config with wifiSsid := config.wifiSsid.strncpy value wifiSsidMaxLen }
  else if key = ascii "pwd" then
    some { config with wifiPassword := config.wifiPassword.strncpy value wifiPasswordMaxLen }
  else if key = ascii "ntp" then
    some { config with ntpServer := config.ntpServer.strncpy value hostnameMaxLen }
  else if key = ascii "tz" then
    (parseLongBounded value minTzOffsetMins maxTzOffsetMins).map fun tzMins =>
      { config with tzOffsetMins := tzMins }
  else if key = ascii "dst" then
    some { config with dstRule := dstRuleOf value }
  else if key = ascii "cto" then
    (parseLongBounded value minNtpTimeoutMs maxNtpTimeoutMs).map fun timeoutMs =>
      { config with ntpTimeout := timeoutMs.toNat }
  else if key = ascii "port" then
    (parseLongBounded value 1 65535).map fun ntpPort =>
      { config with ntpPort := ntpPort.toNat }
  else if key = ascii "led_on" then
    some { config with ledAlwaysOn := value.head? = some 0x31 }
  else some config

/-- One `key=value` pair of the body; a piece without `=` is skipped. -/
def applyPair (config : FlashConfig) (pair : Bytes) : Option FlashConfig :=
  match strchr pair 0x3D with
  | some eq => applyField config (pair.take eq) (urldecodeInplace (pair.drop (eq + 1)))
  | none => some config

/-- The loop over the pairs, left at the first invalid one. -/
def applyPairs : FlashConfig → List Bytes → Option FlashConfig
  | config, [] => some config
  | config, pair :: pairs => (applyPair config pair).bind fun config => applyPairs config pairs

/-- The configuration the loop starts from: the stored one or the defaults. -/
def baseConfig : Option FlashConfig → FlashConfig
  | some flashConfig => flashConfig
  | none => { FlashConfig.zero with
      dstRule := .none
      ntpTimeout := ntpDefaultTimeoutMs
      ntpPort := ntpDefaultPort
      ledAlwaysOn := false
      ntpServer := (CharArray.zero _).strncpy ntpDefaultServer hostnameMaxLen }

/-- The configuration a body submits over a base; none if a number is invalid. -/
def submitted (flashConfig : Option FlashConfig) (body : Bytes) : Option FlashConfig :=
  applyPairs (baseConfig flashConfig) (strtokTokens body 0x26)

end PicowDayClock.ConfigForm
