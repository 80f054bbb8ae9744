import PicowDayClock.Library.CharArray

/-! The constants of `config.h`, the status enumerations and the stored
configuration of `flash_config.h`. An enumeration whose storage may hold a
value outside its enumerators has one more case, `other`, for such a value. -/
namespace PicowDayClock

/-! ## `config.h` -/

def wifiSsidMaxLen : Nat := 32
def wifiPasswordMaxLen : Nat := 63
def hostnameMaxLen : Nat := 64
def tcpIpBufferSize : Nat := 8192
abbrev tcpIpMaxConnections : Nat := 4
def ntpDefaultTimeoutMs : Nat := 10 * 1000
def ntpDefaultPort : Nat := 123
def ntpDefaultServer : Bytes := ascii "pool.ntp.org"
def ntpSyncIntervalSec : Nat := 60 * 60 * 24
def httpConfigUrl : Bytes := ascii "/clock-config"

/-! ## Enumerations -/

/-- `dst_rule_t`. -/
inductive DstRule where
  | none | na | eu | au | nz | cl | il
  | other (raw : Nat)
  deriving DecidableEq

/-- `ntp_error_t`. -/
inductive NtpError where
  | ok | initError | dnsError | timeoutError | protocolError | memoryError | nullError
  | other (raw : Int)
  deriving DecidableEq

/-- `ntp_status_t`. -/
inductive NtpStatus where
  | idle | kod | success | pending | failed | nullStatus
  deriving DecidableEq

/-- `wifi_error_t`. -/
inductive WifiError where
  | ok | initError | timeoutError | authError | connectError | unknownError
  | other (raw : Int)
  deriving DecidableEq

/-- `watchdog_error_t`. -/
inductive WatchdogError where
  | ok | reset | ntp | wifi
  deriving DecidableEq

/-! ## `flash_config_t` -/

/-- `CONFIG_MAGIC`: the letters `CLOK`. -/
def configMagic : Nat := 0x434C4F4B

/-- `flash_config_t`, the configuration as it lies in flash and in RAM. -/
structure FlashConfig where
  magicMarker : Nat
  wifiSsid : CharArray (wifiSsidMaxLen + 1)
  wifiPassword : CharArray (wifiPasswordMaxLen + 1)
  ntpServer : CharArray (hostnameMaxLen + 1)
  tzOffsetMins : Int
  dstRule : DstRule
  ntpTimeout : Nat
  ntpPort : Nat
  ledAlwaysOn : Bool
  deriving DecidableEq

/-- `flash_config_t config = {0}`. -/
def FlashConfig.zero : FlashConfig where
  magicMarker := 0
  wifiSsid := .zero _
  wifiPassword := .zero _
  ntpServer := .zero _
  tzOffsetMins := 0
  dstRule := .none
  ntpTimeout := 0
  ntpPort := 0
  ledAlwaysOn := false

end PicowDayClock
