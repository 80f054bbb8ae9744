import PicowDayClock.Firmware.Config

/-! Joining the stored network: `connect_to_wifi` of `wifi.c`. What the driver
answers and what its clock shows are arguments, one entry for each attempt. -/
namespace PicowDayClock.WifiConnect

def wifiAbandonTimeoutMs : Nat := 30 * 1000
def wifiBadAuthRetryCount : Nat := 3
def wifiBadAuthRetryDelayMs : Nat := 500
def wifiConnectTimeoutMs : Nat := 10 * 1000

/-- The answers of the driver that the code tells apart. -/
def picoErrorTimeout : Int := -1
def picoErrorBadauth : Int := -7
def picoErrorConnectFailed : Int := -8

/-- One call of `cyw43_arch_wifi_connect_timeout_ms`: the time when it begins,
the time that `get_absolute_time` shows when it has returned, and its value. -/
structure Attempt where
  beginsUs : Nat
  endsUs : Nat
  ret : Int

/-- The calls that `connect_to_wifi` makes, in their order. -/
inductive Call where
  | archInit
  | enableStaMode
  | watchdogUpdate
  | connectTimeoutMs (ssid password : Bytes) (timeoutMs : Nat)
  | sleepMs (ms : Nat)
  deriving DecidableEq

/-- What an attempt begins with: the watchdog is fed, then the driver called. -/
def attemptCalls (ssid password : Bytes) : List Call :=
  [.watchdogUpdate, .connectTimeoutMs ssid password wifiConnectTimeoutMs]

/-- The loop of `connect_to_wifi` from attempt `index` on. `fuel` bounds the
attempts; nothing says that they were not enough. `absolute_time_diff_us` is
exact, as the times of the SDK stay below 2^63. -/
def connectLoop (ssid password : Bytes) (startTimeUs : Nat) (attempts : Nat → Attempt) :
    Nat → Nat → Nat → Option (WifiError × List Call)
  | 0, _, _ => none
  | fuel + 1, badAuthCount, index =>
    let calls := attemptCalls ssid password
    let attempt := attempts index
    if attempt.ret = 0 then some (.ok, calls)
    else if attempt.ret = picoErrorTimeout then
      if (attempt.endsUs : Int) - startTimeUs > wifiAbandonTimeoutMs * 1000 then
        some (.timeoutError, calls)
      else
        (connectLoop ssid password startTimeUs attempts fuel badAuthCount (index + 1)).map
          fun (verdict, later) => (verdict, calls ++ later)
    else if attempt.ret = picoErrorBadauth then
      let badAuthCount := badAuthCount + 1
      if badAuthCount ≥ wifiBadAuthRetryCount then some (.authError, calls)
      else
        (connectLoop ssid password startTimeUs attempts fuel badAuthCount (index + 1)).map
          fun (verdict, later) => (verdict, calls ++ [.sleepMs wifiBadAuthRetryDelayMs] ++ later)
    else if attempt.ret = picoErrorConnectFailed then some (.connectError, calls)
    else some (.unknownError, calls)

/-- `connect_to_wifi`: the verdict, the calls made and `wifi_initialized`. -/
def connectToWifi (fuel : Nat) (ssid password : Bytes) (wifiInitialized : Bool) (archInit : Int)
    (startTimeUs : Nat) (attempts : Nat → Attempt) : Option (WifiError × List Call × Bool) :=
  let calls := if wifiInitialized then [] else [Call.archInit]
  if ¬ wifiInitialized ∧ archInit ≠ 0 then some (.initError, calls, wifiInitialized)
  else
    (connectLoop ssid password startTimeUs attempts fuel 0 0).map
      fun (verdict, later) => (verdict, calls ++ [.enableStaMode] ++ later, true)

end PicowDayClock.WifiConnect
