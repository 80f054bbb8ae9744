import PicowDayClock.Firmware.Daylight
import PicowDayClock.Library.YearlyPeriods
import PicowDayClock.DaylightRules
import PicowDayClock.ZellerCongruence
import PicowDayClock.DaylightPeriods
import PicowDayClock.WallClockPeriods
import PicowDayClock.AccessPoint
import PicowDayClock.BootReports
import PicowDayClock.ConnectionIsolation
import PicowDayClock.DeviceLifetime
import PicowDayClock.FormRoundTrip
import PicowDayClock.LwipContract
import PicowDayClock.ServedForm
import PicowDayClock.PrefilledForm
import PicowDayClock.Library.Mailbox
import PicowDayClock.NtpHandover
import PicowDayClock.NtpOutcomes
import PicowDayClock.ReplayedReplies
import PicowDayClock.RequestSegmentation
import PicowDayClock.StoredConfiguration
import PicowDayClock.DisplayRefresh
import PicowDayClock.NtpReplies
import PicowDayClock.BackOff
import PicowDayClock.RequestTimeout
import PicowDayClock.WatchdogHold
import PicowDayClock.FirstPanel
import PicowDayClock.AmbientLight
import PicowDayClock.BitmapRenderers
import PicowDayClock.DiagnosticText
import PicowDayClock.WifiConnection
import PicowDayClock.CaptiveDns
import PicowDayClock.DhcpOptions
import PicowDayClock.DhcpLeases
import PicowDayClock.TemplateExpansion
import PicowDayClock.RequestBuffer
import PicowDayClock.CalendarWeekdays
import PicowDayClock.InPlaceDecoding
import PicowDayClock.DhcpUniqueness
import PicowDayClock.GeneratedBitmaps
import PicowDayClock.DhcpExchange
import PicowDayClock.TrueTime
import PicowDayClock.HeldButton
import PicowDayClock.StartupLed
import PicowDayClock.ResetCauses
import PicowDayClock.DhcpReplies
import PicowDayClock.Library.DottedQuad
import PicowDayClock.ResponseEnd
import PicowDayClock.CaptivePortal
import PicowDayClock.LocalTimes
import PicowDayClock.DurableConfiguration
