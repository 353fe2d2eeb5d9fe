import EquinoxClock.Can.Message
import EquinoxClock.Console.Formats
import EquinoxClock.Console.Intake
import EquinoxClock.Console.Line
import EquinoxClock.Console.Potentiometer
import EquinoxClock.Console.Prompts
import EquinoxClock.Console.Transmit
import EquinoxClock.Led.Brightness
import EquinoxClock.Led.Counters
import EquinoxClock.Led.Hands
import EquinoxClock.Led.Planes
import EquinoxClock.Rtc.Alarms
import EquinoxClock.Rtc.Crossings
import EquinoxClock.Rtc.NextSecond
import EquinoxClock.Rtc.Preempted
import EquinoxClock.Rtc.SunTimes
import EquinoxClock.Screen.Display
import EquinoxClock.Screen.Handshake
import EquinoxClock.Screen.Result
import EquinoxClock.Web.Colours
import EquinoxClock.Web.Date
import EquinoxClock.Web.Raw
import EquinoxClock.Web.Reads
import EquinoxClock.Web.Rendered
import EquinoxClock.Web.Repeated
import EquinoxClock.Web.Unix
import EquinoxClock.Wifi.Answers
import EquinoxClock.Wifi.ArpTable
import EquinoxClock.Wifi.Frame
import EquinoxClock.Wifi.Progress
import EquinoxClock.Wifi.Timeouts
