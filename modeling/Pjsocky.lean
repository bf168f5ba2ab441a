import Pjsocky.Support.Memory
import Pjsocky.Support.LineSplit
import Pjsocky.Support.Machine
import Pjsocky.Support.JsonText
import Pjsocky.Support.JsonSize
import Pjsocky.Support.Interference
import Pjsocky.Support.JsonParse
import Pjsocky.Support.CString
import Pjsocky.Support.Words
import Pjsocky.Support.LineBuffer
import Pjsocky.Support.Rounding
import Pjsocky.Support.SignificantBits
import Pjsocky.Support.Simulation
import Pjsocky.Support.CriticalSection
import Pjsocky.Base
import Pjsocky.Framing.Buffer
import Pjsocky.Framing.Pipelined
import Pjsocky.Framing.Output
import Pjsocky.Framing.Message
import Pjsocky.Framing.Compaction
import Pjsocky.Framing.Deadline
import Pjsocky.Pjsua
import Pjsocky.Event
import Pjsocky.Dispatch
import Pjsocky.Server.Input
import Pjsocky.Server.Model
import Pjsocky.Server.Trace
import Pjsocky.Server.Lifecycle
import Pjsocky.Server.Wire
import Pjsocky.Server.Greeting
import Pjsocky.Server.Replies
import Pjsocky.Server.Capacity
import Pjsocky.Server.Requests
import Pjsocky.Server.Persistence
import Pjsocky.Server.Locking
import Pjsocky.Server.Interleaving
import Pjsocky.Server.Session
import Pjsocky.Server.Reading
import Pjsocky.Call.Model
import Pjsocky.Call.Phone
import Pjsocky.Call.Frame
import Pjsocky.Call.Parts
import Pjsocky.Call.Tracked
import Pjsocky.Call.Video
import Pjsocky.Call.Timers
import Pjsocky.Call.Threads
import Pjsocky.Call.Ring
import Pjsocky.Call.Latch
import Pjsocky.Call.Media
import Pjsocky.Call.Watchdog
import Pjsocky.Call.Log
import Pjsocky.Account.Model
import Pjsocky.Command.Model
import Pjsocky.Command.Steps
import Pjsocky.Command.Sip
import Pjsocky.Account.Lifecycle
import Pjsocky.Account.Capture
import Pjsocky.Command.Failures
import Pjsocky.Command.Range
import Pjsocky.Command.Codes
import Pjsocky.Command.RingTimeout
import Pjsocky.Command.Requests
import Pjsocky.Command.Integers
import Pjsocky.Command.Media
import Pjsocky.Command.Status
import Pjsocky.Command.Numbers
import Pjsocky.System.Model
import Pjsocky.System.Refinement
import Pjsocky.System.Independence
import Pjsocky.System.Service
import Pjsocky.System.Serving
import Pjsocky.System.Announce
import Pjsocky.System.View
import Pjsocky.System.Mirror
import Pjsocky.Startup.VideoFormat
import Pjsocky.Startup.Listen
import Pjsocky.Startup.Nameservers
import Pjsocky.Device.NullVideo
import Pjsocky.Device.Selection
