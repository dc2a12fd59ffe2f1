import MagicTrackpad.Backend
import MagicTrackpad.BootGuard
import MagicTrackpad.Diag
import MagicTrackpad.Driver.Refines
import MagicTrackpad.GenuineHost
import MagicTrackpad.Host
import MagicTrackpad.Lifecycle.Lifts
import MagicTrackpad.LinkState.Quiesce
import MagicTrackpad.Lzss
import MagicTrackpad.NameReport.Fresh
import MagicTrackpad.Presence.Handoff
import MagicTrackpad.ReEnable.Trace
import MagicTrackpad.Session.Clicks
import MagicTrackpad.Session.Fingers
import MagicTrackpad.Session.Reconnect
import MagicTrackpad.Session.Settle
import MagicTrackpad.Session.Watchdog
import MagicTrackpad.Splice.VtableClone
import MagicTrackpad.SynthReport
import MagicTrackpad.Terminal.Battery
import MagicTrackpad.UsbReader
import MagicTrackpad.Wire.Saturate
import MagicTrackpad.Wire.Stack
import MagicTrackpad.Wire.Transparent
