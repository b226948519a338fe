import MumbledFlight.Lib.Runs
import MumbledFlight.Voip.ZoneTracking
import MumbledFlight.Voip.Joining
import MumbledFlight.Voip.Rendezvous
import MumbledFlight.Audio.Playback
import MumbledFlight.Audio.Linking
import MumbledFlight.Voip.Spatial
import MumbledFlight.Voip.Certificates
import MumbledFlight.Plugin.KnownHosts
import MumbledFlight.Plugin.Trust
import MumbledFlight.Plugin.Gui
import MumbledFlight.Plugin.Pinning
import MumbledFlight.Voip.ChannelCache
import MumbledFlight.Voip.ZoneMoves
import MumbledFlight.Voip.Panning
import MumbledFlight.Lib.F32
import MumbledFlight.Voip.Position
import MumbledFlight.Voip.Transmit
import MumbledFlight.DataRefs
import MumbledFlight.Plugin.Polling
import MumbledFlight.Plugin.Devices
import MumbledFlight.Lib.Passes
import MumbledFlight.Plugin.PollOrder
import MumbledFlight.Voip.Propagation
import MumbledFlight.Audio.Capture
import MumbledFlight.Audio.Alignment
import MumbledFlight.Plugin.Hosts
import MumbledFlight.Plugin.PinSlots
import MumbledFlight.Plugin.KnownHostsFile
import MumbledFlight.Plugin.Secrets
import MumbledFlight.Voip.ClientRun
import MumbledFlight.Lib.Transducers
import MumbledFlight.Voip.Receive
import MumbledFlight.Voip.Duplex
import MumbledFlight.Plugin.Lifecycle
import MumbledFlight.Voip.Stack
import MumbledFlight.Voip.Mixers
import MumbledFlight.Voip.Connecting
import MumbledFlight.Plugin.FirstUse
import MumbledFlight.Voip.Conversation
import MumbledFlight.Cli.Bridge
import MumbledFlight.Plugin.FilePicker
import MumbledFlight.Audio.Jitter
import MumbledFlight.Audio.VirtualSink
import MumbledFlight.Plugin.Enumeration
import MumbledFlight.Cli.Main
import MumbledFlight.Plugin.Restarts
