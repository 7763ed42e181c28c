import UhfReader18.Deframer
import UhfReader18.Keyed
import UhfReader18.Stateful
import UhfReader18.Records
import UhfReader18.ShiftRegister
import UhfReader18.PolynomialRegister
import UhfReader18.PrefixCode
import UhfReader18.BitFields
import UhfReader18.Interleaving
import UhfReader18.Python
import UhfReader18.Text
import UhfReader18.Checksum
import UhfReader18.Frame
import UhfReader18.ErrorDetection
import UhfReader18.CrcRemainder
import UhfReader18.CommandStream
import UhfReader18.Constants
import UhfReader18.BandCode
import UhfReader18.Stream
import UhfReader18.AllowList
import UhfReader18.Traffic
import UhfReader18.Resync
import UhfReader18.Report
import UhfReader18.Server
import UhfReader18.Connections
import UhfReader18.Options
import UhfReader18.Client
import UhfReader18.ReceiveLoop
import UhfReader18.Provenance
import UhfReader18.Peer
import UhfReader18.Session
import UhfReader18.Correlation
import UhfReader18.Fragmentation
import UhfReader18.Reader
import UhfReader18.Setters
import UhfReader18.Line
import UhfReader18.Noise
import UhfReader18.Accepted
import UhfReader18.AllOrNothing
import UhfReader18.Failures
import UhfReader18.ManualRanges
import UhfReader18.WorkModeReadBack
import UhfReader18.Copied
import UhfReader18.Hwvx.Constants
import UhfReader18.Hwvx.Config
import UhfReader18.Hwvx.Transport
import UhfReader18.Hwvx.Device
import UhfReader18.Hwvx.Lan
import UhfReader18.Hwvx.Validation
import UhfReader18.Hwvx.Tap
import UhfReader18.Hwvx.Sockets
import UhfReader18.Hwvx.Choice
import UhfReader18.Hwvx.Selection
import UhfReader18.Hwvx.Reading
import UhfReader18.Hwvx.Correspondence
import UhfReader18.Hwvx.SavedConfig
import UhfReader18.Hwvx.Store
import UhfReader18.Hwvx.Retries
import UhfReader18.Hwvx.WireReport
import UhfReader18.Hwvx.Discovery
import UhfReader18.Hwvx.NetworkChange
import UhfReader18.Hwvx.Scripts
import UhfReader18.Hwvx.Neighbours
