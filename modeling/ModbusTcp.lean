import ModbusTcp.Bytes
import ModbusTcp.CommandLine.Arguments
import ModbusTcp.CommandLine.Program
import ModbusTcp.CommandLine.Reader
import ModbusTcp.Failure
import ModbusTcp.Frame.Layout
import ModbusTcp.Frame.Reading
import ModbusTcp.Log
import ModbusTcp.Main
import ModbusTcp.Probe.Client
import ModbusTcp.Probe.Network
import ModbusTcp.Proofs.CommandLine.Agreement
import ModbusTcp.Proofs.CommandLine.ByteText
import ModbusTcp.Proofs.CommandLine.ExitCode
import ModbusTcp.Proofs.CommandLine.Given
import ModbusTcp.Proofs.CommandLine.RoundTrip
import ModbusTcp.Proofs.Frame.Decoding
import ModbusTcp.Proofs.Frame.Exactness
import ModbusTcp.Proofs.Frame.RegisterServer
import ModbusTcp.Proofs.Log.Filter
import ModbusTcp.Proofs.Probe.Answered
import ModbusTcp.Proofs.Probe.ForeignHeader
import ModbusTcp.Proofs.Probe.Numbering
import ModbusTcp.Proofs.Probe.OneShot
import ModbusTcp.Proofs.Probe.Outcomes
import ModbusTcp.Proofs.Probe.PartialReplies
import ModbusTcp.Proofs.Probe.Printed
import ModbusTcp.Proofs.Probe.Probing
import ModbusTcp.Proofs.Probe.ReceiveModes
import ModbusTcp.Proofs.Probe.RegisterReads
import ModbusTcp.Proofs.Text.Characters
import ModbusTcp.Proofs.Text.Digits
import ModbusTcp.Proofs.Transport.Accounting
import ModbusTcp.Proofs.Transport.Address
import ModbusTcp.Proofs.Transport.Conservation
import ModbusTcp.Proofs.Transport.Exchange
import ModbusTcp.Proofs.Transport.LateReply
import ModbusTcp.Proofs.Transport.Lifecycle
import ModbusTcp.Proofs.Transport.PacketLog
import ModbusTcp.Proofs.Transport.Provenance
import ModbusTcp.Proofs.Transport.Receiving
import ModbusTcp.Proofs.Transport.ReportedLimits
import ModbusTcp.Proofs.Transport.Sending
import ModbusTcp.Proofs.Transport.Synchronisation
import ModbusTcp.Proofs.Transport.TimeLimits
import ModbusTcp.Proofs.Transport.Turn
import ModbusTcp.Proofs.Wire.Collection
import ModbusTcp.Proofs.Wire.Delivered
import ModbusTcp.Proofs.Wire.Plain
import ModbusTcp.Proofs.Wire.Punctual
import ModbusTcp.Proofs.Wire.RequestStream
import ModbusTcp.Proofs.Wire.Script
import ModbusTcp.Proofs.Wire.Stopping
import ModbusTcp.Proofs.Wire.Timing
import ModbusTcp.Text.Characters
import ModbusTcp.Text.Terminal
import ModbusTcp.Transport.Basic
import ModbusTcp.Transport.Replay
import ModbusTcp.Transport.Session
import ModbusTcp.Wire.Basic
import ModbusTcp.Wire.Stream
