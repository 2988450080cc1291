import LinkGauge.Context
import LinkGauge.Main
import LinkGauge.Rehearsal.Closer
import LinkGauge.Rehearsal.Socket
import LinkGauge.Rehearsal.Sender
import LinkGauge.Rehearsal.Measurer
import LinkGauge.Rehearsal.Mux
import LinkGauge.Rehearsal.Receiver
import LinkGauge.Rehearsal.Saver
import LinkGauge.Rehearsal.Session
import LinkGauge.Sampling
import LinkGauge.Proofs.Channel
import LinkGauge.Proofs.Run
import LinkGauge.Proofs.Saver.Merging
import LinkGauge.Proofs.Saver.Interleaving
import LinkGauge.Proofs.Mux.Collecting
import LinkGauge.Proofs.Mux.Joining
import LinkGauge.Proofs.Mux.Interleaving
import LinkGauge.Proofs.Json.Reading
import LinkGauge.Proofs.Json.Record
import LinkGauge.Proofs.Json.Scanned
import LinkGauge.Proofs.Json.Spelled
import LinkGauge.Proofs.Measurement
import LinkGauge.Proofs.Pipeline.Archiving
import LinkGauge.Proofs.Pipeline.Ending
import LinkGauge.Proofs.Text.Utf8
import LinkGauge.Proofs.TextMap
import LinkGauge.Proofs.Results.Framing
import LinkGauge.Proofs.Sender.Trace
import LinkGauge.Proofs.Sender.Writing
import LinkGauge.Proofs.Sender.Progress
import LinkGauge.Proofs.Sender.Download
import LinkGauge.Proofs.Sender.Exchange
import LinkGauge.Proofs.Pipeline.Pinging
import LinkGauge.Proofs.Closer
import LinkGauge.Proofs.Ending
import LinkGauge.Proofs.Receiver.Decoding
import LinkGauge.Proofs.Receiver.Acting
import LinkGauge.Proofs.Receiver.Reading
import LinkGauge.Proofs.Sender.PeerClosing
import LinkGauge.Proofs.Pipeline.PeerClosing
import LinkGauge.Proofs.Measurer
import LinkGauge.Proofs.Neighbours
import LinkGauge.Proofs.Pipeline.Wiring
import LinkGauge.Proofs.Pipeline.Waiting
import LinkGauge.Proofs.Pipeline.Completing
import LinkGauge.Proofs.Mux.ServerSide
import LinkGauge.Proofs.Pipeline.Logging
import LinkGauge.Proofs.Pipeline.Isolation
import LinkGauge.Proofs.Calendar
import LinkGauge.Proofs.UtcTime
import LinkGauge.Proofs.Archive
import LinkGauge.Proofs.Results.Header
import LinkGauge.Proofs.Results.Path
import LinkGauge.Proofs.Results.CutOff
import LinkGauge.Proofs.FileTree
import LinkGauge.Proofs.Results.Store
import LinkGauge.Proofs.Context
import LinkGauge.Proofs.Filler
import LinkGauge.Proofs.PingStamp
import LinkGauge.Proofs.Receiver.ForeignPongs
import LinkGauge.Proofs.Receiver.RoundTrips
import LinkGauge.Proofs.Measurer.Ticking
import LinkGauge.Proofs.Config.Label
import LinkGauge.Proofs.Text.Split
import LinkGauge.Proofs.Service
import LinkGauge.Proofs.Config.Resolving
import LinkGauge.Proofs.CommandLine.Spelling
import LinkGauge.Proofs.CommandLine.Overriding
import LinkGauge.Proofs.Socket.Record
import LinkGauge.Proofs.Socket.Probe
import LinkGauge.Proofs.TestId
