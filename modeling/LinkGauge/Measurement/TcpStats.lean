import LinkGauge.Json.Record

/-!
# Kernel counters of a TCP connection

The record has the counters in the order in which the kernel reports them and in
which they are written. `TcpStats.schema` gives each its name and its width; the
conversions to and from rows are inverse by definition.
-/

namespace LinkGauge

/-- Counters that the kernel keeps for a TCP socket. Times are microseconds and
rates are bytes per second unless a field says otherwise. -/
structure TcpStats where
  state : UInt8 := 0
  caState : UInt8 := 0
  retransmits : UInt8 := 0
  probes : UInt8 := 0
  backoff : UInt8 := 0
  options : UInt8 := 0
  windowScale : UInt8 := 0
  appLimited : UInt8 := 0
  rto : UInt32 := 0
  ato : UInt32 := 0
  sndMss : UInt32 := 0
  rcvMss : UInt32 := 0
  unacked : UInt32 := 0
  sacked : UInt32 := 0
  lost : UInt32 := 0
  retrans : UInt32 := 0
  fackets : UInt32 := 0
  /-- Milliseconds since data was last sent; the three counters below have this unit too. -/
  lastDataSent : UInt32 := 0
  lastAckSent : UInt32 := 0
  lastDataRecv : UInt32 := 0
  lastAckRecv : UInt32 := 0
  pmtu : UInt32 := 0
  rcvSsThresh : UInt32 := 0
  rtt : UInt32 := 0
  rttVar : UInt32 := 0
  sndSsThresh : UInt32 := 0
  sndCwnd : UInt32 := 0
  advMss : UInt32 := 0
  reordering : UInt32 := 0
  rcvRtt : UInt32 := 0
  rcvSpace : UInt32 := 0
  totalRetrans : UInt32 := 0
  pacingRate : UInt64 := 0
  maxPacingRate : UInt64 := 0
  bytesAcked : UInt64 := 0
  bytesReceived : UInt64 := 0
  segsOut : UInt32 := 0
  segsIn : UInt32 := 0
  notsentBytes : UInt32 := 0
  minRtt : UInt32 := 0
  dataSegsIn : UInt32 := 0
  dataSegsOut : UInt32 := 0
  deliveryRate : UInt64 := 0
  busyTime : UInt64 := 0
  rwndLimited : UInt64 := 0
  sndBufLimited : UInt64 := 0
  delivered : UInt32 := 0
  deliveredCe : UInt32 := 0
  bytesSent : UInt64 := 0
  bytesRetrans : UInt64 := 0
  dsackDups : UInt32 := 0
  reordSeen : UInt32 := 0
  rcvOooPack : UInt32 := 0
  sndWnd : UInt32 := 0
  /-- Microseconds since the subtest started. -/
  elapsedTime : Int64 := 0
  deriving DecidableEq, Repr

namespace TcpStats

/-- The types of the counters in their order. -/
abbrev Types : List Type :=
  [UInt8, UInt8, UInt8, UInt8, UInt8, UInt8, UInt8, UInt8, UInt32, UInt32, UInt32, UInt32, UInt32,
  UInt32, UInt32, UInt32, UInt32, UInt32, UInt32, UInt32, UInt32, UInt32, UInt32, UInt32, UInt32,
  UInt32, UInt32, UInt32, UInt32, UInt32, UInt32, UInt32, UInt64, UInt64, UInt64, UInt64, UInt32,
  UInt32, UInt32, UInt32, UInt32, UInt32, UInt64, UInt64, UInt64, UInt64, UInt32, UInt32, UInt64,
  UInt64, UInt32, UInt32, UInt32, UInt32, Int64]

/-- The name and the width of every counter in its order. -/
def schema : Json.Schema Types :=
  .cons (.counter "State") <| .cons (.counter "CAState") <| .cons (.counter "Retransmits") <|
  .cons (.counter "Probes") <| .cons (.counter "Backoff") <| .cons (.counter "Options") <|
  .cons (.counter "WScale") <| .cons (.counter "AppLimited") <| .cons (.counter "RTO") <|
  .cons (.counter "ATO") <| .cons (.counter "SndMSS") <| .cons (.counter "RcvMSS") <|
  .cons (.counter "Unacked") <| .cons (.counter "Sacked") <| .cons (.counter "Lost") <|
  .cons (.counter "Retrans") <| .cons (.counter "Fackets") <| .cons (.counter "LastDataSent") <|
  .cons (.counter "LastAckSent") <| .cons (.counter "LastDataRecv") <|
  .cons (.counter "LastAckRecv") <| .cons (.counter "PMTU") <| .cons (.counter "RcvSsThresh") <|
  .cons (.counter "RTT") <| .cons (.counter "RTTVar") <| .cons (.counter "SndSsThresh") <|
  .cons (.counter "SndCwnd") <| .cons (.counter "AdvMSS") <| .cons (.counter "Reordering") <|
  .cons (.counter "RcvRTT") <| .cons (.counter "RcvSpace") <| .cons (.counter "TotalRetrans") <|
  .cons (.counter "PacingRate") <| .cons (.counter "MaxPacingRate") <|
  .cons (.counter "BytesAcked") <| .cons (.counter "BytesReceived") <|
  .cons (.counter "SegsOut") <| .cons (.counter "SegsIn") <| .cons (.counter "NotsentBytes") <|
  .cons (.counter "MinRTT") <| .cons (.counter "DataSegsIn") <| .cons (.counter "DataSegsOut") <|
  .cons (.counter "DeliveryRate") <| .cons (.counter "BusyTime") <|
  .cons (.counter "RWndLimited") <| .cons (.counter "SndBufLimited") <|
  .cons (.counter "Delivered") <| .cons (.counter "DeliveredCE") <|
  .cons (.counter "BytesSent") <| .cons (.counter "BytesRetrans") <|
  .cons (.counter "DSackDups") <| .cons (.counter "ReordSeen") <|
  .cons (.counter "RcvOooPack") <| .cons (.counter "SndWnd") <| .cons (.counter "ElapsedTime") <|
  .nil

/-- The counters in their order. -/
def toRow (s : TcpStats) : Json.Row Types :=
  (s.state, s.caState, s.retransmits, s.probes, s.backoff, s.options, s.windowScale, s.appLimited,
  s.rto, s.ato, s.sndMss, s.rcvMss, s.unacked, s.sacked, s.lost, s.retrans, s.fackets,
  s.lastDataSent, s.lastAckSent, s.lastDataRecv, s.lastAckRecv, s.pmtu, s.rcvSsThresh, s.rtt,
  s.rttVar, s.sndSsThresh, s.sndCwnd, s.advMss, s.reordering, s.rcvRtt, s.rcvSpace,
  s.totalRetrans, s.pacingRate, s.maxPacingRate, s.bytesAcked, s.bytesReceived, s.segsOut,
  s.segsIn, s.notsentBytes, s.minRtt, s.dataSegsIn, s.dataSegsOut, s.deliveryRate, s.busyTime,
  s.rwndLimited, s.sndBufLimited, s.delivered, s.deliveredCe, s.bytesSent, s.bytesRetrans,
  s.dsackDups, s.reordSeen, s.rcvOooPack, s.sndWnd, s.elapsedTime, ())

/-- The record of counters given in their order. -/
def ofRow : Json.Row Types → TcpStats
  | (state, caState, retransmits, probes, backoff, options, windowScale, appLimited, rto, ato,
     sndMss, rcvMss, unacked, sacked, lost, retrans, fackets, lastDataSent, lastAckSent,
     lastDataRecv, lastAckRecv, pmtu, rcvSsThresh, rtt, rttVar, sndSsThresh, sndCwnd, advMss,
     reordering, rcvRtt, rcvSpace, totalRetrans, pacingRate, maxPacingRate, bytesAcked,
     bytesReceived, segsOut, segsIn, notsentBytes, minRtt, dataSegsIn, dataSegsOut, deliveryRate,
     busyTime, rwndLimited, sndBufLimited, delivered, deliveredCe, bytesSent, bytesRetrans,
     dsackDups, reordSeen, rcvOooPack, sndWnd, elapsedTime, ()) =>
    { state, caState, retransmits, probes, backoff, options, windowScale, appLimited, rto, ato,
      sndMss, rcvMss, unacked, sacked, lost, retrans, fackets, lastDataSent, lastAckSent,
      lastDataRecv, lastAckRecv, pmtu, rcvSsThresh, rtt, rttVar, sndSsThresh, sndCwnd, advMss,
      reordering, rcvRtt, rcvSpace, totalRetrans, pacingRate, maxPacingRate, bytesAcked,
      bytesReceived, segsOut, segsIn, notsentBytes, minRtt, dataSegsIn, dataSegsOut,
      deliveryRate, busyTime, rwndLimited, sndBufLimited, delivered, deliveredCe, bytesSent,
      bytesRetrans, dsackDups, reordSeen, rcvOooPack, sndWnd, elapsedTime }

/-- Reads the counters; a missing one is zero. -/
def ofJson? (value : Json) : Option TcpStats := (schema.read? value).map ofRow

/-- Writes all counters. -/
def toJson (s : TcpStats) : Json := schema.write s.toRow

end TcpStats

end LinkGauge
