import LinkGauge.Proofs.Socket.Record
import LinkGauge.Socket.Probe
import Mathlib.Algebra.Group.Int.Defs

/-!
# What a probe reads from the kernel

The counters are the numbers at the places that the kernel gives them (`TcpStats.value_ofRecord`).
Replies of other sizes than those of a record are errors, apart from a part of the counters.
-/

namespace LinkGauge

namespace TcpStats

open Socket

/-- The widths of the kernel's counters, in the order in which it keeps them. -/
def fields : List (Nat × (TcpStats → Nat)) :=
  [(1, (·.state.toNat)), (1, (·.caState.toNat)), (1, (·.retransmits.toNat)),
   (1, (·.probes.toNat)), (1, (·.backoff.toNat)), (1, (·.options.toNat)),
   (1, (·.windowScale.toNat)), (1, (·.appLimited.toNat)), (4, (·.rto.toNat)), (4, (·.ato.toNat)),
   (4, (·.sndMss.toNat)), (4, (·.rcvMss.toNat)), (4, (·.unacked.toNat)), (4, (·.sacked.toNat)),
   (4, (·.lost.toNat)), (4, (·.retrans.toNat)), (4, (·.fackets.toNat)),
   (4, (·.lastDataSent.toNat)), (4, (·.lastAckSent.toNat)), (4, (·.lastDataRecv.toNat)),
   (4, (·.lastAckRecv.toNat)), (4, (·.pmtu.toNat)), (4, (·.rcvSsThresh.toNat)),
   (4, (·.rtt.toNat)), (4, (·.rttVar.toNat)), (4, (·.sndSsThresh.toNat)), (4, (·.sndCwnd.toNat)),
   (4, (·.advMss.toNat)), (4, (·.reordering.toNat)), (4, (·.rcvRtt.toNat)),
   (4, (·.rcvSpace.toNat)), (4, (·.totalRetrans.toNat)), (8, (·.pacingRate.toNat)),
   (8, (·.maxPacingRate.toNat)), (8, (·.bytesAcked.toNat)), (8, (·.bytesReceived.toNat)),
   (4, (·.segsOut.toNat)), (4, (·.segsIn.toNat)), (4, (·.notsentBytes.toNat)),
   (4, (·.minRtt.toNat)), (4, (·.dataSegsIn.toNat)), (4, (·.dataSegsOut.toNat)),
   (8, (·.deliveryRate.toNat)), (8, (·.busyTime.toNat)), (8, (·.rwndLimited.toNat)),
   (8, (·.sndBufLimited.toNat)), (4, (·.delivered.toNat)), (4, (·.deliveredCe.toNat)),
   (8, (·.bytesSent.toNat)), (8, (·.bytesRetrans.toNat)), (4, (·.dsackDups.toNat)),
   (4, (·.reordSeen.toNat)), (4, (·.rcvOooPack.toNat)), (4, (·.sndWnd.toNat))]

/-- The places of the kernel's counters. -/
def slots : List (Slot TcpStats) := aligned 0 fields

/-- The kernel's record has no gaps. -/
theorem slots_eq : slots = packed 0 fields := rfl

private theorem fits_layout : layout.Fits := by
  simp only [layout, Layout.fits_u8, Layout.fits_u32, Layout.fits_u64, Layout.Fits]

private theorem values_toRow (s : TcpStats) :
    layout.values s.toRow = fields.map fun field => field.2 s := rfl

private theorem widths_layout : layout.widths = fields.map (·.1) := rfl

private theorem toRow_ofRow (row : Json.Row Types) : (ofRow row).toRow = row := rfl

private theorem sum_widths : (fields.map (·.1)).sum = 232 := rfl

private theorem numbers_ofRecord (bytes : List UInt8) :
    fields.map (fun field => field.2 (ofRecord bytes)) = cuts (fields.map (·.1)) bytes := by
  rw [← values_toRow, ofRecord, toRow_ofRow, ← widths_layout]
  exact layout.values_decode fits_layout bytes

/-- Each counter is the number at its place. -/
theorem value_ofRecord (bytes : List UInt8) :
    ∀ slot ∈ slots, slot.value (ofRecord bytes) = slot.read bytes := by
  rw [slots_eq]
  exact value_of_packed (numbers_ofRecord bytes)

/-- Bytes that are missing count as zeros. -/
theorem ofRecord_append_zeros (bytes : List UInt8) (n : Nat) :
    ofRecord (bytes ++ List.replicate n 0) = ofRecord bytes :=
  congrArg ofRow (layout.decode_append_zeros bytes n)

/-- Different records have different counters. -/
theorem ofRecord_injective {first second : List UInt8} (firstWhole : first.length = 232)
    (secondWhole : second.length = 232) (same : ofRecord first = ofRecord second) :
    first = second := by
  refine eq_of_cuts (firstWhole.trans sum_widths.symm) (secondWhole.trans sum_widths.symm) ?_
  rw [← numbers_ofRecord, ← numbers_ofRecord, same]

/-- Every byte of a record lies in one counter. -/
theorem exists_slots_split {index : Nat} (inside : index < 232) :
    ∃ front slot back, slots = front ++ slot :: back ∧ slot.Holds index ∧
      ∀ other ∈ front ++ back, ¬ other.Holds index := by
  rw [slots_eq]
  refine exists_packed_split (Nat.zero_le _) ?_
  rw [sum_widths]
  omega

private theorem end_le_of_mem_slots : ∀ slot ∈ slots, slot.offset + slot.width ≤ 232 := by
  rw [slots_eq, ← sum_widths, ← Nat.zero_add (fields.map (·.1)).sum]
  exact end_le_of_packed

/-- Nothing but the counters and the elapsed time is in the statistics. -/
theorem ext_of_slots {s t : TcpStats} (same : ∀ slot ∈ slots, slot.value s = slot.value t)
    (elapsed : s.elapsedTime = t.elapsedTime) : s = t := by
  have numbers : slots.map (fun slot => slot.value s) = slots.map fun slot => slot.value t :=
    List.map_congr_left same
  have counters : fields.map (fun field => field.2 s) = fields.map fun field => field.2 t := numbers
  cases s
  cases t
  simp only [fields, List.map_cons, List.cons.injEq, UInt8.toNat_inj, UInt32.toNat_inj,
    UInt64.toNat_inj] at counters elapsed
  simp only [elapsed, counters]

end TcpStats

/-! ## Estimates -/

namespace Congestion

variable {bytes : List UInt8}

private theorem minRtt_ofRecord :
    (ofRecord bytes).minRtt.toInt = littleEndian ((bytes.drop 8).take 4) := by
  have bound : littleEndian ((bytes.drop 8).take 4) < 256 ^ 4 :=
    Nat.lt_of_lt_of_le (littleEndian_lt _)
      (Nat.pow_le_pow_right (by decide) (List.length_take_le _ _))
  exact Int64.toInt_ofInt_of_le (by omega) (by omega)

private theorem bandwidth_ofRecord (whole : bytes.length = 20)
    (high : littleEndian ((bytes.drop 4).take 4) < 2 ^ 31) :
    (ofRecord bytes).bandwidth.toInt =
      littleEndian ((bytes.drop 4).take 4) * 2 ^ 32 + littleEndian (bytes.take 4) := by
  have halves : littleEndian (bytes.take 8) =
      littleEndian (bytes.take 4) + 256 ^ 4 * littleEndian ((bytes.drop 4).take 4) := by
    rw [List.take_add (i := 4) (j := 4), littleEndian_append, List.length_take, whole]
    rfl
  have low : littleEndian (bytes.take 4) < 256 ^ 4 :=
    Nat.lt_of_lt_of_le (littleEndian_lt _)
      (Nat.pow_le_pow_right (by decide) (List.length_take_le _ _))
  rw [ofRecord, Int64.toInt_ofInt_of_le (by omega) (by omega), halves]
  omega

end Congestion

/-! ## Replies of the kernel -/

/-- Whether reading an option into a buffer of a size gives these bytes. -/
def Socket.Replies (socket : Socket) (option : SocketOption) (size : Nat) (bytes : List UInt8) :
    Prop :=
  (socket.get option size).1 = .ok bytes

/-- The counters in a reply: what the kernel has at their places, with zeros for bytes that are
missing. -/
structure TcpStats.Replied (bytes : List UInt8) (stats : TcpStats) : Prop where
  extended : stats = ofRecord (bytes ++ List.replicate (232 - bytes.length) 0)
  places : ∀ slot ∈ slots,
    slot.value stats = slot.read (bytes ++ List.replicate (232 - bytes.length) 0)
  within : ∀ slot ∈ slots, slot.offset + slot.width ≤ bytes.length →
    slot.value stats = slot.read bytes
  beyond : ∀ slot ∈ slots, bytes.length ≤ slot.offset → slot.value stats = 0
  elapsedTime : stats.elapsedTime = 0

private theorem TcpStats.replied (bytes : List UInt8) : Replied bytes (ofRecord bytes) where
  extended := (ofRecord_append_zeros bytes _).symm
  places slot among := by
    rw [← ofRecord_append_zeros bytes (232 - bytes.length)]
    exact value_ofRecord _ slot among
  within slot among _ := value_ofRecord bytes slot among
  beyond slot among missing := by
    rw [value_ofRecord bytes slot among, Socket.Slot.read_of_le missing]
  elapsedTime := rfl

namespace Probe

variable {socket : Socket} {bytes : List UInt8}

private theorem readTcpStats_of_replies (replies : socket.Replies .tcpInfo 232 bytes) :
    (kernel socket).readTcpStats.1 = Socket.tcpStatsOf (.ok bytes) :=
  congrArg Socket.tcpStatsOf replies

private theorem readTcpStats_of_nonempty (replies : socket.Replies .tcpInfo 232 bytes)
    (nonempty : 0 < bytes.length) :
    (kernel socket).readTcpStats.1 = .ok (TcpStats.ofRecord bytes) := by
  rw [readTcpStats_of_replies replies]
  cases bytes with
  | nil => exact absurd nonempty (Nat.lt_irrefl 0)
  | cons b rest => rfl

private theorem eq_ofRecord_of_read (replies : socket.Replies .tcpInfo 232 bytes) {stats : TcpStats}
    (read : (kernel socket).readTcpStats.1 = .ok stats) : stats = TcpStats.ofRecord bytes := by
  rw [readTcpStats_of_replies replies] at read
  cases bytes with
  | nil => exact nomatch read
  | cons b rest => exact (Except.ok.inj read).symm

private theorem readCongestion_of_replies (replies : socket.Replies .congestionInfo 20 bytes) :
    (kernel socket).readCongestion.1 = Socket.congestionOf (.ok bytes) :=
  congrArg Socket.congestionOf replies

private theorem testId_of_short (replies : socket.Replies .cookie 8 bytes)
    (short : bytes.length ≠ 8) (host : Host) (millis random : Nat) :
    ((kernel socket).testId host millis random).1 =
      .error (.shortRecord "getsockopt(SO_COOKIE)" bytes.length 8) := by
  have cookie : Socket.cookieOf (.ok bytes) =
      .error (.shortRecord "getsockopt(SO_COOKIE)" bytes.length 8) := if_neg short
  exact congrArg (Except.map _) ((congrArg Socket.cookieOf replies).trans cookie)

private theorem readCongestion_of_whole (replies : socket.Replies .congestionInfo 20 bytes)
    (whole : bytes.length = 20) :
    (kernel socket).readCongestion.1 = .ok (Congestion.ofRecord bytes) :=
  (readCongestion_of_replies replies).trans (if_pos whole)

/-- A reply with counters is read as if the bytes that are missing were zeros. No byte of a record
is lost or read twice. Replies of other sizes are errors, and an estimate is read from both halves
of its bandwidth. -/
theorem reads_records :
    (∀ socket bytes, Socket.Replies socket .tcpInfo 232 bytes → 0 < bytes.length →
      ∃ stats, (kernel socket).readTcpStats.1 = .ok stats ∧ TcpStats.Replied bytes stats) ∧
    (∀ socket other bytes more stats later, Socket.Replies socket .tcpInfo 232 bytes →
      Socket.Replies other .tcpInfo 232 (bytes ++ more) →
      (kernel socket).readTcpStats.1 = .ok stats → (kernel other).readTcpStats.1 = .ok later →
      ∀ slot ∈ TcpStats.slots, slot.offset + slot.width ≤ bytes.length →
        slot.value later = slot.value stats) ∧
    (∀ socket other bytes others, Socket.Replies socket .tcpInfo 232 bytes →
      Socket.Replies other .tcpInfo 232 others → bytes.length = 232 → others.length = 232 →
      (kernel socket).readTcpStats.1 = (kernel other).readTcpStats.1 → bytes = others) ∧
    (∀ index, index < 232 → ∃ front slot back, TcpStats.slots = front ++ slot :: back ∧
      slot.Holds index ∧ ∀ other ∈ front ++ back, ¬ other.Holds index) ∧
    (∀ slot ∈ TcpStats.slots, slot.offset + slot.width ≤ 232) ∧
    (∀ s t : TcpStats, (∀ slot ∈ TcpStats.slots, slot.value s = slot.value t) →
      s.elapsedTime = t.elapsedTime → s = t) ∧
    (∀ socket, Socket.Replies socket .tcpInfo 232 [] →
      (kernel socket).readTcpStats.1 = .error (.shortRecord "getsockopt(TCP_INFO)" 0 232)) ∧
    (∀ socket bytes host millis random, Socket.Replies socket .cookie 8 bytes →
      bytes.length ≠ 8 → ((kernel socket).testId host millis random).1 =
        .error (.shortRecord "getsockopt(SO_COOKIE)" bytes.length 8)) ∧
    (∀ socket bytes, Socket.Replies socket .congestionInfo 20 bytes → bytes.length ≠ 20 →
      (kernel socket).readCongestion.1 = .error .notBbr) ∧
    ∀ socket bytes, Socket.Replies socket .congestionInfo 20 bytes → bytes.length = 20 →
      ∃ estimate, (kernel socket).readCongestion.1 = .ok estimate ∧
        (littleEndian ((bytes.drop 4).take 4) < 2 ^ 31 → estimate.bandwidth.toInt =
          littleEndian ((bytes.drop 4).take 4) * 2 ^ 32 + littleEndian (bytes.take 4)) ∧
        estimate.minRtt.toInt = littleEndian ((bytes.drop 8).take 4) ∧
        estimate.elapsedTime = 0 := by
  refine ⟨?_, ?_, ?_, fun index inside => TcpStats.exists_slots_split inside,
    TcpStats.end_le_of_mem_slots, fun s t => TcpStats.ext_of_slots, ?_, ?_, ?_, ?_⟩
  · intro socket bytes replies nonempty
    exact ⟨_, readTcpStats_of_nonempty replies nonempty, TcpStats.replied bytes⟩
  · intro socket other bytes more stats later replies longer read readLater slot among covered
    rw [eq_ofRecord_of_read replies read, eq_ofRecord_of_read longer readLater,
      TcpStats.value_ofRecord _ slot among, TcpStats.value_ofRecord _ slot among,
      Socket.Slot.read_append_of_le covered]
  · intro socket other bytes others replies again whole wholeAgain same
    rw [readTcpStats_of_nonempty replies (by omega),
      readTcpStats_of_nonempty again (by omega)] at same
    exact TcpStats.ofRecord_injective whole wholeAgain (Except.ok.inj same)
  · intro socket replies
    exact readTcpStats_of_replies replies
  · intro socket bytes host millis random replies short
    exact testId_of_short replies short host millis random
  · intro socket bytes replies other
    exact (readCongestion_of_replies replies).trans (if_neg other)
  · intro socket bytes replies whole
    exact ⟨_, readCongestion_of_whole replies whole, Congestion.bandwidth_ofRecord whole,
      Congestion.minRtt_ofRecord, rfl⟩

/-- A socket of a kernel with short records. -/
def oldKernel : Socket where
  options
    | .tcpInfo => [.record (List.replicate 10 255)]
    | .cookie => [.record [1, 2, 3, 4]]
    | .congestionInfo => [.record (List.replicate 16 0)]
    | .congestionControl => []

/-- A socket of a kernel with long records. -/
def newKernel : Socket where
  options
    | .tcpInfo => [.record (List.replicate 300 255)]
    | .cookie => [.record (List.replicate 8 1)]
    | .congestionInfo => [.record (List.replicate 20 1)]
    | .congestionControl => []

/-- What a short record covers is read as from a long one; other records have to be whole. -/
theorem reads_records_oldKernel :
    (∃ stats later, (kernel oldKernel).readTcpStats.1 = .ok stats ∧
      (kernel newKernel).readTcpStats.1 = .ok later ∧
      TcpStats.Replied (List.replicate 10 255) stats ∧
      ∀ slot ∈ TcpStats.slots, slot.offset + slot.width ≤ 10 →
        slot.value later = slot.value stats) ∧
      (kernel oldKernel).readCongestion.1 = .error .notBbr ∧
      (∀ host millis random, ((kernel oldKernel).testId host millis random).1 =
        .error (.shortRecord "getsockopt(SO_COOKIE)" 4 8)) ∧
      ∃ estimate, (kernel newKernel).readCongestion.1 = .ok estimate ∧
        estimate.bandwidth.toInt = 0x0101010101010101 := by
  obtain ⟨counters, covered, -, -, -, -, -, cookie, short, whole⟩ := reads_records
  have old : oldKernel.Replies .tcpInfo 232 (List.replicate 10 255) := rfl
  have new : newKernel.Replies .tcpInfo 232 (List.replicate 10 255 ++ List.replicate 222 255) := rfl
  obtain ⟨stats, read, replied⟩ := counters oldKernel _ old (by decide)
  obtain ⟨later, readLater, -⟩ := counters newKernel _ new
    (by simp only [List.length_append, List.length_replicate, Nat.reduceAdd, Nat.zero_lt_succ])
  obtain ⟨estimate, readEstimate, bandwidth, -⟩ :=
    whole newKernel (List.replicate 20 1) rfl (by decide)
  refine ⟨⟨stats, later, read, readLater, replied, ?_⟩, ?_, ?_, estimate, readEstimate, ?_⟩
  · exact covered oldKernel newKernel _ _ stats later old new read readLater
  · exact short oldKernel (List.replicate 16 0) rfl (by decide)
  · exact fun host millis random => cookie oldKernel [1, 2, 3, 4] host millis random rfl (by decide)
  · exact bandwidth (by decide)

end Probe

end LinkGauge
