import LinkGauge.Measurement.Basic

/-!
# Records reported by the kernel

A kernel record is a sequence of little-endian integers without gaps. An older
kernel reports fewer bytes of the connection's counters than the record has; the
missing ones count as zero, so that a counter which is cut keeps its low bytes.
-/

namespace LinkGauge

/-- The number written by bytes with the least significant one first. -/
def littleEndian : List UInt8 → Nat
  | [] => 0
  | b :: rest => b.toNat + 256 * littleEndian rest

namespace Socket

/-- How the fields of a row lie in a record, one behind the other. -/
inductive Layout : List Type → Type 1 where
  | nil : Layout []
  /-- An integer of the given number of bytes. -/
  | field {α : Type} [Counter α] {rest : List Type} (width : Nat) (fields : Layout rest) :
      Layout (α :: rest)
  /-- A field that the record does not hold. -/
  | fixed {α : Type} {rest : List Type} (value : α) (fields : Layout rest) : Layout (α :: rest)

namespace Layout

/-- A field of one byte. -/
def u8 {rest : List Type} : Layout rest → Layout (UInt8 :: rest) := .field 1

/-- A field of four bytes. -/
def u32 {rest : List Type} : Layout rest → Layout (UInt32 :: rest) := .field 4

/-- A field of eight bytes. -/
def u64 {rest : List Type} : Layout rest → Layout (UInt64 :: rest) := .field 8

/-- The number of bytes of a record. -/
def size : {types : List Type} → Layout types → Nat
  | _, .nil => 0
  | _, @field _ _ _ width fields => width + fields.size
  | _, .fixed _ fields => fields.size

/-- The fields in the bytes of a record; missing bytes are zero. -/
def decode : {types : List Type} → Layout types → List UInt8 → Json.Row types
  | _, .nil, _ => ()
  | _, @field _ _ _ width fields, bytes =>
    (Counter.ofInt (littleEndian (bytes.take width)), fields.decode (bytes.drop width))
  | _, .fixed value fields, bytes => (value, fields.decode bytes)

end Layout

end Socket

namespace TcpStats

/-- The counters as the kernel reports them; the elapsed time is not among them. -/
def layout : Socket.Layout Types :=
  .u8 <| .u8 <| .u8 <| .u8 <| .u8 <| .u8 <| .u8 <| .u8 <| .u32 <| .u32 <| .u32 <| .u32 <|
  .u32 <| .u32 <| .u32 <| .u32 <| .u32 <| .u32 <| .u32 <| .u32 <| .u32 <| .u32 <| .u32 <|
  .u32 <| .u32 <| .u32 <| .u32 <| .u32 <| .u32 <| .u32 <| .u32 <| .u32 <| .u64 <| .u64 <|
  .u64 <| .u64 <| .u32 <| .u32 <| .u32 <| .u32 <| .u32 <| .u32 <| .u64 <| .u64 <| .u64 <|
  .u64 <| .u32 <| .u32 <| .u64 <| .u64 <| .u32 <| .u32 <| .u32 <| .u32 <| .fixed 0 .nil

/-- The counters in a kernel record or in the front part of one. -/
def ofRecord (bytes : List UInt8) : TcpStats := ofRow (layout.decode bytes)

end TcpStats

namespace Congestion

/-- The number of bytes of the record of an estimate. -/
def recordSize : Nat := 20

/-- The estimate in a kernel record: the low and the high half of the bandwidth, the
smallest round trip, and two numbers that are not used. -/
def ofRecord (bytes : List UInt8) : Congestion where
  bandwidth := Int64.ofInt (littleEndian (bytes.take 8))
  minRtt := Int64.ofInt (littleEndian ((bytes.drop 8).take 4))

end Congestion

end LinkGauge
