import LinkGauge.Socket.Record
import Mathlib.Algebra.GroupWithZero.Nat

/-!
# Fields of a kernel record

The fields of a record are the numbers in its consecutive parts (`Socket.Layout.values_decode`).
Missing bytes count as zeros (`Socket.Layout.decode_append_zeros`), the numbers in all parts tell
the bytes (`Socket.eq_of_cuts`), and each byte lies in one part (`Socket.exists_packed_split`).
-/

namespace LinkGauge

/-! ## Numbers in bytes -/

/-- The number in some bytes has as many digits to base 256. -/
theorem littleEndian_lt (bytes : List UInt8) : littleEndian bytes < 256 ^ bytes.length := by
  induction bytes with
  | nil => exact Nat.one_pos
  | cons b rest ih =>
      have byte := b.toNat_lt
      rw [littleEndian, List.length_cons, Nat.pow_succ]
      omega

private theorem littleEndian_zeros (n : Nat) : littleEndian (List.replicate n 0) = 0 := by
  induction n with
  | zero => rfl
  | succ n ih =>
      rw [List.replicate_succ, littleEndian, ih]
      rfl

/-- Bytes behind others count for more, by a factor for each of those. -/
theorem littleEndian_append (front back : List UInt8) :
    littleEndian (front ++ back) = littleEndian front + 256 ^ front.length * littleEndian back := by
  induction front with
  | nil => simp only [List.nil_append, littleEndian, List.length_nil, Nat.pow_zero]; omega
  | cons b rest ih =>
      rw [List.cons_append, littleEndian, ih, littleEndian, List.length_cons, Nat.pow_succ',
        Nat.mul_add, Nat.mul_assoc, Nat.add_assoc]

private theorem littleEndian_append_zeros (bytes : List UInt8) (n : Nat) :
    littleEndian (bytes ++ List.replicate n 0) = littleEndian bytes := by
  rw [littleEndian_append, littleEndian_zeros, Nat.mul_zero, Nat.add_zero]

/-- As many bytes with the same number are the same. -/
theorem eq_of_littleEndian {first second : List UInt8} (length : first.length = second.length)
    (same : littleEndian first = littleEndian second) : first = second := by
  induction first generalizing second with
  | nil => exact (List.eq_nil_of_length_eq_zero length.symm).symm
  | cons b rest ih =>
      obtain ⟨c, others, rfl⟩ := List.exists_cons_of_length_eq_add_one length.symm
      rw [littleEndian, littleEndian] at same
      have bounds := And.intro b.toNat_lt c.toNat_lt
      have byte : b.toNat = c.toNat := by omega
      have later : littleEndian rest = littleEndian others := by omega
      rw [UInt8.toNat_inj.mp byte, ih (Nat.succ.inj length) later]

namespace Socket

/-! ## Parts of a record -/

/-- The numbers in consecutive parts of the given widths. -/
def cuts : List Nat → List UInt8 → List Nat
  | [], _ => []
  | width :: widths, bytes => littleEndian (bytes.take width) :: cuts widths (bytes.drop width)

/-- Bytes that fill all parts are known by the numbers in them. -/
theorem eq_of_cuts {widths : List Nat} {first second : List UInt8}
    (firstFills : first.length = widths.sum) (secondFills : second.length = widths.sum)
    (same : cuts widths first = cuts widths second) : first = second := by
  induction widths generalizing first second with
  | nil => rw [List.eq_nil_of_length_eq_zero firstFills, List.eq_nil_of_length_eq_zero secondFills]
  | cons width widths ih =>
      rw [List.sum_cons] at firstFills secondFills
      obtain ⟨number, numbers⟩ := List.cons.inj same
      have front : first.take width = second.take width := by
        refine eq_of_littleEndian ?_ number
        rw [List.length_take, List.length_take, firstFills, secondFills]
      have back : first.drop width = second.drop width := by
        refine ih ?_ ?_ numbers
        · rw [List.length_drop, firstFills, Nat.add_sub_cancel_left]
        · rw [List.length_drop, secondFills, Nat.add_sub_cancel_left]
      rw [← List.take_append_drop width first, front, back, List.take_append_drop]

namespace Layout

/-- The widths of the fields that a record holds. -/
def widths : {types : List Type} → Layout types → List Nat
  | _, .nil => []
  | _, @field _ _ _ width fields => width :: fields.widths
  | _, .fixed _ fields => fields.widths

/-- The fields that a record holds, as numbers. -/
def values : {types : List Type} → Layout types → Json.Row types → List Nat
  | _, .nil, _ => []
  | _, @field _ _ _ _ fields, (value, rest) => (Counter.toInt value).toNat :: fields.values rest
  | _, .fixed _ fields, (_, rest) => fields.values rest

/-- Whether every field can hold each number that its bytes can. -/
def Fits : {types : List Type} → Layout types → Prop
  | _, .nil => True
  | _, @field α _ _ width fields =>
    (∀ n : Nat, n < 256 ^ width → Counter.toInt (Counter.ofInt n : α) = n) ∧ fields.Fits
  | _, .fixed _ fields => fields.Fits

variable {types : List Type}

/-- A field of one byte fits. -/
theorem fits_u8 {fields : Layout types} : fields.u8.Fits ↔ fields.Fits := by
  refine and_iff_right fun n bound => ?_
  change ((UInt8.ofNat n).toNat : Int) = n
  rw [UInt8.toNat_ofNat_of_lt' bound]

/-- A field of four bytes fits. -/
theorem fits_u32 {fields : Layout types} : fields.u32.Fits ↔ fields.Fits := by
  refine and_iff_right fun n bound => ?_
  change ((UInt32.ofNat n).toNat : Int) = n
  rw [UInt32.toNat_ofNat_of_lt' bound]

/-- A field of eight bytes fits. -/
theorem fits_u64 {fields : Layout types} : fields.u64.Fits ↔ fields.Fits := by
  refine and_iff_right fun n bound => ?_
  change ((UInt64.ofNat n).toNat : Int) = n
  rw [UInt64.toNat_ofNat_of_lt' bound]

/-- The fields of a record are the numbers in the pieces of its bytes. -/
theorem values_decode (layout : Layout types) (fits : layout.Fits) (bytes : List UInt8) :
    layout.values (layout.decode bytes) = cuts layout.widths bytes := by
  induction layout generalizing bytes with
  | nil => rfl
  | field width fields ih =>
      obtain ⟨fit, later⟩ := fits
      have bound : littleEndian (bytes.take width) < 256 ^ width :=
        Nat.lt_of_lt_of_le (littleEndian_lt _)
          (Nat.pow_le_pow_right (by decide) (List.length_take_le _ _))
      rw [decode, values, widths, cuts, fit _ bound, Int.toNat_natCast, ih later]
  | fixed value fields ih => exact ih fits bytes

/-- Bytes that are missing count as zeros. -/
theorem decode_append_zeros (layout : Layout types) (bytes : List UInt8) (n : Nat) :
    layout.decode (bytes ++ List.replicate n 0) = layout.decode bytes := by
  induction layout generalizing bytes n with
  | nil => rfl
  | field width fields ih =>
      rw [decode, decode, List.take_append, List.drop_append, List.take_replicate,
        List.drop_replicate, littleEndian_append_zeros, ih]
  | fixed value fields ih => exact congrArg (Prod.mk value) (ih bytes n)

end Layout

/-! ## Places in a record -/

/-- Where a field lies in a record, and the number that it has. -/
structure Slot (ρ : Type) where
  offset : Nat
  width : Nat
  value : ρ → Nat

variable {ρ : Type}

/-- Whether a part holds the byte at an index. -/
def Slot.Holds (slot : Slot ρ) (index : Nat) : Prop :=
  slot.offset ≤ index ∧ index < slot.offset + slot.width

/-- The number that a part of a record has. -/
def Slot.read (slot : Slot ρ) (bytes : List UInt8) : Nat :=
  littleEndian ((bytes.drop slot.offset).take slot.width)

/-- More bytes change nothing in a field that is covered. -/
theorem Slot.read_append_of_le {slot : Slot ρ} {bytes : List UInt8}
    (covered : slot.offset + slot.width ≤ bytes.length) (more : List UInt8) :
    slot.read (bytes ++ more) = slot.read bytes := by
  have starts : slot.offset ≤ bytes.length := by omega
  have ends : slot.width ≤ (bytes.drop slot.offset).length := by
    rw [List.length_drop]
    omega
  rw [read, read, List.drop_append_of_le_length starts, List.take_append_of_le_length ends]

/-- A field that no byte reaches is zero. -/
theorem Slot.read_of_le {slot : Slot ρ} {bytes : List UInt8}
    (missing : bytes.length ≤ slot.offset) : slot.read bytes = 0 := by
  rw [read, List.drop_eq_nil_of_le missing, List.take_nil, littleEndian]

/-- Fields of given widths one behind the other, each at the next multiple of its width. -/
def aligned (free : Nat) : List (Nat × (ρ → Nat)) → List (Slot ρ)
  | [] => []
  | (width, value) :: fields =>
    let offset := (free + width - 1) / width * width
    ⟨offset, width, value⟩ :: aligned (offset + width) fields

/-- Fields of given widths one behind the other. -/
def packed (free : Nat) : List (Nat × (ρ → Nat)) → List (Slot ρ)
  | [] => []
  | (width, value) :: fields => ⟨free, width, value⟩ :: packed (free + width) fields

private theorem le_offset_of_packed {fields : List (Nat × (ρ → Nat))} {free : Nat} :
    ∀ slot ∈ packed free fields, free ≤ slot.offset := by
  induction fields generalizing free with
  | nil => exact nofun
  | cons field fields ih =>
      refine List.forall_mem_cons.mpr ⟨Nat.le_refl _, fun slot later => ?_⟩
      exact Nat.le_trans (Nat.le_add_right _ _) (ih slot later)

/-- Packed fields end within the sum of their widths. -/
theorem end_le_of_packed {fields : List (Nat × (ρ → Nat))} {free : Nat} :
    ∀ slot ∈ packed free fields,
      slot.offset + slot.width ≤ free + (fields.map (·.1)).sum := by
  induction fields generalizing free with
  | nil => exact nofun
  | cons field fields ih =>
      rw [List.map_cons, List.sum_cons, ← Nat.add_assoc]
      exact List.forall_mem_cons.mpr ⟨Nat.le_add_right _ _, ih⟩

/-- Each byte lies in one field. -/
theorem exists_packed_split {fields : List (Nat × (ρ → Nat))} {free index : Nat}
    (behind : free ≤ index) (ahead : index < free + (fields.map (·.1)).sum) :
    ∃ front slot back, packed free fields = front ++ slot :: back ∧ slot.Holds index ∧
      ∀ other ∈ front ++ back, ¬ other.Holds index := by
  induction fields generalizing free with
  | nil => exact absurd behind (Nat.not_le.mpr ahead)
  | cons field fields ih =>
      obtain ⟨width, value⟩ := field
      rw [List.map_cons, List.sum_cons, ← Nat.add_assoc] at ahead
      by_cases here : index < free + width
      · refine ⟨[], _, _, rfl, ⟨behind, here⟩, fun other later holds => ?_⟩
        exact Nat.not_lt.mpr (Nat.le_trans (le_offset_of_packed other later) holds.1) here
      · obtain ⟨front, slot, back, split, holds, others⟩ := ih (Nat.not_lt.mp here) ahead
        refine ⟨⟨free, width, value⟩ :: front, slot, back, ?_, holds, ?_⟩
        · rw [packed, split, List.cons_append]
        · exact List.forall_mem_cons.mpr ⟨fun first => here first.2, others⟩

/-- A record whose fields have the numbers of consecutive parts has in each field the number at
its place. -/
theorem value_of_packed {fields : List (Nat × (ρ → Nat))} {free : Nat} {record : ρ}
    {bytes : List UInt8}
    (numbers : fields.map (fun field => field.2 record) =
      cuts (fields.map (·.1)) (bytes.drop free)) :
    ∀ slot ∈ packed free fields, slot.value record = slot.read bytes := by
  induction fields generalizing free with
  | nil => exact nofun
  | cons field fields ih =>
      obtain ⟨number, later⟩ := List.cons.inj numbers
      rw [List.drop_drop] at later
      exact List.forall_mem_cons.mpr ⟨number, ih later⟩

end Socket

end LinkGauge
