import ArrowTiberius.Conversion.CellTypes
import ArrowTiberius.Direct.Types.DecimalCodec

namespace ArrowTiberius.Tds

open Checked LittleEndian Direct

def plainWidth : MssqlType → ℕ
  | .bit | .tinyInt => 1
  | .smallInt => 2
  | .int | .real => 4
  | .bigInt | .float _ | .dateTime => 8
  | _ => 0

def decodeUnits : List UInt8 → Option (List ℕ)
  | [] => some []
  | [_] => none
  | low :: high :: rest => (decodeUnits rest).map (decode [low, high] :: ·)

def decodeUtf16 (bytes : List UInt8) : Option String := do
  let units ← decodeUnits bytes
  let chars ← Utf16.decode units
  some (String.ofList chars)

def decodeTime (scale : ℕ) (bytes : List UInt8) : MssqlTime := ⟨decode bytes, scale⟩

def decodeDateTime (bytes : List UInt8) : MssqlDateTime := ⟨decodeInt (bytes.take 4), decode (bytes.drop 4)⟩

def decodeDateTime2 (scale : ℕ) (bytes : List UInt8) : MssqlDateTime2 :=
  ⟨⟨decode (bytes.drop (timeLength scale))⟩, decodeTime scale (bytes.take (timeLength scale))⟩

def decodeDateTimeOffset (scale : ℕ) (bytes : List UInt8) : MssqlDateTimeOffset :=
  ⟨decodeDateTime2 scale (bytes.take (timeLength scale + 3)), decodeInt (bytes.drop (timeLength scale + 3))⟩

def decodeContent : MssqlType → List UInt8 → Option MssqlCell
  | .bit, bytes => some (.bit (some (decode bytes ≠ 0)))
  | .tinyInt, bytes => some (.tinyInt (some (UInt8.ofNat (decode bytes))))
  | .smallInt, bytes => (SInt.ofInt? 16 (decodeInt bytes)).map fun value => .smallInt (some value)
  | .int, bytes => (SInt.ofInt? 32 (decodeInt bytes)).map fun value => .int (some value)
  | .bigInt, bytes => (SInt.ofInt? 64 (decodeInt bytes)).map fun value => .bigInt (some value)
  | .real, bytes => some (.real (some ⟨UInt32.ofNat (decode bytes)⟩))
  | .float _, bytes => some (.float (some ⟨UInt64.ofNat (decode bytes)⟩))
  | .nVarChar _, bytes => (decodeUtf16 bytes).map fun value => .nVarChar (some value)
  | .varBinary _, bytes | .binary _, bytes => some (.varBinary (some bytes))
  | .decimal _ scale, bytes => (decodeDecimal bytes).map fun unscaled => .decimal (some ⟨unscaled, scale.toNat⟩)
  | .date, bytes => some (.date (some ⟨decode bytes⟩))
  | .time precision, bytes => some (.time (some (decodeTime precision.get bytes)))
  | .dateTime, bytes => some (.dateTime (some (decodeDateTime bytes)))
  | .dateTime2 precision, bytes => some (.dateTime2 (some (decodeDateTime2 precision bytes)))
  | .dateTimeOffset precision, bytes => some (.dateTimeOffset (some (decodeDateTimeOffset precision bytes)))

def decodeCell (ty : MssqlType) (nullable : Bool) (bytes : List UInt8) : Option (MssqlCell × List UInt8) := do
  let (content, rest) ← unframe (plainWidth ty) (framingOf ty nullable) bytes
  let cell ← content.elim (some ty.nullCell) (decodeContent ty)
  some (cell, rest)

section Text

theorem decodeUnits_flatMap {units : List ℕ} (h : ∀ u ∈ units, u < 0x10000) :
    decodeUnits (units.flatMap (encode 2)) = some units := by
  induction units with
  | nil => rfl
  | cons u units ih =>
    have hcons : (u :: units).flatMap (encode 2) =
        UInt8.ofNat u :: UInt8.ofNat (u / 256) :: units.flatMap (encode 2) := rfl
    have hu : decode [UInt8.ofNat u, UInt8.ofNat (u / 256)] = u :=
      @decode_encode_of_lt 2 u (h u List.mem_cons_self)
    rw [hcons, decodeUnits, ih fun v hv => h v (List.mem_cons_of_mem _ hv), Option.map_some, hu]

theorem decodeUtf16_encodeUtf16 (text : String) : decodeUtf16 (encodeUtf16 text) = some text := by
  rw [decodeUtf16, encodeUtf16, decodeUnits_flatMap Utf16.encode_lt, Option.bind_eq_bind, Option.bind_some,
    Utf16.decode_encode]
  exact congrArg some String.ofList_toList

end Text

section Time

theorem decodeTime_encodeTime {value : MssqlTime} (h : ValidTime value) :
    decodeTime value.scale (encodeTime value) = value := by
  rw [decodeTime, encodeTime, decode_encode_of_lt (increments_lt h)]

theorem decode_encodeDate {value : MssqlDate} (h : ValidDate value) : decode (encodeDate value) = value.days := by
  have hdays : value.days ≤ 3652058 := h
  exact decode_encode_of_lt (by omega)

theorem decodeDateTime_encodeDateTime {value : MssqlDateTime} (h : ValidDateTime value) :
    decodeDateTime (encodeDateTime value) = value := by
  obtain ⟨⟨hlo, hhi⟩, hfragments⟩ := h
  rw [decodeDateTime, encodeDateTime, List.take_left' (length_encodeInt 4 _), List.drop_left' (length_encodeInt 4 _),
    decodeInt_encodeInt (by omega) (by omega), decode_encode_of_lt (by omega)]

theorem decodeDateTime2_encodeDateTime2 {value : MssqlDateTime2} (h : ValidDateTime2 value) :
    decodeDateTime2 value.time.scale (encodeDateTime2 value) = value := by
  obtain ⟨hdate, htime⟩ := h
  rw [decodeDateTime2, encodeDateTime2, List.take_left' (length_encodeTime _), List.drop_left' (length_encodeTime _),
    decode_encodeDate hdate, decodeTime_encodeTime htime]

theorem decodeDateTimeOffset_encodeDateTimeOffset {value : MssqlDateTimeOffset} (h : ValidDateTimeOffset value) :
    decodeDateTimeOffset value.datetime2.time.scale (encodeDateTimeOffset value) = value := by
  obtain ⟨hdatetime2, hoffset⟩ := h
  rw [decodeDateTimeOffset, encodeDateTimeOffset, List.take_left' (length_encodeDateTime2 _),
    List.drop_left' (length_encodeDateTime2 _), decodeDateTime2_encodeDateTime2 hdatetime2,
    decodeInt_encodeInt (by omega) (by omega)]

end Time

section Cell

variable {ty : MssqlType} {cell : MssqlCell}

theorem ofInt?_encodeInt {w : ℕ} (n : ℕ) (hw : w = 8 * n) (hpos : 0 < n) (value : SInt w) :
    SInt.ofInt? w (decodeInt (encodeInt n value.val)) = some value := by
  have hpow : ((256 ^ n : ℕ) : ℤ) = 2 * 2 ^ (w - 1) := by
    have h256 : (256 : ℕ) = 2 ^ 8 := rfl
    rw [h256, ← pow_mul, ← hw, ← pow_succ', Nat.cast_pow]
    congr 1
    omega
  obtain ⟨hlo, hhi⟩ := value.fits
  rw [decodeInt_encodeInt (by omega) (by omega)]
  exact SInt.ofInt?_eq_some.mpr rfl

theorem decodeContent_payload (h : SqlCellOf ty cell) :
    ∃ content, payload cell = some content ∧ decodeContent ty content = some cell := by
  cases h with
  | bit value => exact ⟨_, rfl, by cases value <;> rfl⟩
  | tinyInt value =>
    refine ⟨_, rfl, ?_⟩
    simp only [decodeContent, decode, Nat.mul_zero, Nat.add_zero, UInt8.ofNat_toNat]
  | smallInt value =>
    refine ⟨_, rfl, ?_⟩
    rw [decodeContent, ofInt?_encodeInt 2 rfl (by decide), Option.map_some]
  | int value =>
    refine ⟨_, rfl, ?_⟩
    rw [decodeContent, ofInt?_encodeInt 4 rfl (by decide), Option.map_some]
  | bigInt value =>
    refine ⟨_, rfl, ?_⟩
    rw [decodeContent, ofInt?_encodeInt 8 rfl (by decide), Option.map_some]
  | real value =>
    refine ⟨_, rfl, ?_⟩
    rw [decodeContent, decode_encode_of_lt value.bits.toNat_lt, UInt32.ofNat_toNat]
  | float precision value =>
    refine ⟨_, rfl, ?_⟩
    rw [decodeContent, decode_encode_of_lt value.bits.toNat_lt, UInt64.ofNat_toNat]
  | nVarChar length value =>
    refine ⟨_, rfl, ?_⟩
    rw [decodeContent, decodeUtf16_encodeUtf16, Option.map_some]
  | varBinary | binary => exact ⟨_, rfl, rfl⟩
  | @decimal precision scale unscaled hfits =>
    refine ⟨_, rfl, ?_⟩
    have hread : decodeDecimal (encodeDecimal ⟨unscaled, scale⟩) = some unscaled :=
      Decimal.decodeDecimal_unscaledBytes hfits
    rw [decodeContent, hread, Option.map_some, Int.toNat_natCast]
  | date hvalid =>
    refine ⟨_, rfl, ?_⟩
    rw [decodeContent, decode_encodeDate hvalid]
  | time hvalid hscale =>
    refine ⟨_, rfl, ?_⟩
    rw [decodeContent, ← hscale, decodeTime_encodeTime hvalid]
  | dateTime hvalid =>
    refine ⟨_, rfl, ?_⟩
    rw [decodeContent, decodeDateTime_encodeDateTime hvalid]
  | dateTime2 hvalid =>
    refine ⟨_, rfl, ?_⟩
    rw [decodeContent, decodeDateTime2_encodeDateTime2 hvalid]
  | dateTimeOffset hvalid =>
    refine ⟨_, rfl, ?_⟩
    rw [decodeContent, decodeDateTimeOffset_encodeDateTimeOffset hvalid]

/-- Values too long for the frame of their column apart, no value is mistaken for another or for null. -/
theorem readable_payload {nullable : Bool} (h : SqlCellOf ty cell)
    (hfits : Fits (framingOf ty nullable) (payload cell)) :
    Readable (plainWidth ty) (framingOf ty nullable) (payload cell) := by
  cases h with
  | bit | tinyInt => cases nullable <;> exact by simp [Readable, payload, framingOf, plainWidth]
  | smallInt | int | bigInt | real | float | dateTime =>
    cases nullable <;> exact by simp [Readable, payload, framingOf, plainWidth]
  | nVarChar length | varBinary length =>
    cases length with
    | bounded => exact Nat.lt_succ_of_le hfits
    | max => exact Nat.lt_succ_of_le hfits
  | binary => exact Nat.lt_succ_of_le hfits
  | decimal => exact Decimal.readable_unscaledBytes _ _
  | date => exact by simp [Readable, payload, framingOf]
  | @time _ value =>
    have := timeLength_le value.scale
    have hpos : 0 < timeLength value.scale := by unfold timeLength; split_ifs <;> decide
    simp only [Readable, payload, framingOf, Option.map_some, length_encodeTime]
    omega
  | @dateTime2 value =>
    have := timeLength_le value.time.scale
    simp only [Readable, payload, framingOf, Option.map_some, length_encodeDateTime2]
    omega
  | @dateTimeOffset value =>
    have := timeLength_le value.datetime2.time.scale
    simp only [Readable, payload, framingOf, Option.map_some, length_encodeDateTimeOffset]
    omega

/-- What a column may hold: values of its type, and null if it is nullable. -/
def Holds (ty : MssqlType) (nullable : Bool) (cell : MssqlCell) : Prop :=
  (nullable = true ∧ cell = ty.nullCell) ∨ SqlCellOf ty cell

theorem payload_nullCell (ty : MssqlType) : payload ty.nullCell = none := by
  cases ty <;> rfl

theorem readable_null (ty : MssqlType) : Readable (plainWidth ty) (framingOf ty true) none := by
  cases ty with
  | nVarChar length | varBinary length => cases length <;> trivial
  | _ => trivial

theorem Holds.readable {nullable : Bool} (h : Holds ty nullable cell)
    (hfits : Fits (framingOf ty nullable) (payload cell)) :
    Readable (plainWidth ty) (framingOf ty nullable) (payload cell) := by
  obtain ⟨rfl, rfl⟩ | h := h
  · rw [payload_nullCell]
    exact readable_null ty
  · exact readable_payload h hfits

theorem plainWidth_pos {nullable : Bool} (h : framingOf ty nullable = .plain) : 0 < plainWidth ty := by
  cases ty with
  | nVarChar length | varBinary length => cases length <;> cases h
  | decimal | date | time | dateTime2 | dateTimeOffset | binary => cases h
  | _ => exact Nat.succ_pos _

theorem Holds.length_pos {nullable : Bool} (h : Holds ty nullable cell)
    (hfits : Fits (framingOf ty nullable) (payload cell)) : 0 < (encodeCell (framingOf ty nullable) cell).length := by
  have hreadable := h.readable hfits
  rw [encodeCell]
  cases hframing : framingOf ty nullable with
  | plain =>
    rw [hframing] at hreadable
    cases hcontent : payload cell with
    | none =>
      rw [hcontent] at hreadable
      cases hreadable
    | some content =>
      rw [hcontent] at hreadable
      have hlength : content.length = plainWidth ty := hreadable
      have := plainWidth_pos hframing
      rw [frame]
      omega
  | bytePrefixed => cases payload cell <;> simp [frame]
  | shortPrefixed => cases payload cell <;> simp [frame]
  | plp => cases payload cell <;> simp [frame]

theorem decodeCell_encodeCell {nullable : Bool} {rest : List UInt8} (h : Holds ty nullable cell)
    (hfits : Fits (framingOf ty nullable) (payload cell)) :
    decodeCell ty nullable (encodeCell (framingOf ty nullable) cell ++ rest) = some (cell, rest) := by
  rw [decodeCell, encodeCell, unframe_frame (h.readable hfits), Option.bind_eq_bind, Option.bind_some]
  obtain ⟨-, rfl⟩ | h := h
  · rw [payload_nullCell]
    rfl
  · obtain ⟨content, hcontent, hcell⟩ := decodeContent_payload h
    dsimp only
    rw [hcontent, Option.elim_some, hcell]
    rfl

end Cell

end ArrowTiberius.Tds
