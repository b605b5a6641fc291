import ArrowTiberius.Conversion.CellConversion
import ArrowTiberius.Conversion.DecimalValue
import ArrowTiberius.Direct.BatchLaw
import ArrowTiberius.Tds.CellCodec

namespace ArrowTiberius.Direct

open Checked

variable [Externals]

/-- The cell the baseline makes of one row of an array, absent where it refuses. -/
def semanticCell (context : RuntimeConversionContext) (mapping : SchemaMapping) (array : ArrayRef) (rowIndex : ℕ) :
    Option MssqlCell :=
  (do
    let cell ← extractArrowCell array mapping rowIndex
    mssqlCellFromArrowCell context mapping cell rowIndex).toOption

def wireCell (mapping : SchemaMapping) (cell : MssqlCell) : Option (List UInt8) :=
  Tds.wire (Tds.framingOf mapping.mssql.ty mapping.mssql.nullable) (Tds.payload cell)

section Null

variable {mapping : SchemaMapping} {r : ℕ}

theorem convertNull_payload (mapping : SchemaMapping) (encoding : DirectColumnEncoding) (r : ℕ) :
    (convertNull mapping r).toOption.map Tds.payload = if Temporal.zonesResolve mapping then
      nullContent (DirectColumnPlan.fromMapping mapping encoding) else none := by
  have hzones : (validateNullTimestampTimezoneMetadata mapping r).toOption =
      if Temporal.zonesResolve mapping then some () else none := by
    rw [Temporal.validateNull_eq]
    by_cases h : Temporal.zonesResolve mapping = true
    · rw [if_pos h, toOption_eq_some]
      exact Temporal.validateMapping_eq_ok.mpr h
    · rw [if_neg h]
      by_contra hsome
      obtain ⟨u, hu⟩ := Option.ne_none_iff_exists'.mp hsome
      exact h (Temporal.validateMapping_eq_ok.mp (toOption_eq_some.mp hu))
  simp only [convertNull, toOption_bind, toOption_ensure, hzones, pure_eq_ok, toOption_ok, nullContent,
    DirectColumnPlan.fromMapping]
  by_cases hnullable : mapping.mssql.nullable = true <;> by_cases h : Temporal.zonesResolve mapping = true <;>
    simp [hnullable, h, Tds.payload_nullCell]

theorem convertNull_payload_of_plain (encoding : DirectColumnEncoding) (r : ℕ)
    (h : ∀ unit timezone, mapping.arrow.dataType ≠ .timestamp unit timezone) :
    nullContent (DirectColumnPlan.fromMapping mapping encoding) =
      (convertNull mapping r).toOption.map Tds.payload := by
  rw [convertNull_payload mapping encoding r, if_pos (Temporal.zonesResolve_of_plain h)]

end Null

section Bind

variable {encoder : DirectEncoder} {array : ArrayRef} {i : ℕ} {mapping : SchemaMapping}
  {encoding : DirectColumnEncoding} {context : RuntimeConversionContext}

/-- The array binds, and the bound column writes the cells the baseline makes of the array. -/
def Denotes (encoder : DirectEncoder) (context : RuntimeConversionContext) (mapping : SchemaMapping)
    (encoding : DirectColumnEncoding) (array : ArrayRef) (i : ℕ) : Prop :=
  ∃ bound, bindDirectArray encoder array i (DirectColumnPlan.fromMapping mapping encoding) = .ok bound ∧
    ∀ r, bound.cellBytes context r = (semanticCell context mapping array r).bind (wireCell mapping)

theorem extractArrowCell_of_null {r : ℕ} (h : array.isNull r = true) : extractArrowCell array mapping r = .ok .null :=
  if_pos h

theorem columnBytes_eq_wireCell {α : Type} {data : Arr α} {content : Option (Option (List UInt8))}
    {payloadOf : α → Option (List UInt8)} {cell : α → ArrowCell}
    (hencodes : Encodes mapping.arrow.dataType mapping.mssql.ty encoding) (hisNull : data.isNull = array.isNull)
    (hextract : ∀ r, array.isNull r = false → extractArrowCell array mapping r = .ok (cell (data.value r)))
    (hnull : ∀ r, content = (convertNull mapping r).toOption.map Tds.payload)
    (hcell : ∀ r, CellOf mapping.arrow.dataType (cell (data.value r)))
    (hvalue : ∀ r, (payloadOf (data.value r)).map some =
      (convertValue encoding context mapping r (cell (data.value r))).toOption.map Tds.payload) (r : ℕ) :
    columnBytes (Tds.framingOf mapping.mssql.ty mapping.mssql.nullable) (columnContent content data payloadOf) r =
      (semanticCell context mapping array r).bind (wireCell mapping) := by
  have hwire (cell : Option MssqlCell) : cell.bind (wireCell mapping) =
      (cell.map Tds.payload).bind (Tds.wire (Tds.framingOf mapping.mssql.ty mapping.mssql.nullable)) := by
    cases cell <;> rfl
  rw [columnBytes, hwire, semanticCell, columnContent, hisNull]
  congr 1
  by_cases h : array.isNull r = true
  · rw [if_pos h, extractArrowCell_of_null h, ok_bind, mssqlCellFromArrowCell_null hencodes, hnull r]
  · rw [if_neg h, hextract r (Bool.eq_false_iff.mpr h), ok_bind, mssqlCellFromArrowCell_value hencodes (hcell r),
      hvalue r]

theorem denotes_of_kind {kind : ArrayKind} {cell : kind.Elem → ArrowCell} {framing : Tds.Framing}
    {content : Option (Option (List UInt8))} {payloadOf : kind.Elem → Option (List UInt8)}
    (hencodes : Encodes mapping.arrow.dataType mapping.mssql.ty encoding) (hkind : array.dataType.arrayKind = kind)
    (hextract : ∀ r, array.isNull r = false →
      extractArrowCell array mapping r = extractAs kind cell array mapping r)
    (hbind : ∀ data, downcastDirectArray kind array (DirectColumnPlan.fromMapping mapping encoding) = .ok data →
      ∃ bound, bindDirectArray encoder array i (DirectColumnPlan.fromMapping mapping encoding) = .ok bound ∧
        ∀ r, bound.cellBytes context r = columnBytes framing (columnContent content data payloadOf) r)
    (hframing : framing = Tds.framingOf mapping.mssql.ty mapping.mssql.nullable)
    (hnull : ∀ r, content = (convertNull mapping r).toOption.map Tds.payload)
    (hcell : ∀ value, CellOf mapping.arrow.dataType (cell value))
    (hvalue : ∀ value r, (payloadOf value).map some =
      (convertValue encoding context mapping r (cell value)).toOption.map Tds.payload) :
    Denotes encoder context mapping encoding array i := by
  obtain ⟨data, hdata, -, hisNull⟩ := array.downcast_eq_some hkind
  obtain ⟨bound, hbound, hbytes⟩ := hbind data (downcastDirectArray_eq_ok.mpr hdata)
  refine ⟨bound, hbound, fun r => ?_⟩
  rw [hbytes, hframing]
  apply columnBytes_eq_wireCell hencodes hisNull _ hnull
  · intro r
    exact hcell (data.value r)
  · intro r
    exact hvalue (data.value r) r
  · intro r h
    rw [hextract r h, extractAs, downcastArray, hdata, okOr_some, ok_bind, pure_eq_ok]

omit [Externals] in
theorem plain_of_eq {dataType : DataType} (hdt : mapping.arrow.dataType = dataType)
    (h : ∀ unit timezone, dataType ≠ .timestamp unit timezone) :
    ∀ unit timezone, mapping.arrow.dataType ≠ .timestamp unit timezone := by
  rwa [hdt]

theorem denotes_of_primitive_kind {kind : ArrayKind} {cell : kind.Elem → ArrowCell}
    {classification : PrimitiveArrowToMssql} {bind : Arr kind.Elem → BoundDirectColumn}
    {valueBytes : kind.Elem → ℕ → Result (List UInt8)}
    (hencodes : Encodes mapping.arrow.dataType mapping.mssql.ty (.primitive classification))
    (hkind : array.dataType.arrayKind = kind)
    (hbind : bindDirectArray encoder array i (DirectColumnPlan.fromMapping mapping (.primitive classification)) =
      bind <$> downcastDirectArray kind array (DirectColumnPlan.fromMapping mapping (.primitive classification)))
    (hbytes : ∀ data, (bind data).cellBytes context = Primitive.writtenBytes data
      (DirectColumnPlan.fromMapping mapping (.primitive classification)) valueBytes)
    (hframing : Tds.framingOf mapping.mssql.ty mapping.mssql.nullable =
      if mapping.mssql.nullable then .bytePrefixed else .plain)
    (hplain : ∀ unit timezone, mapping.arrow.dataType ≠ .timestamp unit timezone)
    (hextract : ∀ r, array.isNull r = false →
      extractArrowCell array mapping r = extractAs kind cell array mapping r)
    (hcell : ∀ value, CellOf mapping.arrow.dataType (cell value))
    (hvalue : ∀ value r, (valueBytes value 0).toOption.map some =
      (convertValue (.primitive classification) context mapping r (cell value)).toOption.map Tds.payload) :
    Denotes encoder context mapping (.primitive classification) array i := by
  apply denotes_of_kind hencodes hkind hextract _ hframing.symm
    (fun r => convertNull_payload_of_plain (.primitive classification) r hplain) hcell hvalue
  intro data hdata
  refine ⟨bind data, by rw [hbind, hdata, map_ok], fun r => ?_⟩
  rw [hbytes]
  rfl

theorem denotes_primitive {classification : PrimitiveArrowToMssql}
    (hencodes : Encodes mapping.arrow.dataType mapping.mssql.ty (.primitive classification))
    (hsame : array.dataType = mapping.arrow.dataType) :
    Denotes encoder context mapping (.primitive classification) array i := by
  have hencodes' := hencodes
  generalize hdt : mapping.arrow.dataType = dataType at hencodes' hsame
  generalize hty : mapping.mssql.ty = ty at hencodes'
  cases hencodes' with
  | boolean =>
    apply @denotes_of_primitive_kind _ encoder array i mapping context
      .boolean .boolean _ (.boolean _) Primitive.booleanBytes
      hencodes (by rw [hsame]; rfl) rfl (fun _ => rfl) (by rw [hty]; rfl) (plain_of_eq hdt (by simp))
    · exact fun r h => by rw [extractArrowCell, if_neg (by simp [h]), hdt]
    · exact fun value => hdt ▸ .boolean value
    · exact fun _ _ => rfl
  | uint8 =>
    apply @denotes_of_primitive_kind _ encoder array i mapping context
      .uint8 .uint8 _ (.uint8 _) Primitive.uint8Bytes
      hencodes (by rw [hsame]; rfl) rfl (fun _ => rfl) (by rw [hty]; rfl) (plain_of_eq hdt (by simp))
    · exact fun r h => by rw [extractArrowCell, if_neg (by simp [h]), hdt]
    · exact fun value => hdt ▸ .uint8 value
    · exact fun _ _ => rfl
  | int8 =>
    apply @denotes_of_primitive_kind _ encoder array i mapping context
      .int8 .int8 _ (.int8 _) Primitive.int8Bytes
      hencodes (by rw [hsame]; rfl) rfl (fun _ => rfl) (by rw [hty]; rfl) (plain_of_eq hdt (by simp))
    · exact fun r h => by rw [extractArrowCell, if_neg (by simp [h]), hdt]
    · exact fun value => hdt ▸ .int8 value
    · exact fun _ _ => rfl
  | int16 =>
    apply @denotes_of_primitive_kind _ encoder array i mapping context
      .int16 .int16 _ (.int16 _) Primitive.int16Bytes
      hencodes (by rw [hsame]; rfl) rfl (fun _ => rfl) (by rw [hty]; rfl) (plain_of_eq hdt (by simp))
    · exact fun r h => by rw [extractArrowCell, if_neg (by simp [h]), hdt]
    · exact fun value => hdt ▸ .int16 value
    · exact fun _ _ => rfl
  | int32 =>
    apply @denotes_of_primitive_kind _ encoder array i mapping context
      .int32 .int32 _ (.int32 _) Primitive.int32Bytes
      hencodes (by rw [hsame]; rfl) rfl (fun _ => rfl) (by rw [hty]; rfl) (plain_of_eq hdt (by simp))
    · exact fun r h => by rw [extractArrowCell, if_neg (by simp [h]), hdt]
    · exact fun value => hdt ▸ .int32 value
    · exact fun _ _ => rfl
  | uint16 =>
    apply @denotes_of_primitive_kind _ encoder array i mapping context
      .uint16 .uint16 _ (.uint16 _) Primitive.uint16Bytes
      hencodes (by rw [hsame]; rfl) rfl (fun _ => rfl) (by rw [hty]; rfl) (plain_of_eq hdt (by simp))
    · exact fun r h => by rw [extractArrowCell, if_neg (by simp [h]), hdt]
    · exact fun value => hdt ▸ .uint16 value
    · exact fun _ _ => rfl
  | int64 =>
    apply @denotes_of_primitive_kind _ encoder array i mapping context
      .int64 .int64 _ (.int64 _) Primitive.int64Bytes
      hencodes (by rw [hsame]; rfl) rfl (fun _ => rfl) (by rw [hty]; rfl) (plain_of_eq hdt (by simp))
    · exact fun r h => by rw [extractArrowCell, if_neg (by simp [h]), hdt]
    · exact fun value => hdt ▸ .int64 value
    · exact fun _ _ => rfl
  | uint32 =>
    apply @denotes_of_primitive_kind _ encoder array i mapping context
      .uint32 .uint32 _ (.uint32 _) Primitive.uint32Bytes
      hencodes (by rw [hsame]; rfl) rfl (fun _ => rfl) (by rw [hty]; rfl) (plain_of_eq hdt (by simp))
    · exact fun r h => by rw [extractArrowCell, if_neg (by simp [h]), hdt]
    · exact fun value => hdt ▸ .uint32 value
    · exact fun _ _ => rfl
  | uint64 =>
    apply @denotes_of_primitive_kind _ encoder array i mapping context
      .uint64 .uint64 _ (.uint64 _) (Primitive.uint64CheckedBigintBytes
        (DirectColumnPlan.fromMapping mapping (.primitive .uint64ToCheckedBigInt)))
      hencodes (by rw [hsame]; rfl) rfl (fun _ => rfl) (by rw [hty]; rfl) (plain_of_eq hdt (by simp))
    · exact fun r h => by rw [extractArrowCell, if_neg (by simp [h]), hdt]
    · exact fun value => hdt ▸ .uint64 value
    · intro value r
      simp only [Primitive.uint64CheckedBigintBytes, convertValue, toOption_bind, toOption_okOr, pure_eq_ok,
        toOption_ok]
      cases SInt.ofInt? 64 value.toNat <;> rfl
  | float16 =>
    apply @denotes_of_primitive_kind _ encoder array i mapping context
      .float16 (fun value => .float16 (Externals.f16ToF32 value)) _ (.float16 _)
      (Primitive.float16Bytes (DirectColumnPlan.fromMapping mapping (.primitive .float16ToReal)))
      hencodes (by rw [hsame]; rfl) rfl (fun _ => rfl) (by rw [hty]; rfl) (plain_of_eq hdt (by simp))
    · exact fun r h => by rw [extractArrowCell, if_neg (by simp [h]), hdt]
    · exact fun value => hdt ▸ .float16 _
    · intro value r
      by_cases h : (Externals.f16ToF32 value).isFinite = true <;>
        simp [Primitive.float16Bytes, Primitive.float32Bytes, convertValue, realCell, Tds.payload, h]
  | float32 =>
    apply @denotes_of_primitive_kind _ encoder array i mapping context
      .float32 .float32 _ (.float32 _)
      (Primitive.float32Bytes (DirectColumnPlan.fromMapping mapping (.primitive .float32ToReal)))
      hencodes (by rw [hsame]; rfl) rfl (fun _ => rfl) (by rw [hty]; rfl) (plain_of_eq hdt (by simp))
    · exact fun r h => by rw [extractArrowCell, if_neg (by simp [h]), hdt]
    · exact fun value => hdt ▸ .float32 value
    · intro value r
      by_cases h : value.isFinite = true <;>
        simp [Primitive.float32Bytes, convertValue, realCell, Tds.payload, h]
  | float64 =>
    apply @denotes_of_primitive_kind _ encoder array i mapping context
      .float64 .float64 _ (.float64 _)
      (Primitive.float64Bytes (DirectColumnPlan.fromMapping mapping (.primitive .float64ToFloat)))
      hencodes (by rw [hsame]; rfl) rfl (fun _ => rfl) (by rw [hty]; rfl) (plain_of_eq hdt (by simp))
    · exact fun r h => by rw [extractArrowCell, if_neg (by simp [h]), hdt]
    · exact fun value => hdt ▸ .float64 value
    · intro value r
      by_cases h : value.isFinite = true <;> simp [Primitive.float64Bytes, convertValue, Tds.payload, h]

section Decimal

variable {classification : DecimalArrowToMssql}

omit [Externals] in
theorem decimal_value_payload (column : DirectColumnPlan) (unscaled : ℤ) (r : ℕ) :
    ((Decimal.normalizedDecimalValue column classification 0 unscaled).toOption.map Decimal.unscaledBytes).map some =
      (convertDecimal mapping r classification unscaled >>= fun value =>
        pure (MssqlCell.decimal (some value))).toOption.map Tds.payload := by
  rw [@normalizedDecimalValue_toOption mapping column r unscaled classification 0, toOption_bind]
  cases (convertDecimal mapping r classification unscaled).toOption <;> rfl

omit [Externals] in
theorem decimal_sources {dataType : DataType} {ty : MssqlType} (h : Encodes dataType ty (.decimal classification)) :
    (∃ p s, dataType = .decimal32 p s ∧ classification.source = .decimal32) ∨
    (∃ p s, dataType = .decimal64 p s ∧ classification.source = .decimal64) ∨
    (∃ p s, dataType = .decimal128 p s ∧ classification.source = .decimal128) ∨
    (∃ p s, dataType = .decimal256 p s ∧ classification.source = .decimal256) := by
  cases h with
  | decimal hsource =>
    rcases hsource with ⟨p, rfl, rfl⟩ | ⟨p, rfl, rfl⟩ | ⟨p, rfl, rfl⟩ | ⟨p, rfl, rfl⟩
    · exact .inl ⟨p, _, rfl, rfl⟩
    · exact .inr (.inl ⟨p, _, rfl, rfl⟩)
    · exact .inr (.inr (.inl ⟨p, _, rfl, rfl⟩))
    · exact .inr (.inr (.inr ⟨p, _, rfl, rfl⟩))

theorem denotes_of_decimal_kind {kind : ArrayKind} {cell : kind.Elem → ArrowCell}
    {bind : Arr kind.Elem → BoundDirectColumn} {value : kind.Elem → Result ℤ}
    (hencodes : Encodes mapping.arrow.dataType mapping.mssql.ty (.decimal classification))
    (hplain : ∀ unit timezone, mapping.arrow.dataType ≠ .timestamp unit timezone)
    (hkind : array.dataType.arrayKind = kind)
    (hbind : bindDirectArray encoder array i (DirectColumnPlan.fromMapping mapping (.decimal classification)) =
      bind <$> downcastDirectArray kind array (DirectColumnPlan.fromMapping mapping (.decimal classification)))
    (hbytes : ∀ data, (bind data).cellBytes context = Decimal.cellBytes data
      (DirectColumnPlan.fromMapping mapping (.decimal classification))
      fun v => (value v).toOption.map Decimal.unscaledBytes)
    (hextract : ∀ r, array.isNull r = false →
      extractArrowCell array mapping r = extractAs kind cell array mapping r)
    (hcell : ∀ value, CellOf mapping.arrow.dataType (cell value))
    (hvalue : ∀ v r, ((value v).toOption.map Decimal.unscaledBytes).map some =
      (convertValue (.decimal classification) context mapping r (cell v)).toOption.map Tds.payload) :
    Denotes encoder context mapping (.decimal classification) array i := by
  obtain ⟨hty, -⟩ := encodes_decimal hencodes
  apply denotes_of_kind hencodes hkind hextract _ (by rw [hty])
    (fun r => convertNull_payload_of_plain (.decimal classification) r hplain) hcell hvalue
  intro data hdata
  refine ⟨bind data, by rw [hbind, hdata, map_ok], fun r => ?_⟩
  rw [hbytes]
  rfl

theorem denotes_decimal (hencodes : Encodes mapping.arrow.dataType mapping.mssql.ty (.decimal classification))
    (hsame : array.dataType = mapping.arrow.dataType) :
    Denotes encoder context mapping (.decimal classification) array i := by
  obtain ⟨p, s, hdt, hsource⟩ | ⟨p, s, hdt, hsource⟩ | ⟨p, s, hdt, hsource⟩ | ⟨p, s, hdt, hsource⟩ :=
    decimal_sources hencodes
  · apply @denotes_of_decimal_kind _ encoder array i mapping context classification .decimal32 .decimal32
      (.decimal32 (DirectColumnPlan.fromMapping mapping (.decimal classification)) classification)
      (fun v => Decimal.decimalValue (DirectColumnPlan.fromMapping mapping (.decimal classification)) classification
        v 0)
      hencodes (plain_of_eq hdt (by simp)) (by rw [hsame, hdt]; rfl) _ (fun _ => rfl)
    · exact fun r h => by rw [extractArrowCell, if_neg (by simp [h]), hdt]
    · exact fun value => hdt ▸ .decimal32 p s value
    · exact fun v r => decimal_value_payload _ v.val r
    · unfold bindDirectArray
      dsimp only [DirectColumnPlan.fromMapping]
      rw [hsource]
  · apply @denotes_of_decimal_kind _ encoder array i mapping context classification .decimal64 .decimal64
      (.decimal64 (DirectColumnPlan.fromMapping mapping (.decimal classification)) classification)
      (fun v => Decimal.decimalValue (DirectColumnPlan.fromMapping mapping (.decimal classification)) classification
        v 0)
      hencodes (plain_of_eq hdt (by simp)) (by rw [hsame, hdt]; rfl) _ (fun _ => rfl)
    · exact fun r h => by rw [extractArrowCell, if_neg (by simp [h]), hdt]
    · exact fun value => hdt ▸ .decimal64 p s value
    · exact fun v r => decimal_value_payload _ v.val r
    · unfold bindDirectArray
      dsimp only [DirectColumnPlan.fromMapping]
      rw [hsource]
  · apply @denotes_of_decimal_kind _ encoder array i mapping context classification .decimal128 .decimal128
      (.decimal128 (DirectColumnPlan.fromMapping mapping (.decimal classification)) classification)
      (fun v => Decimal.decimalValue (DirectColumnPlan.fromMapping mapping (.decimal classification)) classification
        v 0)
      hencodes (plain_of_eq hdt (by simp)) (by rw [hsame, hdt]; rfl) _ (fun _ => rfl)
    · exact fun r h => by rw [extractArrowCell, if_neg (by simp [h]), hdt]
    · exact fun value => hdt ▸ .decimal128 p s value
    · exact fun v r => decimal_value_payload _ v.val r
    · unfold bindDirectArray
      dsimp only [DirectColumnPlan.fromMapping]
      rw [hsource]
  · apply @denotes_of_decimal_kind _ encoder array i mapping context classification .decimal256 .decimal256
      (.decimal256 (DirectColumnPlan.fromMapping mapping (.decimal classification)) classification)
      (fun v => Decimal.decimal256Value (DirectColumnPlan.fromMapping mapping (.decimal classification))
        classification v 0) hencodes (plain_of_eq hdt (by simp)) (by rw [hsame, hdt]; rfl) _ (fun _ => rfl)
    · exact fun r h => by rw [extractArrowCell, if_neg (by simp [h]), hdt]
    · exact fun value => hdt ▸ .decimal256 p s value
    · intro v r
      simp only [Decimal.decimal256Value, Decimal.decimal256ToI128, convertValue, toOption_bind, toOption_okOr]
      cases checkedSigned 128 v.val with
      | none => rfl
      | some unscaled => exact (decimal_value_payload _ unscaled r).trans (by simp only [toOption_bind]; rfl)
    · unfold bindDirectArray
      dsimp only [DirectColumnPlan.fromMapping]
      rw [hsource]

theorem denotes_uint64Decimal
    (hencodes : Encodes mapping.arrow.dataType mapping.mssql.ty .uint64Decimal20_0)
    (hsame : array.dataType = mapping.arrow.dataType) :
    Denotes encoder context mapping .uint64Decimal20_0 array i := by
  have hencodes' := hencodes
  generalize hdt : mapping.arrow.dataType = dataType at hencodes' hsame
  generalize hty : mapping.mssql.ty = ty at hencodes'
  cases hencodes'
  apply @denotes_of_kind _ encoder array i mapping .uint64Decimal20_0 context .uint64 .uint64 .bytePrefixed _
    (fun v => (Decimal.uint64Value v 0).toOption.map Decimal.unscaledBytes) hencodes (by rw [hsame]; rfl) _ _
    (by rw [hty]; rfl) (fun r => convertNull_payload_of_plain .uint64Decimal20_0 r (plain_of_eq hdt (by simp)))
  · exact fun value => hdt ▸ .uint64 value
  · intro value r
    have hfits : decimalUnscaledFitsPrecision value.toNat 20 = true := by
      rw [decimalUnscaledFitsPrecision_iff (by decide) (by decide)]
      have := value.toNat_lt
      simp only [Int.natAbs_natCast]
      omega
    simp only [Decimal.uint64Value, convertValue, mssqlDecimalWithShape, hfits, ensure_of, ok_bind, pure_eq_ok,
      toOption_ok]
    rfl
  · exact fun r h => by rw [extractArrowCell, if_neg (by simp [h]), hdt]
  · intro data hdata
    refine ⟨.uint64Decimal20_0 _ data, ?_, fun r => rfl⟩
    have hbind : bindDirectArray encoder array i (DirectColumnPlan.fromMapping mapping .uint64Decimal20_0) =
      BoundDirectColumn.uint64Decimal20_0 _ <$> downcastDirectArray .uint64 array _ := rfl
    rw [hbind, hdata, map_ok]

end Decimal

section VariableWidth

variable {length : MssqlTypeLength}

theorem extractArrowCell_string {r : ℕ} (hfamily : isArrowStringFamily mapping.arrow.dataType = true)
    (h : array.isNull r = false) : extractArrowCell array mapping r = extractUtf8Cell array mapping r := by
  obtain hdt | hdt | hdt := isArrowStringFamily_iff.mp hfamily
  all_goals rw [extractArrowCell, if_neg (by simp [h]), hdt]

theorem extractArrowCell_binary {r : ℕ} (hfamily : isArrowBinaryFamily mapping.arrow.dataType = true)
    (h : array.isNull r = false) : extractArrowCell array mapping r = extractBinaryCell array mapping r := by
  obtain hdt | hdt | hdt := isArrowBinaryFamily_iff.mp hfamily
  all_goals rw [extractArrowCell, if_neg (by simp [h]), hdt]

omit [Externals] in
theorem cellOf_utf8 (hfamily : isArrowStringFamily mapping.arrow.dataType = true) (value : String) :
    CellOf mapping.arrow.dataType (.utf8 value) := by
  obtain hdt | hdt | hdt := isArrowStringFamily_iff.mp hfamily
  all_goals
    rw [hdt]
    constructor

omit [Externals] in
theorem cellOf_binary (hfamily : isArrowBinaryFamily mapping.arrow.dataType = true) (value : List UInt8) :
    CellOf mapping.arrow.dataType (.binary value) := by
  obtain hdt | hdt | hdt := isArrowBinaryFamily_iff.mp hfamily
  all_goals
    rw [hdt]
    constructor

theorem nvarcharPayload_eq (value : String) (r : ℕ) : (VariableWidth.nvarcharPayload length value).map some =
    (convertValue (.variableWidth (.stringToNVarChar length)) context mapping r (.utf8 value)).toOption.map
      Tds.payload := by
  simp only [VariableWidth.nvarcharPayload, convertValue, toOption_bind, toOption_ensure, pure_eq_ok, toOption_ok]
  by_cases h : exceedsLength length (Utf16.encode value.toList).length = true <;> simp [h, Tds.payload]

theorem varbinaryPayload_eq (value : List UInt8) (r : ℕ) : (VariableWidth.varbinaryPayload length value).map some =
    (convertValue (.variableWidth (.bytesToVarBinary length)) context mapping r (.binary value)).toOption.map
      Tds.payload := by
  simp only [VariableWidth.varbinaryPayload, convertValue, toOption_bind, toOption_ensure, pure_eq_ok, toOption_ok]
  by_cases h : exceedsLength length value.length = true <;> simp [h, Tds.payload]

omit [Externals] in
theorem framing_nVarChar (length : MssqlTypeLength) (nullable : Bool) :
    VariableWidth.framing length = Tds.framingOf (.nVarChar length) nullable := by
  cases length <;> rfl

omit [Externals] in
theorem framing_varBinary (length : MssqlTypeLength) (nullable : Bool) :
    VariableWidth.framing length = Tds.framingOf (.varBinary length) nullable := by
  cases length <;> rfl

theorem bindDirectArray_nvarchar (hmapping : encoder.mappings[i]? = some mapping) :
    bindDirectArray encoder array i
        (DirectColumnPlan.fromMapping mapping (.variableWidth (.stringToNVarChar length))) =
      bindDirectNvarcharArray array
        (DirectColumnPlan.fromMapping mapping (.variableWidth (.stringToNVarChar length))) mapping := by
  unfold bindDirectArray
  dsimp only [DirectColumnPlan.fromMapping]
  rw [mappingForColumnIndex_eq_ok.mpr hmapping, ok_bind]

theorem bindDirectArray_varbinary (hmapping : encoder.mappings[i]? = some mapping) :
    bindDirectArray encoder array i
        (DirectColumnPlan.fromMapping mapping (.variableWidth (.bytesToVarBinary length))) =
      bindDirectVarbinaryArray array
        (DirectColumnPlan.fromMapping mapping (.variableWidth (.bytesToVarBinary length))) mapping := by
  unfold bindDirectArray
  dsimp only [DirectColumnPlan.fromMapping]
  rw [mappingForColumnIndex_eq_ok.mpr hmapping, ok_bind]

theorem denotes_string
    (hencodes : Encodes mapping.arrow.dataType mapping.mssql.ty (.variableWidth (.stringToNVarChar length)))
    (hmapping : encoder.mappings[i]? = some mapping) (hfamily : isArrowStringFamily mapping.arrow.dataType = true)
    (hty : mapping.mssql.ty = .nVarChar length) (hruntime : isArrowStringFamily array.dataType = true) :
    Denotes encoder context mapping (.variableWidth (.stringToNVarChar length)) array i := by
  have hplain : ∀ unit timezone, mapping.arrow.dataType ≠ .timestamp unit timezone := by
    intro unit timezone h
    simp [h, isArrowStringFamily] at hfamily
  have hkind {kind : ArrayKind} {asText : kind.Elem → String} {bind : Arr kind.Elem → BoundDirectColumn}
      (hkind : array.dataType.arrayKind = kind)
      (hextract : ∀ r, extractUtf8Cell array mapping r = extractAs kind (fun v => .utf8 (asText v)) array mapping r)
      (hbind : bindDirectNvarcharArray array
        (DirectColumnPlan.fromMapping mapping (.variableWidth (.stringToNVarChar length))) mapping =
          bind <$> downcastDirectArray kind array
            (DirectColumnPlan.fromMapping mapping (.variableWidth (.stringToNVarChar length))))
      (hbytes : ∀ data, (bind data).cellBytes context = columnBytes (VariableWidth.framing length)
        (columnContent (nullContent
          (DirectColumnPlan.fromMapping mapping (.variableWidth (.stringToNVarChar length)))) data
          fun v => VariableWidth.nvarcharPayload length (asText v))) :
      Denotes encoder context mapping (.variableWidth (.stringToNVarChar length)) array i := by
    have hframing : VariableWidth.framing length = Tds.framingOf mapping.mssql.ty mapping.mssql.nullable := by
      rw [hty, framing_nVarChar]
    apply denotes_of_kind hencodes hkind _ _ hframing
      (fun r => convertNull_payload_of_plain (.variableWidth (.stringToNVarChar length)) r hplain)
      (fun value => cellOf_utf8 hfamily (asText value)) (fun value r => nvarcharPayload_eq (asText value) r)
    · intro r h
      rw [extractArrowCell_string hfamily h, hextract]
    · intro data hdata
      refine ⟨bind data, by rw [bindDirectArray_nvarchar hmapping, hbind, hdata, map_ok], fun r => ?_⟩
      rw [hbytes]
  obtain hdt | hdt | hdt := isArrowStringFamily_iff.mp hruntime
  · apply @hkind .utf8 id (.utf8 _) (by rw [hdt]; rfl) _ _ (fun _ => rfl)
    · exact fun r => by rw [extractUtf8Cell, hdt]; rfl
    · rw [bindDirectNvarcharArray, if_pos (isStringFamilyToNvarchar_iff.mpr ⟨hfamily, length, hty⟩), hdt]
  · apply @hkind .largeUtf8 id (.largeUtf8 _) (by rw [hdt]; rfl) _ _ (fun _ => rfl)
    · exact fun r => by rw [extractUtf8Cell, hdt]; rfl
    · rw [bindDirectNvarcharArray, if_pos (isStringFamilyToNvarchar_iff.mpr ⟨hfamily, length, hty⟩), hdt]
  · apply @hkind .utf8View id (.utf8View _) (by rw [hdt]; rfl) _ _ (fun _ => rfl)
    · exact fun r => by rw [extractUtf8Cell, hdt]; rfl
    · rw [bindDirectNvarcharArray, if_pos (isStringFamilyToNvarchar_iff.mpr ⟨hfamily, length, hty⟩), hdt]

theorem denotes_bytes
    (hencodes : Encodes mapping.arrow.dataType mapping.mssql.ty (.variableWidth (.bytesToVarBinary length)))
    (hmapping : encoder.mappings[i]? = some mapping) (hfamily : isArrowBinaryFamily mapping.arrow.dataType = true)
    (hty : mapping.mssql.ty = .varBinary length) (hruntime : isArrowBinaryFamily array.dataType = true) :
    Denotes encoder context mapping (.variableWidth (.bytesToVarBinary length)) array i := by
  have hplain : ∀ unit timezone, mapping.arrow.dataType ≠ .timestamp unit timezone := by
    intro unit timezone h
    simp [h, isArrowBinaryFamily] at hfamily
  have hkind {kind : ArrayKind} {asBytes : kind.Elem → List UInt8} {bind : Arr kind.Elem → BoundDirectColumn}
      (hkind : array.dataType.arrayKind = kind)
      (hextract : ∀ r,
        extractBinaryCell array mapping r = extractAs kind (fun v => .binary (asBytes v)) array mapping r)
      (hbind : bindDirectVarbinaryArray array
        (DirectColumnPlan.fromMapping mapping (.variableWidth (.bytesToVarBinary length))) mapping =
          bind <$> downcastDirectArray kind array
            (DirectColumnPlan.fromMapping mapping (.variableWidth (.bytesToVarBinary length))))
      (hbytes : ∀ data, (bind data).cellBytes context = columnBytes (VariableWidth.framing length)
        (columnContent (nullContent
          (DirectColumnPlan.fromMapping mapping (.variableWidth (.bytesToVarBinary length)))) data
          fun v => VariableWidth.varbinaryPayload length (asBytes v))) :
      Denotes encoder context mapping (.variableWidth (.bytesToVarBinary length)) array i := by
    have hframing : VariableWidth.framing length = Tds.framingOf mapping.mssql.ty mapping.mssql.nullable := by
      rw [hty, framing_varBinary]
    apply denotes_of_kind hencodes hkind _ _ hframing
      (fun r => convertNull_payload_of_plain (.variableWidth (.bytesToVarBinary length)) r hplain)
      (fun value => cellOf_binary hfamily (asBytes value)) (fun value r => varbinaryPayload_eq (asBytes value) r)
    · intro r h
      rw [extractArrowCell_binary hfamily h, hextract]
    · intro data hdata
      refine ⟨bind data, by rw [bindDirectArray_varbinary hmapping, hbind, hdata, map_ok], fun r => ?_⟩
      rw [hbytes]
  obtain hdt | hdt | hdt := isArrowBinaryFamily_iff.mp hruntime
  · apply @hkind .binary id (.binary _) (by rw [hdt]; rfl) _ _ (fun _ => rfl)
    · exact fun r => by rw [extractBinaryCell, hdt]; rfl
    · rw [bindDirectVarbinaryArray, if_pos (isBinaryFamilyToVarbinary_iff.mpr ⟨hfamily, length, hty⟩), hdt]
  · apply @hkind .largeBinary id (.largeBinary _) (by rw [hdt]; rfl) _ _ (fun _ => rfl)
    · exact fun r => by rw [extractBinaryCell, hdt]; rfl
    · rw [bindDirectVarbinaryArray, if_pos (isBinaryFamilyToVarbinary_iff.mpr ⟨hfamily, length, hty⟩), hdt]
  · apply @hkind .binaryView id (.binaryView _) (by rw [hdt]; rfl) _ _ (fun _ => rfl)
    · exact fun r => by rw [extractBinaryCell, hdt]; rfl
    · rw [bindDirectVarbinaryArray, if_pos (isBinaryFamilyToVarbinary_iff.mpr ⟨hfamily, length, hty⟩), hdt]

theorem denotes_fixedSizeBinary {classification : FixedSizeBinaryArrowToMssql}
    (hencodes : Encodes mapping.arrow.dataType mapping.mssql.ty (.fixedSizeBinary classification))
    (hsame : array.dataType = mapping.arrow.dataType) :
    Denotes encoder context mapping (.fixedSizeBinary classification) array i := by
  have hencodes' := hencodes
  generalize hdt : mapping.arrow.dataType = dataType at hencodes' hsame
  generalize hty : mapping.mssql.ty = ty at hencodes'
  cases hencodes' with
  | @fixedSizeBinary length =>
    obtain ⟨data, hdata, -, hisNull, hvalue⟩ := ArrayRef.downcastFixedSizeBinary_eq_some hsame
    have hbind : bindDirectArray encoder array i (DirectColumnPlan.fromMapping mapping
        (.fixedSizeBinary (.fixedSizeBinaryToBinary length))) =
        .ok (.fixedSizeBinary (DirectColumnPlan.fromMapping mapping
          (.fixedSizeBinary (.fixedSizeBinaryToBinary length))) (.fixedSizeBinaryToBinary length) data) := by
      have hdown : downcastDirectFixedSizeBinary array (DirectColumnPlan.fromMapping mapping
          (.fixedSizeBinary (.fixedSizeBinaryToBinary length))) = .ok data := by
        rw [downcastDirectFixedSizeBinary, hdata, okOr_some]
      unfold bindDirectArray
      dsimp only [DirectColumnPlan.fromMapping] at hdown ⊢
      rw [hdown, map_ok]
    refine ⟨_, hbind, fun r => ?_⟩
    have hframing : Tds.Framing.shortPrefixed = Tds.framingOf mapping.mssql.ty mapping.mssql.nullable := by
      rw [hty]
      rfl
    rw [BoundDirectColumn.cellBytes, FixedSizeBinary.cellBytes, hframing]
    apply @columnBytes_eq_wireCell _ array mapping _ context _ data _ _ .binary hencodes hisNull _
      (fun r => convertNull_payload_of_plain _ r (plain_of_eq hdt (by simp)))
    · exact fun r => hdt ▸ .fixedSizeBinary length (data.value r) (hvalue r)
    · intro r
      have hlength : (data.value r).length = length := by simpa using hvalue r
      exact congrArg (Option.map some) (if_pos hlength)
    · intro r h
      rw [extractArrowCell, if_neg (by simp [h]), hdt]
      dsimp only
      rw [hdata, okOr_some, ok_bind, pure_eq_ok]

end VariableWidth

section Temporal

variable {classification : TemporalArrowToMssql}

theorem validateMapping_toOption (mapping : SchemaMapping) (r : ℕ) :
    (validateMappingTimestampTimezoneMetadata mapping r).toOption =
      if Temporal.zonesResolve mapping then some () else none := by
  by_cases h : Temporal.zonesResolve mapping = true
  · rw [if_pos h, toOption_eq_some, Temporal.validateMapping_eq_ok, h]
  · rw [if_neg h]
    by_contra hsome
    obtain ⟨u, hu⟩ := Option.ne_none_iff_exists'.mp hsome
    exact h (Temporal.validateMapping_eq_ok.mp (toOption_eq_some.mp hu))

omit [Externals] in
theorem framing_temporal (hencodes : Encodes mapping.arrow.dataType mapping.mssql.ty (.temporal classification)) :
    Temporal.framing (DirectColumnPlan.fromMapping mapping (.temporal classification)) =
      Tds.framingOf mapping.mssql.ty mapping.mssql.nullable := by
  unfold Temporal.framing
  dsimp only [DirectColumnPlan.fromMapping]
  generalize mapping.arrow.dataType = dataType at hencodes
  generalize mapping.mssql.ty = ty at hencodes
  cases hencodes <;> rfl

theorem denotes_of_temporal_kind {kind : ArrayKind} {cell : kind.Elem → ArrowCell}
    {bind : Arr kind.Elem → BoundDirectColumn} {valueOf : kind.Elem → Option Temporal.TemporalValue}
    (hencodes : Encodes mapping.arrow.dataType mapping.mssql.ty (.temporal classification))
    (hkind : array.dataType.arrayKind = kind)
    (hbind : bindDirectArray encoder array i (DirectColumnPlan.fromMapping mapping (.temporal classification)) =
      bind <$> downcastDirectArray kind array (DirectColumnPlan.fromMapping mapping (.temporal classification)))
    (hbytes : ∀ data, (bind data).cellBytes context = Temporal.cellBytes data mapping
      (DirectColumnPlan.fromMapping mapping (.temporal classification)) valueOf)
    (hextract : ∀ r, array.isNull r = false →
      extractArrowCell array mapping r = extractAs kind cell array mapping r)
    (hcell : ∀ value, CellOf mapping.arrow.dataType (cell value))
    (hvalue : ∀ v r, (if Temporal.zonesResolve mapping then (valueOf v).map Temporal.TemporalValue.cell else none) =
      (convertValue (.temporal classification) context mapping r (cell v)).toOption) :
    Denotes encoder context mapping (.temporal classification) array i := by
  apply @denotes_of_kind _ encoder array i mapping (.temporal classification) context kind cell
    (Temporal.framing (DirectColumnPlan.fromMapping mapping (.temporal classification)))
    (if Temporal.zonesResolve mapping then
      nullContent (DirectColumnPlan.fromMapping mapping (.temporal classification)) else none)
    (fun v => if Temporal.zonesResolve mapping then (valueOf v).map Temporal.TemporalValue.content else none)
    hencodes hkind hextract _ (framing_temporal hencodes)
    (fun r => (convertNull_payload mapping (.temporal classification) r).symm) hcell
  · intro v r
    rw [← hvalue v r]
    by_cases h : Temporal.zonesResolve mapping = true
    · simp only [h, if_true, Option.map_map]
      congr 1
      funext value
      exact (Temporal.TemporalValue.payload_cell value).symm
    · simp [h]
  · intro data hdata
    refine ⟨bind data, by rw [hbind, hdata, map_ok], fun r => ?_⟩
    rw [hbytes]
    rfl

theorem value_toOption {β : Type} {x y : Result β} {mk : β → Temporal.TemporalValue}
    (hzones : Temporal.zonesResolve mapping = true) (hrow : x.toOption = y.toOption) :
    (if Temporal.zonesResolve mapping then ((mk <$> x).toOption).map Temporal.TemporalValue.cell else none) =
      (y >>= fun value => pure (mk value).cell).toOption := by
  rw [if_pos hzones, toOption_map, hrow, toOption_bind, Option.map_map]
  cases y.toOption <;> rfl

theorem zoned_value {β : Type} {x y : Result β} {mk : β → Temporal.TemporalValue} {r : ℕ}
    (hrow : x.toOption = y.toOption) :
    (if Temporal.zonesResolve mapping then ((mk <$> x).toOption).map Temporal.TemporalValue.cell else none) = (do
      validateMappingTimestampTimezoneMetadata mapping r
      let value ← y
      pure (mk value).cell).toOption := by
  rw [toOption_bind, validateMapping_toOption]
  by_cases h : Temporal.zonesResolve mapping = true
  · rw [value_toOption h hrow, if_pos h, Option.bind_some]
  · rw [if_neg h, if_neg h, Option.bind_none]

theorem datetime2_value {unit : TimeUnit} {precision : ℕ} {encoding : DirectColumnEncoding}
    (hty : mapping.mssql.ty = .dateTime2 precision) (v : SInt 64) (r : ℕ) :
    (if Temporal.zonesResolve mapping then ((Temporal.timestampValue unit mapping context
      (DirectColumnPlan.fromMapping mapping encoding) v 0).toOption).map Temporal.TemporalValue.cell else none) = (do
      validateMappingTimestampTimezoneMetadata mapping r
      let value ← timestampDatetime2 unit mapping r v context.nanosecondPolicy
      pure (MssqlCell.dateTime2 (some value))).toOption := by
  have hvalue : Temporal.timestampValue unit mapping context (DirectColumnPlan.fromMapping mapping encoding) v 0 =
      Temporal.TemporalValue.dateTime2 <$> timestampDatetime2 unit mapping 0 v context.nanosecondPolicy := by
    simp only [Temporal.timestampValue, DirectColumnPlan.fromMapping, hty]
  rw [hvalue]
  exact zoned_value (timestampDatetime2_toOption rfl rfl)

theorem datetime_value {unit : TimeUnit} {encoding : DirectColumnEncoding} (hty : mapping.mssql.ty = .dateTime)
    (v : SInt 64) (r : ℕ) :
    (if Temporal.zonesResolve mapping then ((Temporal.timestampValue unit mapping context
      (DirectColumnPlan.fromMapping mapping encoding) v 0).toOption).map Temporal.TemporalValue.cell else none) = (do
      validateMappingTimestampTimezoneMetadata mapping r
      let value ← timestampDatetime unit mapping r v context.nanosecondPolicy context.datetimeRounding
      pure (MssqlCell.dateTime (some value))).toOption := by
  have hvalue : Temporal.timestampValue unit mapping context (DirectColumnPlan.fromMapping mapping encoding) v 0 =
      Temporal.TemporalValue.dateTime <$>
        timestampDatetime unit mapping 0 v context.nanosecondPolicy context.datetimeRounding := by
    simp only [Temporal.timestampValue, DirectColumnPlan.fromMapping, hty]
  rw [hvalue]
  exact zoned_value (timestampDatetime_toOption rfl)

theorem datetimeoffset_value {unit : TimeUnit} {timezone : Option String}
    (hdt : mapping.arrow.dataType = .timestamp unit timezone) (hzoned : isTimezoneFree timezone = false) (v : SInt 64)
    (r : ℕ) :
    (if Temporal.zonesResolve mapping then ((Temporal.TemporalValue.dateTimeOffset <$>
      Temporal.datetimeoffsetValue unit mapping context v 0).toOption).map Temporal.TemporalValue.cell
      else none) = (do
      let value ← timestampDatetimeoffset unit mapping r v ((timestampTimezone mapping).getD "")
        context.nanosecondPolicy
      pure (MssqlCell.dateTimeOffset (some value))).toOption := by
  obtain ⟨text, rfl⟩ : ∃ text, timezone = some text := by
    cases timezone with
    | none => simp [isTimezoneFree] at hzoned
    | some text => exact ⟨text, rfl⟩
  have hnonempty : text.isEmpty = false := by simpa [isTimezoneFree] using hzoned
  have hdirect (r : ℕ) : Temporal.datetimeoffsetValue unit mapping context v r =
      timestampDatetimeoffset unit mapping r v text context.nanosecondPolicy := by
    simp only [Temporal.datetimeoffsetValue, Temporal.timestampTimezoneForDatetimeoffset, hdt]
    rw [ensure_of (by simp [hnonempty]), ok_bind, pure_eq_ok, ok_bind]
  have htext : (timestampTimezone mapping).getD "" = text := by
    simp only [timestampTimezone, hdt, Option.getD_some]
  have hrow : (timestampDatetimeoffset unit mapping 0 v text context.nanosecondPolicy).toOption =
      (timestampDatetimeoffset unit mapping r v text context.nanosecondPolicy).toOption :=
    timestampDatetimeoffset_toOption rfl
  rw [hdirect, htext]
  by_cases h : Temporal.zonesResolve mapping = true
  · exact value_toOption h hrow
  · rw [if_neg h, toOption_bind]
    cases hvalue : (timestampDatetimeoffset unit mapping r v text context.nanosecondPolicy).toOption with
    | none => rfl
    | some value =>
      obtain ⟨resolution, hresolution⟩ := resolution_of_datetimeoffset (toOption_eq_some.mp hvalue)
      have hvalid : validateMappingTimestampTimezoneMetadata mapping r = .ok () := by
        simp only [validateMappingTimestampTimezoneMetadata, hdt, validateTimestampTimezoneMetadata, Option.filter,
          hnonempty, Bool.not_false, if_true, hresolution, ok_bind, pure_eq_ok]
      exact absurd (Temporal.validateMapping_eq_ok.mp hvalid) h

theorem denotes_temporal (hencodes : Encodes mapping.arrow.dataType mapping.mssql.ty (.temporal classification))
    (hmapping : encoder.mappings[i]? = some mapping) (hsame : array.dataType = mapping.arrow.dataType) :
    Denotes encoder context mapping (.temporal classification) array i := by
  have hmapping' := mappingForColumnIndex_eq_ok.mpr hmapping
  have hencodes' := hencodes
  generalize hdt : mapping.arrow.dataType = dataType at hencodes' hsame
  generalize hty : mapping.mssql.ty = ty at hencodes'
  cases hencodes' with
  | date32 =>
    apply @denotes_of_temporal_kind _ encoder array i mapping context
      .date32ToDate .date32 .date32 (.date32 _ mapping)
      (fun v => (Temporal.TemporalValue.date <$> mssqlDateFromArrowDate32 mapping 0 v).toOption)
      hencodes (by rw [hsame]; rfl) _ (fun _ => rfl)
    · exact fun r h => by rw [extractArrowCell, if_neg (by simp [h]), hdt]
    · exact fun value => hdt ▸ .date32 value
    · intro v r
      have hrow (s : ℕ) := @Temporal.mssqlDateFromArrowDate32_toOption
        (DirectColumnPlan.fromMapping mapping (.temporal .date32ToDate)) mapping 0 s v
      exact value_toOption (Temporal.zonesResolve_of_plain (plain_of_eq hdt (by simp))) ((hrow 0).symm.trans (hrow r))
    · unfold bindDirectArray
      dsimp only [DirectColumnPlan.fromMapping]
      rw [hmapping', ok_bind]
  | date64 =>
    apply @denotes_of_temporal_kind _ encoder array i mapping context
      .date64ToDateTime2 .date64 .date64 (.date64 _ mapping)
      (fun v => (Temporal.TemporalValue.dateTime2 <$> mssqlDatetime2FromArrowDate64 mapping 0 v).toOption)
      hencodes (by rw [hsame]; rfl) _ (fun _ => rfl)
    · exact fun r h => by rw [extractArrowCell, if_neg (by simp [h]), hdt]
    · exact fun value => hdt ▸ .date64 value
    · intro v r
      have hrow (s : ℕ) := @Temporal.mssqlDatetime2FromArrowDate64_toOption
        (DirectColumnPlan.fromMapping mapping (.temporal .date64ToDateTime2)) mapping 0 s v
      exact value_toOption (Temporal.zonesResolve_of_plain (plain_of_eq hdt (by simp))) ((hrow 0).symm.trans (hrow r))
    · unfold bindDirectArray
      dsimp only [DirectColumnPlan.fromMapping]
      rw [hmapping', ok_bind]
  | time32Second =>
    apply @denotes_of_temporal_kind _ encoder array i mapping context
      .time32SecondToTime .time32Second .time32Second (.time32Second _ mapping)
      (fun v => (Temporal.TemporalValue.time <$> mssqlTimeFromArrowTime32Second mapping 0 v).toOption)
      hencodes (by rw [hsame]; rfl) _ (fun _ => rfl)
    · exact fun r h => by rw [extractArrowCell, if_neg (by simp [h]), hdt]
    · exact fun value => hdt ▸ .time32Second value
    · intro v r
      exact value_toOption (Temporal.zonesResolve_of_plain (plain_of_eq hdt (by simp))) timeFromI64_toOption
    · unfold bindDirectArray
      dsimp only [DirectColumnPlan.fromMapping]
      rw [hmapping', ok_bind]
  | time32Millisecond =>
    apply @denotes_of_temporal_kind _ encoder array i mapping context
      .time32MillisecondToTime .time32Millisecond .time32Millisecond (.time32Millisecond _ mapping)
      (fun v => (Temporal.TemporalValue.time <$> mssqlTimeFromArrowTime32Millisecond mapping 0 v).toOption)
      hencodes (by rw [hsame]; rfl) _ (fun _ => rfl)
    · exact fun r h => by rw [extractArrowCell, if_neg (by simp [h]), hdt]
    · exact fun value => hdt ▸ .time32Millisecond value
    · intro v r
      exact value_toOption (Temporal.zonesResolve_of_plain (plain_of_eq hdt (by simp))) timeFromI64_toOption
    · unfold bindDirectArray
      dsimp only [DirectColumnPlan.fromMapping]
      rw [hmapping', ok_bind]
  | time64Microsecond =>
    apply @denotes_of_temporal_kind _ encoder array i mapping context
      .time64MicrosecondToTime .time64Microsecond .time64Microsecond (.time64Microsecond _ mapping)
      (fun v => (Temporal.TemporalValue.time <$> mssqlTimeFromArrowTime64Microsecond mapping 0 v).toOption)
      hencodes (by rw [hsame]; rfl) _ (fun _ => rfl)
    · exact fun r h => by rw [extractArrowCell, if_neg (by simp [h]), hdt]
    · exact fun value => hdt ▸ .time64Microsecond value
    · intro v r
      exact value_toOption (Temporal.zonesResolve_of_plain (plain_of_eq hdt (by simp))) timeFromI64_toOption
    · unfold bindDirectArray
      dsimp only [DirectColumnPlan.fromMapping]
      rw [hmapping', ok_bind]
  | time64Nanosecond =>
    apply @denotes_of_temporal_kind _ encoder array i mapping context
      .time64NanosecondToTime .time64Nanosecond .time64Nanosecond (.time64Nanosecond _ mapping)
      (fun v => (Temporal.TemporalValue.time <$>
        mssqlTimeFromArrowTime64Nanosecond mapping 0 v context.nanosecondPolicy).toOption)
      hencodes (by rw [hsame]; rfl) _ (fun _ => rfl)
    · exact fun r h => by rw [extractArrowCell, if_neg (by simp [h]), hdt]
    · exact fun value => hdt ▸ .time64Nanosecond value
    · intro v r
      exact value_toOption (Temporal.zonesResolve_of_plain (plain_of_eq hdt (by simp))) (timeFromNanoseconds_toOption v)
    · unfold bindDirectArray
      dsimp only [DirectColumnPlan.fromMapping]
      rw [hmapping', ok_bind]
  | @timestampDateTime2 unit timezone precision =>
    apply @denotes_of_temporal_kind _ encoder array i mapping context
      (.timestampToDateTime2 unit) (.timestamp unit) (.timestamp unit)
      (.timestamp unit _ mapping) (fun v => (Temporal.timestampValue unit mapping context
        (DirectColumnPlan.fromMapping mapping (.temporal (.timestampToDateTime2 unit))) v 0).toOption)
      hencodes (by rw [hsame]; rfl) _ (fun _ => rfl)
    · exact fun r h => by rw [extractArrowCell, if_neg (by simp [h]), hdt]
    · exact fun value => hdt ▸ .timestamp unit timezone value
    · intro v r
      exact datetime2_value hty v r
    · unfold bindDirectArray
      dsimp only [DirectColumnPlan.fromMapping]
      rw [hmapping', ok_bind]
  | @timestampTzDateTime2 unit timezone precision =>
    apply @denotes_of_temporal_kind _ encoder array i mapping context
      (.timestampTzToDateTime2 unit) (.timestamp unit) (.timestamp unit)
      (.timestamp unit _ mapping) (fun v => (Temporal.timestampValue unit mapping context
        (DirectColumnPlan.fromMapping mapping (.temporal (.timestampTzToDateTime2 unit))) v 0).toOption)
      hencodes (by rw [hsame]; rfl) _ (fun _ => rfl)
    · exact fun r h => by rw [extractArrowCell, if_neg (by simp [h]), hdt]
    · exact fun value => hdt ▸ .timestamp unit timezone value
    · intro v r
      exact datetime2_value hty v r
    · unfold bindDirectArray
      dsimp only [DirectColumnPlan.fromMapping]
      rw [hmapping', ok_bind]
  | @timestampDateTime unit timezone =>
    apply @denotes_of_temporal_kind _ encoder array i mapping context
      (.timestampToDateTime unit) (.timestamp unit) (.timestamp unit)
      (.timestamp unit _ mapping) (fun v => (Temporal.timestampValue unit mapping context
        (DirectColumnPlan.fromMapping mapping (.temporal (.timestampToDateTime unit))) v 0).toOption)
      hencodes (by rw [hsame]; rfl) _ (fun _ => rfl)
    · exact fun r h => by rw [extractArrowCell, if_neg (by simp [h]), hdt]
    · exact fun value => hdt ▸ .timestamp unit timezone value
    · intro v r
      exact datetime_value hty v r
    · unfold bindDirectArray
      dsimp only [DirectColumnPlan.fromMapping]
      rw [hmapping', ok_bind]
  | @timestampTzDateTime unit timezone =>
    apply @denotes_of_temporal_kind _ encoder array i mapping context
      (.timestampTzToDateTime unit) (.timestamp unit) (.timestamp unit)
      (.timestamp unit _ mapping) (fun v => (Temporal.timestampValue unit mapping context
        (DirectColumnPlan.fromMapping mapping (.temporal (.timestampTzToDateTime unit))) v 0).toOption)
      hencodes (by rw [hsame]; rfl) _ (fun _ => rfl)
    · exact fun r h => by rw [extractArrowCell, if_neg (by simp [h]), hdt]
    · exact fun value => hdt ▸ .timestamp unit timezone value
    · intro v r
      exact datetime_value hty v r
    · unfold bindDirectArray
      dsimp only [DirectColumnPlan.fromMapping]
      rw [hmapping', ok_bind]
  | @dateTimeOffset unit timezone hzoned =>
    apply @denotes_of_temporal_kind _ encoder array i mapping context
      (.timestampTzToDateTimeOffset unit)
      (.timestamp unit) (.timestamp unit) (.dateTimeOffset unit _ mapping) (fun v =>
        (Temporal.TemporalValue.dateTimeOffset <$> Temporal.datetimeoffsetValue unit mapping context v 0).toOption)
      hencodes (by rw [hsame]; rfl) _ (fun _ => rfl)
    · exact fun r h => by rw [extractArrowCell, if_neg (by simp [h]), hdt]
    · exact fun value => hdt ▸ .timestamp unit timezone value
    · intro v r
      exact datetimeoffset_value hdt hzoned v r
    · unfold bindDirectArray
      dsimp only [DirectColumnPlan.fromMapping]
      rw [hmapping', ok_bind]

end Temporal

/-- An array of a compatible type binds to the column's encoding and is written as the baseline converts it. -/
theorem denotes_of_compatible (hencodes : Encodes mapping.arrow.dataType mapping.mssql.ty encoding)
    (hmapping : encoder.mappings[i]? = some mapping)
    (hcompatible : arrowTypeCompatibleWithMapping array.dataType mapping = true) :
    Denotes encoder context mapping encoding array i := by
  have hencodes' := hencodes
  have hsame := compatible_eq hcompatible
  have hplain : (∀ classification, encoding ≠ .variableWidth classification) →
      array.dataType = mapping.arrow.dataType := by
    intro h
    generalize hdt : mapping.arrow.dataType = dataType at hencodes' hsame ⊢
    generalize mapping.mssql.ty = ty at hencodes'
    cases hencodes' with
    | nVarChar | varBinary => exact absurd rfl (h _)
    | decimal hsource =>
      rcases hsource with ⟨p, rfl, -⟩ | ⟨p, rfl, -⟩ | ⟨p, rfl, -⟩ | ⟨p, rfl, -⟩ <;> exact hsame rfl rfl
    | _ => exact hsame rfl rfl
  cases encoding with
  | primitive classification => exact denotes_primitive hencodes (hplain (by simp))
  | uint64Decimal20_0 => exact denotes_uint64Decimal hencodes (hplain (by simp))
  | decimal classification => exact denotes_decimal hencodes (hplain (by simp))
  | fixedSizeBinary classification => exact denotes_fixedSizeBinary hencodes (hplain (by simp))
  | temporal classification => exact denotes_temporal hencodes hmapping (hplain (by simp))
  | variableWidth classification =>
    have hstring := compatible_string hcompatible
    have hbinary := compatible_binary hcompatible
    generalize hdt : mapping.arrow.dataType = dataType at hencodes' hstring hbinary
    generalize hty : mapping.mssql.ty = ty at hencodes'
    cases hencodes' with
    | nVarChar h => exact denotes_string hencodes hmapping (hdt ▸ h) hty (hstring h)
    | varBinary h => exact denotes_bytes hencodes hmapping (hdt ▸ h) hty (hbinary h)

end Bind

end ArrowTiberius.Direct
