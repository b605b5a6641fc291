import ArrowTiberius.Writer.TargetColumns

namespace ArrowTiberius.Writer

open Checked Direct Tds Tiling

def plannedFormat (column : DirectColumnPlan) : CellFormat := cellFormatOf column.targetType column.nullable

def SameTimeWidth (scale scale' : ℕ) : Prop := (scale ≤ 2 ↔ scale' ≤ 2) ∧ (scale ≤ 4 ↔ scale' ≤ 4)

/-- What has to hold of the metadata that the validators do not look at: the scale of a time, the length of a binary
column, whether a length is bounded, and the token and width of a datetime. -/
def UncheckedPartsAgree (column : DirectColumnPlan) (target : BulkLoadColumn) : Prop :=
  match column.targetType, target.typeInfo with
  | .nVarChar length, .varLenSized _ len | .varBinary length, .varLenSized _ len => length = .max ↔ len = 0xffff
  | .binary length, .varLenSized _ len => length = len
  | .time precision, .varLenSized _ scale => SameTimeWidth precision.get scale
  | .dateTime2 precision, .varLenSized _ scale | .dateTimeOffset precision, .varLenSized _ scale =>
    SameTimeWidth precision scale
  | .dateTime, .fixedLen _ => column.nullable = false
  | .dateTime, .varLenSized _ len => column.nullable = true ∧ len = 8
  | _, _ => True

theorem timeLength_eq_iff {scale scale' : ℕ} : timeLength scale' = timeLength scale ↔ SameTimeWidth scale scale' := by
  unfold timeLength SameTimeWidth
  split_ifs <;> omega

theorem lengthFraming_eq_iff {len : ℕ} {length : MssqlTypeLength} {nullable : Bool} {ty : MssqlType}
    (hty : ty = .nVarChar length ∨ ty = .varBinary length) :
    lengthFraming len = framingOf ty nullable ↔ (length = .max ↔ len = 0xffff) := by
  unfold lengthFraming
  obtain rfl | rfl := hty
  all_goals cases length <;> split_ifs <;> simp [framingOf, *]

def columnTypeOf (nullable : Bool) : MssqlType → ColumnType
  | .bit => if nullable then .bitn else .bit
  | .tinyInt => .int1
  | .smallInt => .int2
  | .int => .int4
  | .bigInt => .int8
  | .real => .float4
  | .float _ => .float8
  | .decimal _ _ => .decimaln
  | .date => .daten
  | .time _ => .timen
  | .dateTime => .datetimen
  | .dateTime2 _ => .datetime2
  | .dateTimeOffset _ => .datetimeOffsetn
  | .nVarChar _ => .nVarchar
  | .varBinary _ => .bigVarBin
  | .binary _ => .bigBinary

section Column

variable {mapping : SchemaMapping} {encoding : DirectColumnEncoding} {target : BulkLoadColumn}

theorem expected_of_encodes (hencodes : Encodes mapping.arrow.dataType mapping.mssql.ty encoding) :
    expectedDirectBulkColumnType (.fromMapping mapping encoding) =
        some (columnTypeOf mapping.mssql.nullable mapping.mssql.ty) ∧
      ∀ precision scale, mapping.mssql.ty = .decimal precision scale →
        expectedDirectDecimalPrecisionScale (.fromMapping mapping encoding) = some (precision, scale.toNat) := by
  simp only [expectedDirectBulkColumnType, expectedDirectDecimalPrecisionScale, DirectColumnPlan.fromMapping]
  generalize mapping.arrow.dataType = dataType at hencodes
  generalize mapping.mssql.ty = ty at hencodes
  cases hencodes with
  | boolean => exact ⟨(apply_ite some _ _ _).symm, by simp⟩
  | uint64Decimal =>
    refine ⟨rfl, fun precision scale h => ?_⟩
    cases h
    rfl
  | decimal =>
    refine ⟨rfl, fun precision scale h => ?_⟩
    cases h
    rfl
  | _ => exact ⟨rfl, by simp⟩

theorem number_format {info : TypeInfo} {fixed : FixedLenType} {sized : VarLenType} {len : ℕ} {nullable : Bool}
    {content : Content} (hinfo : info = .fixedLen fixed ∨ info = .varLenSized sized len)
    (hplain : info.isFixedLen = !nullable) (hfixed : fixedLenFormat fixed = some ⟨.plain, content⟩)
    (hsized : varLenFormat len sized = some ⟨.bytePrefixed, content⟩) :
    info.cellFormat = some ⟨if nullable then .bytePrefixed else .plain, content⟩ := by
  obtain rfl | rfl := hinfo
  · obtain rfl : nullable = false := by simpa [TypeInfo.isFixedLen] using hplain
    exact hfixed
  · obtain rfl : nullable = true := by simpa [TypeInfo.isFixedLen] using hplain
    exact hsized

variable [Externals]

theorem format_agrees_iff (hencodes : Encodes mapping.arrow.dataType mapping.mssql.ty encoding)
    (hfollows : target.FollowsTds) (hnullable : target.isNullable = mapping.mssql.nullable)
    (haccepted : validateDirectBulkTargetColumnType target (.fromMapping mapping encoding) = []) :
    target.typeInfo.cellFormat = some (plannedFormat (.fromMapping mapping encoding)) ↔
      UncheckedPartsAgree (.fromMapping mapping encoding) target := by
  obtain ⟨hexpected, hshape⟩ := expected_of_encodes hencodes
  obtain ⟨expected, hsome, htype, hdecimal⟩ := validateDirectBulkTargetColumnType_eq_nil.mp haccepted
  obtain rfl : columnTypeOf mapping.mssql.nullable mapping.mssql.ty = expected :=
    Option.some.inj (hexpected.symm.trans hsome)
  obtain ⟨hdeclared, hplain⟩ := hfollows
  rw [hnullable] at hplain
  simp only [plannedFormat, UncheckedPartsAgree, DirectColumnPlan.fromMapping, cellFormatOf]
  revert hshape hdecimal htype hplain
  generalize mapping.mssql.ty = ty
  generalize mapping.mssql.nullable = nullable
  intro hshape hdecimal htype hplain
  cases ty with
  | bit =>
    have hbit : target.columnType = columnTypeOf nullable .bit := by
      refine htype.resolve_right fun hdatetime => ?_
      cases nullable <;> cases hdatetime.2
    rw [hbit] at hdeclared hplain
    have hinfo : target.typeInfo = .fixedLen .bit ∨ target.typeInfo = .varLenSized .bitn 1 := by
      cases nullable
      · exact .inl hdeclared
      · exact .inr hdeclared
    exact iff_of_true (number_format hinfo (hplain (by cases nullable <;> rfl)) rfl rfl) trivial
  | tinyInt | smallInt | int | bigInt | real | float =>
    simp only [columnTypeOf, reduceCtorEq, and_false, or_false] at htype
    rw [htype] at hdeclared hplain
    exact iff_of_true (number_format hdeclared (hplain rfl) rfl rfl) trivial
  | decimal precision scale =>
    simp only [columnTypeOf, reduceCtorEq, and_false, or_false] at htype
    rw [htype] at hdeclared
    obtain ⟨size, precision', scale', hinfo⟩ := hdeclared
    have hsame := hdecimal _ (hshape precision scale rfl)
    simp only [decimalPrecisionScale, hinfo, Option.some.injEq, Prod.mk.injEq] at hsame
    obtain ⟨rfl, rfl⟩ := hsame
    rw [hinfo]
    exact iff_of_true rfl trivial
  | dateTime =>
    simp only [columnTypeOf, and_true] at htype
    obtain htype | htype := htype
    · rw [htype] at hdeclared
      obtain ⟨len, hinfo⟩ := hdeclared
      rw [hinfo]
      cases nullable <;> simp [TypeInfo.cellFormat, varLenFormat, framingOf, contentOf]
    · rw [htype] at hdeclared
      have hinfo : target.typeInfo = .fixedLen .datetime := hdeclared
      rw [hinfo]
      cases nullable <;> simp [TypeInfo.cellFormat, fixedLenFormat, framingOf, contentOf]
  | date =>
    simp only [columnTypeOf, reduceCtorEq, and_false, or_false] at htype
    rw [htype] at hdeclared
    obtain ⟨len, hinfo⟩ := hdeclared
    rw [hinfo]
    exact iff_of_true rfl trivial
  | time | dateTime2 | dateTimeOffset =>
    simp only [columnTypeOf, reduceCtorEq, and_false, or_false] at htype
    rw [htype] at hdeclared
    obtain ⟨scale, hinfo⟩ := hdeclared
    simp [hinfo, TypeInfo.cellFormat, varLenFormat, framingOf, contentOf, timeLength_eq_iff]
  | nVarChar length | varBinary length =>
    simp only [columnTypeOf, reduceCtorEq, and_false, or_false] at htype
    rw [htype] at hdeclared
    obtain ⟨len, hinfo⟩ := hdeclared
    simp [hinfo, TypeInfo.cellFormat, varLenFormat, contentOf, @lengthFraming_eq_iff len length]
  | binary length =>
    simp only [columnTypeOf, reduceCtorEq, and_false, or_false] at htype
    rw [htype] at hdeclared
    obtain ⟨len, hinfo⟩ := hdeclared
    simp [hinfo, TypeInfo.cellFormat, varLenFormat, framingOf, contentOf, eq_comm]

end Column

section Batch

variable [Externals] {mappings : List SchemaMapping} {context : RuntimeConversionContext} {encoder : DirectEncoder}

theorem cells_have_plannedFormat (hencoder : DirectEncoder.newWithContext mappings context = .ok encoder)
    (hlimit : BinaryWithinLimit mappings) {batch : RecordBatch} {fastPath : FixedWidth.FastPath}
    {payload : EncodedRowsPayload} (h : encoder.encodeBatch fastPath batch = .ok payload) :
    ∃ cell, HoldsRows batch.numRows mappings.length cell payload ∧ ∀ r < batch.numRows, ∀ i column,
      encoder.plan.columns[i]? = some column → (plannedFormat column).Describes (cell r i) := by
  obtain ⟨hsome, hholds⟩ := holdsRows_of_encodeBatch hencoder hlimit h
  obtain ⟨row, hrow⟩ := exists_rows hencoder (shape_of_encodeBatch hencoder h) hsome
  refine ⟨_, hholds, fun r hr i column hcolumn => ?_⟩
  obtain ⟨-, hlength, hcells⟩ := hrow r hr
  have hcell : (row r)[i]? = some _ :=
    List.getElem?_eq_getElem (hlength ▸ (List.getElem?_eq_some_iff.mp hcolumn).1)
  obtain ⟨hfits, -, hbytes⟩ := hcells i column _ hcolumn hcell
  rw [hbytes]
  exact cellFormatOf_describes hfits

/-- The cells of a plan's batches are written in the formats of its columns. A target both validators take declares
these formats exactly when the parts of its metadata that neither looks at agree with the plan. -/
theorem target_formats_agree_iff (mappings : List SchemaMapping) (context : RuntimeConversionContext)
    (encoder : DirectEncoder) (columns : List BulkLoadColumn)
    (hencoder : DirectEncoder.newWithContext mappings context = .ok encoder)
    (hfollows : ∀ target ∈ columns, target.FollowsTds)
    (hcolumns : validateBulkTargetColumns columns mappings = .ok ())
    (htypes : validateDirectBulkTargetColumnTypes columns encoder.plan = .ok ()) :
    (∀ batch fastPath payload, BinaryWithinLimit mappings → encoder.encodeBatch fastPath batch = .ok payload →
      ∃ cell, HoldsRows batch.numRows mappings.length cell payload ∧ ∀ r < batch.numRows, ∀ i column,
        encoder.plan.columns[i]? = some column → (plannedFormat column).Describes (cell r i)) ∧
    ((∀ (i : ℕ) column target, encoder.plan.columns[i]? = some column → columns[i]? = some target →
        target.typeInfo.cellFormat = some (plannedFormat column)) ↔
      ∀ (i : ℕ) column target, encoder.plan.columns[i]? = some column → columns[i]? = some target →
        UncheckedPartsAgree column target) := by
  obtain ⟨-, hcolumns⟩ := validateBulkTargetColumns_eq_ok.mp hcolumns
  obtain ⟨-, htypes⟩ := validateDirectBulkTargetColumnTypes_eq_ok.mp htypes
  refine ⟨fun batch fastPath payload hlimit h => cells_have_plannedFormat hencoder hlimit h, ?_⟩
  refine forall_congr' fun i => forall₂_congr fun column target => forall₂_congr fun hcolumn htarget => ?_
  obtain ⟨mapping, encoding, hmapping, hencodes, rfl⟩ := encoder_column hencoder hcolumn
  obtain ⟨-, -, hnullable⟩ := hcolumns i target mapping htarget hmapping
  have hfollow := hfollows target (List.mem_of_getElem? htarget)
  exact format_agrees_iff hencodes hfollow hnullable (htypes i target _ htarget hcolumn)

end Batch

def sampleTarget : List BulkLoadColumn :=
  [⟨0, "id", false, .int4, .fixedLen .int4⟩, ⟨1, "note", true, .bigVarBin, .varLenSized .bigVarBin 4⟩]

theorem target_formats_agree_at_sample :
    sampleTarget.map (·.typeInfo.cellFormat) = sampleEncoder.plan.columns.map (some ∘ plannedFormat) := by
  have hagree := (@target_formats_agree_iff .silent sampleMappings ⟨sampleProfile, {}⟩ sampleEncoder sampleTarget rfl
    (by
      intro target hmem
      obtain rfl | rfl : target = _ ∨ target = _ := by simpa [sampleTarget] using hmem
      · exact ⟨.inl rfl, fun _ => rfl⟩
      · exact ⟨⟨4, rfl⟩, by decide⟩) rfl rfl).2.mpr
    (by
      intro i column target hcolumn htarget
      obtain rfl | rfl | hi : i = 0 ∨ i = 1 ∨ 2 ≤ i := by omega
      · cases hcolumn
        cases htarget
        trivial
      · cases hcolumn
        cases htarget
        exact iff_of_false (by simp) (by decide)
      · rw [List.getElem?_eq_none hi] at htarget
        cases htarget)
  have hid := hagree 0 _ _ rfl rfl
  have hnote := hagree 1 _ _ rfl rfl
  rw [sampleTarget, List.map_cons, List.map_cons, hid, hnote]
  rfl

theorem valid_at : validateIdentifier "at" .bracketQuoted = .ok () := rfl

def driftedMappings : List SchemaMapping :=
  [⟨⟨0, "at", false, .time32 .second⟩, ⟨⟨"at", valid_at⟩, .time .zero, false⟩⟩,
    ⟨⟨1, "note", true, .utf8⟩, ⟨⟨"note", valid_note⟩, .nVarChar .max, true⟩⟩,
    ⟨⟨2, "digest", false, .fixedSizeBinary 8⟩, ⟨⟨"digest", valid_digest⟩, .binary 8, false⟩⟩,
    ⟨⟨3, "seen", true, .timestamp .second none⟩, ⟨⟨"seen", rfl⟩, .dateTime, true⟩⟩]

def driftedEncoder : DirectEncoder where
  mappings := driftedMappings
  runtimeContext := ⟨sampleProfile, {}⟩
  plan := ⟨[⟨0, "at", .time .zero, false, .temporal .time32SecondToTime⟩,
    ⟨1, "note", .nVarChar .max, true, .variableWidth (.stringToNVarChar .max)⟩,
    ⟨2, "digest", .binary 8, false, .fixedSizeBinary (.fixedSizeBinaryToBinary 8)⟩,
    ⟨3, "seen", .dateTime, true, .temporal (.timestampToDateTime .second)⟩]⟩

def driftedTarget : List BulkLoadColumn :=
  [⟨0, "at", false, .timen, .varLenSized .timen 7⟩, ⟨1, "note", true, .nVarchar, .varLenSized .nVarchar 100⟩,
    ⟨2, "digest", false, .bigBinary, .varLenSized .bigBinary 16⟩,
    ⟨3, "seen", true, .datetimen, .varLenSized .datetimen 4⟩]

/-- Both validators take a target none of whose columns is declared in the format its cells are written in. -/
theorem drifted_target_is_accepted :
    @DirectEncoder.newWithContext .silent driftedMappings ⟨sampleProfile, {}⟩ = .ok driftedEncoder ∧
    (∀ target ∈ driftedTarget, target.FollowsTds) ∧
    validateBulkTargetColumns driftedTarget driftedMappings = .ok () ∧
    @validateDirectBulkTargetColumnTypes .silent driftedTarget driftedEncoder.plan = .ok () ∧
    ∀ i < 4, ∃ column target, driftedEncoder.plan.columns[i]? = some column ∧ driftedTarget[i]? = some target ∧
      target.typeInfo.cellFormat ≠ some (plannedFormat column) := by
  refine ⟨rfl, ?_, rfl, rfl, ?_⟩
  · intro target hmem
    obtain rfl | rfl | rfl | rfl : target = _ ∨ target = _ ∨ target = _ ∨ target = _ := by
      simpa [driftedTarget] using hmem
    · exact ⟨⟨7, rfl⟩, by decide⟩
    · exact ⟨⟨100, rfl⟩, by decide⟩
    · exact ⟨⟨16, rfl⟩, by decide⟩
    · exact ⟨⟨4, rfl⟩, by decide⟩
  · intro i hi
    obtain rfl | rfl | rfl | rfl : i = 0 ∨ i = 1 ∨ i = 2 ∨ i = 3 := by omega
    all_goals exact ⟨_, _, rfl, rfl, by decide⟩

end ArrowTiberius.Writer
