import ArrowTiberius.Direct.Plan

namespace ArrowTiberius.Direct

open Checked

variable [Externals] {mapping : SchemaMapping} {rowIndex : ℕ}

theorem primitive_classify_eq_ok {c : PrimitiveArrowToMssql} : PrimitiveArrowToMssql.classify mapping rowIndex = .ok c ↔
    Encodes mapping.arrow.dataType mapping.mssql.ty (.primitive c) := by
  constructor
  · intro h
    unfold PrimitiveArrowToMssql.classify UInt64ArrowToMssql.classify at h
    split at h <;> rename_i hdt hty
    case h_9 =>
      simp only [hdt, hty, ok_bind, pure_eq_ok, Except.ok.injEq] at h
      rw [hdt, hty, ← h]
      exact .uint64
    case h_13 => simp at h
    all_goals
      cases h
      rw [hdt, hty]
      constructor
  · generalize hdt : mapping.arrow.dataType = dataType
    generalize hty : mapping.mssql.ty = ty
    intro h
    cases h <;> simp [PrimitiveArrowToMssql.classify, UInt64ArrowToMssql.classify, hdt, hty]

theorem uint64_classify_checkedBigInt (h : UInt64ArrowToMssql.classify mapping rowIndex = .ok .checkedBigInt) :
    Encodes mapping.arrow.dataType mapping.mssql.ty (.primitive .uint64ToCheckedBigInt) := by
  unfold UInt64ArrowToMssql.classify at h
  split at h <;> rename_i hdt hty
  · rw [hdt, hty]
    exact .uint64
  · cases h
  · simp at h

theorem uint64_classify_eq_ok : UInt64ArrowToMssql.classify mapping rowIndex = .ok .decimal20_0 ↔
    Encodes mapping.arrow.dataType mapping.mssql.ty .uint64Decimal20_0 := by
  constructor
  · intro h
    unfold UInt64ArrowToMssql.classify at h
    split at h <;> rename_i hdt hty
    · cases h
    · rw [hdt, hty]
      exact .uint64Decimal
    · simp at h
  · generalize hdt : mapping.arrow.dataType = dataType
    generalize hty : mapping.mssql.ty = ty
    intro h
    cases h
    simp [UInt64ArrowToMssql.classify, hdt, hty]

omit [Externals] in
theorem decimalTarget_eq_ok {precision scale : ℕ} : decimalTarget mapping rowIndex = .ok (precision, scale) ↔
    mapping.mssql.ty = .decimal precision scale ∧ scale < 38 := by
  unfold decimalTarget
  split
  case h_1 p s hty =>
    simp only [bind_eq_ok, okOr_eq_ok, checkedUnsigned_eq_some, ensure_eq_ok, pure_eq_ok, Except.ok.injEq,
      Prod.mk.injEq, hty, MssqlType.decimal.injEq]
    constructor
    · rintro ⟨_, ⟨hfits, rfl⟩, _, hlt, rfl, rfl⟩
      exact ⟨⟨rfl, (Int.toNat_of_nonneg hfits.1).symm⟩, by omega⟩
    · rintro ⟨⟨rfl, rfl⟩, hlt⟩
      exact ⟨scale, ⟨fitsUnsigned_8.mpr ⟨by omega, by omega⟩, rfl⟩, (), by omega, rfl, rfl⟩
  case h_2 hty =>
    simp only [fail_ne_ok, false_iff]
    rintro ⟨h, -⟩
    exact hty _ _ h

theorem decimalSource_eq_ok {source : DecimalSource} {arrowScale : ℤ} :
    decimalSource mapping rowIndex = .ok (source, arrowScale) ↔
      (∃ p, mapping.arrow.dataType = .decimal32 p arrowScale ∧ source = .decimal32) ∨
      (∃ p, mapping.arrow.dataType = .decimal64 p arrowScale ∧ source = .decimal64) ∨
      (∃ p, mapping.arrow.dataType = .decimal128 p arrowScale ∧ source = .decimal128) ∨
      (∃ p, mapping.arrow.dataType = .decimal256 p arrowScale ∧ source = .decimal256) := by
  unfold decimalSource
  split <;> rename_i hdt
  case h_5 => simp_all
  all_goals simp [hdt, and_comm, eq_comm]

omit [Externals] in
theorem validateScaleCompatibility_eq_ok {targetScale : ℕ} {arrowScale : ℤ} {u : Unit} :
    validateScaleCompatibility mapping rowIndex targetScale arrowScale = .ok u ↔
      arrowScale < 256 ∧ targetScale = arrowScale.toNat := by
  unfold validateScaleCompatibility
  split
  case isTrue hneg =>
    simp only [ok_bind, ensure_eq_ok]
    omega
  case isFalse hneg =>
    simp only [bind_eq_ok, okOr_eq_ok, checkedUnsigned_eq_some, ensure_eq_ok]
    constructor
    · rintro ⟨_, ⟨hfits, rfl⟩, rfl⟩
      exact ⟨(fitsUnsigned_8.mp hfits).2, rfl⟩
    · rintro ⟨hlt, rfl⟩
      exact ⟨_, ⟨fitsUnsigned_8.mpr ⟨by omega, hlt⟩, rfl⟩, rfl⟩

theorem decimal_classify_eq_ok {c : DecimalArrowToMssql} : DecimalArrowToMssql.classify mapping rowIndex = .ok c ↔
    Encodes mapping.arrow.dataType mapping.mssql.ty (.decimal c) := by
  simp only [DecimalArrowToMssql.classify, bind_eq_ok, Prod.exists, decimalTarget_eq_ok, decimalSource_eq_ok,
    validateScaleCompatibility_eq_ok, pure_eq_ok, Except.ok.injEq]
  constructor
  · rintro ⟨precision, scale, ⟨hty, hscale⟩, source, arrowScale, hsource, _, ⟨harrow, hsame⟩, rfl⟩
    rw [hty]
    exact .decimal hsource hscale harrow hsame
  · generalize mapping.arrow.dataType = dataType
    generalize mapping.mssql.ty = ty
    intro h
    cases h with
    | decimal hsource hscale harrow hsame =>
      exact ⟨_, _, ⟨rfl, hscale⟩, _, _, hsource, (), ⟨harrow, hsame⟩, rfl⟩

theorem variableWidth_classify_eq_ok {c : VariableWidthArrowToMssql} :
    VariableWidthArrowToMssql.classify mapping rowIndex = .ok c ↔
      Encodes mapping.arrow.dataType mapping.mssql.ty (.variableWidth c) := by
  constructor
  · intro h
    unfold VariableWidthArrowToMssql.classify at h
    split at h <;> rename_i hty
    · split at h
      case isTrue hfamily =>
        cases h
        rw [hty]
        exact .nVarChar hfamily
      case isFalse => simp at h
    · split at h
      case isTrue hfamily =>
        cases h
        rw [hty]
        exact .varBinary hfamily
      case isFalse => simp at h
    · simp at h
  · generalize hdt : mapping.arrow.dataType = dataType
    generalize hty : mapping.mssql.ty = ty
    intro h
    cases h <;> simp [VariableWidthArrowToMssql.classify, *]

theorem fixedSizeBinary_classify_eq_ok {c : FixedSizeBinaryArrowToMssql} :
    FixedSizeBinaryArrowToMssql.classify mapping rowIndex = .ok c ↔
      Encodes mapping.arrow.dataType mapping.mssql.ty (.fixedSizeBinary c) := by
  constructor
  · intro h
    unfold FixedSizeBinaryArrowToMssql.classify at h
    split at h <;> rename_i hdt hty
    · simp only [bind_eq_ok, okOr_eq_ok, checkedUnsigned_eq_some, ensure_eq_ok, pure_eq_ok, Except.ok.injEq] at h
      obtain ⟨_, ⟨hfits, rfl⟩, _, hlength, rfl⟩ := h
      have hnonneg := fitsUnsigned_64.mp hfits
      rw [hdt, hty, ← Int.toNat_of_nonneg hnonneg.1, hlength]
      exact .fixedSizeBinary (by omega)
    · simp at h
  · generalize hdt : mapping.arrow.dataType = dataType
    generalize hty : mapping.mssql.ty = ty
    intro h
    cases h with
    | fixedSizeBinary hlength =>
      have hfits := fitsUnsigned_64.mpr ⟨Int.natCast_nonneg _, Int.ofNat_lt.mpr hlength⟩
      simp [FixedSizeBinaryArrowToMssql.classify, hdt, hty, checkedUnsigned_of_fits hfits]

theorem temporal_classify_eq_ok {c : TemporalArrowToMssql} : TemporalArrowToMssql.classify mapping rowIndex = .ok c ↔
    Encodes mapping.arrow.dataType mapping.mssql.ty (.temporal c) := by
  constructor
  · intro h
    unfold TemporalArrowToMssql.classify at h
    split at h <;> rename_i hdt hty
    case h_7 =>
      rw [hdt, hty]
      split_ifs at h with hfree hzoned
      · cases h
        exact .timestampDateTime2 hfree.1 hfree.2
      · cases h
        exact .timestampTzDateTime2 (by simpa using hzoned.1) hzoned.2
      · simp at h
    case h_8 =>
      rw [hdt, hty]
      split_ifs at h with hfree
      · cases h
        exact .timestampDateTime hfree
      · cases h
        exact .timestampTzDateTime (by simpa using hfree)
    case h_9 =>
      rw [hdt, hty]
      split_ifs at h with hzoned
      · simp at h
      · cases h
        exact .dateTimeOffset (by simpa using hzoned)
    case h_10 => simp at h
    all_goals
      cases h
      rw [hdt, hty]
      constructor
  · generalize hdt : mapping.arrow.dataType = dataType
    generalize hty : mapping.mssql.ty = ty
    intro h
    cases h <;> simp [TemporalArrowToMssql.classify, *]

omit [Externals] in
theorem Encodes.unique {dataType : DataType} {ty : MssqlType} {a b : DirectColumnEncoding} (ha : Encodes dataType ty a)
    (hb : Encodes dataType ty b) : a = b := by
  cases ha with
  | decimal hsource =>
    cases hb with
    | decimal hsource' =>
      rcases hsource with ⟨_, rfl, rfl⟩ | ⟨_, rfl, rfl⟩ | ⟨_, rfl, rfl⟩ | ⟨_, rfl, rfl⟩
      all_goals
        simp at hsource'
        simp [hsource']
    | uint64Decimal => simp at hsource
  | uint64Decimal =>
    cases hb with
    | decimal hsource' => simp at hsource'
    | uint64Decimal => rfl
  | timestampDateTime2 hfree => cases hb <;> simp_all
  | timestampTzDateTime2 hzoned => cases hb <;> simp_all
  | timestampDateTime hfree => cases hb <;> simp_all
  | timestampTzDateTime hzoned => cases hb <;> simp_all
  | _ =>
    cases hb
    rfl

theorem supportMapping_cases : (∃ encoding, supportMapping mapping = .supported encoding ∧
      Encodes mapping.arrow.dataType mapping.mssql.ty encoding) ∨
    ((∃ reason, supportMapping mapping = .unsupported reason) ∧
      ∀ encoding, ¬Encodes mapping.arrow.dataType mapping.mssql.ty encoding) := by
  unfold supportMapping decimalSupport uint64Support variableWidthSupport fixedSizeBinarySupport temporalSupport
  rcases hprimitive : PrimitiveArrowToMssql.classify mapping 0 with _ | c
  case ok => exact .inl ⟨_, rfl, primitive_classify_eq_ok.mp hprimitive⟩
  rcases hdecimal : DecimalArrowToMssql.classify mapping 0 with _ | c
  case ok => exact .inl ⟨_, rfl, decimal_classify_eq_ok.mp hdecimal⟩
  rcases huint64 : UInt64ArrowToMssql.classify mapping 0 with _ | _ | _
  case ok.checkedBigInt => exact .inl ⟨_, rfl, uint64_classify_checkedBigInt huint64⟩
  case ok.decimal20_0 => exact .inl ⟨_, rfl, uint64_classify_eq_ok.mp huint64⟩
  rcases hvariable : VariableWidthArrowToMssql.classify mapping 0 with _ | c
  case ok => exact .inl ⟨_, rfl, variableWidth_classify_eq_ok.mp hvariable⟩
  rcases hfixed : FixedSizeBinaryArrowToMssql.classify mapping 0 with _ | c
  case ok => exact .inl ⟨_, rfl, fixedSizeBinary_classify_eq_ok.mp hfixed⟩
  rcases htemporal : TemporalArrowToMssql.classify mapping 0 with _ | c
  case ok => exact .inl ⟨_, rfl, temporal_classify_eq_ok.mp htemporal⟩
  refine .inr ⟨⟨_, rfl⟩, fun encoding h => ?_⟩
  cases encoding with
  | primitive c => simp [primitive_classify_eq_ok.mpr h] at hprimitive
  | uint64Decimal20_0 => simp [uint64_classify_eq_ok.mpr h] at huint64
  | decimal c => simp [decimal_classify_eq_ok.mpr h] at hdecimal
  | variableWidth c => simp [variableWidth_classify_eq_ok.mpr h] at hvariable
  | fixedSizeBinary c => simp [fixedSizeBinary_classify_eq_ok.mpr h] at hfixed
  | temporal c => simp [temporal_classify_eq_ok.mpr h] at htemporal

theorem supportMapping_eq_supported {encoding : DirectColumnEncoding} : supportMapping mapping = .supported encoding ↔
    Encodes mapping.arrow.dataType mapping.mssql.ty encoding := by
  rcases @supportMapping_cases _ mapping with ⟨encoding', heq, hencodes⟩ | ⟨⟨reason, heq⟩, hnone⟩
  · rw [heq, DirectMappingSupport.supported.injEq]
    exact ⟨fun h => h ▸ hencodes, hencodes.unique⟩
  · rw [heq]
    exact ⟨nofun, fun h => absurd h (hnone encoding)⟩

theorem planColumn_eq_ok {column : DirectColumnPlan} : planColumn mapping = .ok column ↔
    ∃ encoding, Encodes mapping.arrow.dataType mapping.mssql.ty encoding ∧
      column = DirectColumnPlan.fromMapping mapping encoding := by
  simp only [← supportMapping_eq_supported, planColumn]
  rcases supportMapping mapping with encoding | reason
  · simp [eq_comm]
  · simp

theorem isError_of_planColumn {d : Diagnostic} (h : planColumn mapping = fail d) : d.isError = true := by
  unfold planColumn at h
  split at h
  case h_1 => cases h
  case h_2 =>
    cases h
    rfl

theorem directEncoderPlan_new_eq_ok {mappings : List SchemaMapping} {plan : DirectEncoderPlan} :
    DirectEncoderPlan.new mappings = .ok plan ↔ collect mappings planColumn = .ok plan.columns := by
  simp only [DirectEncoderPlan.new, bind_eq_ok, ensure_eq_ok, pure_eq_ok, Except.ok.injEq]
  constructor
  · rintro ⟨⟨columns, diagnostics⟩, hgather, _, hnone, rfl⟩
    have hnil : diagnostics = [] := by
      refine List.eq_nil_iff_forall_not_mem.mpr fun d hd => hnone ?_
      obtain ⟨mapping, -, hfail⟩ := mem_errors_of_gather hgather hd
      exact List.any_eq_true.mpr ⟨d, hd, isError_of_planColumn hfail⟩
    subst hnil
    exact gather_eq_ok_nil.mp hgather
  · intro h
    exact ⟨_, gather_eq_ok_nil.mpr h, (), by simp [DiagnosticSet.hasErrors], rfl⟩

theorem newWithContext_eq_ok {mappings : List SchemaMapping} {context : RuntimeConversionContext}
    {encoder : DirectEncoder} : DirectEncoder.newWithContext mappings context = .ok encoder ↔
      encoder.mappings = mappings ∧ encoder.runtimeContext = context ∧
        collect mappings planColumn = .ok encoder.plan.columns := by
  simp only [DirectEncoder.newWithContext, bind_eq_ok, directEncoderPlan_new_eq_ok, pure_eq_ok, Except.ok.injEq]
  constructor
  · rintro ⟨plan, hplan, rfl⟩
    exact ⟨rfl, rfl, hplan⟩
  · rintro ⟨rfl, rfl, hplan⟩
    exact ⟨encoder.plan, hplan, rfl⟩

theorem newWithContext_succeeds {mappings : List SchemaMapping} {context : RuntimeConversionContext} :
    succeeds (DirectEncoder.newWithContext mappings context) = true ↔
      ∀ mapping ∈ mappings, ∃ encoding, Encodes mapping.arrow.dataType mapping.mssql.ty encoding := by
  have hmapping (mapping : SchemaMapping) : (∃ column, planColumn mapping = .ok column) ↔
      ∃ encoding, Encodes mapping.arrow.dataType mapping.mssql.ty encoding := by
    simp only [planColumn_eq_ok]
    exact ⟨fun ⟨_, encoding, h, _⟩ => ⟨encoding, h⟩, fun ⟨encoding, h⟩ => ⟨_, encoding, h, rfl⟩⟩
  simp only [← hmapping, ← collect_succeeds_iff, succeeds_iff, newWithContext_eq_ok]
  exact ⟨fun ⟨encoder, _, _, h⟩ => ⟨_, h⟩, fun ⟨columns, h⟩ => ⟨⟨mappings, context, ⟨columns⟩⟩, rfl, rfl, h⟩⟩

end ArrowTiberius.Direct
