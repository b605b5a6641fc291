import Mathlib.Algebra.Order.Field.Basic
import Mathlib.Data.Rat.Cast.Order
import Mathlib.Tactic.FieldSimp
import ArrowTiberius.Direct.Types.Decimal
import ArrowTiberius.Schema.Soundness

namespace ArrowTiberius

open Checked Direct

namespace DecimalSource

abbrev Value : DecimalSource → Type
  | .decimal32 => SInt 32
  | .decimal64 => SInt 64
  | .decimal128 => SInt 128
  | .decimal256 => SInt 256

def unscaled : (source : DecimalSource) → source.Value → ℤ
  | .decimal32, value => value.val
  | .decimal64, value => value.val
  | .decimal128, value => value.val
  | .decimal256, value => value.val

def cell : (source : DecimalSource) → source.Value → ArrowCell
  | .decimal32, value => .decimal32 value
  | .decimal64, value => .decimal64 value
  | .decimal128, value => .decimal128 value
  | .decimal256, value => .decimal256 value

def directValue (column : DirectColumnPlan) (classification : DecimalArrowToMssql) :
    (source : DecimalSource) → source.Value → ℕ → Result ℤ
  | .decimal32, value, rowIndex => Direct.Decimal.decimalValue column classification value rowIndex
  | .decimal64, value, rowIndex => Direct.Decimal.decimalValue column classification value rowIndex
  | .decimal128, value, rowIndex => Direct.Decimal.decimalValue column classification value rowIndex
  | .decimal256, value, rowIndex => Direct.Decimal.decimal256Value column classification value rowIndex

end DecimalSource

def DataType.decimalShape : DataType → Option (ℕ × ℤ)
  | .decimal32 precision scale | .decimal64 precision scale | .decimal128 precision scale
  | .decimal256 precision scale => some (precision, scale)
  | _ => none

def rescaled (arrowScale unscaled : ℤ) : ℤ := unscaled * 10 ^ (-arrowScale).toNat

section Normalize

variable {mapping : SchemaMapping} {column : DirectColumnPlan} {rowIndex : ℕ} {unscaled arrowScale : ℤ}
  {classification : DecimalArrowToMssql}

theorem fits_of_lt {value : ℤ} {precision : ℕ} (hprecision : precision ≤ 38) (h : value.natAbs < 10 ^ precision) :
    fitsSigned 128 value := by
  have hpow : 10 ^ precision ≤ 10 ^ 38 := Nat.pow_le_pow_right (by decide) hprecision
  exact fitsSigned_128.mpr (by omega)

theorem fits_factor (hscale : -38 < arrowScale) (hneg : arrowScale < 0) : fitsSigned 128 (10 ^ arrowScale.natAbs) := by
  have hcast : (10 : ℤ) ^ arrowScale.natAbs = ((10 ^ arrowScale.natAbs : ℕ) : ℤ) := by norm_cast
  have hpow : 10 ^ arrowScale.natAbs ≤ 10 ^ 37 := Nat.pow_le_pow_right (by decide) (by omega)
  rw [hcast]
  generalize 10 ^ arrowScale.natAbs = factor at *
  exact fitsSigned_128.mpr (by omega)

theorem rescaled_of_nonneg (h : 0 ≤ arrowScale) : rescaled arrowScale unscaled = unscaled := by
  have hzero : (-arrowScale).toNat = 0 := by omega
  rw [rescaled, hzero, pow_zero, mul_one]

theorem rescaled_of_neg (h : arrowScale < 0) : rescaled arrowScale unscaled = unscaled * 10 ^ arrowScale.natAbs := by
  have hsame : (-arrowScale).toNat = arrowScale.natAbs := by omega
  rw [rescaled, hsame]

theorem natAbs_le_rescaled : unscaled.natAbs ≤ (rescaled arrowScale unscaled).natAbs := by
  rw [rescaled, Int.natAbs_mul, Int.natAbs_pow]
  exact Nat.le_mul_of_pos_right _ (Nat.pow_pos (by decide))

theorem normalizeUnscaledDecimal_eq_ok (hscale : -38 < arrowScale) {value : ℤ} :
    normalizeUnscaledDecimal mapping rowIndex unscaled arrowScale = .ok value ↔
      (arrowScale < 0 → fitsSigned 128 (rescaled arrowScale unscaled)) ∧ value = rescaled arrowScale unscaled := by
  by_cases hneg : arrowScale < 0
  · have hbranch : ¬arrowScale ≥ 0 := by omega
    rw [normalizeUnscaledDecimal, if_neg hbranch, normalizeNegativeScale, if_neg hbranch,
      checkedSigned_of_fits (fits_factor hscale hneg), okOr_some, ok_bind, okOr_eq_ok, checkedSigned_eq_some,
      ← rescaled_of_neg hneg]
    exact and_congr_left fun _ => ⟨fun h _ => h, fun h => h hneg⟩
  · have hbranch : arrowScale ≥ 0 := by omega
    rw [normalizeUnscaledDecimal, if_pos hbranch, rescaled_of_nonneg hbranch, Except.ok.injEq]
    exact ⟨fun h => ⟨fun h' => absurd h' hneg, h.symm⟩, fun h => h.2.symm⟩

theorem convertDecimal_eq_ok (h : Inhabitable (.decimal classification)) {result : MssqlDecimal} :
    convertDecimal mapping rowIndex classification unscaled = .ok result ↔
      (rescaled classification.arrowScale unscaled).natAbs < 10 ^ classification.targetPrecision ∧
        result = ⟨rescaled classification.arrowScale unscaled, classification.targetScale⟩ := by
  obtain ⟨hlo, hhi, hscale⟩ := h
  simp only [convertDecimal, mssqlDecimalForClassification, mssqlDecimalWithShape, bind_eq_ok,
    normalizeUnscaledDecimal_eq_ok hscale, ensure_eq_ok, decimalUnscaledFitsPrecision_iff hlo hhi, pure_eq_ok,
    Except.ok.injEq]
  constructor
  · rintro ⟨_, ⟨-, rfl⟩, _, hlt, rfl⟩
    exact ⟨hlt, rfl⟩
  · rintro ⟨hlt, rfl⟩
    exact ⟨_, ⟨fun _ => fits_of_lt hhi hlt, rfl⟩, (), hlt, rfl⟩

theorem normalizedDecimalValue_toOption {r : ℕ} :
    (Direct.Decimal.normalizedDecimalValue column classification r unscaled).toOption =
      (convertDecimal mapping rowIndex classification unscaled).toOption.map MssqlDecimal.unscaled := by
  have hfits (value : ℤ) (precision : ℕ) : Direct.Decimal.decimalUnscaledFitsPrecision value precision =
      decimalUnscaledFitsPrecision value precision := by
    have hmax : Direct.Decimal.decimalMaxUnscaled precision = decimalMaxUnscaled precision := rfl
    rewrite [Direct.Decimal.decimalUnscaledFitsPrecision, decimalUnscaledFitsPrecision, hmax]
    cases decimalMaxUnscaled precision <;> rfl
  have hnormalize : (Direct.Decimal.normalizeNegativeScale column r unscaled classification.arrowScale).toOption =
      (normalizeUnscaledDecimal mapping rowIndex unscaled classification.arrowScale).toOption := by
    unfold Direct.Decimal.normalizeNegativeScale normalizeUnscaledDecimal normalizeNegativeScale
    by_cases hneg : classification.arrowScale ≥ 0
    · rw [if_pos hneg, if_pos hneg]
    · simp only [if_neg hneg, toOption_bind, toOption_okOr]
  rw [Direct.Decimal.normalizedDecimalValue, convertDecimal, toOption_bind, toOption_bind, hnormalize, Option.map_bind]
  congr 1
  funext value
  simp only [Function.comp_apply, mssqlDecimalForClassification, mssqlDecimalWithShape, toOption_bind,
    toOption_ensure, pure_eq_ok, toOption_ok]
  rw [hfits]
  by_cases hvalue : decimalUnscaledFitsPrecision value classification.targetPrecision = true
  · rw [if_pos hvalue]
    rfl
  · rw [if_neg hvalue]
    rfl

end Normalize

section Classified

variable {mapping : SchemaMapping} {classification : DecimalArrowToMssql}

theorem encodes_decimal (h : Encodes mapping.arrow.dataType mapping.mssql.ty (.decimal classification)) :
    mapping.mssql.ty = .decimal classification.targetPrecision classification.targetScale ∧
      classification.targetScale = classification.arrowScale.toNat ∧
      ∃ precision, mapping.arrow.dataType.decimalShape = some (precision, classification.arrowScale) := by
  generalize mapping.arrow.dataType = dataType at h ⊢
  generalize mapping.mssql.ty = ty at h ⊢
  cases h with
  | decimal hsource _ _ hsame =>
    rcases hsource with ⟨p, rfl, rfl⟩ | ⟨p, rfl, rfl⟩ | ⟨p, rfl, rfl⟩ | ⟨p, rfl, rfl⟩
    all_goals exact ⟨rfl, hsame, ⟨p, rfl⟩⟩

theorem cellOf_decimal (h : Encodes mapping.arrow.dataType mapping.mssql.ty (.decimal classification))
    (value : classification.source.Value) : CellOf mapping.arrow.dataType (classification.source.cell value) := by
  generalize mapping.arrow.dataType = dataType at h ⊢
  generalize mapping.mssql.ty = ty at h
  cases h with
  | decimal hsource =>
    rcases hsource with ⟨p, rfl, rfl⟩ | ⟨p, rfl, rfl⟩ | ⟨p, rfl, rfl⟩ | ⟨p, rfl, rfl⟩
    · exact .decimal32 p _ value
    · exact .decimal64 p _ value
    · exact .decimal128 p _ value
    · exact .decimal256 p _ value

def narrowed (mapping : SchemaMapping) (rowIndex : ℕ) : (source : DecimalSource) → source.Value → Result ℤ
  | .decimal256, value => okOr (checkedSigned 128 value.val) (rowError mapping rowIndex .decimalOutOfRange
      "Arrow Decimal256 value does not fit runtime i128 decimal representation")
  | source, value => .ok (source.unscaled value)

theorem fits_of_source {source : DecimalSource} (hsource : source ≠ .decimal256) (value : source.Value) :
    fitsSigned 128 (source.unscaled value) := by
  have hwiden {w : ℕ} (hw : w ≤ 128) (value : SInt w) : fitsSigned 128 value.val := (value.widen hw).fits
  cases source with
  | decimal32 => exact hwiden (by decide) value
  | decimal64 => exact hwiden (by decide) value
  | decimal128 => exact hwiden (by decide) value
  | decimal256 => exact absurd rfl hsource

theorem narrowed_eq_ok {rowIndex : ℕ} {source : DecimalSource} {value : source.Value} {unscaled : ℤ} :
    narrowed mapping rowIndex source value = .ok unscaled ↔
      fitsSigned 128 (source.unscaled value) ∧ unscaled = source.unscaled value := by
  by_cases hsource : source = .decimal256
  · subst hsource
    rw [narrowed, okOr_eq_ok, checkedSigned_eq_some]
    rfl
  · have hfits := fits_of_source hsource value
    have hnarrowed : narrowed mapping rowIndex source value = .ok (source.unscaled value) := by
      cases source <;> first | rfl | exact absurd rfl hsource
    rw [hnarrowed, Except.ok.injEq]
    exact ⟨fun h => ⟨hfits, h.symm⟩, fun h => h.2.symm⟩

theorem directValue_toOption (column : DirectColumnPlan)
    (rowIndex directRow : ℕ) (value : classification.source.Value) :
    (classification.source.directValue column classification value directRow).toOption =
      (narrowed mapping rowIndex classification.source value >>= convertDecimal mapping rowIndex
        classification).toOption.map MssqlDecimal.unscaled := by
  have hvalue (unscaled : ℤ) := @normalizedDecimalValue_toOption mapping column rowIndex unscaled classification directRow
  obtain ⟨source, targetPrecision, targetScale, arrowScale⟩ := classification
  cases source with
  | decimal256 =>
    simp only [DecimalSource.directValue, Direct.Decimal.decimal256Value, Direct.Decimal.decimal256ToI128, narrowed,
      toOption_bind, toOption_okOr, hvalue, Option.map_bind]
    rfl
  | _ => exact hvalue _

variable [Externals]

theorem mssqlDecimalValue_eq_bind (rowIndex : ℕ)
    (h : Encodes mapping.arrow.dataType mapping.mssql.ty (.decimal classification))
    (value : classification.source.Value) :
    mssqlDecimalValue mapping rowIndex (classification.source.cell value) =
      (narrowed mapping rowIndex classification.source value >>= convertDecimal mapping rowIndex classification) := by
  rw [mssqlDecimalValue, decimal_classify_eq_ok.mpr h]
  generalize mapping.arrow.dataType = dataType at h ⊢
  generalize mapping.mssql.ty = ty at h
  cases h with
  | decimal hsource =>
    rcases hsource with ⟨p, rfl, rfl⟩ | ⟨p, rfl, rfl⟩ | ⟨p, rfl, rfl⟩ | ⟨p, rfl, rfl⟩
    all_goals
      rw [if_neg (by simp), ok_bind]
      rfl

theorem baseline_eq_ok (h : Inhabitable (.decimal classification))
    (hencodes : Encodes mapping.arrow.dataType mapping.mssql.ty (.decimal classification)) {rowIndex : ℕ}
    {value : classification.source.Value} {result : MssqlDecimal} :
    mssqlDecimalValue mapping rowIndex (classification.source.cell value) = .ok result ↔
      (rescaled classification.arrowScale (classification.source.unscaled value)).natAbs <
          10 ^ classification.targetPrecision ∧
        result = ⟨rescaled classification.arrowScale (classification.source.unscaled value),
          classification.targetScale⟩ := by
  simp only [mssqlDecimalValue_eq_bind rowIndex hencodes, bind_eq_ok, narrowed_eq_ok, convertDecimal_eq_ok h]
  constructor
  · rintro ⟨_, ⟨-, rfl⟩, hresult⟩
    exact hresult
  · rintro ⟨hlt, rfl⟩
    exact ⟨_, ⟨fits_of_lt h.2.1 (lt_of_le_of_lt natAbs_le_rescaled hlt), rfl⟩, hlt, rfl⟩

omit [Externals] in
theorem safe_normalizedDecimalValue (column : DirectColumnPlan) (directRow : ℕ) (unscaled : ℤ) :
    Safe (Direct.Decimal.normalizedDecimalValue column classification directRow unscaled) := by
  apply safe_bind
  · unfold Direct.Decimal.normalizeNegativeScale
    split
    · exact safe_ok _
    · exact safe_bind (safe_okOr _ _) fun _ _ => safe_okOr _ _
  · intro _ _
    exact safe_bind (safe_ensure _ _) fun _ _ => safe_ok _

omit [Externals] in
theorem safe_directValue (column : DirectColumnPlan) (directRow : ℕ) (value : classification.source.Value) :
    Safe (classification.source.directValue column classification value directRow) := by
  have hnormalized := @safe_normalizedDecimalValue classification column directRow
  obtain ⟨source, targetPrecision, targetScale, arrowScale⟩ := classification
  cases source with
  | decimal256 => exact safe_bind (safe_okOr _ _) fun _ _ => hnormalized _
  | _ => exact hnormalized _

theorem safe_baseline (h : Inhabitable (.decimal classification))
    (hencodes : Encodes mapping.arrow.dataType mapping.mssql.ty (.decimal classification)) (rowIndex : ℕ)
    (value : classification.source.Value) :
    Safe (mssqlDecimalValue mapping rowIndex (classification.source.cell value)) := by
  rw [mssqlDecimalValue_eq_bind rowIndex hencodes]
  apply safe_bind
  · unfold narrowed
    split
    · exact safe_okOr _ _
    · exact safe_ok _
  · intro unscaled _
    exact (failsWith_convertDecimal unscaled h).safe

theorem planned_decimal {index : ℕ} {field : Field} {options : PlanOptions} {precision targetPrecision targetScale : ℕ}
    {scale : ℤ} (h : planArrowDataTypeAsMssqlType index field options = .ok (.decimal targetPrecision targetScale))
    (hshape : field.dataType.decimalShape = some (precision, scale)) :
    1 ≤ targetPrecision ∧ targetPrecision ≤ 38 ∧ -38 < scale ∧ targetPrecision = precision + (-scale).toNat := by
  have hdecimal (hplan : planArrowDecimalAsMssqlType precision scale options.decimalPolicy index field =
      .ok (.decimal targetPrecision targetScale)) : 1 ≤ targetPrecision ∧ targetPrecision ≤ 38 ∧ -38 < scale ∧
        targetPrecision = precision + (-scale).toNat := by
    obtain ⟨shape, hok, hty⟩ := bind_eq_ok.mp hplan
    obtain ⟨hlo, hhi, hscale, -, -, hwidth⟩ := normalizeArrowDecimalShape_eq_ok hok
    obtain ⟨rfl, -⟩ := MssqlType.decimal.inj (Except.ok.inj hty)
    exact ⟨hlo, hhi, hscale, hwidth⟩
  unfold planArrowDataTypeAsMssqlType at h
  cases hdt : field.dataType with
  | decimal32 | decimal64 | decimal128 =>
    rw [hdt] at hshape
    cases hshape
    simp only [hdt] at h
    exact hdecimal h
  | decimal256 =>
    rw [hdt] at hshape
    cases hshape
    simp only [hdt, planArrowDecimal256AsMssqlType] at h
    split at h
    · exact hdecimal h
    · cases h
  | _ =>
    rw [hdt] at hshape
    cases hshape

omit [Externals] in
theorem rescaled_exact {arrowScale unscaled : ℤ} : (rescaled arrowScale unscaled : ℚ) / 10 ^ arrowScale.toNat =
    unscaled * (10 : ℚ) ^ (-arrowScale) := by
  by_cases hneg : arrowScale < 0
  · have hzero : arrowScale.toNat = 0 := by omega
    have hcast : ((-arrowScale).toNat : ℤ) = -arrowScale := by omega
    rw [rescaled, hzero, pow_zero, div_one, ← hcast, zpow_natCast]
    push_cast
    rfl
  · have hcast : (arrowScale.toNat : ℤ) = arrowScale := by omega
    have hpow : (10 : ℚ) ^ arrowScale = 10 ^ arrowScale.toNat := by rw [← zpow_natCast, hcast]
    rw [rescaled_of_nonneg (by omega), div_eq_mul_inv, zpow_neg, hpow]

section Preservation

variable {schema : List Field} {profile : MssqlProfile} {options : PlanOptions} {outcome : PlanOutcome PlannedSchema}

theorem decimal_value_preservation
    (hplan : planArrowSchemaToMssqlSchema schema profile options = .ok outcome) {i : ℕ}
    (hmapping : outcome.value.mappings[i]? = some mapping) {classifyRow : ℕ}
    (hclassify : DecimalArrowToMssql.classify mapping classifyRow = .ok classification)
    (value : classification.source.Value) (rowIndex : ℕ) :
    mapping.mssql.ty = .decimal classification.targetPrecision classification.targetScale ∧
    CellOf mapping.arrow.dataType (classification.source.cell value) ∧
    (succeeds (mssqlDecimalValue mapping rowIndex (classification.source.cell value)) = true ↔
      (classification.source.unscaled value * 10 ^ (max 0 (-classification.arrowScale)).toNat).natAbs <
        10 ^ classification.targetPrecision) ∧
    (∀ result, mssqlDecimalValue mapping rowIndex (classification.source.cell value) = .ok result →
      result.scale = classification.targetScale ∧ fitsSigned 128 result.unscaled ∧
      (result.unscaled : ℚ) / 10 ^ classification.targetScale =
        classification.source.unscaled value * (10 : ℚ) ^ (-classification.arrowScale)) ∧
    Safe (mssqlDecimalValue mapping rowIndex (classification.source.cell value)) ∧
    (∀ column directRow,
      Safe (classification.source.directValue column classification value directRow) ∧
      (classification.source.directValue column classification value directRow).toOption =
        (mssqlDecimalValue mapping rowIndex (classification.source.cell value)).toOption.map MssqlDecimal.unscaled) ∧
    ∃ precision, mapping.arrow.dataType.decimalShape = some (precision, classification.arrowScale) ∧
      ((classification.source.unscaled value).natAbs < 10 ^ precision →
        succeeds (mssqlDecimalValue mapping rowIndex (classification.source.cell value)) = true) := by
  have hencodes := decimal_classify_eq_ok.mp hclassify
  obtain ⟨hty, hscale, precision, hshape⟩ := encodes_decimal hencodes
  obtain ⟨field, -, hsame, hplanned⟩ := planned_field hplan hmapping
  rw [hty] at hplanned
  obtain ⟨hlo, hhi, hlimit, hwidth⟩ := planned_decimal hplanned (hsame ▸ hshape)
  have hinhabitable : Inhabitable (.decimal classification) := ⟨hlo, hhi, hlimit⟩
  have hok (result : MssqlDecimal) := @baseline_eq_ok mapping classification _ hinhabitable hencodes rowIndex value result
  have hmax : (max 0 (-classification.arrowScale)).toNat = (-classification.arrowScale).toNat := by omega
  have haccepted : succeeds (mssqlDecimalValue mapping rowIndex (classification.source.cell value)) = true ↔
      (rescaled classification.arrowScale (classification.source.unscaled value)).natAbs <
        10 ^ classification.targetPrecision := by
    rw [succeeds_iff]
    exact ⟨fun ⟨result, h⟩ => ((hok result).mp h).1, fun h => ⟨_, (hok _).mpr ⟨h, rfl⟩⟩⟩
  refine ⟨hty, cellOf_decimal hencodes value, ?_, ?_, safe_baseline hinhabitable hencodes rowIndex value, ?_,
    precision, hshape, ?_⟩
  · rw [haccepted, hmax, rescaled]
  · intro result hresult
    obtain ⟨hlt, rfl⟩ := (hok result).mp hresult
    rw [hscale]
    exact ⟨rfl, fits_of_lt hhi hlt, rescaled_exact⟩
  · intro column directRow
    rw [mssqlDecimalValue_eq_bind rowIndex hencodes]
    exact ⟨safe_directValue column directRow value, directValue_toOption column rowIndex directRow value⟩
  · intro hdigits
    rw [haccepted, rescaled, Int.natAbs_mul, Int.natAbs_pow, hwidth, pow_add]
    exact Nat.mul_lt_mul_of_pos_right hdigits (Nat.pow_pos (by decide))

omit [Externals] in
theorem decimal_value_preservation_at_sample :
    succeeds (@mssqlDecimalValue .silent
      ⟨⟨1, "total", true, .decimal128 38 10⟩, ⟨⟨"total", rfl⟩, .decimal 38 10, true⟩⟩ 0
      (.decimal128 ⟨10 ^ 37, by decide⟩)) = true := by
  obtain ⟨-, -, haccepted, -⟩ := @decimal_value_preservation
    ⟨⟨1, "total", true, .decimal128 38 10⟩, ⟨⟨"total", rfl⟩, .decimal 38 10, true⟩⟩ ⟨.decimal128, 38, 10, 10⟩ .silent
    sampleSchema sampleProfile {} _ rfl 1 rfl 0 rfl ⟨10 ^ 37, by decide⟩ 0
  exact haccepted.mpr (by decide)

end Preservation

end Classified

end ArrowTiberius
