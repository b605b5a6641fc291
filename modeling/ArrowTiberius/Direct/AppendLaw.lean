import ArrowTiberius.Direct.Semantics

namespace ArrowTiberius.Direct

open Checked

/-- The append pass does not panic, and writes the well-formed cells of a column under no length but their own. -/
structure AppendLaw (width : ℕ) (framing : Tds.Framing) (cellBytes : ℕ → Option (List UInt8))
    (append : List UInt8 → ℕ → ℕ → Result (List UInt8)) : Prop where
  safe : ∀ buf r n, Safe (append buf r n)
  claimed : ∀ {buf r n out}, append buf r n = .ok out → ∃ bytes, cellBytes r = some bytes ∧ n = bytes.length
  framed : ∀ {r bytes}, cellBytes r = some bytes →
    ∃ content, bytes = Tds.frame framing content ∧ Tds.Readable width framing content

section Framed

variable {α : Type} {width : ℕ} {framing : Tds.Framing} {data : Arr α} {r : ℕ} {bytes : List UInt8}
  {payloadOf : α → Option (List UInt8)} {content : Option (Option (List UInt8))}

theorem readable_of_null (h : framing ≠ .plain) : Tds.Readable width framing none := by
  cases framing with
  | plain => exact absurd rfl h
  | _ => trivial

theorem framed_of_content (hnull : ∀ c, content = some c → Tds.Readable width framing c)
    (hvalue : ∀ v payload, payloadOf v = some payload → Tds.Fits framing (some payload) →
      Tds.Readable width framing (some payload))
    (h : columnBytes framing (columnContent content data payloadOf) r = some bytes) :
    ∃ content, bytes = Tds.frame framing content ∧ Tds.Readable width framing content := by
  obtain ⟨c, hc, hwire⟩ := Option.bind_eq_some_iff.mp h
  obtain ⟨hfits, rfl⟩ := Tds.wire_eq_some.mp hwire
  refine ⟨c, rfl, ?_⟩
  unfold columnContent at hc
  split at hc
  · exact hnull c hc
  · obtain ⟨payload, hpayload, rfl⟩ := Option.map_eq_some_iff.mp hc
    exact hvalue _ payload hpayload hfits

theorem readable_of_nullContent {column : DirectColumnPlan} (hframing : column.nullable = true → framing ≠ .plain)
    (c : Option (List UInt8)) (h : nullContent column = some c) : Tds.Readable width framing c := by
  unfold nullContent at h
  split at h
  case isTrue hnullable =>
    cases h
    exact readable_of_null (hframing hnullable)
  case isFalse => cases h

end Framed

section Primitive

variable {α : Type} {data : Arr α} {column : DirectColumnPlan} {valueBytes : α → ℕ → Result (List UInt8)} {width : ℕ}

theorem Primitive.append_law (hwidth : 0 < width ∧ width < 256)
    (hrow : ∀ v r, (valueBytes v r).toOption = (valueBytes v 0).toOption) (hsafe : ∀ v r, Safe (valueBytes v r))
    (hlen : ∀ v value, valueBytes v 0 = .ok value → value.length = width) :
    AppendLaw width (Primitive.framing column) (Primitive.writtenBytes data column valueBytes)
      (Primitive.appendPrimitiveArrayCell data column valueBytes) where
  safe buf r n := by
    unfold Primitive.appendPrimitiveArrayCell
    split
    · exact safe_bind (safe_ensure _ _) fun _ _ => safe_bind (safe_ensure _ _) fun _ _ => safe_ok _
    · refine safe_bind (hsafe _ _) fun value _ => ?_
      unfold Primitive.appendPrimitiveCell
      split
      · refine safe_bind (safe_okOr _ _) fun _ _ => safe_bind (safe_ensure _ _) fun _ _ => safe_bind ?_ fun _ _ =>
          safe_ok _
        exact safe_bind (safe_ensure _ _) fun _ _ => safe_ok _
      · exact safe_bind (safe_ensure _ _) fun _ _ => safe_ok _
  claimed {buf r n out} h := by
    unfold Primitive.appendPrimitiveArrayCell at h
    split at h
    case isTrue hnull =>
      simp only [Primitive.appendNullCell, bind_unit_eq_ok, ensure_eq_ok] at h
      exact ⟨[0], (Primitive.cellBytes_null hnull).mpr ⟨h.1, rfl⟩, h.2.1⟩
    case isFalse hnull =>
      obtain ⟨value, hvalue, h⟩ := bind_eq_ok.mp h
      have hpayload : (valueBytes (data.value r) 0).toOption = some value := by
        rw [← hrow _ r, hvalue, toOption_ok]
      refine ⟨_, (Primitive.cellBytes_value (Bool.eq_false_iff.mpr hnull)).mpr ⟨value, hpayload, rfl⟩, ?_⟩
      unfold Primitive.appendPrimitiveCell at h
      split at h
      case isTrue hnullable =>
        obtain ⟨expected, hexpected, h⟩ := bind_eq_ok.mp h
        obtain ⟨hn, -⟩ := bind_unit_eq_ok.mp h
        rw [Primitive.nullableLength, okOr_eq_ok, checkedAdd_eq_some] at hexpected
        rw [ensure_eq_ok.mp hn, hexpected.2, if_pos hnullable, List.length_cons, Nat.add_comm]
        rfl
      case isFalse hnullable =>
        obtain ⟨hn, -⟩ := bind_unit_eq_ok.mp h
        rw [ensure_eq_ok.mp hn, if_neg hnullable]
  framed {r bytes} h := by
    refine framed_of_content (readable_of_nullContent ?_) ?_ h
    · intro hnullable
      rw [Primitive.framing, if_pos hnullable]
      decide
    · intro v payload hpayload _
      have hpayloadLen := hlen v payload (toOption_eq_some.mp hpayload)
      unfold Primitive.framing
      split
      · exact ⟨by omega, by omega⟩
      · exact hpayloadLen

end Primitive

section Decimal

variable {α : Type} {data : Arr α} {column : DirectColumnPlan} {kind : String} {value : α → ℕ → Result ℤ}

theorem Decimal.append_law (width : ℕ) (hrow : ∀ v r, (value v r).toOption = (value v 0).toOption)
    (hsafe : ∀ v r, Safe (value v r)) :
    AppendLaw width .bytePrefixed
      (Decimal.cellBytes data column fun v => (value v 0).toOption.map Decimal.unscaledBytes)
      (Decimal.appendCell kind data column value) where
  safe buf r n := by
    unfold Decimal.appendCell
    split
    · exact safe_bind (safe_bind (safe_ensure _ _) fun _ _ => safe_ok _) fun _ _ =>
        safe_bind (safe_ensure _ _) fun _ _ => safe_ok _
    · refine safe_bind (hsafe _ _) fun unscaled _ => safe_bind (safe_ensure _ _) fun _ _ => ?_
      rw [Decimal.appendDecimalCell_eq]
      exact safe_ok _
  claimed {buf r n out} h := by
    unfold Decimal.appendCell at h
    split at h
    case isTrue hnull =>
      obtain ⟨expected, hexpected, h⟩ := bind_eq_ok.mp h
      obtain ⟨hn, -⟩ := bind_unit_eq_ok.mp h
      obtain ⟨hnullable, rfl⟩ := Decimal.nullCellLen_eq_ok.mp hexpected
      exact ⟨[0], (Decimal.cellBytes_null hnull).mpr ⟨hnullable, rfl⟩, ensure_eq_ok.mp hn⟩
    case isFalse hnull =>
      obtain ⟨unscaled, hunscaled, h⟩ := bind_eq_ok.mp h
      obtain ⟨hn, -⟩ := bind_unit_eq_ok.mp h
      have hpayload : (value (data.value r) 0).toOption.map Decimal.unscaledBytes =
          some (Decimal.unscaledBytes unscaled) := by
        rw [← hrow _ r, hunscaled, toOption_ok, Option.map_some]
      refine ⟨_, ?_, (ensure_eq_ok.mp hn).trans (Decimal.decimalCellLen_eq unscaled)⟩
      rw [Decimal.cellBytes, columnBytes_of_value (Bool.eq_false_iff.mpr hnull), hpayload, Option.bind_some,
        Tds.wire_bytePrefixed]
  framed {r bytes} h := by
    refine framed_of_content (readable_of_nullContent fun _ => by decide) ?_ h
    intro v payload hpayload _
    obtain ⟨unscaled, -, rfl⟩ := Option.map_eq_some_iff.mp hpayload
    exact Decimal.readable_unscaledBytes _ _

end Decimal

section FixedSizeBinary

variable {data : Arr (List UInt8)} {column : DirectColumnPlan} {length : ℕ}

theorem FixedSizeBinary.append_safe (buf : List UInt8) (r n : ℕ) :
    Safe (FixedSizeBinary.appendFixedSizeBinaryCell data column (.fixedSizeBinaryToBinary length) buf r n) := by
  unfold FixedSizeBinary.appendFixedSizeBinaryCell
  split
  · exact safe_bind (safe_bind (safe_ensure _ _) fun _ _ => safe_ok _) fun _ _ =>
      safe_bind (safe_ensure _ _) fun _ _ => safe_ok _
  · refine safe_bind (safe_ensure _ _) fun _ _ => safe_bind (safe_okOr _ _) fun _ _ =>
      safe_bind (safe_ensure _ _) fun _ _ => safe_bind ?_ fun _ _ => safe_ok _
    exact safe_bind (safe_ensure _ _) fun _ _ => safe_ok _

theorem FixedSizeBinary.append_eq_ok {buf out : List UInt8} {r n : ℕ}
    (h : FixedSizeBinary.appendFixedSizeBinaryCell data column (.fixedSizeBinaryToBinary length) buf r n = .ok out) :
    (data.isNull r = true ∧ column.nullable = true ∧ n = 2 ∧ out = buf ++ FixedSizeBinary.nullBytes) ∨
      (data.isNull r = false ∧ (data.value r).length = length ∧ length < 2 ^ 16 ∧ n = 2 + length ∧
        out = buf ++ (LittleEndian.encode 2 length ++ data.value r)) := by
  have happend := h
  unfold FixedSizeBinary.appendFixedSizeBinaryCell at h
  split at h
  case isTrue hnull =>
    obtain ⟨expected, hexpected, h⟩ := bind_eq_ok.mp h
    obtain ⟨hn, hout⟩ := bind_unit_eq_ok.mp h
    obtain ⟨hnullable, rfl⟩ := FixedSizeBinary.nullCellLen_eq_ok.mp hexpected
    exact .inl ⟨hnull, hnullable, ensure_eq_ok.mp hn, (Except.ok.inj hout).symm⟩
  case isFalse hnull =>
    obtain ⟨hvalue, h⟩ := bind_unit_eq_ok.mp h
    obtain ⟨expected, hexpected, h⟩ := bind_eq_ok.mp h
    obtain ⟨hn, h⟩ := bind_unit_eq_ok.mp h
    obtain ⟨_, hbuf, -⟩ := bind_eq_ok.mp h
    obtain ⟨hfits, -⟩ := bind_unit_eq_ok.mp hbuf
    obtain ⟨-, rfl⟩ := FixedSizeBinary.nonNullCellLen_eq_ok.mp hexpected
    have hisNull := Bool.eq_false_iff.mpr hnull
    have hlt : length < 2 ^ 16 := ensure_eq_ok.mp hfits
    rw [show n = 2 + length from ensure_eq_ok.mp hn,
      FixedSizeBinary.append_value hlt hisNull (ensure_eq_ok.mp hvalue)] at happend
    exact .inr ⟨hisNull, ensure_eq_ok.mp hvalue, hlt, ensure_eq_ok.mp hn, (Except.ok.inj happend).symm⟩

theorem FixedSizeBinary.append_law (width : ℕ) (hlimit : length ≤ 0xfffe) :
    AppendLaw width .shortPrefixed (FixedSizeBinary.cellBytes data column length)
      (FixedSizeBinary.appendFixedSizeBinaryCell data column (.fixedSizeBinaryToBinary length)) where
  safe := FixedSizeBinary.append_safe
  claimed {buf r n out} h := by
    obtain ⟨hnull, hnullable, rfl, -⟩ | ⟨hnull, hvalue, -, rfl, -⟩ := FixedSizeBinary.append_eq_ok h
    · exact ⟨_, (FixedSizeBinary.cellBytes_null hnull).mpr ⟨hnullable, rfl⟩, rfl⟩
    · exact ⟨_, (FixedSizeBinary.cellBytes_value hlimit hnull).mpr ⟨hvalue, rfl⟩, by simp [hvalue]⟩
  framed {r bytes} h := by
    refine framed_of_content (readable_of_nullContent fun _ => by decide) ?_ h
    intro v payload _ hfits
    exact Nat.lt_succ_of_le hfits

end FixedSizeBinary

section Temporal

open Temporal

variable {α : Type} [Externals] {data : Arr α} {mapping : SchemaMapping} {column : DirectColumnPlan}
  {f : α → ℕ → Result TemporalValue} {width : ℕ}

omit [Externals] in
theorem Temporal.readable_content {value : TemporalValue} (h : Suits column value)
    (hwidth : column.targetType = .dateTime → width = 8) :
    Tds.Readable width (Temporal.framing column) (some value.content) := by
  have htime (scale : ℕ) : 0 < Tds.timeLength scale ∧ Tds.timeLength scale ≤ 5 := by
    unfold Tds.timeLength
    split
    · decide
    · split <;> decide
  have hlength : 0 < value.content.length ∧ value.content.length < 256 := by
    cases value with
    | date value => simp [TemporalValue.content]
    | time value =>
      rw [TemporalValue.content, Tds.length_encodeTime]
      have := htime value.scale
      omega
    | dateTime2 value =>
      rw [TemporalValue.content, Tds.length_encodeDateTime2]
      have := htime value.time.scale
      omega
    | dateTime value => simp [TemporalValue.content]
    | dateTimeOffset value =>
      rw [TemporalValue.content, Tds.length_encodeDateTimeOffset]
      have := htime value.datetime2.time.scale
      omega
  by_cases htarget : column.targetType = .dateTime
  · rw [framing_of_eq htarget]
    split
    · exact hlength
    · cases value with
      | dateTime value =>
        rw [hwidth htarget]
        exact Tds.length_encodeDateTime value
      | _ => exact absurd htarget h.2
  · rw [framing_of_ne htarget]
    exact hlength

theorem Temporal.append_law (h : TemporalValues column f) (hwidth : column.targetType = .dateTime → width = 8) :
    AppendLaw width (Temporal.framing column)
      (Temporal.cellBytes data mapping column fun v => (f v 0).toOption)
      (appendTemporalValue data mapping column fun v rowIndex => do
        let value ← f v rowIndex
        let len ← temporalValueCellLen column value
        pure (len, value)) where
  safe buf r n := by
    unfold appendTemporalValue
    split
    · refine safe_bind (validateNull_safe r) fun _ _ => safe_bind ?_ fun _ _ => safe_bind (safe_ensure _ _) fun _ _ =>
        safe_ok _
      exact safe_bind (safe_ensure _ _) fun _ _ => safe_ok _
    · refine safe_bind (validateMapping_safe r) fun _ _ => safe_bind ?_ fun pair hpair => safe_bind (safe_ensure _ _)
        fun _ _ => ?_
      · refine safe_bind (h.safe _ _) fun value hvalue => ?_
        rw [temporalValueCellLen_of_suits (h.suits _ value (h.eq_ok_iff.mp hvalue)), ok_bind]
        exact safe_ok _
      · obtain ⟨value, hvalue, hpair⟩ := bind_eq_ok.mp hpair
        have hsuits := h.suits _ value (h.eq_ok_iff.mp hvalue)
        rw [temporalValueCellLen_of_suits hsuits, ok_bind, pure_eq_ok, Except.ok.injEq] at hpair
        rw [← hpair]
        dsimp only
        rw [appendDirectTemporalValueCell_of buf hsuits]
        exact safe_ok _
  claimed {buf r n out} happend := by
    unfold appendTemporalValue at happend
    split at happend
    case isTrue hnull =>
      obtain ⟨hzones, happend⟩ := bind_unit_eq_ok.mp happend
      obtain ⟨expected, hexpected, happend⟩ := bind_eq_ok.mp happend
      obtain ⟨hn, -⟩ := bind_unit_eq_ok.mp happend
      rw [validateNull_eq, validateMapping_eq_ok] at hzones
      obtain ⟨hnullable, rfl⟩ := nullTemporalCellLen_eq_ok.mp hexpected
      exact ⟨[0], (Temporal.cellBytes_null hnull).mpr ⟨hzones, hnullable, rfl⟩, ensure_eq_ok.mp hn⟩
    case isFalse hnull =>
      obtain ⟨hzones, happend⟩ := bind_unit_eq_ok.mp happend
      obtain ⟨⟨expected, value⟩, hpair, happend⟩ := bind_eq_ok.mp happend
      obtain ⟨hn, -⟩ := bind_unit_eq_ok.mp happend
      obtain ⟨value', hvalue, hpair⟩ := bind_eq_ok.mp hpair
      have hcontent := h.eq_ok_iff.mp hvalue
      rw [temporalValueCellLen_of_suits (h.suits _ value' hcontent), ok_bind, pure_eq_ok, Except.ok.injEq,
        Prod.mk.injEq] at hpair
      obtain ⟨rfl, rfl⟩ := hpair
      rw [validateMapping_eq_ok] at hzones
      exact ⟨_, (Temporal.cellBytes_value (Bool.eq_false_iff.mpr hnull)).mpr ⟨hzones, _, hcontent, rfl⟩,
        ensure_eq_ok.mp hn⟩
  framed {r bytes} hbytes := by
    by_cases hnull : data.isNull r = true
    · obtain ⟨-, hnullable, rfl⟩ := (Temporal.cellBytes_null hnull).mp hbytes
      rw [framing_nullable hnullable]
      exact ⟨none, rfl, trivial⟩
    · obtain ⟨-, value, hvalue, rfl⟩ := (Temporal.cellBytes_value (Bool.eq_false_iff.mpr hnull)).mp hbytes
      exact ⟨some value.content, rfl, Temporal.readable_content (h.suits _ value hvalue) hwidth⟩

theorem Temporal.date32_append_law {data : Arr (SInt 32)} (htarget : column.targetType ≠ .dateTime) :
    AppendLaw width (Temporal.framing column) (Temporal.cellBytes data mapping column fun v =>
        (TemporalValue.date <$> ArrowTiberius.mssqlDateFromArrowDate32 mapping 0 v).toOption)
      (appendDate32Cell data mapping column) := by
  have hbaseline (v : SInt 32) : (mssqlDateFromArrowDate32 column 0 v).toOption =
      (ArrowTiberius.mssqlDateFromArrowDate32 mapping 0 v).toOption := mssqlDateFromArrowDate32_toOption v
  have h := @Temporal.append_law _ _ data mapping column _ width (date32_values mapping htarget)
    fun h => absurd h htarget
  simp only [toOption_map, hbaseline, bind_map_left] at h ⊢
  exact h

theorem Temporal.date64_append_law {data : Arr (SInt 64)} (htarget : column.targetType ≠ .dateTime) :
    AppendLaw width (Temporal.framing column) (Temporal.cellBytes data mapping column fun v =>
        (TemporalValue.dateTime2 <$> ArrowTiberius.mssqlDatetime2FromArrowDate64 mapping 0 v).toOption)
      (appendDate64Cell data mapping column) := by
  have hbaseline (v : SInt 64) : (mssqlDatetime2FromArrowDate64 column 0 v).toOption =
      (ArrowTiberius.mssqlDatetime2FromArrowDate64 mapping 0 v).toOption := mssqlDatetime2FromArrowDate64_toOption v
  have h := @Temporal.append_law _ _ data mapping column _ width (date64_values mapping htarget)
    fun h => absurd h htarget
  simp only [toOption_map, hbaseline, bind_map_left] at h ⊢
  exact h

theorem Temporal.time_append_law {time : α → ℕ → Result MssqlTime} (htarget : column.targetType ≠ .dateTime)
    (h : TemporalValues column fun v r => TemporalValue.time <$> time v r) :
    AppendLaw width (Temporal.framing column) (Temporal.cellBytes data mapping column fun v =>
        (TemporalValue.time <$> time v 0).toOption)
      (appendTimeArrayCell data mapping column time) := by
  have hlaw := @Temporal.append_law _ _ data mapping column _ width h fun h => absurd h htarget
  simp only [bind_map_left] at hlaw
  exact hlaw

theorem Temporal.datetimeoffset_append_law {unit : TimeUnit} {data : Arr (SInt 64)}
    {context : RuntimeConversionContext} (htarget : column.targetType ≠ .dateTime) :
    AppendLaw width (Temporal.framing column) (Temporal.cellBytes data mapping column fun v =>
        (TemporalValue.dateTimeOffset <$> datetimeoffsetValue unit mapping context v 0).toOption)
      (appendDatetimeoffsetArrayCell unit data mapping context column) := by
  have h := @Temporal.append_law _ _ data mapping column _ width
    (@datetimeoffset_values _ mapping column unit context htarget) fun h => absurd h htarget
  simp only [bind_map_left] at h
  exact h

end Temporal

section Varbinary

variable {data : Arr (List UInt8)} {column : DirectColumnPlan} {length : MssqlTypeLength}

theorem VariableWidth.appendNullCell_eq_ok {buf out : List UInt8} {r n : ℕ}
    (h : VariableWidth.appendNullCell buf column r n length = .ok out) :
    column.nullable = true ∧ n = (VariableWidth.nullBytes length).length ∧
      out = buf ++ VariableWidth.nullBytes length := by
  obtain ⟨expected, hexpected, h⟩ := bind_eq_ok.mp h
  obtain ⟨hn, hout⟩ := bind_unit_eq_ok.mp h
  obtain ⟨hnullable, rfl⟩ := VariableWidth.nullCellLen_eq_ok.mp hexpected
  refine ⟨hnullable, ensure_eq_ok.mp hn, (Except.ok.inj hout).symm.trans ?_⟩
  cases length <;> rfl

theorem VariableWidth.appendNullCell_safe (buf : List UInt8) (r n : ℕ) :
    Safe (VariableWidth.appendNullCell buf column r n length) :=
  safe_bind (safe_bind (safe_ensure _ _) fun _ _ => safe_ok _) fun _ _ => safe_bind (safe_ensure _ _) fun _ _ =>
    safe_ok _

theorem VariableWidth.boundedCellLen_safe (n : ℕ) : Safe (VariableWidth.boundedCellLen n) :=
  safe_bind (safe_ensure _ _) fun _ _ => safe_okOr _ _

theorem VariableWidth.plpCellLen_safe (n : ℕ) : Safe (VariableWidth.plpCellLen n) := by
  refine safe_bind (safe_ensure _ _) fun _ _ => safe_bind (safe_okOr _ _) fun _ _ => safe_bind (safe_okOr _ _)
    fun _ _ => ?_
  split
  · exact safe_okOr _ _
  · exact safe_ok _

theorem VariableWidth.appendVarbinaryValue_safe (buf : List UInt8) (r n : ℕ) (value : List UInt8) :
    Safe (VariableWidth.appendVarbinaryValue column length buf r n value) := by
  cases length with
  | bounded limit =>
    exact safe_bind (safe_ensure _ _) fun _ _ => safe_bind (VariableWidth.boundedCellLen_safe _) fun _ _ =>
      safe_bind (safe_ensure _ _) fun _ _ => safe_bind (safe_ensure _ _) fun _ _ => safe_ok _
  | max =>
    exact safe_bind (VariableWidth.plpCellLen_safe _) fun _ _ => safe_bind (safe_ensure _ _) fun _ _ =>
      safe_bind (safe_bind (safe_ensure _ _) fun _ _ => safe_ok _) fun _ _ => safe_ok _

theorem VariableWidth.appendVarbinaryValue_claimed {buf out : List UInt8} {r n : ℕ} {value : List UInt8}
    (h : VariableWidth.appendVarbinaryValue column length buf r n value = .ok out) :
    ∃ payload bytes, VariableWidth.varbinaryPayload length value = some payload ∧
      Tds.wire (VariableWidth.framing length) (some payload) = some bytes ∧ n = bytes.length := by
  cases length with
  | bounded limit =>
    obtain ⟨hlimit, h⟩ := bind_unit_eq_ok.mp h
    obtain ⟨expected, hexpected, h⟩ := bind_eq_ok.mp h
    obtain ⟨hn, -⟩ := bind_unit_eq_ok.mp h
    obtain ⟨bytes, hwire, rfl⟩ := VariableWidth.boundedCellLen_eq_ok.mp hexpected
    rw [ensure_eq_ok, ← VariableWidth.exceedsLength_bounded] at hlimit
    exact ⟨value, bytes, VariableWidth.varbinaryPayload_eq_some.mpr ⟨hlimit, rfl⟩, hwire, ensure_eq_ok.mp hn⟩
  | max =>
    obtain ⟨expected, hexpected, h⟩ := bind_eq_ok.mp h
    obtain ⟨hn, -⟩ := bind_unit_eq_ok.mp h
    obtain ⟨bytes, hwire, rfl⟩ := VariableWidth.plpCellLen_eq_ok.mp hexpected
    exact ⟨value, bytes, VariableWidth.varbinaryPayload_eq_some.mpr ⟨rfl, rfl⟩, hwire, ensure_eq_ok.mp hn⟩

theorem VariableWidth.readable_of_fits {width : ℕ} {payload : List UInt8}
    (h : Tds.Fits (VariableWidth.framing length) (some payload)) :
    Tds.Readable width (VariableWidth.framing length) (some payload) := by
  cases length <;> exact Nat.lt_succ_of_le h

theorem VariableWidth.framing_ne_plain : VariableWidth.framing length ≠ .plain := by
  cases length <;> simp [VariableWidth.framing]

theorem VariableWidth.varbinary_append_law [Externals] (width : ℕ)
    (henc : column.encoding = .variableWidth (.bytesToVarBinary length)) :
    AppendLaw width (VariableWidth.framing length)
      (VariableWidth.cellBytes data column length (VariableWidth.varbinaryPayload length))
      (VariableWidth.appendVarbinaryCell data column) := by
  have happend (buf : List UInt8) (r n : ℕ) : VariableWidth.appendVarbinaryCell data column buf r n =
      VariableWidth.appendCell data column length (VariableWidth.appendVarbinaryValue column length) buf r n := by
    rw [VariableWidth.appendVarbinaryCell, VariableWidth.varbinaryLength, henc]
    rfl
  refine ⟨?_, ?_, ?_⟩
  · intro buf r n
    rw [happend, VariableWidth.appendCell]
    split
    · exact VariableWidth.appendNullCell_safe buf r n
    · exact VariableWidth.appendVarbinaryValue_safe buf r n _
  · intro buf r n out h
    rw [happend, VariableWidth.appendCell] at h
    split at h
    case isTrue hnull =>
      obtain ⟨hnullable, hn, -⟩ := VariableWidth.appendNullCell_eq_ok h
      exact ⟨_, (VariableWidth.cellBytes_null hnull).mpr ⟨hnullable, rfl⟩, hn⟩
    case isFalse hnull =>
      obtain ⟨payload, bytes, hpayload, hwire, hn⟩ := VariableWidth.appendVarbinaryValue_claimed h
      exact ⟨bytes, (VariableWidth.cellBytes_value (Bool.eq_false_iff.mpr hnull)).mpr ⟨payload, hpayload, hwire⟩, hn⟩
  · intro r bytes h
    apply framed_of_content (readable_of_nullContent fun _ => VariableWidth.framing_ne_plain) _ h
    intro v payload _ hfits
    exact VariableWidth.readable_of_fits hfits

end Varbinary

section Bind

variable [Externals] {encoder : DirectEncoder} {array : ArrayRef} {i : ℕ} {mapping : SchemaMapping}
  {encoding : DirectColumnEncoding} {bound : BoundDirectColumn} {context : RuntimeConversionContext}

def AppendsCells (context : RuntimeConversionContext) (mapping : SchemaMapping) (bound : BoundDirectColumn) : Prop :=
  AppendLaw (Tds.plainWidth mapping.mssql.ty) (Tds.framingOf mapping.mssql.ty mapping.mssql.nullable)
    (bound.cellBytes context) (bound.appendCell context)

omit [Externals] in
theorem Primitive.append_law_of_encodes {α : Type} {data : Arr α} {valueBytes : α → ℕ → Result (List UInt8)}
    {classification : PrimitiveArrowToMssql}
    (hencodes : Encodes mapping.arrow.dataType mapping.mssql.ty (.primitive classification))
    (hrow : ∀ v r, (valueBytes v r).toOption = (valueBytes v 0).toOption) (hsafe : ∀ v r, Safe (valueBytes v r))
    (hlen : ∀ v value, valueBytes v 0 = .ok value → value.length = Tds.plainWidth mapping.mssql.ty) :
    AppendLaw (Tds.plainWidth mapping.mssql.ty) (Tds.framingOf mapping.mssql.ty mapping.mssql.nullable)
      (Primitive.writtenBytes data (.fromMapping mapping (.primitive classification)) valueBytes)
      (Primitive.appendPrimitiveArrayCell data (.fromMapping mapping (.primitive classification)) valueBytes) := by
  have hty : 0 < Tds.plainWidth mapping.mssql.ty ∧ Tds.plainWidth mapping.mssql.ty < 256 ∧
      Tds.framingOf mapping.mssql.ty mapping.mssql.nullable =
        Primitive.framing (.fromMapping mapping (.primitive classification)) := by
    rw [Primitive.framing, DirectColumnPlan.fromMapping]
    generalize mapping.arrow.dataType = dataType at hencodes
    generalize mapping.mssql.ty = ty at hencodes
    cases hencodes <;> exact ⟨by decide, by decide, rfl⟩
  obtain ⟨hpos, hlt, hframing⟩ := hty
  rw [hframing]
  exact Primitive.append_law ⟨hpos, hlt⟩ hrow hsafe hlen

theorem appendsCells_of_primitive {classification : PrimitiveArrowToMssql}
    (hencodes : Encodes mapping.arrow.dataType mapping.mssql.ty (.primitive classification))
    (hbind : bindDirectArray encoder array i (.fromMapping mapping (.primitive classification)) = .ok bound) :
    AppendsCells context mapping bound := by
  have hencodes' := hencodes
  generalize hdt : mapping.arrow.dataType = dataType at hencodes'
  generalize hty : mapping.mssql.ty = ty at hencodes'
  cases hencodes' with
  | uint64 =>
    obtain ⟨data, -, rfl⟩ := map_eq_ok.mp hbind
    apply Primitive.append_law_of_encodes hencodes
    · intro v r
      simp [Primitive.uint64CheckedBigintBytes]
    · intro v r
      exact safe_bind (safe_okOr _ _) fun _ _ => safe_ok _
    · intro v value hvalue
      obtain ⟨_, -, hvalue⟩ := bind_eq_ok.mp hvalue
      rw [← Except.ok.inj hvalue, hty]
      simp [Tds.plainWidth]
  | float16 | float32 | float64 =>
    obtain ⟨data, -, rfl⟩ := map_eq_ok.mp hbind
    apply Primitive.append_law_of_encodes hencodes
    · intro v r
      simp [Primitive.float16Bytes, Primitive.float32Bytes, Primitive.float64Bytes]
    · intro v r
      exact safe_bind (safe_ensure _ _) fun _ _ => safe_ok _
    · intro v value hvalue
      obtain ⟨-, hvalue⟩ := bind_unit_eq_ok.mp hvalue
      rw [← Except.ok.inj hvalue, hty]
      simp [Tds.plainWidth]
  | _ =>
    obtain ⟨data, -, rfl⟩ := map_eq_ok.mp hbind
    apply Primitive.append_law_of_encodes hencodes
    · intro v r
      rfl
    · intro v r
      exact safe_ok _
    · intro v value hvalue
      rw [← Except.ok.inj hvalue, hty]
      simp [Tds.plainWidth]

theorem appendsCells_of_decimal {classification : DecimalArrowToMssql}
    (hencodes : Encodes mapping.arrow.dataType mapping.mssql.ty (.decimal classification))
    (hbind : bindDirectArray encoder array i (.fromMapping mapping (.decimal classification)) = .ok bound) :
    AppendsCells context mapping bound := by
  obtain ⟨hty, -⟩ := encodes_decimal hencodes
  unfold AppendsCells
  rw [hty]
  unfold bindDirectArray at hbind
  dsimp only [DirectColumnPlan.fromMapping] at hbind
  rcases hsource : classification.source with _ | _ | _ | _
  all_goals
    rw [hsource] at hbind
    obtain ⟨data, -, rfl⟩ := map_eq_ok.mp hbind
  case decimal256 =>
    apply Decimal.append_law _ Decimal.decimal256Value_toOption
    intro v r
    exact safe_bind (safe_okOr _ _) fun _ _ => safe_normalizedDecimalValue _ _ _
  all_goals
    apply Decimal.append_law _ Decimal.decimalValue_toOption
    intro v r
    exact safe_normalizedDecimalValue _ _ _

theorem appendsCells_of_varbinary {length : MssqlTypeLength}
    (hencodes : Encodes mapping.arrow.dataType mapping.mssql.ty (.variableWidth (.bytesToVarBinary length)))
    (hbind : bindDirectArray encoder array i (.fromMapping mapping (.variableWidth (.bytesToVarBinary length))) =
      .ok bound) : AppendsCells context mapping bound := by
  have hty : mapping.mssql.ty = .varBinary length := by
    generalize mapping.arrow.dataType = dataType at hencodes
    generalize mapping.mssql.ty = ty at hencodes
    cases hencodes
    rfl
  unfold AppendsCells
  rw [hty, ← framing_varBinary]
  obtain ⟨_, -, hbind⟩ := bind_eq_ok.mp hbind
  cases bindsBytes_of_bind hbind with
  | binary | largeBinary | binaryView => exact VariableWidth.varbinary_append_law _ rfl

theorem appendsCells_of_temporal {classification : TemporalArrowToMssql}
    (hencodes : Encodes mapping.arrow.dataType mapping.mssql.ty (.temporal classification))
    (hmapping : encoder.mappings[i]? = some mapping)
    (hbind : bindDirectArray encoder array i (.fromMapping mapping (.temporal classification)) = .ok bound) :
    AppendsCells context mapping bound := by
  have hmapping' := mappingForColumnIndex_eq_ok.mpr hmapping
  have hwidth {ty : MssqlType} (h : ty = .dateTime) : Tds.plainWidth ty = 8 := by
    rw [h]
    rfl
  unfold AppendsCells
  rw [← framing_temporal hencodes]
  unfold bindDirectArray at hbind
  dsimp only [DirectColumnPlan.fromMapping] at hbind
  rw [hmapping', ok_bind] at hbind
  generalize mapping.arrow.dataType = dataType at hencodes
  generalize hty : mapping.mssql.ty = ty at hencodes
  have hne (h : ty ≠ .dateTime) : mapping.mssql.ty ≠ .dateTime := by rwa [hty]
  cases hencodes with
  | date32 =>
    obtain ⟨data, -, rfl⟩ := map_eq_ok.mp hbind
    exact Temporal.date32_append_law (hne nofun)
  | date64 =>
    obtain ⟨data, -, rfl⟩ := map_eq_ok.mp hbind
    exact Temporal.date64_append_law (hne nofun)
  | time32Second | time32Millisecond | time64Microsecond =>
    obtain ⟨data, -, rfl⟩ := map_eq_ok.mp hbind
    exact Temporal.time_append_law (hne nofun) (Temporal.time_values (by decide) (by decide) (hne nofun))
  | time64Nanosecond =>
    obtain ⟨data, -, rfl⟩ := map_eq_ok.mp hbind
    exact Temporal.time_append_law (hne nofun) (Temporal.time64Nanosecond_values (hne nofun))
  | timestampDateTime | timestampTzDateTime =>
    obtain ⟨data, -, rfl⟩ := map_eq_ok.mp hbind
    exact Temporal.append_law (Temporal.timestamp_values rfl (.inl hty)) fun h => hwidth (hty.symm.trans h)
  | timestampDateTime2 _ hprecision | timestampTzDateTime2 _ hprecision =>
    obtain ⟨data, -, rfl⟩ := map_eq_ok.mp hbind
    exact Temporal.append_law (Temporal.timestamp_values rfl (.inr ⟨_, hprecision, hty⟩))
      fun h => hwidth (hty.symm.trans h)
  | dateTimeOffset =>
    obtain ⟨data, -, rfl⟩ := map_eq_ok.mp hbind
    exact Temporal.datetimeoffset_append_law (hne nofun)

theorem appendsCells_of_bind (hencodes : Encodes mapping.arrow.dataType mapping.mssql.ty encoding)
    (htext : ∀ length, encoding ≠ .variableWidth (.stringToNVarChar length))
    (hlimit : AnnouncesLength mapping.mssql.ty) (hmapping : encoder.mappings[i]? = some mapping)
    (hbind : bindDirectArray encoder array i (.fromMapping mapping encoding) = .ok bound) :
    AppendsCells context mapping bound := by
  cases encoding with
  | primitive classification => exact appendsCells_of_primitive hencodes hbind
  | decimal classification => exact appendsCells_of_decimal hencodes hbind
  | temporal classification => exact appendsCells_of_temporal hencodes hmapping hbind
  | variableWidth classification =>
    cases classification with
    | stringToNVarChar length => exact absurd rfl (htext length)
    | bytesToVarBinary length => exact appendsCells_of_varbinary hencodes hbind
  | uint64Decimal20_0 =>
    obtain ⟨data, -, rfl⟩ := map_eq_ok.mp hbind
    unfold AppendsCells
    generalize mapping.arrow.dataType = dataType at hencodes
    generalize mapping.mssql.ty = ty at hencodes
    cases hencodes
    exact Decimal.append_law _ (fun _ _ => rfl) fun _ _ => safe_ok _
  | fixedSizeBinary classification =>
    obtain ⟨data, -, rfl⟩ := map_eq_ok.mp hbind
    unfold AppendsCells
    generalize mapping.arrow.dataType = dataType at hencodes
    generalize mapping.mssql.ty = ty at *
    cases hencodes with
    | fixedSizeBinary _ => exact FixedSizeBinary.append_law _ (hlimit _ rfl)

end Bind

end ArrowTiberius.Direct
