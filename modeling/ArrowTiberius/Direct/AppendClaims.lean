import ArrowTiberius.Direct.AppendLaw
import ArrowTiberius.Direct.LengthPrefixes

namespace ArrowTiberius.Direct

open Checked

namespace VariableWidth

def Announces (length : MssqlTypeLength) (claimed announced : ℕ) : Prop :=
  announced % 2 = 0 ∧ match length with
    | .bounded limit => claimed = 2 + announced ∧ announced / 2 ≤ limit ∧ announced < 2 ^ 16
    | .max => (claimed = 12 ∧ announced = 0 ∨ claimed = 16 + announced) ∧ announced ≤ 0xffffffff

def announcedCell (length : MssqlTypeLength) (announced : ℕ) (text : String) : List UInt8 :=
  match length with
  | .bounded _ => LittleEndian.encode 2 announced ++ Tds.encodeUtf16 text
  | .max => LittleEndian.encode 8 0xfffffffffffffffe ++ LittleEndian.encode 4 announced ++ Tds.encodeUtf16 text ++
    if announced = 0 then [] else LittleEndian.encode 4 0

variable {length : MssqlTypeLength} {label : String} {claimed announced : ℕ} {text : String}

theorem boundedEncodedBytes_eq_ok :
    boundedEncodedBytes label claimed = .ok announced ↔ claimed = 2 + announced ∧ announced % 2 = 0 := by
  constructor
  · intro h
    obtain ⟨hlead, h⟩ := bind_unit_eq_ok.mp h
    obtain ⟨heven, h⟩ := bind_unit_eq_ok.mp h
    rw [pure_eq_ok, Except.ok.injEq] at h
    rw [ensure_eq_ok, boundedLenPrefixLen] at hlead
    rw [validateUtf16ByteLen, ensure_eq_ok, h] at heven
    rw [boundedLenPrefixLen] at h
    exact ⟨by omega, heven⟩
  · rintro ⟨rfl, heven⟩
    exact boundedEncodedBytes_of heven

theorem plpEncodedBytes_eq_ok : plpEncodedBytes label claimed = .ok announced ↔
    (claimed = 12 ∧ announced = 0 ∨ claimed = 16 + announced) ∧ announced % 2 = 0 := by
  constructor
  · intro h
    unfold plpEncodedBytes at h
    dsimp only at h
    split at h
    case isTrue hempty =>
      rw [plpLenPrefixLen, plpChunkLenPrefixLen] at hempty
      obtain rfl := Except.ok.inj h
      exact ⟨.inl ⟨hempty, rfl⟩, rfl⟩
    case isFalse =>
      obtain ⟨hoverhead, h⟩ := bind_unit_eq_ok.mp h
      obtain ⟨heven, h⟩ := bind_unit_eq_ok.mp h
      rw [pure_eq_ok, Except.ok.injEq] at h
      rw [ensure_eq_ok] at hoverhead
      rw [validateUtf16ByteLen, ensure_eq_ok, h] at heven
      simp only [plpLenPrefixLen, plpChunkLenPrefixLen, plpTerminatorLen] at h hoverhead
      exact ⟨.inr (by omega), heven⟩
  · rintro ⟨⟨rfl, rfl⟩ | rfl, heven⟩
    · exact @plpEncodedBytes_of label 0 rfl
    · by_cases hzero : announced = 0
      · subst hzero
        rfl
      · have h := @plpEncodedBytes_of label announced heven
        rw [if_neg hzero] at h
        rw [← h]
        congr 1
        omega

theorem appendNvarcharValue_eq_ok {column : DirectColumnPlan} {buf out : List UInt8} {r : ℕ} :
    appendNvarcharValue column length buf r claimed text = .ok out ↔
      ∃ announced, Announces length claimed announced ∧ out = buf ++ announcedCell length announced text := by
  cases length with
  | bounded limit =>
    have happend (announced : ℕ) : appendBoundedNvarcharCell buf text announced = .ok out ↔
        announced < 2 ^ 16 ∧ out = buf ++ announcedCell (.bounded limit) announced text := by
      rw [appendBoundedNvarcharCell, bind_unit_eq_ok, checkShortLen, ensure_eq_ok, pure_eq_ok, Except.ok.injEq,
        appendUtf16le_eq, List.append_assoc]
      exact and_congr_right fun _ => eq_comm
    rw [appendNvarcharValue, bind_eq_ok]
    apply exists_congr
    intro announced
    rw [boundedEncodedBytes_eq_ok, bind_unit_eq_ok, ensure_eq_ok, happend, not_lt]
    unfold Announces
    tauto
  | max =>
    have happend (announced : ℕ) : appendPlpNvarcharCell buf text announced = .ok out ↔
        announced ≤ 0xffffffff ∧ out = buf ++ announcedCell .max announced text := by
      have hcell : appendPlpTerminator (appendUtf16le (buf ++ LittleEndian.encode 8 0xfffffffffffffffe ++
          LittleEndian.encode 4 announced) text) announced = buf ++ announcedCell .max announced text := by
        rw [appendUtf16le_eq, appendPlpTerminator, announcedCell]
        by_cases hzero : announced = 0
        · rw [if_neg (not_not.mpr hzero), if_pos hzero]
          simp only [List.append_assoc, List.append_nil]
        · rw [if_pos hzero, if_neg hzero]
          simp only [List.append_assoc]
      by_cases hle : announced ≤ 0xffffffff
      · have hcheck : checkPlpChunkLen announced = .ok () := ensure_of hle
        rw [appendPlpNvarcharCell, appendPlpHeader, hcheck, ok_bind, pure_eq_ok, ok_bind, hcell, pure_eq_ok,
          Except.ok.injEq, eq_comm, and_iff_right hle]
      · constructor
        · intro h
          obtain ⟨_, hheader, -⟩ := bind_eq_ok.mp h
          obtain ⟨hcheck, -⟩ := bind_unit_eq_ok.mp hheader
          exact absurd (ensure_eq_ok.mp hcheck) hle
        · intro h
          exact absurd h.1 hle
    rw [appendNvarcharValue, bind_eq_ok]
    apply exists_congr
    intro announced
    rw [plpNvarcharEncodedBytesFromLen, plpEncodedBytes_eq_ok, happend]
    unfold Announces
    tauto

theorem appendNvarcharValue_safe {column : DirectColumnPlan} {buf : List UInt8} {r : ℕ} :
    Safe (appendNvarcharValue column length buf r claimed text) := by
  cases length with
  | bounded limit =>
    apply safe_bind
    · exact safe_bind (safe_ensure _ _) fun _ _ => safe_bind (safe_ensure _ _) fun _ _ => safe_ok _
    · intro announced _
      exact safe_bind (safe_ensure _ _) fun _ _ => safe_bind (safe_ensure _ _) fun _ _ => safe_ok _
  | max =>
    apply safe_bind
    · unfold plpNvarcharEncodedBytesFromLen plpEncodedBytes
      dsimp only
      split
      · exact safe_ok _
      · exact safe_bind (safe_ensure _ _) fun _ _ => safe_bind (safe_ensure _ _) fun _ _ => safe_ok _
    · intro announced _
      exact safe_bind (safe_bind (safe_ensure _ _) fun _ _ => safe_ok _) fun _ _ => safe_ok _

def trueLength (length : MssqlTypeLength) (text : String) : ℕ :=
  (Tds.frame (framing length) (some (Tds.encodeUtf16 text))).length

theorem announcedCell_of_true (h : Announces length claimed announced) (htrue : claimed = trueLength length text)
    (width : ℕ) : announcedCell length announced text = Tds.frame (framing length) (some (Tds.encodeUtf16 text)) ∧
      Tds.Readable width (framing length) (some (Tds.encodeUtf16 text)) := by
  obtain ⟨heven, h⟩ := h
  cases length with
  | bounded limit =>
    obtain ⟨hclaimed, -, hlt⟩ := h
    have hlen : announced = (Tds.encodeUtf16 text).length := by
      rw [htrue, trueLength, framing, Tds.frame, List.length_append, LittleEndian.length_encode] at hclaimed
      omega
    subst hlen
    exact ⟨rfl, show (Tds.encodeUtf16 text).length < 0xffff by omega⟩
  | max =>
    obtain ⟨hclaimed, hle⟩ := h
    rw [trueLength, framing, length_frame_plp] at htrue
    have hlen : announced = (Tds.encodeUtf16 text).length := by
      split at htrue <;> omega
    subst hlen
    refine ⟨?_, Nat.lt_succ_of_le hle⟩
    rw [announcedCell, framing, Tds.frame]
    simp only [List.length_eq_zero_iff]

theorem announcedCell_lies (h : Announces length claimed announced) (hfalse : claimed ≠ trueLength length text)
    (hlen : (announcedCell length announced text).length = claimed) {width : ℕ} {content : Option (List UInt8)} :
    Tds.unframe width (framing length) (announcedCell length announced text) ≠ some (content, []) := by
  obtain ⟨heven, h⟩ := h
  cases length with
  | bounded limit =>
    rw [announcedCell, List.length_append, LittleEndian.length_encode] at hlen
    rw [trueLength, framing, Tds.frame, List.length_append, LittleEndian.length_encode] at hfalse
    omega
  | max =>
    rw [trueLength, framing, length_frame_plp] at hfalse
    rw [announcedCell] at hlen ⊢
    simp only [List.length_append, LittleEndian.length_encode] at hlen
    obtain ⟨hclaimed, hle⟩ := h
    by_cases hzero : announced = 0
    · subst hzero
      rw [if_pos rfl, List.length_nil] at hlen
      have hfour : (Tds.encodeUtf16 text).length = 4 := by
        split at hfalse <;> omega
      -- the cell of the empty string stands in front of the text
      have hframe : LittleEndian.encode 8 0xfffffffffffffffe ++ LittleEndian.encode 4 0 ++ Tds.encodeUtf16 text ++
          (if 0 = 0 then [] else LittleEndian.encode 4 0) = Tds.frame .plp (some []) ++ Tds.encodeUtf16 text := by
        rw [if_pos rfl, List.append_nil]
        rfl
      have hreadable : Tds.Readable width .plp (some []) := Nat.two_pow_pos 32
      intro hread
      rw [framing, hframe, Tds.unframe_frame hreadable, Option.some.injEq, Prod.mk.injEq] at hread
      rw [hread.2] at hfour
      cases hfour
    · rw [if_neg hzero, LittleEndian.length_encode] at hlen
      split at hfalse <;> omega

end VariableWidth

/-- The append pass takes a cell to be of a length that is not its own. -/
def BoundDirectColumn.TakesFalseLength (column : BoundDirectColumn) (r claimed : ℕ) : Prop :=
  match column with
  | .utf8 plan array | .largeUtf8 plan array | .utf8View plan array =>
    array.isNull r = false ∧ (∃ announced, VariableWidth.Announces (valueLength plan.encoding) claimed announced) ∧
      claimed ≠ VariableWidth.trueLength (valueLength plan.encoding) (array.value r)
  | .fixedSizeBinary _ classification array =>
    array.isNull r = false ∧ FixedSizeBinary.binaryLength classification = 0xffff ∧
      (array.value r).length = 0xffff ∧ claimed = 2 + 0xffff
  | _ => False

variable [Externals]

/-- The append pass fails, or appends a cell as long as claimed that ends where its own prefix says. -/
def AppendsHonestly (context : RuntimeConversionContext) (mapping : SchemaMapping) (column : BoundDirectColumn)
    (buf : List UInt8) (r claimed : ℕ) : Prop :=
  Safe (column.appendCell context buf r claimed) ∧
    ∀ out, column.appendCell context buf r claimed = .ok out →
      ∃ cell content, out = buf ++ cell ∧ cell.length = claimed ∧
        Tds.unframe (Tds.plainWidth mapping.mssql.ty) (cellFraming mapping) cell = some (content, [])

section Column

variable {encoder : DirectEncoder} {array : ArrayRef} {i : ℕ} {mapping : SchemaMapping}
  {encoding : DirectColumnEncoding} {column : BoundDirectColumn} {context : RuntimeConversionContext}
  {buf : List UInt8} {r claimed : ℕ}

theorem appendsHonestly_of_cells (hcells : AppendsCells context mapping column)
    (hlawful : column.Lawful context array.len) : AppendsHonestly context mapping column buf r claimed := by
  refine ⟨hcells.safe buf r claimed, ?_⟩
  intro out happend
  obtain ⟨bytes, hbytes, rfl⟩ := hcells.claimed happend
  obtain ⟨content, hframe, hreadable⟩ := hcells.framed hbytes
  rw [hlawful.append_cell hbytes, Except.ok.injEq] at happend
  refine ⟨bytes, content, happend.symm, rfl, ?_⟩
  have hread := @Tds.unframe_frame _ [] _ content hreadable
  rwa [List.append_nil, ← hframe] at hread

theorem appendsHonestly_nvarchar {length : MssqlTypeLength} {data : Arr String} {plan : DirectColumnPlan}
    (hty : mapping.mssql.ty = .nVarChar length)
    (happend : ∀ buf r claimed, column.appendCell context buf r claimed =
      VariableWidth.appendCell data plan length (VariableWidth.appendNvarcharValue plan length) buf r claimed) :
    AppendsHonestly context mapping column buf r claimed ↔ ¬(data.isNull r = false ∧
      (∃ announced, VariableWidth.Announces length claimed announced) ∧
        claimed ≠ VariableWidth.trueLength length (data.value r)) := by
  have hframing : cellFraming mapping = VariableWidth.framing length := by
    rw [cellFraming, hty, framing_nVarChar]
  rw [AppendsHonestly, happend, hframing, VariableWidth.appendCell]
  by_cases hnull : data.isNull r = true
  · rw [if_pos hnull, hnull]
    refine iff_of_true ⟨VariableWidth.appendNullCell_safe buf r claimed, ?_⟩ (by simp)
    intro out h
    obtain ⟨-, hclaimed, rfl⟩ := VariableWidth.appendNullCell_eq_ok h
    refine ⟨_, none, rfl, hclaimed.symm, ?_⟩
    cases length <;> rfl
  · rw [if_neg hnull]
    simp only [VariableWidth.appendNvarcharValue_eq_ok]
    constructor
    · rintro ⟨-, hhonest⟩ ⟨-, ⟨announced, hannounced⟩, hfalse⟩
      obtain ⟨cell, content, hcell, hlen, hread⟩ := hhonest _ ⟨announced, hannounced, rfl⟩
      obtain rfl := List.append_cancel_left hcell
      exact VariableWidth.announcedCell_lies hannounced hfalse hlen hread
    · intro hnot
      refine ⟨VariableWidth.appendNvarcharValue_safe, ?_⟩
      rintro out ⟨announced, hannounced, rfl⟩
      have htrue : claimed = VariableWidth.trueLength length (data.value r) := by
        by_contra hfalse
        exact hnot ⟨Bool.eq_false_iff.mpr hnull, ⟨announced, hannounced⟩, hfalse⟩
      obtain ⟨hcell, hreadable⟩ :=
        VariableWidth.announcedCell_of_true hannounced htrue (Tds.plainWidth mapping.mssql.ty)
      have hread := @Tds.unframe_frame _ [] _ _ hreadable
      rw [List.append_nil, ← hcell] at hread
      exact ⟨_, _, rfl, by rw [hcell, htrue]; rfl, hread⟩

theorem appendsHonestly_fixedSizeBinary {length : ℕ} {data : Arr (List UInt8)} {plan : DirectColumnPlan}
    (hty : mapping.mssql.ty = .binary length) (hlength : 0xfffe < length) :
    AppendsHonestly context mapping (.fixedSizeBinary plan (.fixedSizeBinaryToBinary length) data) buf r claimed ↔
      ¬(data.isNull r = false ∧ length = 0xffff ∧ (data.value r).length = 0xffff ∧ claimed = 2 + 0xffff) := by
  have hframing : cellFraming mapping = .shortPrefixed := by
    rw [cellFraming, hty]
    rfl
  rw [AppendsHonestly, hframing]
  constructor
  · rintro ⟨-, hhonest⟩ ⟨hnull, hlen, hvalue, rfl⟩
    subst hlen
    obtain ⟨cell, content, hcell, -, hread⟩ := hhonest _ (FixedSizeBinary.append_value (by decide) hnull hvalue)
    obtain rfl := List.append_cancel_left hcell
    have hnone := @Tds.unframe_frame (Tds.plainWidth mapping.mssql.ty) (data.value r) .shortPrefixed none trivial
    have hrest : data.value r = [] := (Prod.mk.inj (Option.some.inj (hnone.symm.trans hread))).2
    rw [hrest] at hvalue
    cases hvalue
  · intro hnot
    refine ⟨FixedSizeBinary.append_safe buf r claimed, ?_⟩
    intro out h
    obtain ⟨-, -, rfl, rfl⟩ | ⟨hnull, hvalue, hlt, rfl, -⟩ := FixedSizeBinary.append_eq_ok h
    · exact ⟨_, none, rfl, rfl, rfl⟩
    · obtain rfl : length = 0xffff := by omega
      exact absurd ⟨hnull, rfl, hvalue, rfl⟩ hnot

omit [Externals] in
theorem not_takesFalseLength_of_length {plan : DirectColumnPlan} {length : ℕ} {data : Arr (List UInt8)}
    (hlimit : length ≤ 0xfffe) :
    ¬(BoundDirectColumn.fixedSizeBinary plan (.fixedSizeBinaryToBinary length) data).TakesFalseLength r claimed := by
  rintro ⟨-, hlength, -⟩
  rw [FixedSizeBinary.binaryLength] at hlength
  omega

theorem not_takesFalseLength_of_bind (hencodes : Encodes mapping.arrow.dataType mapping.mssql.ty encoding)
    (htext : ∀ length, encoding ≠ .variableWidth (.stringToNVarChar length))
    (hlimit : AnnouncesLength mapping.mssql.ty)
    (hbind : bindDirectArray encoder array i (.fromMapping mapping encoding) = .ok column) :
    ¬column.TakesFalseLength r claimed := by
  unfold bindDirectArray at hbind
  dsimp only [DirectColumnPlan.fromMapping] at hbind
  cases encoding with
  | primitive classification =>
    cases classification
    all_goals
      obtain ⟨data, -, rfl⟩ := map_eq_ok.mp hbind
      exact id
  | decimal classification =>
    dsimp only at hbind
    split at hbind
    all_goals
      obtain ⟨data, -, rfl⟩ := map_eq_ok.mp hbind
      exact id
  | uint64Decimal20_0 =>
    obtain ⟨data, -, rfl⟩ := map_eq_ok.mp hbind
    exact id
  | fixedSizeBinary classification =>
    obtain ⟨data, -, rfl⟩ := map_eq_ok.mp hbind
    generalize mapping.arrow.dataType = dataType at hencodes
    generalize mapping.mssql.ty = ty at hencodes hlimit
    cases hencodes with
    | fixedSizeBinary _ => exact not_takesFalseLength_of_length (hlimit _ rfl)
  | variableWidth classification =>
    cases classification with
    | stringToNVarChar length => exact absurd rfl (htext length)
    | bytesToVarBinary length =>
      obtain ⟨_, -, hbind⟩ := bind_eq_ok.mp hbind
      cases bindsBytes_of_bind hbind with
      | binary | largeBinary | binaryView => exact id
  | temporal classification =>
    cases classification
    all_goals
      obtain ⟨_, -, hbind⟩ := bind_eq_ok.mp hbind
      obtain ⟨data, -, rfl⟩ := map_eq_ok.mp hbind
      exact id

theorem appendsHonestly_iff (hencodes : Encodes mapping.arrow.dataType mapping.mssql.ty encoding)
    (hmapping : encoder.mappings[i]? = some mapping)
    (hbind : bindDirectArray encoder array i (.fromMapping mapping encoding) = .ok column) :
    AppendsHonestly context mapping column buf r claimed ↔ ¬column.TakesFalseLength r claimed := by
  by_cases htext : ∃ length, encoding = .variableWidth (.stringToNVarChar length)
  · obtain ⟨length, rfl⟩ := htext
    have hty : mapping.mssql.ty = .nVarChar length := by
      generalize mapping.arrow.dataType = dataType at hencodes
      generalize mapping.mssql.ty = ty at hencodes
      cases hencodes
      rfl
    obtain ⟨_, -, hbind⟩ := bind_eq_ok.mp hbind
    cases bindsText_of_bind hbind with
    | utf8 | largeUtf8 | utf8View => exact appendsHonestly_nvarchar hty fun _ _ _ => rfl
  · simp only [not_exists] at htext
    by_cases hlimit : AnnouncesLength mapping.mssql.ty
    · refine iff_of_true ?_ (not_takesFalseLength_of_bind hencodes htext hlimit hbind)
      exact appendsHonestly_of_cells (appendsCells_of_bind hencodes htext hlimit hmapping hbind)
        (lawful_of_bind hencodes hlimit hmapping hbind)
    · simp only [AnnouncesLength, not_forall] at hlimit
      obtain ⟨length, hty, hlength⟩ := hlimit
      have hencodes' := hencodes
      rw [hty] at hencodes'
      generalize mapping.arrow.dataType = dataType at hencodes'
      cases hencodes' with
      | fixedSizeBinary _ =>
        obtain ⟨data, -, rfl⟩ := map_eq_ok.mp hbind
        exact appendsHonestly_fixedSizeBinary hty (Nat.lt_of_not_le hlength)

end Column

section Batch

variable {mappings : List SchemaMapping} {context : RuntimeConversionContext} {encoder : DirectEncoder}
  {batch : RecordBatch} {bound : BoundDirectBatch}

structure TokensHold (buf : List UInt8) (s : DirectEncoder.AppendState) (appended : List UInt8) : Prop where
  extends_buf : s.buf = buf ++ appended
  counted : s.written = appended.length
  tokens : ∀ offset ∈ s.rowTokenOffsets, appended[offset]? = some tdsRowToken

omit [Externals] in
theorem TokensHold.append {buf appended cell : List UInt8} {s : DirectEncoder.AppendState}
    (h : TokensHold buf s appended) :
    TokensHold buf ⟨s.rowTokenOffsets, s.written + cell.length, s.buf ++ cell⟩ (appended ++ cell) where
  extends_buf := by rw [h.extends_buf, List.append_assoc]
  counted := by rw [h.counted, List.length_append]
  tokens offset hoffset := by
    have hlt := (List.getElem?_eq_some_iff.mp (h.tokens offset hoffset)).1
    rw [List.getElem?_append_left hlt, h.tokens offset hoffset]

omit [Externals] in
theorem TokensHold.token {buf appended : List UInt8} {s : DirectEncoder.AppendState} (h : TokensHold buf s appended) :
    TokensHold buf ⟨s.rowTokenOffsets ++ [s.written], s.written + 1, s.buf ++ [tdsRowToken]⟩
      (appended ++ [tdsRowToken]) where
  extends_buf := (@TokensHold.append buf appended [tdsRowToken] s h).extends_buf
  counted := (@TokensHold.append buf appended [tdsRowToken] s h).counted
  tokens offset hoffset := by
    rw [List.mem_append, List.mem_singleton] at hoffset
    rcases hoffset with hoffset | rfl
    · exact (@TokensHold.append buf appended [tdsRowToken] s h).tokens offset hoffset
    · rw [h.counted, List.getElem?_concat_length]

theorem appendCell_tokensHold {mapping : SchemaMapping} {column : BoundDirectColumn × ℕ} {buf appended : List UInt8}
    {s s' : DirectEncoder.AppendState} {measured : MeasuredDirectBatch} {r : ℕ} (h : TokensHold buf s appended)
    (hhonest : ∀ n, measured.cellLen r column.2 = .ok n →
      AppendsHonestly bound.runtimeContext mapping column.1 s.buf r n)
    (happend : DirectEncoder.appendMeasuredCell bound measured r s column = .ok s') :
    ∃ appended, TokensHold buf s' appended := by
  obtain ⟨n, hn, hrest⟩ := bind_eq_ok.mp happend
  obtain ⟨out, hout, hcounted⟩ := bind_eq_ok.mp hrest
  obtain ⟨written, hwritten, hs'⟩ := bind_eq_ok.mp hcounted
  obtain ⟨cell, -, rfl, rfl, -⟩ := (hhonest n hn).2 out hout
  rw [FixedWidth.checkedAdd, okOr_eq_ok, checkedAdd_eq_some] at hwritten
  rw [pure_eq_ok, Except.ok.injEq] at hs'
  rw [← hs', hwritten.2]
  exact ⟨_, h.append⟩

theorem appendRow_tokensHold {buf appended : List UInt8} {s s' : DirectEncoder.AppendState}
    {measured : MeasuredDirectBatch} {r : ℕ} (h : TokensHold buf s appended)
    (hhonest : ∀ (i : ℕ) column n, bound.columns[i]? = some column → measured.cellLen r i = .ok n →
      ∃ mapping, ∀ buf, AppendsHonestly bound.runtimeContext mapping column buf r n)
    (happend : DirectEncoder.appendRow bound measured s r = .ok s') : ∃ appended, TokensHold buf s' appended := by
  obtain ⟨written, hwritten, hcells⟩ := bind_eq_ok.mp happend
  rw [FixedWidth.checkedAdd, okOr_eq_ok, checkedAdd_eq_some] at hwritten
  apply forEach_preserves (fun s => ∃ appended, TokensHold buf s appended) _ _ hcells
  · rintro ⟨column, i⟩ hcolumn s s' ⟨appended, hinv⟩ hcell
    obtain ⟨n, hn, -⟩ := bind_eq_ok.mp hcell
    obtain ⟨mapping, hcolumnHonest⟩ := hhonest i column n (List.mem_zipIdx_iff_getElem?.mp hcolumn) hn
    apply @appendCell_tokensHold _ bound mapping (column, i) _ _ _ _ _ _ hinv _ hcell
    intro n' hn'
    obtain rfl := Except.ok.inj (hn.symm.trans hn')
    exact hcolumnHonest s.buf
  · rw [hwritten.2]
    exact ⟨_, h.token⟩

def ClaimsTrueLengths (bound : BoundDirectBatch) (measured : MeasuredDirectBatch) (startRow rowCount : ℕ) : Prop :=
  ∀ r, startRow ≤ r → r < startRow + rowCount → ∀ (i : ℕ) column n, bound.columns[i]? = some column →
    measured.cellLen r i = .ok n → ¬column.TakesFalseLength r n

/-- Lengths that are claimed for cells are honoured but where a string, or a binary of 65535 bytes, is taken for
another length. -/
theorem append_lengths_are_honest_iff (hencoder : DirectEncoder.newWithContext mappings context = .ok encoder)
    (hbound : BoundDirectBatch.new encoder batch = .ok bound) :
    (∀ (i : ℕ) mapping column, mappings[i]? = some mapping → bound.columns[i]? = some column →
      ∀ r < batch.numRows, ∀ buf claimed,
        AppendsHonestly context mapping column buf r claimed ↔ ¬column.TakesFalseLength r claimed) ∧
    ∀ measured startRow rowCount buf offsets out,
      encoder.encodeMeasuredBatchRangeInto batch measured startRow rowCount buf = .ok (offsets, out) →
      ClaimsTrueLengths bound measured startRow rowCount →
      ∃ appended, out = buf ++ appended ∧ ∀ offset ∈ offsets, appended[offset]? = some tdsRowToken := by
  obtain ⟨hmappings, hcontext, -⟩ := newWithContext_eq_ok.mp hencoder
  obtain ⟨hcolumns, hboundContext, -⟩ := boundBatch_new_eq_ok.mp hbound
  have hhonest (i : ℕ) column (hcolumn : bound.columns[i]? = some column) :
      ∃ mapping, mappings[i]? = some mapping ∧ ∀ buf r claimed,
        AppendsHonestly context mapping column buf r claimed ↔ ¬column.TakesFalseLength r claimed := by
    obtain ⟨mapping, encoding, array, hmapping, hencodes, -, hbind⟩ := bound_column hencoder hcolumns hcolumn
    exact ⟨mapping, hmapping, fun _ _ _ => appendsHonestly_iff hencodes (hmappings ▸ hmapping) hbind⟩
  constructor
  · intro i mapping column hmapping hcolumn r _ buf claimed
    obtain ⟨mapping', hmapping', hiff⟩ := hhonest i column hcolumn
    obtain rfl := Option.some.inj (hmapping.symm.trans hmapping')
    exact hiff buf r claimed
  · intro measured startRow rowCount buf offsets out h htrue
    obtain ⟨-, hmeasured⟩ := bind_unit_eq_ok.mp h
    obtain ⟨-, hrows⟩ := bind_unit_eq_ok.mp hmeasured
    rw [hbound, ok_bind] at hrows
    obtain ⟨endRow, hend, hloop⟩ := bind_eq_ok.mp hrows
    obtain ⟨s, hs, hout⟩ := bind_eq_ok.mp hloop
    rw [okOr_eq_ok, checkedAdd_eq_some] at hend
    have hrun : ∃ appended, TokensHold buf s appended := by
      apply forEach_preserves (fun s => ∃ appended, TokensHold buf s appended) _ _ hs
      · rintro k hk s s' ⟨appended, hinv⟩ hrow
        rw [List.mem_range] at hk
        apply appendRow_tokensHold hinv _ hrow
        intro i column n hcolumn hn
        obtain ⟨mapping, -, hiff⟩ := hhonest i column hcolumn
        rw [hboundContext, hcontext]
        exact ⟨mapping, fun buf => (hiff buf _ n).mpr (htrue _ (by omega) (by omega) i column n hcolumn hn)⟩
      · exact ⟨[], by simp, rfl, by simp⟩
    obtain ⟨appended, hinv⟩ := hrun
    obtain ⟨rfl, rfl⟩ := Prod.mk.inj (Except.ok.inj hout)
    exact ⟨appended, hinv.extends_buf, hinv.tokens⟩

end Batch

section Sample

omit [Externals]

theorem append_lengths_are_honest_at_sample :
    ∃ measured out, @DirectEncoder.measureBatch .silent sampleEncoder sampleBatch = .ok measured ∧
      @DirectEncoder.encodeMeasuredBatchRangeInto .silent sampleEncoder sampleBatch measured 0 2 [] =
        .ok ([0, 9], out) ∧
      (∃ appended, out = [] ++ appended ∧ ∀ offset ∈ [0, 9], appended[offset]? = some tdsRowToken) ∧
      ∃ mapping column, sampleMappings[1]? = some mapping ∧ sampleBound.columns[1]? = some column ∧
        @AppendsHonestly .silent ⟨sampleProfile, {}⟩ mapping column [] 0 5 := by
  obtain ⟨hhonest, htokens⟩ := @append_lengths_are_honest_iff .silent sampleMappings ⟨sampleProfile, {}⟩ sampleEncoder
    sampleBatch sampleBound rfl rfl
  have hencode : @DirectEncoder.encodeMeasuredBatchRangeInto .silent sampleEncoder sampleBatch
      ⟨2, 2, [4, 4, 4, 2], [9, 7], 16⟩ 0 2 [] =
        .ok ([0, 9], [tdsRowToken, 7, 0, 0, 0, 2, 0, 171, 205, tdsRowToken, 7, 0, 0, 0, 255, 255]) := rfl
  refine ⟨_, _, rfl, hencode, htokens _ 0 2 [] _ _ hencode ?_, _, _, rfl, rfl, ?_⟩
  · intro r _ _ i column n hcolumn _
    have hmem := List.mem_of_getElem? hcolumn
    simp only [sampleBound, List.mem_cons, List.not_mem_nil, or_false] at hmem
    rcases hmem with rfl | rfl <;> exact id
  · exact (hhonest 1 _ _ rfl rfl 0 (by decide) [] 5).mpr id

def textPlan : DirectColumnPlan := .fromMapping textMapping (.variableWidth (.stringToNVarChar .max))

def textEncoder : DirectEncoder := ⟨[textMapping], textContext, ⟨[textPlan]⟩⟩

def textColumn (rows : ℕ) (text : String) : BoundDirectColumn :=
  .utf8View textPlan ⟨rows, fun _ => false, fun _ => text⟩

def misannouncedCell : List UInt8 := [254, 255, 255, 255, 255, 255, 255, 255, 2, 0, 0, 0, 0, 0, 0, 0]

/-- Rows of an empty text that were measured on a batch of another text. -/
theorem append_trusts_measured_string_length :
    ∃ mappings context encoder batch other measured bound mapping column out,
      @DirectEncoder.newWithContext .silent mappings context = .ok encoder ∧
      @DirectEncoder.measureBatch .silent encoder other = .ok measured ∧ other.numRows = batch.numRows ∧
      @BoundDirectBatch.new .silent encoder batch = .ok bound ∧ mappings[0]? = some mapping ∧
      bound.columns[0]? = some column ∧ measured.cellLen 0 0 = .ok 18 ∧
      ¬@AppendsHonestly .silent context mapping column [] 0 18 ∧
      @DirectEncoder.encodeMeasuredBatchRangeInto .silent encoder batch measured 0 2 [] = .ok ([0, 19], out) ∧
      out[19]? ≠ some tdsRowToken := by
  have happend : @BoundDirectColumn.appendCell .silent textContext (textColumn 2 "") [] 0 18 =
      .ok misannouncedCell := rfl
  have hmeasure : @DirectEncoder.measureBatch .silent textEncoder (textBatch 2 (by decide) "a") =
      .ok ⟨2, 1, [18, 18], [19, 19], 38⟩ := rfl
  have hencode : @DirectEncoder.encodeMeasuredBatchRangeInto .silent textEncoder (textBatch 2 (by decide) "")
      ⟨2, 1, [18, 18], [19, 19], 38⟩ 0 2 [] =
        .ok ([0, 19], tdsRowToken :: (misannouncedCell ++ tdsRowToken :: misannouncedCell)) := rfl
  refine ⟨[textMapping], textContext, textEncoder, textBatch 2 (by decide) "", textBatch 2 (by decide) "a",
    ⟨2, 1, [18, 18], [19, 19], 38⟩, ⟨[textColumn 2 ""], textContext, 2⟩, textMapping, textColumn 2 "", _,
    rfl, hmeasure, rfl, rfl, rfl, rfl, rfl, ?_, hencode, by decide⟩
  rintro ⟨-, hhonest⟩
  obtain ⟨cell, _, hcell, hlen, -⟩ := hhonest _ happend
  rw [List.nil_append] at hcell
  rw [← hcell] at hlen
  exact absurd hlen (by decide)

end Sample

end ArrowTiberius.Direct
