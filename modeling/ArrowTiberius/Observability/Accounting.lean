import ArrowTiberius.Observability.CallEvents

namespace ArrowTiberius.Observability

open Checked Direct Session Splitting Stepping Tiling Writer

section Packets

structure PacketWrite where
  range : MeasuredRowRange
  byteCount : ℕ

def TelemetryEvent.packetWrite (event : TelemetryEvent) : Option PacketWrite :=
  if event.telemetryEvent = directRawPacketWriteCompletedEvent then do
    let start ← event.count "encoded_row_start"
    let len ← event.count "encoded_row_count"
    let byteCount ← event.count "encoded_byte_count"
    some ⟨⟨start, len⟩, byteCount⟩
  else none

def TelemetryEvent.measuredBytes (event : TelemetryEvent) : Option ℕ :=
  if event.telemetryEvent = directRawMeasuredEvent then event.count "encoded_byte_count" else none

def TelemetryEvent.failedFrom (event : TelemetryEvent) : Option ℕ :=
  if event.telemetryEvent = directRawFailedEvent then event.count "encoded_row_start" else none

structure PacketReport where
  packets : List PacketWrite
  measured : List ℕ
  failed : List ℕ

def PacketReport.append (report report' : PacketReport) : PacketReport :=
  ⟨report.packets ++ report'.packets, report.measured ++ report'.measured, report.failed ++ report'.failed⟩

def packetReport (events : List TelemetryEvent) : PacketReport :=
  ⟨events.filterMap TelemetryEvent.packetWrite, events.filterMap TelemetryEvent.measuredBytes,
    events.filterMap TelemetryEvent.failedFrom⟩

theorem packetReport_append (events events' : List TelemetryEvent) :
    packetReport (events ++ events') = (packetReport events).append (packetReport events') := by
  simp only [packetReport, PacketReport.append, List.filterMap_append]

theorem packetReport_started (trace : BatchWriteTrace) : packetReport [trace.started] = ⟨[], [], []⟩ := rfl

theorem packetReport_lastEvents (trace : BatchWriteTrace) (result : Result WriteStats) :
    packetReport (trace.lastEvents result) = ⟨[], [], []⟩ := by
  rcases result with (e | _) | stats <;> rfl

theorem packetReport_segment (trace : BatchWriteTrace) (details : List TelemetryEvent) (result : Result WriteStats) :
    packetReport (trace.started :: (details ++ trace.lastEvents result)) = packetReport details := by
  rw [← List.singleton_append, packetReport_append, packetReport_append, packetReport_started, packetReport_lastEvents]
  simp only [PacketReport.append, List.nil_append, List.append_nil]

def PacketWrite.Describes (packet : PacketWrite) (item : Handed) : Prop :=
  ∃ bytes rowTokenOffsets, item = .rawRows bytes rowTokenOffsets ∧ packet.range.len = rowTokenOffsets.length ∧
    packet.byteCount = bytes.length

end Packets

section Calls

variable [Driver]

/-- What the packet events of a call say of it, for the raw backend. -/
inductive Accounts (call : Call) (segment : List TelemetryEvent) : Prop
  | accepted {stats : WriteStats} {items : List Handed} (hresult : call.result = .ok stats)
    (hhanded : call.after.handed = call.before.handed ++ items)
    (hpackets : List.Forall₂ PacketWrite.Describes (packetReport segment).packets items)
    (hrows : Consecutive 0 ((packetReport segment).packets.map PacketWrite.range) call.batch.numRows)
    (hbytes : (packetReport segment).measured = [((packetReport segment).packets.map PacketWrite.byteCount).sum])
    (hfailed : (packetReport segment).failed = [])
  | stopped {e : Fault Error} {row : ℕ} {items rest : List Handed} (hresult : call.result = .error e)
    (herror : IsPacketWriteError e) (hhanded : call.after.handed = call.before.handed ++ (items ++ rest))
    (hrest : rest.length ≤ 1) (hpackets : List.Forall₂ PacketWrite.Describes (packetReport segment).packets items)
    (hrows : Consecutive 0 ((packetReport segment).packets.map PacketWrite.range) row)
    (hrow : row < call.batch.numRows) (hfailed : (packetReport segment).failed = [row])
  | rejected {e : Fault Error} (hresult : call.result = .error e) (hafter : call.after = call.before)
    (hpackets : (packetReport segment).packets = [])

end Calls

section Sends

variable [Driver] [Externals] {writer : BulkWriter} {batch : RecordBatch} {encoder : DirectEncoder}
  {m : MeasuredDirectBatch} {log : List TelemetryEvent}

def rawObserver : DirectRawBatchObserver := .enabled .directRawBulk

omit [Driver] [Externals] in
theorem usizeToU64Saturating_of_lt {n : ℕ} (h : n < 2 ^ 64) : usizeToU64Saturating n = n := if_pos h

theorem sendMeasuredRawRows_logs {range : MeasuredRowRange} {payload : EncodedRowsPayload}
    (h : RangePayload encoder batch m range payload) :
    (sendMeasuredRawRowsWithObserver encoder batch m rawObserver range).Ensures (writer, log)
      (fun _ p => Sent writer p.1 [.rawRows payload.bytes payload.rowTokenOffsets] ∧
        p.2 = log ++ rawObserver.recordPacketWriteCompleted range range.len payload.bytes.length)
      (fun e p => IsDriverError e ∧ Stopped writer p.1 (.rawRows payload.bytes payload.rowTokenOffsets) ∧
        p.2 = log) := by
  apply Ensures.bind
  apply Ensures.quietly
  apply ensures_lift_ok h.length
  split
  case isTrue =>
    apply Ensures.bind
    apply Ensures.quietly
    apply (sendRawRowsWith_ensures h.appended).mono
    · intro _ writer' hsent
      exact ensures_emit ⟨hsent, rfl⟩
    · exact fun _ _ h => ⟨h.1.1, h.2, rfl⟩
  case isFalse =>
    apply Ensures.bind
    apply Ensures.quietly
    apply ensures_lift_ok h.encoded
    rw [h.count]
    apply Ensures.bind
    apply Ensures.quietly
    apply (sendRawRowsPayloadChecked_ensures payload).mono
    · intro _ writer' hsent
      exact ensures_emit ⟨hsent, rfl⟩
    · exact fun _ _ h => ⟨h.1.1, h.2, rfl⟩

omit [Externals] in
theorem sent_trans {writer' writer'' : BulkWriter} {items items' : List Handed} (h : Sent writer writer' items)
    (h' : Sent writer' writer'' items') : Sent writer writer'' (items ++ items') :=
  ⟨h'.state.trans h.state, by rw [h'.handed, h.handed, List.append_assoc]⟩

omit [Driver] [Externals] in
def Carries (size : MeasuredRowRange → ℕ) (range : MeasuredRowRange) (item : Handed) : Prop :=
  ∃ bytes rowTokenOffsets, item = .rawRows bytes rowTokenOffsets ∧ rowTokenOffsets.length = range.len ∧
    bytes.length = size range

omit [Driver] [Externals] in
def packetEvents (size : MeasuredRowRange → ℕ) (ranges : List MeasuredRowRange) : List TelemetryEvent :=
  ranges.flatMap fun range => rawObserver.recordPacketWriteCompleted range range.len (size range)

omit [Driver] [Externals] in
theorem packetReport_packetEvents {size : MeasuredRowRange → ℕ} {ranges : List MeasuredRowRange} {rows : ℕ}
    (hrows : rows < 2 ^ 64) (hstop : ∀ range ∈ ranges, range.start + range.len ≤ rows)
    (hsize : ∀ range ∈ ranges, size range < 2 ^ 64) :
    packetReport (packetEvents size ranges) = ⟨ranges.map fun range => ⟨range, size range⟩, [], []⟩ := by
  induction ranges with
  | nil => rfl
  | cons range ranges ih =>
    have hend := hstop range List.mem_cons_self
    have hbytes := hsize range List.mem_cons_self
    have hrest := ih (fun other hother => hstop other (List.mem_cons_of_mem _ hother))
      fun other hother => hsize other (List.mem_cons_of_mem _ hother)
    have hfirst : packetReport (rawObserver.recordPacketWriteCompleted range range.len (size range)) =
        ⟨[⟨⟨usizeToU64Saturating range.start, usizeToU64Saturating range.len⟩,
          usizeToU64Saturating (size range)⟩], [], []⟩ := rfl
    rw [usizeToU64Saturating_of_lt (by omega), usizeToU64Saturating_of_lt (by omega),
      usizeToU64Saturating_of_lt hbytes] at hfirst
    rw [packetEvents, List.flatMap_cons, packetReport_append, hfirst]
    rw [packetEvents] at hrest
    rw [hrest]
    rfl

theorem each_logs {ranges : List MeasuredRowRange} {size : MeasuredRowRange → ℕ}
    (hpayloads : ∀ range ∈ ranges, ∃ payload, RangePayload encoder batch m range payload ∧
      payload.bytes.length = size range) :
    (each ranges fun range => (reporting (observedFailure batch rawObserver (some range))
      (sendMeasuredRawRowsWithObserver encoder batch m rawObserver range)).withError inferWritePhase).Ensures
      (writer, log)
      (fun _ p => ∃ items, List.Forall₂ (Carries size) ranges items ∧ Sent writer p.1 items ∧
        p.2 = log ++ packetEvents size ranges)
      (fun e p => ∃ before range after, ranges = before ++ range :: after ∧ IsPacketWriteError e ∧
        ∃ items rest source, List.Forall₂ (Carries size) before items ∧ Sent writer p.1 (items ++ rest) ∧
          rest.length ≤ 1 ∧ p.2 = log ++ (packetEvents size before ++
            rawObserver.recordFailed packetWritePhase batch (some range) (.tiberius source))) := by
  apply ensures_each_split
  · rintro before range after ⟨writer', log'⟩ hsplit ⟨items, hitems, hsent, hlog⟩
    obtain ⟨payload, hpayload, hsize⟩ :=
      hpayloads range (hsplit ▸ List.mem_append_right _ List.mem_cons_self)
    apply Ensures.withError
    apply Ensures.reporting
    apply (sendMeasuredRawRows_logs hpayload).mono
    · rintro _ ⟨writer'', log''⟩ ⟨hsent', hlog'⟩
      refine ⟨items ++ [_], List.rel_append hitems (.cons ⟨_, _, rfl, hpayload.count, hsize⟩ .nil),
        sent_trans hsent hsent', ?_⟩
      dsimp only at hlog hlog' ⊢
      rw [hlog', hlog, hsize, packetEvents, packetEvents, List.flatMap_append, List.flatMap_singleton,
        List.append_assoc]
    · rintro _ ⟨writer'', log''⟩ ⟨⟨source, rfl⟩, hstopped, hlog'⟩
      refine ⟨⟨source, rfl⟩, items, ?_⟩
      dsimp only at hlog hlog'
      have hfailed : log'' ++ faultEvents (observedFailure batch rawObserver (some range))
          (.error (.tiberius source)) = log ++ (packetEvents size before ++
            rawObserver.recordFailed packetWritePhase batch (some range) (.tiberius source)) := by
        rw [hlog', hlog, List.append_assoc]
        rfl
      rcases hstopped with hnone | hitem
      · exact ⟨[], source, hitems, sent_trans hsent hnone, Nat.zero_le 1, hfailed⟩
      · exact ⟨[_], source, hitems, sent_trans hsent hitem, le_rfl, hfailed⟩
  · exact ⟨[], .nil, ⟨rfl, (List.append_nil _).symm⟩, (List.append_nil _).symm⟩

omit [Driver] [Externals] in
def planningEvents (m : MeasuredDirectBatch) (ranges : List MeasuredRowRange) : List TelemetryEvent :=
  rawObserver.recordMeasured m ++ rawObserver.recordRangesPlanned m ranges

omit [Driver] [Externals] in
theorem packetReport_planningEvents (m : MeasuredDirectBatch) (ranges : List MeasuredRowRange) :
    packetReport (planningEvents m ranges) = ⟨[], [usizeToU64Saturating m.payloadLen], []⟩ := rfl

theorem writeDirectBatchToSink_logs (hsome : writer.state.directEncoder = some encoder)
    (hencoder : DirectEncoder.newWithContext writer.state.mappings writer.state.runtimeContext = .ok encoder)
    (hlimit : BinaryWithinLimit writer.state.mappings) (hm : encoder.measureBatch batch = .ok m) :
    ∃ ranges size, Consecutive 0 ranges batch.numRows ∧ (∀ range ∈ ranges, size range < 2 ^ 64) ∧
      usizeToU64Saturating m.payloadLen = (ranges.map size).sum ∧
      (writeDirectBatchToSinkWithObserver batch rawObserver).Ensures (writer, log)
        (fun _ p => ∃ items, List.Forall₂ (Carries size) ranges items ∧ p.1.handed = writer.handed ++ items ∧
          p.2 = log ++ (planningEvents m ranges ++ packetEvents size ranges))
        (fun e p => ∃ before range after, ranges = before ++ range :: after ∧ IsPacketWriteError e ∧
          ∃ items rest source, List.Forall₂ (Carries size) before items ∧ Sent writer p.1 (items ++ rest) ∧
            rest.length ≤ 1 ∧ p.2 = log ++ planningEvents m ranges ++ (packetEvents size before ++
              rawObserver.recordFailed packetWritePhase batch (some range) (.tiberius source))) := by
  obtain ⟨bound, h⟩ := exists_measuredAs hencoder hlimit hm
  obtain ⟨rows, hrows⟩ := exists_measuredRows hencoder h
  obtain ⟨ranges, hranges, hconsecutive, -⟩ :=
    h.measures.rowRanges_of_pos (show 0 < directRawMaxPayloadBytes by decide)
  rw [h.rows] at hconsecutive
  generalize hweights : rowLength bound.columns.length rowTokenLen bound.cellLength = w
  have htotal : weight w 0 batch.numRows = m.payloadLen := by
    rw [h.measures.payloadLen, h.rows, ← hweights, rowStart, weight]
    simp only [Nat.zero_add]
  have hfits : m.payloadLen < 2 ^ 64 := h.measures.payloadLen ▸ h.measures.fits
  have hstop := hconsecutive.stop_le
  have hpayloads : ∀ range ∈ ranges, ∃ payload, RangePayload encoder batch m range payload ∧
      payload.bytes.length = weight w range.start range.len := by
    intro range hrange
    obtain ⟨payload, hpayload, -, hweight⟩ := exists_rangePayload hencoder hlimit h (fun r hr => (hrows r hr).2)
      (hstop range hrange)
    rw [hweights] at hweight
    exact ⟨payload, hpayload, hweight⟩
  refine ⟨ranges, fun range => weight w range.start range.len, hconsecutive, ?_, ?_, ?_⟩
  · intro range hrange
    exact (weight_le_weight (Nat.zero_le _) (by rw [Nat.zero_add]; exact hstop range hrange)).trans_lt (htotal ▸ hfits)
  · rw [usizeToU64Saturating_of_lt hfits, hconsecutive.weights_sum, Nat.sub_zero, htotal]
  · apply Ensures.bind
    apply Ensures.quietly
    apply ensures_get
    apply Ensures.bind
    apply Ensures.withError
    apply Ensures.quietly
    apply ensures_lift_ok (okOr_eq_ok.mpr hsome)
    apply Ensures.bind
    apply Ensures.withError
    apply Ensures.reporting
    apply Ensures.quietly
    apply ensures_lift_ok hm
    apply Ensures.bind
    apply ensures_emit
    apply Ensures.bind
    apply Ensures.withError
    apply Ensures.reporting
    apply Ensures.quietly
    apply ensures_lift_ok hranges
    apply Ensures.bind
    apply ensures_emit
    rw [List.append_assoc]
    apply Ensures.bind
    apply (each_logs hpayloads).mono
    · rintro _ ⟨writer', log'⟩ ⟨items, hitems, hsent, hlog⟩
      apply Ensures.quietly
      apply (recordAcceptedBatch_ensures _).mono
      · rintro stats _ ⟨-, rfl⟩
        exact ⟨items, hitems, hsent.handed, by rw [hlog, List.append_assoc]; rfl⟩
      · exact fun _ _ h => h
    · exact fun _ _ h => h

theorem writeDirectBatchToSink_logs_of_error (hsome : writer.state.directEncoder = some encoder) {e : Fault Error}
    (hm : encoder.measureBatch batch = .error e) :
    (writeDirectBatchToSinkWithObserver batch rawObserver).Ensures (writer, log) (fun _ _ => False)
      (fun _ p => p.1 = writer ∧ ∃ events, p.2 = log ++ events ∧ (packetReport events).packets = []) := by
  apply Ensures.bind
  apply Ensures.quietly
  apply ensures_get
  apply Ensures.bind
  apply Ensures.withError
  apply Ensures.quietly
  apply ensures_lift_ok (okOr_eq_ok.mpr hsome)
  apply Ensures.bind
  apply Ensures.withError
  apply Ensures.reporting
  apply Ensures.quietly
  apply ensures_lift_error hm
  refine ⟨rfl, _, rfl, ?_⟩
  cases e <;> rfl

end Sends

section Accounts

variable [Driver] [Externals] {writer : BulkWriter} {batch : RecordBatch} {plannedSchema : PlannedSchema}
  {log : List TelemetryEvent}

omit [Driver] [Externals] in
theorem describes_of_carries {size : MeasuredRowRange → ℕ} {ranges : List MeasuredRowRange} {items : List Handed}
    (h : List.Forall₂ (Carries size) ranges items) :
    List.Forall₂ PacketWrite.Describes (ranges.map fun range => ⟨range, size range⟩) items := by
  rw [List.forall₂_map_left_iff]
  apply h.imp
  rintro range _ ⟨bytes, rowTokenOffsets, rfl, hcount, hsize⟩
  exact ⟨bytes, rowTokenOffsets, rfl, hcount.symm, hsize.symm⟩

omit [Driver] [Externals] in
theorem map_range_packets (size : MeasuredRowRange → ℕ) (ranges : List MeasuredRowRange) :
    (ranges.map fun range => (⟨range, size range⟩ : PacketWrite)).map PacketWrite.range = ranges := by
  rw [List.map_map]
  exact List.map_id ranges

omit [Externals] in
def LogsPackets (writer : BulkWriter) (batch : RecordBatch) (log : List TelemetryEvent) (result : Result WriteStats)
    (p : TracedWriter) : Prop :=
  ∃ segment, p.2 = log ++ segment ∧ Accounts ⟨batch, writer, result, p.1⟩ segment

omit [Driver] [Externals] in
theorem append_segment (trace : BatchWriteTrace) (log details : List TelemetryEvent) (result : Result WriteStats) :
    log ++ [trace.started] ++ details ++ trace.lastEvents result =
      log ++ trace.started :: (details ++ trace.lastEvents result) := by
  simp only [List.append_assoc, List.cons_append, List.nil_append]

theorem logsPackets_of_error {encoder : DirectEncoder} (trace : BatchWriteTrace)
    (hsome : writer.state.directEncoder = some encoder) {e : Fault Error} (hm : encoder.measureBatch batch = .error e) :
    (trace.traceResult (writeDirectBatchToSinkWithObserver batch rawObserver)).Ensures (writer, log)
      (fun stats p => LogsPackets writer batch log (.ok stats) p)
      fun e p => LogsPackets writer batch log (.error e) p := by
  apply traceResult_ensures
  apply (writeDirectBatchToSink_logs_of_error hsome hm).mono
  · exact fun _ _ h => h.elim
  · rintro e ⟨writer', log'⟩ ⟨rfl, details, rfl, hpackets⟩
    exact ⟨_, append_segment trace log details _, .rejected rfl rfl (by rw [packetReport_segment, hpackets])⟩

theorem logsPackets_of_measured {encoder : DirectEncoder} {m : MeasuredDirectBatch} (trace : BatchWriteTrace)
    (hsome : writer.state.directEncoder = some encoder)
    (hencoder : DirectEncoder.newWithContext writer.state.mappings writer.state.runtimeContext = .ok encoder)
    (hlimit : BinaryWithinLimit writer.state.mappings) (hm : encoder.measureBatch batch = .ok m) :
    (trace.traceResult (writeDirectBatchToSinkWithObserver batch rawObserver)).Ensures (writer, log)
      (fun stats p => LogsPackets writer batch log (.ok stats) p)
      fun e p => LogsPackets writer batch log (.error e) p := by
  obtain ⟨ranges, size, hconsecutive, hsize, htotal, hensures⟩ := @writeDirectBatchToSink_logs _ _ _ batch _ _
    (log ++ [trace.started]) hsome hencoder hlimit hm
  have hreport {sent : List MeasuredRowRange} (hsent : ∀ range ∈ sent, range ∈ ranges) :
      packetReport (packetEvents size sent) = ⟨sent.map fun range => ⟨range, size range⟩, [], []⟩ :=
    packetReport_packetEvents batch.addressable (fun range hrange => hconsecutive.stop_le range (hsent range hrange))
      fun range hrange => hsize range (hsent range hrange)
  apply traceResult_ensures
  apply hensures.mono
  · rintro stats ⟨writer', log'⟩ ⟨items, hitems, hhanded, hlog⟩
    dsimp only at hlog
    refine ⟨_, by rw [hlog]; exact append_segment trace log _ _, .accepted rfl hhanded ?_ ?_ ?_ ?_⟩
    all_goals rw [packetReport_segment, packetReport_append, packetReport_planningEvents, hreport fun _ h => h]
    · exact describes_of_carries hitems
    · exact (map_range_packets size ranges).symm ▸ hconsecutive
    · simp only [PacketReport.append, List.nil_append, List.append_nil, List.map_map, htotal]
      rfl
    · rfl
  · rintro e ⟨writer', log'⟩ ⟨before, range, after, rfl, herror, items, rest, source, hitems, hsent, hrest, hlog⟩
    obtain ⟨hbefore, hrow⟩ := hconsecutive.split
    have hsent' := @hreport before fun range hrange => List.mem_append_left _ hrange
    have hfailed : packetReport (rawObserver.recordFailed packetWritePhase batch (some range) (.tiberius source)) =
        ⟨[], [], [usizeToU64Saturating range.start]⟩ := rfl
    rw [usizeToU64Saturating_of_lt (hrow.trans batch.addressable)] at hfailed
    dsimp only at hlog
    rw [List.append_assoc] at hlog
    refine ⟨_, by rw [hlog]; exact append_segment trace log _ _, .stopped rfl herror hsent.handed hrest ?_ ?_ hrow ?_⟩
    all_goals rw [packetReport_segment, packetReport_append, packetReport_append, packetReport_planningEvents,
      hsent', hfailed]
    all_goals simp only [PacketReport.append, List.nil_append, List.append_nil]
    · exact describes_of_carries hitems
    · exact (map_range_packets size before).symm ▸ hbefore

/-- A call of a raw writer logs what it hands over. -/
theorem accounts_of_call (hfollows : writer.state.Follows plannedSchema)
    (hraw : writer.state.backend = .directRawBulk) (hlimit : BinaryWithinLimit plannedSchema.mappings)
    (batch : RecordBatch) (log : List TelemetryEvent) : ∃ segment, (writeTracedBatch batch).run (writer, log) =
      ((writer.call batch).result, ((writer.call batch).after, log ++ segment)) ∧
        Accounts (writer.call batch) segment := by
  obtain ⟨hresult, hafter⟩ := (writeBatch_erases batch).run writer log
  have hlogged : LogsPackets writer batch log ((writeTracedBatch batch).run (writer, log)).1
      ((writeTracedBatch batch).run (writer, log)).2 := by
    rw [writeTracedBatch_run, hraw]
    apply Ensures.run
    dsimp only
    rw [writeTracedDirectBatchToSink, hraw]
    rcases hfollows.encoder with ⟨hbackend, -⟩ | ⟨-, encoder, hsome, hencoder⟩
    · rw [hraw] at hbackend
      cases hbackend
    · rw [← hfollows.mappings] at hlimit
      rcases hm : encoder.measureBatch batch with e | m
      · exact logsPackets_of_error _ hsome hm
      · exact logsPackets_of_measured _ hsome hencoder hlimit hm
  obtain ⟨segment, hlog, haccounts⟩ := hlogged
  rw [hresult, hafter] at haccounts
  exact ⟨segment, Prod.ext hresult (Prod.ext hafter hlog), haccounts⟩

end Accounts

section Runs

variable [Driver] [Externals] {schema : List Field} {profile : MssqlProfile} {planOptions : PlanOptions}
  {outcome : PlanOutcome PlannedSchema} {client : Driver.Client} {table : TableName} {options : WriteOptions}
  {writer final : BulkWriter} {batches : List RecordBatch} {results : List (Result WriteStats)}
  {log log' : List TelemetryEvent}

/-- In every run of a raw writer the packets that a call logs are the payloads it handed over, and their bytes are those
its batch was measured to take. A call that the driver stopped has logged the payloads that were sent, and the row
behind them. -/
theorem packets_account_for_payloads (hplan : planArrowSchemaToMssqlSchema schema profile planOptions = .ok outcome)
    (hnew : (newTracedWriter client table outcome.value options).run ((), []) = (.ok writer, ((), log)))
    (hraw : writer.state.backend = .directRawBulk)
    (hrun : writeTracedBatches batches (writer, log) = (results, (final, log'))) :
    ∃ calls segments, writer.writeBatches batches = (calls, final) ∧ log' = log ++ segments.flatten ∧
      List.Forall₂ Accounts calls segments := by
  have hlimit := binaryWithinLimit_of_planned hplan
  obtain ⟨segments, hlogged, haccounts⟩ := @run_logs _ _ _ _ callStep batches writer _
    (fun batch => (writeTracedBatch batch).run)
    (fun other => other.state.Follows outcome.value ∧ other.state.backend = .directRawBulk) Call.result Accounts log
    (by
      rintro batch - other log ⟨hfollows, hbackend⟩
      refine ⟨⟨(atomic_call hfollows hlimit batch).1, ?_⟩, accounts_of_call hfollows hbackend hlimit batch log⟩
      exact (backend_of_call hfollows hlimit batch).trans hbackend)
    ⟨(writer_of_new (new_of_traced hnew)).1, hraw⟩
  rw [← writeBatches_eq_run] at hlogged haccounts
  rw [writeTracedBatches, hlogged, Prod.mk.injEq, Prod.mk.injEq] at hrun
  obtain ⟨-, hfinal, hlog⟩ := hrun
  exact ⟨_, segments, Prod.ext rfl hfinal, hlog.symm, haccounts⟩

end Runs

section Sample

theorem packets_account_for_payloads_at_sample : ∃ writer log results final log',
    (@newTracedWriter limitedLoad .silent (sampleTarget, 1) sampleTable samplePlannedSchema {}).run ((), []) =
      (.ok writer, ((), log)) ∧
    @writeTracedBatches limitedLoad .silent [sampleBatch, sampleBatch] (writer, log) = (results, (final, log')) ∧
    ∃ calls segments, @BulkWriter.writeBatches limitedLoad .silent writer [sampleBatch, sampleBatch] = (calls, final) ∧
      List.Forall₂ (@Accounts limitedLoad) calls segments ∧ log' = log ++ segments.flatten ∧
      packetReport segments.flatten = ⟨[⟨⟨0, 2⟩, 16⟩], [16, 16], [0]⟩ := by
  refine ⟨_, _, _, _, _, rfl, rfl, ?_⟩
  obtain ⟨calls, segments, hcalls, hlog, haccounts⟩ := @packets_account_for_payloads limitedLoad .silent
    sampleBatch.schema sampleProfile samplePlanOptions ⟨samplePlannedSchema, []⟩ (sampleTarget, 1) sampleTable {} _ _
    [sampleBatch, sampleBatch] _ _ _ rfl rfl rfl rfl
  refine ⟨calls, segments, hcalls, haccounts, hlog, ?_⟩
  have hflatten := (congrArg (List.drop _) hlog).trans List.drop_left
  rw [← hflatten]
  rfl

end Sample

end ArrowTiberius.Observability
