import ArrowTiberius.Direct.Chunking
import ArrowTiberius.Writer.Batch

namespace ArrowTiberius.Writer

open Checked Direct Session Tiling

/-- The rows in what a load is handed: token rows without an encoder, and with one raw rows, which its plan reads. -/
def Handed.rows : Option DirectEncoder → Handed → Option (List (List MssqlCell))
  | none, .tokenRow row => some [row.map ColumnData.cell]
  | some encoder, .rawRows bytes rowTokenOffsets => do
    let rows ← encoder.plan.decodePayload bytes
    if rows.map Prod.fst = rowTokenOffsets then some (rows.map Prod.snd) else none
  | _, _ => none

def Handed.Sendable : Handed → Prop
  | .tokenRow _ => True
  | .rawRows bytes rowTokenOffsets => PointsToTokens bytes rowTokenOffsets ∧
    (bytes.length ≤ directRawMaxPayloadBytes ∨ rowTokenOffsets.length = 1)

def handedRows (encoder : Option DirectEncoder) : List Handed → Option (List (List MssqlCell))
  | [] => some []
  | item :: items => do
    let rows ← item.rows encoder
    let rest ← handedRows encoder items
    some (rows ++ rest)

def Handed.Holds (encoder : Option DirectEncoder) (rows : List (List MssqlCell)) (item : Handed) : Prop :=
  item.rows encoder = some rows ∧ item.Sendable

theorem handedRows_of_forall₂ {ι : Type} {encoder : Option DirectEncoder} {part : ι → List (List MssqlCell)}
    {xs : List ι} {items : List Handed} (h : List.Forall₂ (fun x item => item.Holds encoder (part x)) xs items) :
    handedRows encoder items = some (xs.flatMap part) ∧ ∀ item ∈ items, item.Sendable := by
  induction h with
  | nil =>
    refine ⟨rfl, ?_⟩
    intro item hitem
    cases hitem
  | cons hfirst _ ih =>
    refine ⟨?_, List.forall_mem_cons.mpr ⟨hfirst.2, ih.2⟩⟩
    rw [handedRows, hfirst.1, ih.1, List.flatMap_cons]
    rfl

theorem handedRows_append {encoder : Option DirectEncoder} {items items' : List Handed}
    {rows rows' : List (List MssqlCell)} (h : handedRows encoder items = some rows)
    (h' : handedRows encoder items' = some rows') : handedRows encoder (items ++ items') = some (rows ++ rows') := by
  induction items generalizing rows with
  | nil =>
    cases h
    exact h'
  | cons item items ih =>
    simp only [handedRows, Option.bind_eq_bind, Option.bind_eq_some_iff, Option.some.injEq] at h
    obtain ⟨first, hfirst, rest, hrest, rfl⟩ := h
    rw [List.cons_append, handedRows, hfirst, ih hrest, List.append_assoc]
    rfl

def IsDriverError (e : Fault Error) : Prop := ∃ source, e = .error (.tiberius source)

def IsPacketWriteError (e : Fault Error) : Prop :=
  ∃ source, e = .error ((Error.tiberius source).withWritePhase .packetWrite)

section DriverCalls

variable [Driver]

/-- What the calls to the driver make of a request: each item comes with the call it is handed over in, and calls with
nothing to hand over may come in between. -/
inductive Takes (request : Driver.Request) : List Handed → Driver.Request → Prop
  | nothing : Takes request [] request
  | tokenRow {items : List Handed} {request' : Driver.Request} (before : Takes request items request')
    (row : TokenRow) : Takes request (items ++ [.tokenRow row]) (Driver.send request' row).2
  | payload {items : List Handed} {request' : Driver.Request} (before : Takes request items request')
    (bytes : List UInt8) (rowTokenOffsets : List ℕ) : Takes request (items ++ [.rawRows bytes rowTokenOffsets])
      (Driver.sendRawRowsPayloadChecked request' bytes rowTokenOffsets).2
  | appended {items : List Handed} {request' lent : Driver.Request} {buf : List UInt8}
    (before : Takes request items request') (hbuffer : Driver.rowsBuffer request' = (.ok buf, lent))
    (buf' : List UInt8) (rowTokenOffsets : List ℕ) :
    Takes request (items ++ [.rawRows (buf'.drop buf.length) rowTokenOffsets])
      (Driver.rowsAppended lent (.ok (rowTokenOffsets, buf'))).2
  | withdrawn {items : List Handed} {request' lent : Driver.Request} {buf : List UInt8}
    (before : Takes request items request') (hbuffer : Driver.rowsBuffer request' = (.ok buf, lent)) :
    Takes request items (Driver.rowsAppended lent (.error "direct raw row encoding failed")).2
  | withheld {items : List Handed} {request' lent : Driver.Request} {source : String}
    (before : Takes request items request') (hbuffer : Driver.rowsBuffer request' = (.error source, lent)) :
    Takes request items lent

def Records (request : Driver.Request) (handed : List Handed) (writer : BulkWriter) : Prop :=
  ∃ items, writer.handed = handed ++ items ∧ Takes request items writer.request

variable {request : Driver.Request} {handed : List Handed}

theorem Records.hand {writer : BulkWriter} {item : Handed} {request' : Driver.Request}
    (h : Records request handed writer) (htakes : ∀ items, Takes request items writer.request →
      Takes request (items ++ [item]) request') {state : WriterState} :
    Records request handed ⟨state, request', writer.handed ++ [item]⟩ := by
  obtain ⟨items, hhanded, hitems⟩ := h
  exact ⟨items ++ [item], by rw [hhanded, List.append_assoc], htakes items hitems⟩

theorem Records.pass {writer : BulkWriter} {request' : Driver.Request} (h : Records request handed writer)
    (htakes : ∀ items, Takes request items writer.request → Takes request items request') {state : WriterState} :
    Records request handed ⟨state, request', writer.handed⟩ := by
  obtain ⟨items, hhanded, hitems⟩ := h
  exact ⟨items, hhanded, htakes items hitems⟩

theorem keeps_lift {α : Type} (x : Result α) : Keeps (Records request handed) (lift x) := keeps_of_run fun _ h => h

theorem keeps_get : Keeps (Records request handed) (get : Session BulkWriter Error BulkWriter) :=
  keeps_of_run fun _ h => h

theorem sendTokenRow_keeps (row : TokenRow) : Keeps (Records request handed) (sendTokenRow row) :=
  keeps_of_run fun _ h => h.hand fun _ hitems => hitems.tokenRow row

theorem sendRawRowsPayloadChecked_keeps (payload : EncodedRowsPayload) :
    Keeps (Records request handed) (sendRawRowsPayloadChecked payload) :=
  keeps_of_run fun _ h => h.hand fun _ hitems => hitems.payload payload.bytes payload.rowTokenOffsets

theorem sendRawRowsWith_keeps (encode : List UInt8 → Result (List ℕ × List UInt8)) :
    Keeps (Records request handed) (sendRawRowsWith encode) := by
  intro writer h
  refine Ensures.bind (ensures_get ?_)
  rcases hbuffer : Driver.rowsBuffer writer.request with ⟨source | buf, lent⟩
  · apply ensures_of_after
    have hpass := @Records.pass _ _ _ _ lent h (fun _ hitems => hitems.withheld hbuffer) writer.state
    rw [← List.append_nil writer.handed] at hpass
    exact hpass
  · dsimp only
    rcases hencode : encode buf with (err | _) | ⟨rowTokenOffsets, buf'⟩
    · exact ensures_of_after (h.pass fun _ hitems => hitems.withdrawn hbuffer)
    · exact ensures_of_after h
    · exact ensures_of_after (h.hand fun _ hitems => hitems.appended hbuffer buf' rowTokenOffsets)

variable [Externals]

theorem sendMeasuredRawRows_keeps (encoder : DirectEncoder) (batch : RecordBatch) (m : MeasuredDirectBatch)
    (range : MeasuredRowRange) : Keeps (Records request handed) (sendMeasuredRawRows encoder batch m range) := by
  apply (keeps_lift _).bind
  intro _
  split
  case isTrue => exact sendRawRowsWith_keeps _
  case isFalse => exact (keeps_lift _).bind fun payload => sendRawRowsPayloadChecked_keeps payload

theorem sendRow_keeps (view : RecordBatchView) (rowIndex : ℕ) :
    Keeps (Records request handed) (sendRow view rowIndex) := by
  apply ((keeps_lift _).withError _).bind
  intro row
  exact (sendTokenRow_keeps row).withError _

omit [Externals] in
theorem recordAcceptedBatch_keeps (rows : ℕ) : Keeps (Records request handed) (recordAcceptedBatch rows) :=
  keeps_of_run fun _ h => h

theorem writeBatchToSink_keeps (batch : RecordBatch) : Keeps (Records request handed) (writeBatchToSink batch) := by
  apply keeps_get.bind
  intro writer
  apply ((keeps_lift _).withError _).bind
  intro view
  apply ((keeps_lift _).withError _).bind
  intro _
  apply (keeps_each fun r _ => sendRow_keeps view r).bind
  intro _
  exact recordAcceptedBatch_keeps _

theorem writeDirectBatchToSink_keeps (batch : RecordBatch) :
    Keeps (Records request handed) (writeDirectBatchToSink batch) := by
  apply keeps_get.bind
  intro writer
  apply ((keeps_lift _).withError _).bind
  intro encoder
  apply ((keeps_lift _).withError _).bind
  intro measured
  apply ((keeps_lift _).withError _).bind
  intro ranges
  apply (keeps_each fun range _ => (sendMeasuredRawRows_keeps encoder batch measured range).withError _).bind
  intro _
  exact recordAcceptedBatch_keeps _

theorem writeBatch_keeps (batch : RecordBatch) : Keeps (Records request handed) (writeBatch batch) := by
  apply keeps_get.bind
  intro writer
  cases writer.state.backend with
  | baselineTokenRow => exact writeBatchToSink_keeps batch
  | directFramedBulk | directRawBulk => exact writeDirectBatchToSink_keeps batch
  | auto => exact keeps_lift _

end DriverCalls

section Sends

variable [Driver] {writer writer' : BulkWriter} {item : Handed} {items : List Handed}

structure Reliable : Prop where
  send : ∀ request row, (Driver.send request row).1 = .ok ()
  payload : ∀ request bytes rowTokenOffsets,
    (Driver.sendRawRowsPayloadChecked request bytes rowTokenOffsets).1 = .ok ()
  buffer : ∀ request, ∃ buf, (Driver.rowsBuffer request).1 = .ok buf
  appended : ∀ request rows, (Driver.rowsAppended request (.ok rows)).1 = .ok ()

structure Sent (writer writer' : BulkWriter) (items : List Handed) : Prop where
  state : writer'.state = writer.state
  handed : writer'.handed = writer.handed ++ items

def Stopped (writer writer' : BulkWriter) (item : Handed) : Prop := Sent writer writer' [] ∨ Sent writer writer' [item]

theorem answer_ensures (result : Except String Unit × Driver.Request) : (answer result items).Ensures writer
    (fun _ writer' => result.1 = .ok () ∧ Sent writer writer' items)
    (fun e writer' => IsDriverError e ∧ result.1 ≠ .ok () ∧ Sent writer writer' items) := by
  obtain ⟨answered, request⟩ := result
  refine Ensures.bind (ensures_get (Ensures.bind (ensures_set (ensures_lift ?_ ?_))))
  · intro u hu
    cases answered with
    | ok u => exact ⟨rfl, rfl, rfl⟩
    | error source => cases hu
  · intro e he
    cases answered with
    | ok u => cases he
    | error source =>
      cases he
      exact ⟨⟨source, rfl⟩, by simp, rfl, rfl⟩

theorem answer_item_ensures {result : Except String Unit × Driver.Request} (h : Reliable → result.1 = .ok ()) :
    (answer result [item]).Ensures writer
      (fun _ writer' => Sent writer writer' [item])
      (fun e writer' => (IsDriverError e ∧ ¬Reliable) ∧ Stopped writer writer' item) := by
  apply (answer_ensures result).mono
  · exact fun _ _ h => h.2
  · rintro _ _ ⟨he, hrefused, hsent⟩
    exact ⟨⟨he, fun hreliable => hrefused (h hreliable)⟩, .inr hsent⟩

theorem sendTokenRow_ensures (row : TokenRow) : (sendTokenRow row).Ensures writer
    (fun _ writer' => Sent writer writer' [.tokenRow row])
    (fun e writer' => (IsDriverError e ∧ ¬Reliable) ∧ Stopped writer writer' (.tokenRow row)) :=
  Ensures.bind (ensures_get (answer_item_ensures fun h => h.send _ _))

theorem sendRawRowsPayloadChecked_ensures (payload : EncodedRowsPayload) :
    (sendRawRowsPayloadChecked payload).Ensures writer
      (fun _ writer' => Sent writer writer' [.rawRows payload.bytes payload.rowTokenOffsets])
      (fun e writer' => (IsDriverError e ∧ ¬Reliable) ∧
        Stopped writer writer' (.rawRows payload.bytes payload.rowTokenOffsets)) :=
  Ensures.bind (ensures_get (answer_item_ensures fun h => h.payload _ _ _))

theorem sendRawRowsWith_ensures {encode : List UInt8 → Result (List ℕ × List UInt8)} {payload : EncodedRowsPayload}
    (hencode : ∀ buf, encode buf = .ok (payload.rowTokenOffsets, buf ++ payload.bytes)) :
    (sendRawRowsWith encode).Ensures writer
      (fun _ writer' => Sent writer writer' [.rawRows payload.bytes payload.rowTokenOffsets])
      (fun e writer' => (IsDriverError e ∧ ¬Reliable) ∧
        Stopped writer writer' (.rawRows payload.bytes payload.rowTokenOffsets)) := by
  refine Ensures.bind (ensures_get ?_)
  rcases hbuffer : Driver.rowsBuffer writer.request with ⟨source | buf, request⟩
  · apply (answer_ensures _).mono
    · rintro _ _ ⟨⟨⟩, -⟩
    · rintro _ _ ⟨he, -, hsent⟩
      refine ⟨⟨he, fun hreliable => ?_⟩, .inl hsent⟩
      obtain ⟨buf, hbuf⟩ := hreliable.buffer writer.request
      rw [hbuffer] at hbuf
      cases hbuf
  · dsimp only
    rw [hencode]
    dsimp only
    rw [List.drop_left]
    exact answer_item_ensures fun h => h.appended _ _

variable [Externals]

/-- The payload of a range of measured rows, whichever way it is sent. -/
structure RangePayload (encoder : DirectEncoder) (batch : RecordBatch) (m : MeasuredDirectBatch)
    (range : MeasuredRowRange) (payload : EncodedRowsPayload) : Prop where
  length : m.rangePayloadLen range.start range.len = .ok payload.bytes.length
  encoded : encoder.encodeMeasuredBatchRange {} batch m range.start range.len = .ok payload
  appended : ∀ buf, encoder.encodeMeasuredBatchRangeInto batch m range.start range.len buf =
    .ok (payload.rowTokenOffsets, buf ++ payload.bytes)
  count : payload.rowTokenOffsets.length = range.len

theorem sendMeasuredRawRows_ensures {encoder : DirectEncoder} {batch : RecordBatch} {m : MeasuredDirectBatch}
    {range : MeasuredRowRange} {payload : EncodedRowsPayload} (h : RangePayload encoder batch m range payload) :
    (sendMeasuredRawRows encoder batch m range).Ensures writer
      (fun _ writer' => Sent writer writer' [.rawRows payload.bytes payload.rowTokenOffsets])
      (fun e writer' => (IsDriverError e ∧ ¬Reliable) ∧
        Stopped writer writer' (.rawRows payload.bytes payload.rowTokenOffsets)) := by
  apply Ensures.bind
  apply ensures_lift_ok h.length
  split
  case isTrue => exact sendRawRowsWith_ensures h.appended
  case isFalse =>
    apply Ensures.bind
    apply ensures_lift_ok h.encoded
    exact sendRawRowsPayloadChecked_ensures payload

omit [Externals] in
theorem each_ensures {ι : Type} {xs : List ι} {body : ι → Session BulkWriter Error Unit} {Hands : ι → Handed → Prop}
    {E : Fault Error → Prop} (hbody : ∀ x ∈ xs, ∀ writer, (body x).Ensures writer
      (fun _ writer' => ∃ item, Hands x item ∧ Sent writer writer' [item])
      (fun e writer' => E e ∧ ∃ item, Hands x item ∧ Stopped writer writer' item)) :
    (each xs body).Ensures writer
      (fun _ writer' => ∃ items, List.Forall₂ Hands xs items ∧ Sent writer writer' items)
      (fun e writer' => E e ∧ ∃ done items, done <+: xs ∧ List.Forall₂ Hands done items ∧
        Sent writer writer' items) := by
  have hloop := @ensures_each _ _ _ writer (fun e writer' => E e ∧ ∃ done items, done <+: xs ∧
      List.Forall₂ Hands done items ∧ Sent writer writer' items) xs body
    (fun rest writer' => ∃ done items, done ++ rest = xs ∧ List.Forall₂ Hands done items ∧ Sent writer writer' items)
    (by
      rintro x rest writer' ⟨done, items, hsplit, hdone, hsent⟩
      have hmem : x ∈ xs := hsplit ▸ List.mem_append_right _ List.mem_cons_self
      have hnext : (done ++ [x]) ++ rest = xs := by rw [List.append_assoc, List.singleton_append, hsplit]
      have hsend {writer'' : BulkWriter} {items' : List Handed} (h : Sent writer' writer'' items') :
          Sent writer writer'' (items ++ items') :=
        ⟨h.state.trans hsent.state, by rw [h.handed, hsent.handed, List.append_assoc]⟩
      apply (hbody x hmem writer').mono
      · rintro _ writer'' ⟨item, hitem, hitemSent⟩
        exact ⟨done ++ [x], items ++ [item], hnext, List.rel_append hdone (.cons hitem .nil), hsend hitemSent⟩
      · rintro e writer'' ⟨he, item, hitem, hnone | hitemSent⟩
        · exact ⟨he, done, items ++ [], ⟨_, hsplit⟩, (List.append_nil items).symm ▸ hdone, hsend hnone⟩
        · exact ⟨he, done ++ [x], items ++ [item], ⟨_, hnext⟩, List.rel_append hdone (.cons hitem .nil),
            hsend hitemSent⟩)
    ⟨[], [], rfl, .nil, rfl, (List.append_nil _).symm⟩
  apply hloop.mono
  · rintro _ writer' ⟨done, items, hsplit, hdone, hsent⟩
    rw [List.append_nil] at hsplit
    exact ⟨items, hsplit ▸ hdone, hsent⟩
  · exact fun _ _ h => h

end Sends

end ArrowTiberius.Writer
