import ArrowTiberius.Arrow.Array
import ArrowTiberius.Schema.Mapping

namespace ArrowTiberius

open Checked

variable [Externals]

def runtimeTypeMismatch (array : ArrayRef) (mapping : SchemaMapping) (rowIndex : ℕ) : Error :=
  rowError mapping rowIndex .valueTypeMismatch s!"runtime Arrow type {
    Externals.display array.dataType} does not match planned Arrow type {Externals.display mapping.arrow.dataType}"

def downcastArray (kind : ArrayKind) (array : ArrayRef) (mapping : SchemaMapping) (rowIndex : ℕ) :
    Result (Arr kind.Elem) :=
  okOr (array.downcast kind) (runtimeTypeMismatch array mapping rowIndex)

def extractAs (kind : ArrayKind) (cell : kind.Elem → ArrowCell) (array : ArrayRef) (mapping : SchemaMapping)
    (rowIndex : ℕ) : Result ArrowCell := do
  let array ← downcastArray kind array mapping rowIndex
  pure (cell (array.value rowIndex))

def extractUtf8Cell (array : ArrayRef) (mapping : SchemaMapping) (rowIndex : ℕ) : Result ArrowCell :=
  match array.dataType with
  | .utf8 => extractAs .utf8 .utf8 array mapping rowIndex
  | .largeUtf8 => extractAs .largeUtf8 .utf8 array mapping rowIndex
  | .utf8View => extractAs .utf8View .utf8 array mapping rowIndex
  | _ => fail (runtimeTypeMismatch array mapping rowIndex)

def extractBinaryCell (array : ArrayRef) (mapping : SchemaMapping) (rowIndex : ℕ) : Result ArrowCell :=
  match array.dataType with
  | .binary => extractAs .binary .binary array mapping rowIndex
  | .largeBinary => extractAs .largeBinary .binary array mapping rowIndex
  | .binaryView => extractAs .binaryView .binary array mapping rowIndex
  | _ => fail (runtimeTypeMismatch array mapping rowIndex)

def extractArrowCell (array : ArrayRef) (mapping : SchemaMapping) (rowIndex : ℕ) : Result ArrowCell :=
  if array.isNull rowIndex then .ok .null
  else
    match mapping.arrow.dataType with
    | .boolean => extractAs .boolean .boolean array mapping rowIndex
    | .int8 => extractAs .int8 .int8 array mapping rowIndex
    | .int16 => extractAs .int16 .int16 array mapping rowIndex
    | .int32 => extractAs .int32 .int32 array mapping rowIndex
    | .int64 => extractAs .int64 .int64 array mapping rowIndex
    | .uint8 => extractAs .uint8 .uint8 array mapping rowIndex
    | .uint16 => extractAs .uint16 .uint16 array mapping rowIndex
    | .uint32 => extractAs .uint32 .uint32 array mapping rowIndex
    | .uint64 => extractAs .uint64 .uint64 array mapping rowIndex
    | .decimal32 _ _ => extractAs .decimal32 .decimal32 array mapping rowIndex
    | .decimal64 _ _ => extractAs .decimal64 .decimal64 array mapping rowIndex
    | .decimal128 _ _ => extractAs .decimal128 .decimal128 array mapping rowIndex
    | .decimal256 _ _ => extractAs .decimal256 .decimal256 array mapping rowIndex
    | .date32 => extractAs .date32 .date32 array mapping rowIndex
    | .date64 => extractAs .date64 .date64 array mapping rowIndex
    | .time32 unit =>
      match unit with
      | .second => extractAs .time32Second .time32Second array mapping rowIndex
      | .millisecond => extractAs .time32Millisecond .time32Millisecond array mapping rowIndex
      | other => fail (unsupportedValueConversion mapping rowIndex
          s!"Arrow Time32 unit {Externals.debug other} is not supported for value extraction")
    | .time64 unit =>
      match unit with
      | .microsecond => extractAs .time64Microsecond .time64Microsecond array mapping rowIndex
      | .nanosecond => extractAs .time64Nanosecond .time64Nanosecond array mapping rowIndex
      | other => fail (unsupportedValueConversion mapping rowIndex
          s!"Arrow Time64 unit {Externals.debug other} is not supported for value extraction")
    | .timestamp unit _ => extractAs (.timestamp unit) (.timestamp unit) array mapping rowIndex
    | .float16 => extractAs .float16 (fun value => .float16 (Externals.f16ToF32 value)) array mapping rowIndex
    | .float32 => extractAs .float32 .float32 array mapping rowIndex
    | .float64 => extractAs .float64 .float64 array mapping rowIndex
    | .utf8 | .largeUtf8 | .utf8View => extractUtf8Cell array mapping rowIndex
    | .binary | .largeBinary | .binaryView => extractBinaryCell array mapping rowIndex
    | .fixedSizeBinary _ => do
      let array ← okOr array.downcastFixedSizeBinary (runtimeTypeMismatch array mapping rowIndex)
      pure (.binary (array.value rowIndex))
    | other => fail (unsupportedValueConversion mapping rowIndex
        s!"Arrow value extraction for {Externals.display other} is not supported yet")

end ArrowTiberius
