import EnjoyThings.Services.Consumers
import EnjoyThings.Services.FraudStore

/-!
# Dead letters and their replay

`internal/deadletter` (`Encode`, `Publish`, `Decode`, `Replay`) and
`KafkaDeadLetterPublisher` of `integrations/kafka.py`. Keys and values of records are
`none` where Kafka has null. A payload is a document, whose text is of any type `T`:
`JsonTextLib` says that Go reads back what either language writes, and `Base64Lib`
the same for the bytes in it.
-/

namespace EnjoyThings

open Except (refuseIf ofOption)

abbrev Bytes : Type := List UInt8

/-- `base64.StdEncoding` and `base64.b64encode`. -/
class Base64Lib where
  encode : Bytes → String
  decode : String → Option Bytes
  decode_encode : ∀ bytes, decode (encode bytes) = some bytes

/-- `json.Marshal` and `json.dumps` of an object, and how `json.Unmarshal` reads a text, with the
    text of its error. -/
class JsonTextLib (T : Type) where
  marshal : List (Py.Str × Py.Json) → T
  dumps : List (Py.Str × Py.Json) → T
  unmarshal : T → Except String (List (Py.Str × Py.Json))
  unmarshal_marshal : ∀ document, unmarshal (marshal document) = .ok document
  unmarshal_dumps : ∀ document, unmarshal (dumps document) = .ok document

/-- A record of a topic, which has a name. -/
structure KafkaRecord extends ConsumedRecord (Option Bytes) where
  named : topic ≠ ""
  offset_lt : offset < 2 ^ 63

/-- What a publisher of dead letters hands to its producer. -/
structure ParkedRecord (T : Type) where
  topic : String
  key : Option Bytes
  value : T
  deriving DecidableEq

def deadLetterSchemaVersion : Int := 1

/-! ## Parking -/

/-- The bytes that `omitempty` keeps, and that are true in Python. -/
def omitEmpty : Option Bytes → Option Bytes
  | none | some [] => none
  | some bytes => some bytes

namespace DeadLetter

/-- The fields of `Payload` with their tags: an empty key is left out as a missing one is. -/
def document [Base64Lib] (record : DeadLetter (Option Bytes)) (failedAt : Time) :
    List (Py.Str × Py.Json) :=
  [(Py.ofString "schema_version", .int deadLetterSchemaVersion),
    (Py.ofString "topic", .str (Py.ofString record.topic)),
    (Py.ofString "partition", .int record.partition.toInt),
    (Py.ofString "offset", .int record.offset)] ++
  ((omitEmpty record.key).elim [] fun key =>
    [(Py.ofString "key", .str (Py.ofString (Base64Lib.encode key)))]) ++
  [(Py.ofString "value", record.value.elim .null fun value =>
      .str (Py.ofString (Base64Lib.encode value))),
    (Py.ofString "error", .str (Py.ofString record.reason)),
    (Py.ofString "failed_at", .str (Py.ofString (Go.formatRFC3339Nano failedAt)))]

/-- `Encode`, with the failure time of the record. A `time.Time` has a JSON form up to the
    year 9999. -/
def encode {T : Type} [Base64Lib] [JsonTextLib T] (record : DeadLetter (Option Bytes))
    (failedAt fallbackFailedAt : Time) : Except String T := do
  let failedAt := if failedAt = 0 then fallbackFailedAt else failedAt
  refuseIf (Stamp.lastSecond ≤ failedAt / 1000000000)
    "json: error calling MarshalJSON for type *time.Time: year outside of range [0,9999]"
  .ok (JsonTextLib.marshal (record.document failedAt))

/-- `KafkaPublisher.Publish` up to the producer. -/
def publish {T : Type} [Base64Lib] [JsonTextLib T] (record : DeadLetter (Option Bytes))
    (failedAt now : Time) : Except String (ParkedRecord T) := do
  let payload ← record.encode failedAt now
  .ok { topic := topicFor record.topic, key := record.key, value := payload }

end DeadLetter

namespace KafkaDeadLetterPublisher

/-- The dictionary of `publish`. A missing value is written as an empty one. -/
def document [Base64Lib] (record : ConsumedRecord (Option Bytes)) (reason : Py.Str)
    (now : Py.Now) : List (Py.Str × Py.Json) :=
  [(Py.ofString "schema_version", .int deadLetterSchemaVersion),
    (Py.ofString "topic", .str (Py.ofString record.topic)),
    (Py.ofString "partition", .int record.partition.toInt),
    (Py.ofString "offset", .int record.offset),
    (Py.ofString "value", .str (Py.ofString (Base64Lib.encode (record.value.getD [])))),
    (Py.ofString "error", .str reason),
    (Py.ofString "failed_at", .str (Py.timestamp now.micros))] ++
  ((omitEmpty record.key).elim [] fun key =>
    [(Py.ofString "key", .str (Py.ofString (Base64Lib.encode key)))])

/-- `publish` up to the producer. -/
def publish {T : Type} [Base64Lib] [JsonTextLib T] (record : ConsumedRecord (Option Bytes))
    (reason : Py.Str) (now : Py.Now) : ParkedRecord T :=
  { topic := DeadLetter.topicFor record.topic, key := record.key
    value := JsonTextLib.dumps (document record reason now) }

end KafkaDeadLetterPublisher

/-! ## Reading a dead letter -/

/-- `Payload`. The failure time comes with its offset. -/
structure DeadLetterPayload where
  schemaVersion : Int
  topic : String
  partition : Int
  offset : Int
  key : Option Bytes
  value : Option Bytes
  error : String
  failedAt : Time × Int
  deriving DecidableEq

namespace Go

/-- An integer field of a type with the given number of bits. -/
def sizedField (bits : Nat) (document : List (Py.Str × Py.Json)) (field : String) :
    Option Int :=
  (intField document field).filter fun n => -2 ^ (bits - 1) ≤ n && n < 2 ^ (bits - 1)

/-- A field with bytes: a missing one and `null` are nil, and the empty text is not. -/
def bytesField [Base64Lib] (document : List (Py.Str × Py.Json)) (field : String) :
    Option (Option Bytes) :=
  match Py.Json.get document field with
  | none | some .null => some none
  | some (.str s) => (Base64Lib.decode (ofPython s)).map some
  | some _ => none

end Go

namespace DeadLetterPayload

/-- `json.Unmarshal` into a `Payload`. -/
def unmarshal [Base64Lib] (document : List (Py.Str × Py.Json)) : Option DeadLetterPayload := do
  let schemaVersion ← Go.sizedField 64 document "schema_version"
  let topic ← Go.stringField document "topic"
  let partition ← Go.sizedField 32 document "partition"
  let offset ← Go.sizedField 64 document "offset"
  let key ← Go.bytesField document "key"
  let value ← Go.bytesField document "value"
  let error ← Go.stringField document "error"
  let failedAt ← Go.timeField document "failed_at"
  some { schemaVersion := schemaVersion, topic := topic, partition := partition
         offset := offset, key := key, value := value, error := error, failedAt := failedAt }

/-- `Decode`. The library's text for a field of the wrong type is shortened. -/
def decode {T : Type} [Base64Lib] [JsonTextLib T] (value : T) :
    Except String DeadLetterPayload := do
  let document ← (JsonTextLib.unmarshal value).mapError ("decode dead-letter payload: " ++ ·)
  let payload ← ofOption "decode dead-letter payload: json: cannot unmarshal"
    (unmarshal document)
  refuseIf (payload.schemaVersion ≠ deadLetterSchemaVersion)
    ("dead-letter schema version " ++ Go.decimal payload.schemaVersion ++
      " is not supported (want " ++ Go.decimal deadLetterSchemaVersion ++ ")")
  refuseIf (payload.topic = "") "dead-letter payload has no source topic"
  .ok payload

end DeadLetterPayload

/-! ## Replay -/

def redriveHeader : String := "x-dead-letter-redrive"

/-- A record that is produced again. -/
structure ReplayedRecord where
  topic : String
  key : Option Bytes
  value : Option Bytes
  headers : List (String × String)
  deriving DecidableEq

/-- `Replay`, with the replacement of the operator. -/
def replay {T : Type} (parked : ConsumedRecord T) (payload : DeadLetterPayload)
    (override : Option Bytes) : ReplayedRecord :=
  { topic := payload.topic, key := payload.key
    value := override.elim payload.value some
    headers := [(redriveHeader, parked.topic ++ ":" ++ Go.decimal parked.partition.toInt ++ ":" ++
      Go.decimal parked.offset)] }

end EnjoyThings
