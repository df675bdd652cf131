import EnjoyThings.Services.DeadLetters
import EnjoyThings.Spec.Timestamps

/-!
# What a replay restores

A dead letter of the Go services or of the fraud worker decodes, and the record that is
replayed has the topic of the parked one. Its key and its value are those of the parked
record, except that an empty key comes back as null, and that the fraud worker's null
value comes back as an empty one.
-/

namespace EnjoyThings

open Except (bind_eq_ok ok_bind refuseIf_eq_ok ofOption_eq_ok mapError_eq_ok)

/-! ## Fields -/

namespace Go

variable [Base64Lib] {document : List (Py.Str × Py.Json)} {field : String}

omit [Base64Lib] in
theorem sizedField_eq (bits : Nat) {n : Int} (h : Py.Json.get document field = some (.int n))
    (hlo : -2 ^ (bits - 1) ≤ n) (hhi : n < 2 ^ (bits - 1)) :
    sizedField bits document field = some n := by
  simp [sizedField, intField, h, hlo, hhi]

omit [Base64Lib] in
theorem stringField_eq {s : Py.Str} (h : Py.Json.get document field = some (.str s)) :
    stringField document field = some (ofPython s) := by
  simp [stringField, h]

omit [Base64Lib] in
theorem timeField_eq {s : Py.Str} {t : Time × Int}
    (h : Py.Json.get document field = some (.str s)) (ht : parseRFC3339 (ofPython s) = some t) :
    timeField document field = some t := by
  simp [timeField, h, ht]

/-- The bytes that are read from a document which has the bytes in base64. -/
theorem bytesField_str {bytes : Bytes}
    (h : Py.Json.get document field = some (.str (Py.ofString (Base64Lib.encode bytes)))) :
    bytesField document field = some (some bytes) := by
  simp [bytesField, h, Base64Lib.decode_encode]

end Go

/-! ## Decoding -/

theorem omitEmpty_eq_self_iff (bytes : Option Bytes) :
    omitEmpty bytes = bytes ↔ bytes ≠ some [] := by
  match bytes with
  | none => simp [omitEmpty]
  | some [] => simp [omitEmpty]
  | some (b :: bs) => simp [omitEmpty]

theorem some_getD_eq_self_iff (bytes : Option Bytes) :
    some (bytes.getD []) = bytes ↔ bytes ≠ none := by
  cases bytes <;> simp

/-- The payload has the topic, the key and the value. -/
structure DeadLetterPayload.Restores (payload : DeadLetterPayload) (topic : String)
    (key value : Option Bytes) : Prop where
  topic_eq : payload.topic = topic
  key_eq : payload.key = key
  value_eq : payload.value = value

namespace KafkaRecord

variable (record : KafkaRecord)

/-- The numbers of a record fit into the fields of `Payload`. -/
theorem partition_bounds :
    -2 ^ (32 - 1) ≤ record.partition.toInt ∧ record.partition.toInt < 2 ^ (32 - 1) :=
  ⟨record.partition.le_toInt, record.partition.toInt_lt⟩

theorem offset_bounds :
    -2 ^ (64 - 1) ≤ (record.offset : Int) ∧ (record.offset : Int) < 2 ^ (64 - 1) := by
  have := record.offset_lt
  omega

end KafkaRecord

section

variable [Base64Lib] {T : Type} [JsonTextLib T] (record : KafkaRecord)

/-- `Decode` of a document with the fields of a record. -/
theorem DeadLetterPayload.decode_eq {text : T} {document : List (Py.Str × Py.Json)}
    {key value : Option Bytes} {reason failedAt : Py.Str} {time : Time × Int}
    (htext : JsonTextLib.unmarshal text = .ok document)
    (hparse : Go.parseRFC3339 (Go.ofPython failedAt) = some time)
    (hkey : Go.bytesField document "key" = some key)
    (hvalue : Go.bytesField document "value" = some value)
    (hversion : Py.Json.get document "schema_version" = some (.int deadLetterSchemaVersion))
    (htopic : Py.Json.get document "topic" = some (.str (Py.ofString record.topic)))
    (hpartition : Py.Json.get document "partition" = some (.int record.partition.toInt))
    (hoffset : Py.Json.get document "offset" = some (.int record.offset))
    (herror : Py.Json.get document "error" = some (.str reason))
    (htime : Py.Json.get document "failed_at" = some (.str failedAt)) :
    ∃ payload, decode text = .ok payload ∧ payload.Restores record.topic key value := by
  let payload : DeadLetterPayload :=
    { schemaVersion := deadLetterSchemaVersion, topic := record.topic
      partition := record.partition.toInt, offset := record.offset, key := key
      value := value, error := Go.ofPython reason, failedAt := time }
  have hunmarshal : unmarshal document = some payload := by
    have hp := record.partition_bounds
    have ho := record.offset_bounds
    simp only [unmarshal, Go.sizedField_eq 64 hversion (by decide) (by decide),
      Go.stringField_eq htopic, Go.sizedField_eq 32 hpartition hp.1 hp.2,
      Go.sizedField_eq 64 hoffset ho.1 ho.2, hkey, hvalue, Go.stringField_eq herror,
      Go.timeField_eq htime hparse, Go.ofPython_ofString, Option.bind_eq_bind, Option.bind_some]
    rfl
  refine ⟨payload, ?_, ⟨rfl, rfl, rfl⟩⟩
  simp only [decode, bind_eq_ok, mapError_eq_ok, ofOption_eq_ok, refuseIf_eq_ok]
  exact ⟨_, htext, _, hunmarshal, (), not_not.mpr rfl, (), record.named, rfl⟩

/-- A dead letter of the Go services: only an empty key is not restored. -/
theorem decode_publish {cause : String} {failedAt now : Time} {parked : ParkedRecord T}
    (h : (DeadLetter.fromKafka record.toConsumedRecord cause).publish failedAt now =
      .ok parked) :
    ∃ payload, DeadLetterPayload.decode parked.value = .ok payload ∧
      payload.Restores record.topic (omitEmpty record.key) record.value := by
  simp only [DeadLetter.publish, DeadLetter.encode, bind_eq_ok, refuseIf_eq_ok, Except.ok.injEq,
    not_le] at h
  obtain ⟨_, ⟨-, hyear, rfl⟩, rfl⟩ := h
  generalize (if failedAt = 0 then now else failedAt) = time at hyear ⊢
  have hparse := Go.parseRFC3339_formatRFC3339Nano hyear
  rw [← Go.ofPython_ofString (Go.formatRFC3339Nano _)] at hparse
  have hdecode := fun key value => @DeadLetterPayload.decode_eq _ T _ record _ _ key value
    (Py.ofString cause) _ _ (JsonTextLib.unmarshal_marshal
      ((DeadLetter.fromKafka record.toConsumedRecord cause).document time)) hparse
  -- whether the document has a key decides where the fields behind it stand
  obtain ⟨⟨topic, partition, offset, key, value⟩, named, hlt⟩ := record
  rcases key with _ | _ | ⟨b, bs⟩ <;> rcases value with _ | v
  · exact hdecode _ _ rfl rfl rfl rfl rfl rfl rfl rfl
  · exact hdecode _ _ rfl (Go.bytesField_str rfl) rfl rfl rfl rfl rfl rfl
  · exact hdecode _ _ rfl rfl rfl rfl rfl rfl rfl rfl
  · exact hdecode _ _ rfl (Go.bytesField_str rfl) rfl rfl rfl rfl rfl rfl
  · exact hdecode _ _ (Go.bytesField_str rfl) rfl rfl rfl rfl rfl rfl rfl
  · exact hdecode _ _ (Go.bytesField_str rfl) (Go.bytesField_str rfl) rfl rfl rfl rfl rfl rfl

/-- A dead letter of the fraud worker: its null values come back empty as well. -/
theorem decode_publish_python (reason : Py.Str) (now : Py.Now) :
    ∃ payload,
      DeadLetterPayload.decode
          (KafkaDeadLetterPublisher.publish (T := T) record.toConsumedRecord reason now).value =
        .ok payload ∧
      payload.Restores record.topic (omitEmpty record.key) (some (record.value.getD [])) := by
  have hparse := Go.parseRFC3339_timestamp now.lt
  have hdecode := fun key value => @DeadLetterPayload.decode_eq _ T _ record _ _ key value
    reason _ _ (JsonTextLib.unmarshal_dumps
      (KafkaDeadLetterPublisher.document record.toConsumedRecord reason now)) hparse
  obtain ⟨⟨topic, partition, offset, key, value⟩, named, hlt⟩ := record
  match key with
  | none | some [] => exact hdecode _ _ rfl (Go.bytesField_str rfl) rfl rfl rfl rfl rfl rfl
  | some (b :: bs) =>
    exact hdecode _ _ (Go.bytesField_str rfl) (Go.bytesField_str rfl) rfl rfl rfl rfl rfl rfl

end

/-! ## Replaying -/

/-- Who parks a record, and with what besides the record. -/
inductive Parker
  | services (cause : String) (failedAt now : Time)
  | fraudWorker (reason : Py.Str) (now : Py.Now)

def Parker.park [Base64Lib] {T : Type} [JsonTextLib T] (record : KafkaRecord) :
    Parker → Except String (ParkedRecord T)
  | .services cause failedAt now =>
    (DeadLetter.fromKafka record.toConsumedRecord cause).publish failedAt now
  | .fraudWorker reason now =>
    .ok (KafkaDeadLetterPublisher.publish record.toConsumedRecord reason now)

/-- A record goes out again with the topic, the key and the value it had. -/
def ReplayedRecord.Matches (replayed : ReplayedRecord) (record : KafkaRecord) : Prop :=
  replayed.topic = record.topic ∧ replayed.key = record.key ∧ replayed.value = record.value

/-- The values a publisher writes as they are: the fraud worker has no form for null. -/
def Parker.Writes (value : Option Bytes) : Parker → Prop
  | .services _ _ _ => True
  | .fraudWorker _ _ => value ≠ none

/-- A record that is read from the dead-letter topic goes out as it came in if and only if its
    key was not empty, and its value not null when the fraud worker parked it. -/
theorem dead_letter_lossless_iff [Base64Lib] {T : Type} [JsonTextLib T] (record : KafkaRecord)
    (parker : Parker) (parked : ParkedRecord T) (hparked : parker.park record = .ok parked)
    (letter : ConsumedRecord T) (hletter : letter.value = parked.value) :
    (∃ payload, DeadLetterPayload.decode letter.value = .ok payload ∧
      (replay letter payload none).Matches record) ↔
    record.key ≠ some [] ∧ parker.Writes record.value := by
  have hiff : ∀ {payload key value}, DeadLetterPayload.decode letter.value = .ok payload →
      payload.Restores record.topic key value →
      ((∃ payload, DeadLetterPayload.decode letter.value = .ok payload ∧
        (replay letter payload none).Matches record) ↔
      key = record.key ∧ value = record.value) := by
    intro payload key value hdecode hrestores
    have hmatches : (replay letter payload none).Matches record ↔
        key = record.key ∧ value = record.value := by
      simp [replay, ReplayedRecord.Matches, hrestores.topic_eq, hrestores.key_eq,
        hrestores.value_eq]
    rw [hdecode, ← hmatches]
    simp
  cases parker with
  | services cause failedAt now =>
    obtain ⟨payload, hdecode, hrestores⟩ := decode_publish record hparked
    rw [hiff (hletter ▸ hdecode) hrestores, omitEmpty_eq_self_iff]
    simp [Parker.Writes]
  | fraudWorker reason now =>
    cases hparked
    obtain ⟨payload, hdecode, hrestores⟩ := decode_publish_python (T := T) record reason now
    rw [hiff (hletter ▸ hdecode) hrestores, omitEmpty_eq_self_iff, some_getD_eq_self_iff]
    rfl

namespace Sample

/-- Base64 of the bytes of the samples, and any other bytes as letters after a mark. -/
instance base64Lib : Base64Lib where
  encode bytes :=
    if bytes = [] then "" else if bytes = [112, 49] then "cDE="
    else if bytes = [255] then "/w=="
    else String.ofList ('?' :: bytes.map fun b => Char.ofNat b.toNat)
  decode s :=
    if s = "" then some [] else if s = "cDE=" then some [112, 49]
    else if s = "/w==" then some [255]
    else some (s.toList.tail.map fun c => UInt8.ofNat c.toNat)
  decode_encode bytes := by
    have hchar : ∀ b : UInt8, UInt8.ofNat (Char.ofNat b.toNat).toNat = b := by
      intro b
      have hvalid : b.toNat.isValidChar := Or.inl (Nat.lt_trans b.toNat_lt (by decide))
      rw [Char.ofNat, dif_pos hvalid]
      exact UInt8.ofNat_toNat
    have hmark : ∀ (l : List Char) (s : String), s.toList.head? ≠ some '?' →
        String.ofList ('?' :: l) ≠ s := by
      rintro l _ hs rfl
      exact hs (by simp)
    split_ifs <;> simp_all [Function.comp_def]

/-- Documents as their own texts. -/
instance jsonTextLib : JsonTextLib (List (Py.Str × Py.Json)) where
  marshal document := document
  dumps document := document
  unmarshal := .ok
  unmarshal_marshal _ := rfl
  unmarshal_dumps _ := rfl

/-- A tombstone: a record with a key and no value. -/
def tombstone : KafkaRecord :=
  { topic := "fraud.score.requested", partition := 2, offset := 7, key := some [112, 49]
    value := none, named := by decide, offset_lt := by decide }

/-- A record with an empty key. -/
def emptyKey : KafkaRecord :=
  { topic := "tx.initiated", partition := 0, offset := 3, key := some [], value := some [255]
    named := by decide, offset_lt := by decide }

def parkedAt (offset : Nat) (value : List (Py.Str × Py.Json)) :
    ConsumedRecord (List (Py.Str × Py.Json)) :=
  { topic := "tx.initiated.dlq", partition := 0, offset := offset, key := [], value := value }

/-- The Go services restore the tombstone. -/
theorem tombstone_restored :
    ∃ payload, DeadLetterPayload.decode (T := List (Py.Str × Py.Json))
        ((DeadLetter.fromKafka tombstone.toConsumedRecord "bad").document 1) = .ok payload ∧
      (replay (parkedAt 0 []) payload none).Matches tombstone := by
  have h := dead_letter_lossless_iff tombstone (.services "bad" 0 1) _ rfl
    (parkedAt 0 ((DeadLetter.fromKafka tombstone.toConsumedRecord "bad").document 1)) rfl
  exact h.mpr ⟨by decide, trivial⟩

/-- The fraud worker makes the null of a tombstone an empty value, and the Go services make an
    empty key null. -/
theorem tombstone_and_emptyKey_changed :
    (DeadLetterPayload.decode (T := List (Py.Str × Py.Json))
        (KafkaDeadLetterPublisher.publish tombstone.toConsumedRecord
          (Py.ofString "bad") { micros := 1 }).value).toOption.map
      (fun payload => (replay (parkedAt 0 []) payload none).value) = some (some []) ∧
    (DeadLetterPayload.decode (T := List (Py.Str × Py.Json))
        ((DeadLetter.fromKafka emptyKey.toConsumedRecord "bad").document 1)).toOption.map
      (fun payload => (replay (parkedAt 0 []) payload none).key) = some none := by
  decide +kernel

end Sample

end EnjoyThings
