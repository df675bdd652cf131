import EnjoyThings.Services.PyJson
import EnjoyThings.Spec.FraudPublished

/-!
# Which payloads the fraud worker classifies

`classify_transport_payload` catches the `JSONDecodeError` of `json.loads` and no other
exception, so bytes that do not decode in the encoding they are taken for, nesting that
is too deep and integers with too many digits raise. Where `json.loads` ends otherwise,
the payload is VALID exactly if it is a request, but for `"schema_version": true`, which
Python takes for 1.

## Key results

- `readRequest_isSome_iff`: what the checks on a dictionary accept
- `payload_classified_iff`: for which payloads the classification is as described
-/

namespace EnjoyThings

namespace FraudWorker

variable [Py.IsoLib] {raw : List (Py.Str × Py.Json)}

/-- The strings every request has. -/
def requiredStrings : List String :=
  ["event_id", "payment_id", "user_id", "from_wallet_id", "to_wallet_id", "currency",
    "occurred_at", "trace_id"]

/-- The field is a string and not empty. -/
def HasString (raw : List (Py.Str × Py.Json)) (field : String) : Prop :=
  ∃ s, Py.Json.get raw field = some (.str s) ∧ s ≠ []

/-- What makes a dictionary a request, except for the version. -/
structure RequestFields (raw : List (Py.Str × Py.Json)) : Prop where
  strings : ∀ field ∈ requiredStrings, HasString raw field
  amount : ∃ n : Int, Py.Json.get raw "amount_cents" = some (.int n) ∧ 0 < n
  time : ∃ s time, Py.Json.get raw "occurred_at" = some (.str s) ∧ Py.parseTime s = some time ∧
    time.utcoffset = some 0
  named : ∃ paymentID, Py.Json.get raw "payment_id" = some (.str paymentID) ∧
    Py.Json.get raw "event_id" =
      some (.str (Py.ofString "fraud.score.requested:" ++ paymentID))

omit [Py.IsoLib] in
theorem requiredString_eq_some_iff {field : String} {s : Py.Str} :
    requiredString raw field = some s ↔ Py.Json.get raw field = some (.str s) ∧ s ≠ [] := by
  unfold requiredString
  split
  · rename_i t ht
    rw [ht]
    by_cases hempty : t = []
    · simp only [hempty, ↓reduceIte, reduceCtorEq, Option.some.injEq, Py.Json.str.injEq, false_iff,
        not_and, not_not]
      exact fun h => h.symm
    · simp only [hempty, ↓reduceIte, Option.some.injEq, Py.Json.str.injEq]
      constructor
      · rintro rfl
        exact ⟨rfl, hempty⟩
      · exact fun h => h.1
  · rename_i hnot
    constructor
    · intro h
      cases h
    · intro h
      exact absurd h.1 (hnot s)

omit [Py.IsoLib] in
theorem positiveInt_eq_some_iff {field : String} {n : Int} :
    positiveInt raw field = some n ↔ Py.Json.get raw field = some (.int n) ∧ 0 < n := by
  unfold positiveInt
  split
  · rename_i m hm
    rw [hm]
    by_cases hpos : m ≤ 0
    · simp only [hpos, ↓reduceIte, reduceCtorEq, Option.some.injEq, Py.Json.int.injEq, false_iff,
        not_and, not_lt]
      rintro rfl
      exact hpos
    · simp only [hpos, ↓reduceIte, Option.some.injEq, Py.Json.int.injEq]
      constructor
      · rintro rfl
        exact ⟨rfl, by omega⟩
      · exact fun h => h.1
  · rename_i hnot
    constructor
    · intro h
      cases h
    · intro h
      exact absurd h.1 (hnot n)

/-- The checks accept a dictionary with a version that equals 1 and the fields of a request. -/
theorem readRequest_isSome_iff : (readRequest raw).isSome ↔
    ((Py.Json.get raw "schema_version").any Py.Json.isOne) = true ∧ RequestFields raw := by
  simp only [Option.isSome_iff_exists, readRequest, Option.bind_eq_bind, Option.bind_eq_some_iff,
    Option.guard_eq_some', requiredString_eq_some_iff, positiveInt_eq_some_iff]
  constructor
  · rintro ⟨request, _, hversion, eventID, hevent, paymentID, hpayment, userID, huser, fromID,
      hfrom, toID, hto, currency, hcurrency, occurredAt, hoccurred, traceID, htrace, amount,
      hamount, time, htime, _, hid, _, hutc, -⟩
    refine ⟨hversion, ?_, ⟨amount, hamount⟩, ⟨occurredAt, time, hoccurred.1, htime, hutc⟩,
      ⟨paymentID, hpayment.1, hid ▸ hevent.1⟩⟩
    simp only [requiredStrings, List.forall_mem_cons, List.not_mem_nil, false_implies,
      implies_true, and_true]
    exact ⟨⟨_, hevent⟩, ⟨_, hpayment⟩, ⟨_, huser⟩, ⟨_, hfrom⟩, ⟨_, hto⟩, ⟨_, hcurrency⟩,
      ⟨_, hoccurred⟩, ⟨_, htrace⟩⟩
  · rintro ⟨hversion, hfields⟩
    obtain ⟨⟨eventID, hevent⟩, ⟨paymentID, hpayment⟩, ⟨userID, huser⟩, ⟨fromID, hfrom⟩,
      ⟨toID, hto⟩, ⟨currency, hcurrency⟩, ⟨occurredAt, hoccurred⟩, ⟨traceID, htrace⟩⟩ := by
      simpa only [requiredStrings, List.forall_mem_cons, List.not_mem_nil, false_implies,
        implies_true, and_true] using hfields.strings
    obtain ⟨amount, hamount⟩ := hfields.amount
    obtain ⟨_, time, hsame, htime, hutc⟩ := hfields.time
    cases hoccurred.1.symm.trans hsame
    obtain ⟨_, hsame, hid⟩ := hfields.named
    cases hpayment.1.symm.trans hsame
    cases hevent.1.symm.trans hid
    exact ⟨_, (), hversion, _, hevent, _, hpayment, _, huser, _, hfrom, _, hto, _, hcurrency, _,
      hoccurred, _, htrace, _, hamount, _, htime, (), rfl, (), hutc, rfl⟩

end FraudWorker

section

variable [Py.TextLib] [Py.IsoLib]

/-- The version is the number 1. -/
def VersionOne (raw : List (Py.Str × Py.Json)) : Prop :=
  Py.Json.get raw "schema_version" = some (.int 1) ∨
    Py.Json.get raw "schema_version" = some (.float (.finite 1))

/-- The bytes decode to a JSON object that is a request of version 1. -/
def DecodesToRequest (payload : List UInt8) : Prop :=
  ∃ raw, Py.loadsBytes payload = .ok (.obj raw) ∧ VersionOne raw ∧ FraudWorker.RequestFields raw

/-- The payload is classified, and as VALID exactly if it decodes to a request. -/
def Classified (payload : List UInt8) : Prop :=
  ∃ result, FraudWorker.classifyTransportPayload Py.loadsBytes payload = .ok result ∧
    (result ≠ .nonRetryable ↔ DecodesToRequest payload)

omit [Py.TextLib] [Py.IsoLib] in
/-- Besides the number 1 only `true` equals 1. -/
theorem isOne_iff (value : Option Py.Json) : value.any Py.Json.isOne = true ↔
    (value = some (.int 1) ∨ value = some (.float (.finite 1))) ∨ value = some (.bool true) := by
  cases value with
  | none => simp
  | some value =>
    cases value with
    | null | str _ | arr _ | obj _ => simp [Py.Json.isOne]
    | bool b => simp [Py.Json.isOne]
    | int n => simp [Py.Json.isOne]
    | float x => cases x <;> simp [Py.Json.isOne]

/-- A payload is classified as described if and only if `json.loads` raises nothing but a
    `JSONDecodeError` on it, and it is no request with `true` for a version. -/
theorem payload_classified_iff (payload : List UInt8) :
    Classified payload ↔ Py.loadsBytes payload ≠ .error .other ∧
      ∀ raw, Py.loadsBytes payload = .ok (.obj raw) →
        Py.Json.get raw "schema_version" = some (.bool true) → ¬ FraudWorker.RequestFields raw := by
  unfold Classified FraudWorker.classifyTransportPayload DecodesToRequest
  cases hloads : Py.loadsBytes payload with
  | error e =>
    cases e with
    | jsonDecodeError => simp
    | other => simp
  | ok value =>
    cases value with
    | null | bool _ | int _ | float _ | str _ | arr _ => simp
    | obj raw =>
      have hread := @FraudWorker.readRequest_isSome_iff _ raw
      rw [isOne_iff] at hread
      have hvalid : (FraudWorker.readRequest raw).elim TransportResult.nonRetryable .valid ≠
          .nonRetryable ↔ (FraudWorker.readRequest raw).isSome := by
        cases FraudWorker.readRequest raw <;> simp
      simp only [Except.ok.injEq, exists_eq_left', hvalid, hread, ne_eq, reduceCtorEq,
        not_false_eq_true, true_and, Py.Json.obj.injEq, VersionOne, forall_eq']
      -- `true` and the number 1 exclude each other
      have hexclusive : Py.Json.get raw "schema_version" = some (.bool true) →
          ¬ (Py.Json.get raw "schema_version" = some (.int 1) ∨
            Py.Json.get raw "schema_version" = some (.float (.finite 1))) := by
        intro h
        simp [h]
      constructor
      · intro h htrue hfields
        exact hexclusive htrue (h.mp ⟨.inr htrue, hfields⟩).1
      · intro h
        constructor
        · rintro ⟨hone | htrue, hfields⟩
          · exact ⟨hone, hfields⟩
          · exact absurd hfields (h htrue)
        · exact fun h => ⟨.inl h.1, h.2⟩

end

namespace Sample

/-- A decoder that finds an array in every text. -/
@[reducible] def arrayLib : Py.TextLib where
  loads _ := .ok (.arr [])
  dumps _ := .ok []
  lower s := s

/-- A byte that is no UTF-8: the classification raises. -/
theorem notUtf8_raises :
    (@FraudWorker.classifyTransportPayload Py.extendedIso _ (@Py.loadsBytes arrayLib) [0xFF]) =
      .error .other := by
  have hdecode : Py.decodeBytes (Py.detectEncoding [0xFF]) [0xFF] = none := by decide +kernel
  simp only [FraudWorker.classifyTransportPayload, Py.loadsBytes, hdecode]

end Sample

end EnjoyThings
