import EnjoyThings.Services.Grpc

/-!
# From the HTTP request to the orchestrator

`startPayment` of `internal/gateway/handler/payment.go`, the handler of
POST /v1/transfers, and the checks of `Server.StartPaymentSaga` in
`internal/sagagrpc`. The gateway's saga client and the server copy the request
field by field, so `StartRequest` stands for the message between them. What the
libraries make of the body (media type and JSON document) is part of the request
here, and the response is left out.
-/

namespace EnjoyThings

open Except (refuseIf ofOption bind_eq_ok refuseIf_eq_ok ofOption_eq_ok)

/-- The document of POST /v1/transfers. -/
structure TransferBody where
  paymentID : String
  fromWallet : String
  toWallet : String
  amountCents : Int64
  currency : String

/-- The body of a request: the result of `mime.ParseMediaType` for its content type and of
    the JSON decoder, `none` where they fail. -/
inductive HttpBody
  | noBody
  | sent (mediaType : Option String) (document : Option TransferBody)

/-- What `startPayment` reads of a request. The headers are empty if they are missing. -/
structure HttpRequest where
  body : HttpBody
  idempotencyKey : String
  traceID : String

/-- An error response, as `writeError` writes it. -/
structure HttpError where
  status : Nat
  code : String
  message : String
  deriving DecidableEq

namespace Gateway

variable {U : Type} [UuidLib U]

def invalidRequest (message : String) : HttpError :=
  { status := 400, code := "invalid_request", message := message }

/-- `rejectNonJSONContentType`: a request without a body passes. -/
def rejectNonJSONContentType : HttpBody → Except HttpError Unit
  | .noBody => .ok ()
  | .sent mediaType _ =>
    refuseIf (mediaType ≠ some "application/json")
      (invalidRequest "content type must be application/json")

/-- The JSON decoder; without a body it runs into the end of the input. -/
def decodeBody : HttpBody → Except HttpError TransferBody
  | .noBody => .error (invalidRequest "request body is invalid")
  | .sent _ document => ofOption (invalidRequest "request body is invalid") document

/-- One of the `uuid.Parse` checks. Its result is not used. -/
def checkUUID (U : Type) [UuidLib U] (raw field : String) : Except HttpError Unit :=
  refuseIf (parse (U := U) raw = none) (invalidRequest (field ++ " is invalid"))

/-- `requestTraceID`. -/
def requestTraceID (r : HttpRequest) (newTraceID : U) : String :=
  if Go.trimSpace r.traceID = "" then text newTraceID else Go.trimSpace r.traceID

/-- `startPayment` up to the call of the saga service, for the user of the access token.
    The new IDs are those `uuid.NewString` draws if the request has none. -/
def startPayment (userID newPaymentID newTraceID : U) (r : HttpRequest) :
    Except HttpError StartRequest := do
  rejectNonJSONContentType r.body
  let body ← decodeBody r.body
  let paymentID := if body.paymentID = "" then text newPaymentID else body.paymentID
  checkUUID U paymentID "payment_id"
  checkUUID U body.fromWallet "from_wallet_id"
  checkUUID U body.toWallet "to_wallet_id"
  -- the wallet IDs are compared as texts
  refuseIf (body.amountCents ≤ 0 ∨ body.currency = "" ∨ body.fromWallet = body.toWallet)
    (invalidRequest "payment fields are invalid")
  let idempotencyKey := Go.trimSpace r.idempotencyKey
  .ok { paymentID := paymentID
        idempotencyKey := if idempotencyKey = "" then paymentID else idempotencyKey
        traceID := requestTraceID r newTraceID
        userID := text userID
        fromWalletID := body.fromWallet
        toWalletID := body.toWallet
        amountCents := body.amountCents
        currency := Go.toUpper body.currency }

end Gateway

namespace SagaGrpc

/-- `Server.StartPaymentSaga` up to the call of the orchestrator. -/
def startPaymentSaga (req : StartRequest) : Except Status StartRequest := do
  refuseIf (req.paymentID = "" ∨ req.idempotencyKey = "" ∨ req.userID = "" ∨
      req.fromWalletID = "" ∨ req.toWalletID = "" ∨ req.currency = "")
    ⟨.invalidArgument,
      "payment_id, idempotency_key, user_id, wallet IDs, and currency are required"⟩
  refuseIf (req.amountCents ≤ 0) ⟨.invalidArgument, "amount_cents must be positive"⟩
  .ok req

end SagaGrpc

/-- One POST /v1/transfers of an authenticated user. -/
structure Submission (U : Type) where
  userID : U
  newPaymentID : U
  newTraceID : U
  request : HttpRequest

namespace Submission

variable {U : Type} [UuidLib U]

/-- What the submission makes the orchestrator start, if it gets that far. -/
def startRequest? (s : Submission U) : Option StartRequest := do
  let req ← (Gateway.startPayment s.userID s.newPaymentID s.newTraceID s.request).toOption
  (SagaGrpc.startPaymentSaga req).toOption

/-- What is sure of a request that gets to the orchestrator: its user is the one of the access
    token, its amount is positive and it has a currency. -/
theorem startRequest?_some {s : Submission U} {req : StartRequest}
    (h : s.startRequest? = some req) :
    req.userID = text s.userID ∧ 0 < req.amountCents ∧ req.currency ≠ "" := by
  simp only [startRequest?, Option.bind_eq_bind, Option.bind_eq_some_iff,
    Except.toOption_eq_some] at h
  obtain ⟨req', hstart, hserver⟩ := h
  simp only [SagaGrpc.startPaymentSaga, bind_eq_ok, refuseIf_eq_ok] at hserver
  obtain ⟨-, hfields, -, hpos, hreq⟩ := hserver
  obtain rfl := Except.ok.inj hreq
  have hcurrency : req'.currency ≠ "" := fun he => hfields (by simp [he])
  simp only [Gateway.startPayment, bind_eq_ok, refuseIf_eq_ok] at hstart
  obtain ⟨-, -, body, -, -, -, -, -, -, -, -, -, hreq⟩ := hstart
  cases hreq
  exact ⟨rfl, Int64.not_le.mp hpos, hcurrency⟩

end Submission

end EnjoyThings
