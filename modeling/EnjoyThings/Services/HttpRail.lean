import EnjoyThings.Services.PaymentProcessor

/-!
# The rail

`HTTPRail.Charge` of `http_rail.go`, and the processor together with a history of what
it has accepted and charged. How a charge is answered is a parameter there: the answers
of the rail may be those of `HTTPRail` or any others.
-/

namespace EnjoyThings

open Effect

/-! ## The HTTP rail -/

/-- What the client sees of a response. `statusText` is `http.StatusText` of the code,
    `success` is the body as `Charge` decodes it, which may fail, and `failure` is what
    `decodeRailFailure` reads from it. -/
structure RailResponse where
  statusCode : Nat
  statusText : String := ""
  success : Option RailResult := none
  failure : RailFailure := { code := "", message := "", retryable := false }

/-- What becomes of a charge: no request can be made, `client.Do` returns an error, or there is
    a response. -/
inductive HttpAnswer
  | unsent (message : String)
  | unanswered (message : String)
  | response (r : RailResponse)

namespace HttpAnswer

/-- The rail answered the charge with a 2xx status. -/
def Accepted : HttpAnswer → Prop
  | .response r => 200 ≤ r.statusCode ∧ r.statusCode < 300
  | .unsent _ | .unanswered _ => False

instance : DecidablePred Accepted
  | .response r => inferInstanceAs (Decidable (200 ≤ r.statusCode ∧ r.statusCode < 300))
  | .unsent _ | .unanswered _ => .isFalse id

end HttpAnswer

namespace HTTPRail

def terminalRailError (code message : String) : RailErr :=
  .railError { code := code, message := message, retryable := false }

def retryableRailError (code message : String) : RailErr :=
  .railError { code := code, message := message, retryable := true }

/-- The body of a 2xx response. -/
def readSuccess : Option RailResult → Except RailErr RailResult
  | none => .error (terminalRailError "invalid_rail_response" "invalid rail success response")
  | some result =>
    if result.processorPaymentID = "" then
      .error (terminalRailError "invalid_rail_response" "processor_payment_id is required")
    else .ok result

/-- The failure of a response with another status. -/
def readFailure (r : RailResponse) : RailFailure :=
  { code := if r.failure.code = "" then "rail_http_" ++ toString r.statusCode else r.failure.code
    message := if r.failure.message = "" then r.statusText else r.failure.message
    retryable := 500 ≤ r.statusCode }

/-- `Charge`. -/
def charge : HttpAnswer → Except RailErr RailResult
  | .unsent message => .error (.other message)
  | .unanswered message => .error (retryableRailError "rail_unavailable" message)
  | .response r =>
    if 200 ≤ r.statusCode ∧ r.statusCode < 300 then readSuccess r.success
    else .error (.railError (readFailure r))

end HTTPRail

/-! ## The processor and its rail -/

/-- A charge: its request, the row of the payment when it is made, and the answer. -/
structure Charge (A : Type) where
  request : RailChargeRequest
  row : Option Attempt
  answer : A

/-- The tables of the processor. The commands it has accepted and the charges it has made are
    history variables. -/
structure RailWorld (A : Type) where
  tables : ProcessorWorld := {}
  accepted : List PaymentExecute := []
  charges : List (Charge A) := []

/-- What the surroundings decide about one call, with the answer to a charge. -/
structure RailChoice (A : Type) where
  fault : Fault := .none
  clock : Time
  id : String
  dbNow : Time
  answer : A

namespace RailWorld

/-- A command is accepted when its payment has a row after the insert. -/
def accepting (after : ProcessorWorld) : ProcessorOp → List PaymentExecute
  | .insertPending command _ => if (after.attempt? command.paymentID).isSome then [command] else []
  | _ => []

def charging {A : Type} (before : ProcessorWorld) (answer : A) : ProcessorOp → List (Charge A)
  | .charge request =>
    [{ request := request, row := before.attempt? request.paymentID, answer := answer }]
  | _ => []

end RailWorld

section Machine

variable {A : Type} (read : A → Except RailErr RailResult)

/-- The choice as the processor sees it. -/
def RailChoice.seen (c : RailChoice A) : ProcessorChoice :=
  { fault := c.fault, clock := c.clock, id := c.id, dbNow := c.dbNow, rail := read c.answer }

/-- What answers the calls of a processor whose rail is read with `read`. -/
def railMachine :
    Machine ProcessorOp ProcessorOp.Ret ProcessorErr (RailWorld A) Unit (RailChoice A) where
  exec c o w :=
    let r := o.exec (c.seen read) w.tables
    (r.1, { tables := r.2
            accepted := w.accepted ++ RailWorld.accepting r.2 o
            charges := w.charges ++ RailWorld.charging w.tables c.answer o })
  see _ _ _ := ()

/-- The processor after calls that run one at a time, each up to where its choices end. -/
def chargeInTurn (backoffs : List Nat)
    (calls : List (PaymentExecute × List (RailChoice A))) : RailWorld A :=
  serial (railMachine read) (Processor.handleExecute backoffs) calls {}

end Machine

end EnjoyThings
