import Mathlib.Algebra.Order.Ring.Rat
import EnjoyThings.Services.FraudEvents

/-!
# What the worker lets into a prompt and out of a response

`guards.py` and `validator.py`. `json.loads`, `json.dumps` and `str.lower` are
library functions and parameters here (`Py.TextLib`); everything else, with the
scan for UUIDs and the limits of a score as the doubles they are, is spelled out.
-/

namespace EnjoyThings

open Except (refuseIf)

namespace Py

/-- Library functions on texts. `dumps` is `json.dumps(value, sort_keys=True)`. -/
class TextLib where
  loads : Str → Except Exn Json
  dumps : Json → Except Exn Str
  lower : Str → Str

/-- `key in text`. -/
def contains (key text : Str) : Bool :=
  text.tails.any key.isPrefixOf

/-- `[0-9a-fA-F]`. -/
def isHexDigit (c : CodePoint) : Bool :=
  (48 ≤ c.val && c.val ≤ 57) || (65 ≤ c.val && c.val ≤ 70) || (97 ≤ c.val && c.val ≤ 102)

/-- A number of hexadecimal digits for each group, with hyphens between the groups, and then no
    further digit. -/
def matchGroups : List Nat → Str → Bool
  | [], s => !(s.head?.any isHexDigit)
  | n :: groups, s =>
    (s.take n).length = n && (s.take n).all isHexDigit &&
      (if groups = [] then matchGroups groups (s.drop n)
       else (s.drop n).head? = some (ofChar '-') && matchGroups groups (s.drop (n + 1)))

/-- `UUID_PATTERN.search`, given whether a hexadecimal digit comes before the text. -/
def searchUuidAfter (digit : Bool) : Str → Bool
  | [] => false
  | c :: s => (!digit && matchGroups [8, 4, 4, 4, 12] (c :: s)) || searchUuidAfter (isHexDigit c) s

def searchUuid (s : Str) : Bool :=
  searchUuidAfter false s

example : searchUuid (ofString "id 7d444840-9dc0-11d1-b245-5ffdce74fad2.") = true := by
  decide +kernel

/-- The least number whose conversion to a `float` overflows. -/
def floatOverflow : Nat := 2 ^ 1024 - 2 ^ 970

end Py

/-- The settings of `FraudConfig` that scoring uses. -/
structure FraudConfig where
  scoreThreshold : Rat := 3 / 4
  blockThreshold : Rat := 8106479329266893 / 9007199254740992
  promptMaxChars : Int := 8000
  responseMaxChars : Int := 4000
  historyLimit : Int := 20
  sensitiveKeys : List Py.Str :=
    ["user_id", "from_wallet_id", "to_wallet_id", "wallet_id"].map Py.ofString

/-- One of the keys occurs in the text, whatever the case. -/
def containsKey [Py.TextLib] (sensitiveKeys : List Py.Str) (text : Py.Str) : Bool :=
  sensitiveKeys.any fun key => Py.contains (Py.TextLib.lower key) (Py.TextLib.lower text)

/-- `guard_prompt`. -/
def guardPrompt [Py.TextLib] (config : FraudConfig) (prompt : Py.Str) : Option String :=
  if Py.strip prompt = [] then some "prompt_empty"
  else if Py.searchUuid prompt then some "uuid_detected"
  else if containsKey config.sensitiveKeys prompt then some "sensitive_key_detected"
  else if config.promptMaxChars < prompt.length then some "prompt_too_large"
  else none

/-! ## The validator -/

structure ValidationResult where
  verdict : Option FraudVerdict
  rejectionReason : Option String := none
  correctivePrompt : String := ""

namespace Validator

/-- How the validation of a response ends early: with an exception, or with a reason. -/
inductive Refusal
  | raised (e : Py.Exn)
  | rejected (reason : String)
  deriving DecidableEq

/-- The action a response names. -/
def action? : Py.Json → Option FraudAction
  | .str s => [FraudAction.allow, .flag, .block].find? fun action => Py.ofString action.text = s
  | _ => none

/-- A score from -0.01 to 1.01, which are these doubles. -/
def withinLimits (score : Rat) : Bool :=
  -5764607523034235 / 576460752303423488 ≤ score && score ≤ 4548635623644201 / 4503599627370496

/-- `_score`. An integer that is too large for a `float` raises. -/
def score (value : Py.Json) : Except Refusal Rat :=
  match value with
  | .int n =>
    if Py.floatOverflow ≤ n.natAbs then .error (.raised .other)
    else if withinLimits n then .ok (min 1 (max 0 n)) else .error (.rejected "invalid_score")
  | .float (.finite q) =>
    if withinLimits q then .ok (min 1 (max 0 q)) else .error (.rejected "invalid_score")
  | _ => .error (.rejected "invalid_score")

/-- `_contains_sensitive`. -/
def containsSensitive [Py.TextLib] (sensitiveKeys : List Py.Str) (value : Py.Json) :
    Except Refusal Bool := do
  let serialized ← (Py.TextLib.dumps value).mapError .raised
  .ok (Py.searchUuid serialized || containsKey sensitiveKeys serialized)

/-- `json.loads`, with the exception that is caught. -/
def parse [Py.TextLib] (response : Py.Str) : Except Refusal Py.Json :=
  (Py.TextLib.loads response).mapError fun
    | .jsonDecodeError => .rejected "invalid_json"
    | e => .raised e

/-- The three fields every response has. -/
def requiredFields : Py.Json → Except Refusal (Py.Json × Py.Json × Py.Json)
  | .obj fields => Except.ofOption (.rejected "invalid_schema") do
    let riskScore ← Py.Json.get fields "risk_score"
    let action ← Py.Json.get fields "action"
    let reason ← Py.Json.get fields "reason"
    some (riskScore, action, reason)
  | _ => .error (.rejected "invalid_schema")

/-- A reason that says something in at most 300 letters. -/
def reason? : Py.Json → Option Py.Str
  | .str s => if Py.strip s = [] ∨ 300 < s.length then none else some s
  | _ => none

/-- The action that goes with a score. -/
def canonicalAction (config : FraudConfig) (score : Rat) : FraudAction :=
  if config.blockThreshold ≤ score then .block
  else if config.scoreThreshold ≤ score then .flag
  else .allow

/-- The checks of `validate_verdict`, in their order. -/
def readVerdict [Py.TextLib] (config : FraudConfig) (response : Py.Str) :
    Except Refusal FraudVerdict := do
  refuseIf (config.responseMaxChars < response.length) (.rejected "response_too_large")
  let parsed ← parse response
  let (riskScore, action, reason) ← requiredFields parsed
  let action ← Except.ofOption (.rejected "invalid_action") (action? action)
  let score ← score riskScore
  let reason ← Except.ofOption (.rejected "invalid_schema") (reason? reason)
  let sensitive ← containsSensitive config.sensitiveKeys parsed
  refuseIf (sensitive = true) (.rejected "sensitive_output")
  let canonical := canonicalAction config score
  .ok { riskScore := score, action := canonical, reason := Py.strip reason, modelAction := action
        actionNormalized := action ≠ canonical }

/-- `_rejected`. -/
def rejected (reason : String) : ValidationResult :=
  { verdict := none
    rejectionReason := some reason
    correctivePrompt :=
      "Return only a JSON object with risk_score, action, and a concise reason. " ++
        "Correct the previous validation failure: " ++ reason ++ "." }

end Validator

/-- `validate_verdict`. -/
def validateVerdict [Py.TextLib] (config : FraudConfig) (response : Py.Str) :
    Except Py.Exn ValidationResult :=
  match Validator.readVerdict config response with
  | .ok verdict => .ok { verdict := some verdict }
  | .error (.rejected reason) => .ok (Validator.rejected reason)
  | .error (.raised e) => .error e

end EnjoyThings
