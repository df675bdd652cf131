import EnjoyThings.Services.GoStd
import Mathlib.Logic.Function.Basic

/-!
# The rate limiter of the gateway

`internal/gateway/middleware/ratelimit.go`: a token bucket for each user, kept in memory. `int`
and `time.Duration` have 64 bits. A request holds the mutex from the look at the clock on, so
the requests of a run come one after the other. What `Middleware` does with a decision, and
with a request that has no principal, is left out.
-/

namespace EnjoyThings

namespace Go

/-- `now.Sub(earlier)`, a `time.Duration`, which saturates. -/
def sub (now earlier : Time) : Int64 :=
  if (Int64.maxValue.toInt < (now : Int) - earlier) then Int64.maxValue
  else if ((now : Int) - earlier < Int64.minValue.toInt) then Int64.minValue
  else .ofInt ((now : Int) - earlier)

/-- `t.Add(d)`. -/
def add (t : Time) (d : Int64) : Time :=
  ((t : Int) + d.toInt).toNat

/-- The built-in `min`. -/
def min (x y : Int64) : Int64 :=
  if x < y then x else y

end Go

structure Bucket where
  tokens : Int64
  last : Time

/-- `RateLimiter`, with the buckets of the users that have sent something. -/
structure RateLimiter (U : Type) where
  burst : Int64
  refillEvery : Int64
  buckets : U → Option Bucket

/-- Whether a request was allowed. -/
structure Decision (U : Type) where
  userID : U
  time : Time
  allowed : Bool
  deriving DecidableEq

/-- `NewRateLimiter`. -/
def newRateLimiter (U : Type) (burst refillEvery : Int64) : RateLimiter U :=
  { burst := burst, refillEvery := refillEvery, buckets := fun _ => none }

/-- The tokens that have come back since the last time. An interval of zero, by which Go would
    divide, is refused by the configuration. -/
def Bucket.refill (burst refillEvery : Int64) (b : Bucket) (now : Time) : Bucket :=
  let elapsed := Go.sub now b.last
  if refillEvery ≤ elapsed then
    let refill := elapsed / refillEvery
    { tokens := Go.min burst (b.tokens + refill), last := Go.add b.last (refill * refillEvery) }
  else b

/-- What `allow` does with the bucket of the user, if there is one. -/
def Bucket.take (burst refillEvery : Int64) : Option Bucket → Time → Bool × Bucket
  | none, now => (true, { tokens := burst - 1, last := now })
  | some b, now =>
    let b := b.refill burst refillEvery now
    if b.tokens ≤ 0 then (false, b) else (true, { b with tokens := b.tokens - 1 })

namespace RateLimiter

variable {U : Type} [DecidableEq U]

/-- `RateLimiter.allow`. -/
def allow (limiter : RateLimiter U) (userID : U) (now : Time) : Bool × RateLimiter U :=
  let (allowed, b) := Bucket.take limiter.burst limiter.refillEvery (limiter.buckets userID) now
  (allowed, { limiter with buckets := Function.update limiter.buckets userID (some b) })

/-- The decisions about requests that come one after the other. -/
def decisions (limiter : RateLimiter U) : List (U × Time) → List (Decision U)
  | [] => []
  | (userID, now) :: requests =>
    ⟨userID, now, (limiter.allow userID now).1⟩ ::
      (limiter.allow userID now).2.decisions requests

end RateLimiter

end EnjoyThings
