import EnjoyThings.ForStd.TokenBucket
import EnjoyThings.Services.RateLimiter
import Mathlib.Tactic.Linarith

/-!
# The budget of the rate limiter

The buckets of the limiter have 64-bit counters. Unless a counter overflows they are the
buckets of `TokenBucket`. One that overflows becomes negative, so it never admits more than
it should, but it then admits nothing for a long time.

## Key results

- `RateLimiter.decisions_of_user`: a user's decisions are those of the user's own bucket
- `Bucket.take_spends`: no bucket is given too much
- `rate_limiter_budget`: windows, waiting and idling
-/

namespace EnjoyThings

open TokenBucket (Spends Spent)

/-! ## Durations -/

theorem Go.toInt_sub {now earlier : Nat} (hle : earlier ≤ now) (hspan : now - earlier < 2 ^ 63) :
    (Go.sub now earlier).toInt = ((now - earlier : Nat) : Int) := by
  have hmax : Int64.maxValue.toInt = 2 ^ 63 - 1 := by decide
  have hmin : Int64.minValue.toInt = - 2 ^ 63 := by decide
  unfold Go.sub
  rw [if_neg (by omega), if_neg (by omega), Int64.toInt_ofInt_of_le (by omega) (by omega)]
  omega

/-- A quotient of durations, and the time it stands for. -/
theorem Go.toInt_div (elapsed : Int64) {refillEvery : Int64} (hpos : 0 < refillEvery.toInt)
    (hnonneg : 0 ≤ elapsed.toInt) :
    (elapsed / refillEvery).toInt = elapsed.toInt / refillEvery.toInt ∧
      (elapsed / refillEvery * refillEvery).toInt =
        elapsed.toInt / refillEvery.toInt * refillEvery.toInt := by
  have hlt := elapsed.toInt_lt
  have hle : elapsed.toInt / refillEvery.toInt ≤ elapsed.toInt :=
    Int.ediv_le_self _ hnonneg
  have hge : 0 ≤ elapsed.toInt / refillEvery.toInt := Int.ediv_nonneg hnonneg (by omega)
  have hmul := Int.ediv_mul_le elapsed.toInt (by omega : refillEvery.toInt ≠ 0)
  have hmul0 : 0 ≤ elapsed.toInt / refillEvery.toInt * refillEvery.toInt :=
    Int.mul_nonneg hge (by omega)
  have hdiv : (elapsed / refillEvery).toInt = elapsed.toInt / refillEvery.toInt := by
    rw [Int64.toInt_div, Int.tdiv_eq_ediv_of_nonneg hnonneg,
      Int.bmod_eq_of_le (by omega) (by omega)]
  refine ⟨hdiv, ?_⟩
  rw [Int64.toInt_mul, hdiv, Int.bmod_eq_of_le (by omega) (by omega)]

/-! ## One request -/

namespace Bucket

variable {burst refillEvery : Int64} {b : Bucket} {now : Nat}

/-- The bucket, if a counter below zero is taken for empty. -/
def view (b : Bucket) : TokenBucket.Bucket :=
  ⟨b.tokens.toInt.toNat, b.last⟩

/-- What a refill does: the tokens of the intervals that are over. -/
theorem refill_eq (burst : Int64) (hr : 0 < refillEvery.toInt) (hlast : b.view.last ≤ now)
    (hspan : now - b.view.last < 2 ^ 63) :
    ∃ n, n = (now - b.view.last) / refillEvery.toInt.toNat ∧
      (b.refill burst refillEvery now).view.last = b.view.last + n * refillEvery.toInt.toNat ∧
      ((b.refill burst refillEvery now).tokens = b.tokens ∧ n = 0 ∨
        ∃ refill : Int64, refill.toInt = n ∧
          (b.refill burst refillEvery now).tokens = Go.min burst (b.tokens + refill)) := by
  obtain ⟨n, hdef⟩ : ∃ n, n = (now - b.view.last) / refillEvery.toInt.toNat := ⟨_, rfl⟩
  refine ⟨n, hdef, ?_⟩
  have helapsed : (Go.sub now b.last).toInt = ((now - b.view.last : Nat) : Int) :=
    Go.toInt_sub hlast hspan
  have hn : (n : Int) = (Go.sub now b.last).toInt / refillEvery.toInt := by
    rw [hdef, helapsed, Int.natCast_ediv, Int.toNat_of_nonneg hr.le]
  by_cases hle : refillEvery ≤ Go.sub now b.last
  · obtain ⟨hdiv, hmul⟩ := Go.toInt_div (Go.sub now b.last) hr (by omega)
    simp only [refill, if_pos hle]
    refine ⟨?_, .inr ⟨_, hdiv.trans hn.symm, rfl⟩⟩
    -- the time is added as an integer and taken back as a natural number
    show Go.add b.last (Go.sub now b.last / refillEvery * refillEvery) = _
    rw [Go.add, hmul, ← hn, ← Int.toNat_natCast (b.view.last + n * refillEvery.toInt.toNat)]
    congr 1
    push_cast
    rw [Int.toNat_of_nonneg hr.le]
    rfl
  · have hlt : now - b.view.last < refillEvery.toInt.toNat := by
      rw [Int64.le_iff_toInt_le] at hle
      omega
    have hzero : n = 0 := hdef.trans (Nat.div_eq_of_lt hlt)
    simp only [refill, if_neg hle, hzero]
    exact ⟨by simp, .inl ⟨trivial, trivial⟩⟩

theorem toInt_min (x y : Int64) :
    (Go.min x y).toInt ≤ x.toInt ∧ (Go.min x y).toInt ≤ y.toInt ∧
      ((Go.min x y).toInt = x.toInt ∨ (Go.min x y).toInt = y.toInt) := by
  unfold Go.min
  split <;> rename_i h <;> rw [Int64.lt_iff_toInt_lt] at h <;> omega

/-- A sum that overflows is negative. -/
theorem toInt_add_of_nonneg {x y : Int64} (hy : 0 ≤ y.toInt) :
    (x + y).toInt = x.toInt + y.toInt ∧ x.toInt + y.toInt < 2 ^ 63 ∨
      (x + y).toInt < 0 ∧ 2 ^ 63 ≤ x.toInt + y.toInt := by
  have hx := x.toInt_lt
  have hx' := x.le_toInt
  have hy' := y.toInt_lt
  rw [Int64.toInt_add]
  by_cases hsum : x.toInt + y.toInt < 2 ^ 63
  · exact .inl ⟨Int.bmod_eq_of_le (by omega) (by omega), hsum⟩
  · refine .inr ⟨?_, by omega⟩
    rw [Int.bmod_def]
    omega

/-- One token less, if there is one. -/
theorem toInt_sub_one {x : Int64} (h : 0 < x.toInt) : (x - 1).toInt = x.toInt - 1 := by
  have := x.toInt_lt
  rw [Int64.toInt_sub, Int64.toInt_one, Int.bmod_eq_of_le (by omega) (by omega)]

/-- What a request does with a bucket that has been refilled. -/
theorem take_some (burst refillEvery : Int64) (b : Bucket) (now : Time) :
    ((b.refill burst refillEvery now).tokens.toInt ≤ 0 ∧
      take burst refillEvery (some b) now = (false, b.refill burst refillEvery now)) ∨
    (0 < (b.refill burst refillEvery now).tokens.toInt ∧
      (take burst refillEvery (some b) now).1 = true ∧
      (take burst refillEvery (some b) now).2.view.last =
        (b.refill burst refillEvery now).view.last ∧
      (take burst refillEvery (some b) now).2.tokens.toInt =
        (b.refill burst refillEvery now).tokens.toInt - 1) := by
  have hiff : (b.refill burst refillEvery now).tokens ≤ 0 ↔
      (b.refill burst refillEvery now).tokens.toInt ≤ 0 := by
    rw [Int64.le_iff_toInt_le]
    rfl
  simp only [take, hiff]
  by_cases hempty : (b.refill burst refillEvery now).tokens.toInt ≤ 0
  · exact .inl ⟨hempty, if_pos hempty⟩
  · have hpos := Int.not_le.mp hempty
    rw [if_neg hempty]
    exact .inr ⟨hpos, rfl, rfl, toInt_sub_one hpos⟩

/-- A request takes no more from a bucket than it may, and leaves it within its capacity. -/
theorem take_spends (hburst : 1 ≤ burst.toInt) (hr : 0 < refillEvery.toInt) {b : Option Bucket}
    (hb : ∀ o, b = some o → o.tokens.toInt ≤ burst.toInt ∧ o.view.last ≤ now ∧
      now - o.view.last < 2 ^ 63) :
    Spends burst.toInt.toNat refillEvery.toInt.toNat (b.map view) now
      (take burst refillEvery b now).1 (take burst refillEvery b now).2.view ∧
    (take burst refillEvery b now).2.tokens.toInt ≤ burst.toInt := by
  cases b with
  | none =>
    have hone : (burst - 1).toInt = burst.toInt - 1 := toInt_sub_one (by omega)
    refine ⟨⟨fun o ho => (by cases ho), ?_, Nat.le_refl now, ?_⟩, ?_⟩ <;>
      simp only [take, view, hone, Bool.toNat_true] <;> omega
  | some o =>
    obtain ⟨hcap, hlast, hspan⟩ := hb o rfl
    obtain ⟨n, hn, hlast', htokens⟩ := refill_eq burst hr hlast hspan
    have hdiv : n * refillEvery.toInt.toNat ≤ now - o.view.last := hn ▸ Nat.div_mul_le_self _ _
    have hmod : now - o.view.last < n * refillEvery.toInt.toNat + refillEvery.toInt.toNat :=
      hn ▸ Nat.lt_div_mul_add (by omega)
    -- the counter after the refill is at most the burst, and at most what is due
    have hle : (o.refill burst refillEvery now).tokens.toInt ≤ burst.toInt ∧
        (o.refill burst refillEvery now).tokens.toInt.toNat ≤ o.tokens.toInt.toNat + n := by
      rcases htokens with ⟨heq, -⟩ | ⟨refill, hrefill, heq⟩
      · rw [heq]
        exact ⟨hcap, Nat.le_add_right _ _⟩
      · obtain ⟨hmin, hmin', -⟩ := toInt_min burst (o.tokens + refill)
        rw [heq]
        refine ⟨hmin, ?_⟩
        rcases toInt_add_of_nonneg (x := o.tokens) (y := refill) (by omega) with h | h <;> omega
    clear htokens
    have htaken : ∃ b', take burst refillEvery (some o) now = b' ∧
        b'.2.view.last = o.view.last + n * refillEvery.toInt.toNat ∧
        b'.2.tokens.toInt.toNat + b'.1.toNat ≤ o.tokens.toInt.toNat + n ∧
        b'.2.tokens.toInt.toNat + b'.1.toNat ≤ burst.toInt.toNat ∧
        b'.2.tokens.toInt ≤ burst.toInt := by
      refine ⟨_, rfl, ?_⟩
      rcases take_some burst refillEvery o now with ⟨hempty, heq⟩ | ⟨hpos, hallowed, hkept, heq⟩
      · rw [heq]
        simp only [Bool.toNat_false]
        omega
      · rw [hallowed, hkept, heq]
        simp only [Bool.toNat_true]
        omega
    obtain ⟨b', heq, hlast'', hdue, hmax, hfit⟩ := htaken
    rw [heq]
    refine ⟨⟨fun o' ho => ?_, hmax, ?_, ?_⟩, hfit⟩
    · cases ho
      exact ⟨n, hlast'', hdue⟩
    · omega
    · omega

/-- A request of a bucket whose counter does not overflow. -/
theorem take_exact (hburst : 1 ≤ burst.toInt) (hr : 0 < refillEvery.toInt) {b : Option Bucket}
    (hb : ∀ o, b = some o → 0 ≤ o.tokens.toInt ∧ o.tokens.toInt ≤ burst.toInt ∧
      o.view.last ≤ now ∧ now - o.view.last < 2 ^ 63 ∧
      burst.toInt + ((now - o.view.last) / refillEvery.toInt.toNat : Nat) < 2 ^ 63) :
    TokenBucket.request burst.toInt.toNat refillEvery.toInt.toNat (b.map view) now =
      ((take burst refillEvery b now).1, (take burst refillEvery b now).2.view) ∧
    0 ≤ (take burst refillEvery b now).2.tokens.toInt := by
  cases b with
  | none =>
    have hone : (burst - 1).toInt = burst.toInt - 1 := toInt_sub_one (by omega)
    refine ⟨Prod.ext rfl ?_, ?_⟩
    · simp only [Option.map_none, TokenBucket.request, take, view, hone,
        TokenBucket.Bucket.mk.injEq, and_true]
      omega
    · simp only [take, hone]
      omega
  | some o =>
    obtain ⟨hnonneg, hcap, hlast, hspan, hfits⟩ := hb o rfl
    obtain ⟨n, hn, hlast', htokens⟩ := refill_eq burst hr hlast hspan
    rw [← hn] at hfits
    have hrefill : (o.refill burst refillEvery now).tokens.toInt =
        min burst.toInt (o.tokens.toInt + n) := by
      rcases htokens with ⟨heq, hzero⟩ | ⟨refill, hrefill, heq⟩
      · rw [heq]
        omega
      · obtain ⟨hmin, hmin', hor⟩ := toInt_min burst (o.tokens + refill)
        rw [heq]
        rcases toInt_add_of_nonneg (x := o.tokens) (y := refill) (by omega) with h | h <;> omega
    clear htokens
    have hview : (o.refill burst refillEvery now).view =
        o.view.refilled burst.toInt.toNat refillEvery.toInt.toNat now := by
      refine TokenBucket.Bucket.ext ?_ ?_
      · show (o.refill burst refillEvery now).tokens.toInt.toNat =
          min burst.toInt.toNat (o.tokens.toInt.toNat + (now - o.view.last) / _)
        rw [hrefill, ← hn]
        omega
      · rw [hlast', hn]
        rfl
    simp only [Option.map_some, TokenBucket.request, ← hview]
    rcases take_some burst refillEvery o now with ⟨hempty, heq⟩ | ⟨hpos, hallowed, hkept, heq⟩
    · -- an exact counter that is not positive is zero
      have hzero : (o.refill burst refillEvery now).tokens.toInt = 0 := by omega
      rw [heq]
      refine ⟨Prod.ext ?_ (TokenBucket.Bucket.ext ?_ rfl), hzero.ge⟩
      · simp [view, hzero]
      · simp [view, hzero]
    · refine ⟨Prod.ext ?_ (TokenBucket.Bucket.ext ?_ hkept.symm), by omega⟩
      · rw [hallowed]
        exact decide_eq_true (Int.lt_toNat.mpr hpos)
      · simp only [view, heq]
        omega

/-! ## The requests of one user -/

/-- The requests of one user, from the user's bucket on. -/
def takes (burst refillEvery : Int64) : Option Bucket → List Time → List (Time × Bool)
  | _, [] => []
  | b, now :: times =>
    (now, (take burst refillEvery b now).1) ::
      takes burst refillEvery (take burst refillEvery b now).2 times

theorem map_fst_takes (b : Option Bucket) (times : List Time) :
    (takes burst refillEvery b times).map Prod.fst = times := by
  induction times generalizing b with
  | nil => rfl
  | cons now times ih => rw [takes, List.map_cons, ih]

/-- The bucket and the times are from `first` on, and durations in between do not saturate. -/
structure Since (first : Nat) (b : Option Bucket) (times : List Nat) : Prop where
  last : ∀ o, b = some o → first ≤ o.view.last ∧ ∀ t ∈ times, o.view.last ≤ t
  sorted : times.Pairwise (· ≤ ·)
  span : ∀ t ∈ times, first ≤ t ∧ t - first < 2 ^ 63

variable {first : Nat} {times : List Nat}

theorem Since.next {b : Option Bucket} (h : Since first b (now :: times)) {b' : Bucket}
    (hfirst : first ≤ b'.view.last) (hle : b'.view.last ≤ now) : Since first (some b') times where
  last o ho := by
    cases ho
    exact ⟨hfirst, fun t ht => Nat.le_trans hle ((List.pairwise_cons.mp h.sorted).1 t ht)⟩
  sorted := (List.pairwise_cons.mp h.sorted).2
  span t ht := h.span t (List.mem_cons_of_mem _ ht)

/-- The bucket a request leaves is from between the first request and this one. -/
theorem Since.take {b : Option Bucket} (h : Since first b (now :: times))
    {burst refillEvery : Int64} {cap : Nat} {allowed : Bool}
    (hspends : Spends cap refillEvery.toInt.toNat (b.map view) now allowed
      (Bucket.take burst refillEvery b now).2.view) :
    Since first (some (Bucket.take burst refillEvery b now).2) times := by
  refine h.next ?_ hspends.recent.1
  cases b with
  | none => exact (h.span now List.mem_cons_self).1
  | some o =>
    obtain ⟨n, hlast, -⟩ := hspends.refill o.view rfl
    have hfirst := (h.last o rfl).1
    exact hlast ▸ Nat.le_add_right_of_le hfirst

theorem Since.elapsed {b : Option Bucket} (h : Since first b (now :: times)) {o : Bucket}
    (ho : b = some o) :
    o.view.last ≤ now ∧ now - o.view.last < 2 ^ 63 := by
  obtain ⟨hfirst, hlast⟩ := h.last o ho
  have hspan := h.span now List.mem_cons_self
  have hle := hlast now List.mem_cons_self
  exact ⟨hle, by omega⟩

/-- No request is given more than what is due. -/
theorem takes_spent (hburst : 1 ≤ burst.toInt) (hr : 0 < refillEvery.toInt) {b : Option Bucket}
    (hb : ∀ o, b = some o → o.tokens.toInt ≤ burst.toInt) (h : Since first b times) :
    Spent burst.toInt.toNat refillEvery.toInt.toNat (b.map view)
      (takes burst refillEvery b times) := by
  induction times generalizing b with
  | nil => trivial
  | cons now times ih =>
    obtain ⟨hspends, hcap⟩ := take_spends hburst hr fun o ho => ⟨hb o ho, h.elapsed ho⟩
    refine ⟨_, hspends, ih (b := some _) (fun o ho => ?_) (h.take hspends)⟩
    cases ho
    exact hcap

/-- If no counter overflows, the requests are answered as by a bucket without bounds. -/
theorem takes_exact (hburst : 1 ≤ burst.toInt) (hr : 0 < refillEvery.toInt) {b : Option Bucket}
    (hb : ∀ o, b = some o → 0 ≤ o.tokens.toInt ∧ o.tokens.toInt ≤ burst.toInt)
    (h : Since first b times) (hfits : ∀ t ∈ times,
      burst.toInt + ((t - first) / refillEvery.toInt.toNat : Nat) < 2 ^ 63) :
    takes burst refillEvery b times =
      TokenBucket.requests burst.toInt.toNat refillEvery.toInt.toNat (b.map view) times := by
  induction times generalizing b with
  | nil => rfl
  | cons now times ih =>
    obtain ⟨hspends, hcap⟩ := take_spends hburst hr fun o ho => ⟨(hb o ho).2, h.elapsed ho⟩
    obtain ⟨hexact, hnonneg⟩ := take_exact hburst hr fun o (ho : b = some o) => by
      obtain ⟨hle, hspan⟩ := h.elapsed ho
      refine ⟨(hb o ho).1, (hb o ho).2, hle, hspan, ?_⟩
      -- the bucket is not older than the first request
      have hdiv : (now - o.view.last) / refillEvery.toInt.toNat ≤
          (now - first) / refillEvery.toInt.toNat :=
        Nat.div_le_div_right (Nat.sub_le_sub_left (h.last o ho).1 now)
      have := hfits now List.mem_cons_self
      omega
    rw [takes, TokenBucket.requests, hexact, ih (b := some _) (fun o ho => ?_) (h.take hspends)
      fun t ht => hfits t (List.mem_cons_of_mem _ ht)]
    · rfl
    · cases ho
      exact ⟨hnonneg, hcap⟩

end Bucket

/-! ## The requests of all users -/

namespace RateLimiter

variable {U : Type} [DecidableEq U]

/-- The decisions about a user are those of the user's own bucket. -/
theorem decisions_of_user (limiter : RateLimiter U) (requests : List (U × Time)) (userID : U) :
    (limiter.decisions requests).filter (·.userID = userID) =
      (Bucket.takes limiter.burst limiter.refillEvery (limiter.buckets userID)
        ((requests.filter (·.1 = userID)).map Prod.snd)).map fun e => ⟨userID, e.1, e.2⟩ := by
  induction requests generalizing limiter with
  | nil => rfl
  | cons request requests ih =>
    obtain ⟨sender, now⟩ := request
    rw [decisions]
    by_cases hsender : sender = userID
    · subst hsender
      rw [List.filter_cons_of_pos (by simp), List.filter_cons_of_pos (by simp), ih]
      simp [allow, Bucket.takes]
    · rw [List.filter_cons_of_neg (by simpa using hsender),
        List.filter_cons_of_neg (by simpa using hsender), ih]
      simp [allow, Function.update_of_ne (Ne.symm hsender)]

theorem decisions_userID {limiter : RateLimiter U} {requests : List (U × Time)}
    {d : Decision U} (h : d ∈ limiter.decisions requests) :
    ∃ request ∈ requests, d.userID = request.1 := by
  induction requests generalizing limiter with
  | nil => cases h
  | cons request requests ih =>
    rcases List.mem_cons.mp h with rfl | h
    · exact ⟨request, List.mem_cons_self, rfl⟩
    · obtain ⟨sent, hsent, hsender⟩ := ih h
      exact ⟨sent, List.mem_cons_of_mem _ hsent, hsender⟩

/-! What is asked of the decisions about requests in the order of time. -/

/-- A window of any length admits a bounded number of requests of a user. -/
def WithinBudget (burst refillEvery : Nat) (decisions : List (Decision U)) : Prop :=
  ∀ userID first length,
    (decisions.countP fun d => d.userID = userID ∧ d.allowed = true ∧ first ≤ d.time ∧
      d.time ≤ first + length) ≤ burst + length / refillEvery + 1

/-- Who is denied and sends nothing for an interval is allowed then. -/
def AllowedAfterDenial (refillEvery : Nat) (decisions : List (Decision U)) : Prop :=
  ∀ before d between d' after, decisions = before ++ d :: between ++ d' :: after →
    d'.userID = d.userID → (∀ e ∈ between, e.userID ≠ d.userID) → d.allowed = false →
    d.time + refillEvery ≤ d'.time → d'.allowed = true

/-- Who sends nothing for `burst` intervals is allowed as many requests. -/
def AllowedAfterIdling (burst refillEvery : Nat) (decisions : List (Decision U)) : Prop :=
  ∀ userID before after, decisions = before ++ after →
    (∀ d ∈ before, d.userID = userID → ∀ e ∈ after, e.userID = userID →
      d.time + burst * refillEvery ≤ e.time) →
    ∀ e ∈ (after.filter (·.userID = userID)).take burst, e.allowed = true

/-- The counter of a user holds the burst and all tokens that come back between two requests. -/
def CounterFits (burst refillEvery : Nat) (requests : List (U × Time)) : Prop :=
  ∀ p ∈ requests, ∀ q ∈ requests, p.1 = q.1 → burst + (q.2 - p.2) / refillEvery < 2 ^ 63

section Users

variable {requests : List (U × Time)} {userID : U} {burst refillEvery : Int64}

/-- The times at which a user sends something. -/
def timesOf (requests : List (U × Time)) (userID : U) : List Nat :=
  (requests.filter (·.1 = userID)).map Prod.snd

theorem mem_timesOf {t : Nat} : t ∈ timesOf requests userID ↔ (userID, t) ∈ requests := by
  simp only [timesOf, List.mem_map, List.mem_filter, decide_eq_true_eq]
  constructor
  · rintro ⟨⟨u, t'⟩, ⟨hmem, rfl⟩, rfl⟩
    exact hmem
  · exact fun hmem => ⟨_, ⟨hmem, rfl⟩, rfl⟩

/-- Everything about a user is from the first request on. -/
theorem since_timesOf (hsorted : (requests.map Prod.snd).Pairwise (· ≤ ·))
    (hspan : ∀ p ∈ requests, ∀ q ∈ requests, q.2 - p.2 < 2 ^ 63) (userID : U) :
    ∃ first, Bucket.Since first none (timesOf requests userID) ∧
      ∀ t ∈ timesOf requests userID, (userID, first) ∈ requests := by
  have hsorted' : (timesOf requests userID).Pairwise (· ≤ ·) :=
    hsorted.sublist (List.filter_sublist.map _)
  have hmem : ∀ t ∈ timesOf requests userID, (userID, t) ∈ requests := fun t => mem_timesOf.mp
  cases htimes : timesOf requests userID with
  | nil => exact ⟨0, ⟨fun o ho => (by cases ho), List.Pairwise.nil, by simp⟩, by simp⟩
  | cons first times =>
    rw [htimes] at hsorted' hmem
    have hfirst := hmem first List.mem_cons_self
    refine ⟨first, ⟨fun o ho => (by cases ho), hsorted', fun t ht => ⟨?_, ?_⟩⟩, fun _ _ => hfirst⟩
    · rcases List.mem_cons.mp ht with rfl | ht
      · exact Nat.le_refl _
      · exact (List.pairwise_cons.mp hsorted').1 t ht
    · exact hspan _ hfirst _ (hmem t ht)

/-- The decisions about a user, with the bucket of the user left out. -/
theorem map_decisions_of_user :
    (((newRateLimiter U burst refillEvery).decisions requests).filter (·.userID = userID)).map
        (fun d => (d.time, d.allowed)) =
      Bucket.takes burst refillEvery none (timesOf requests userID) := by
  rw [decisions_of_user, List.map_map]
  exact List.map_id _

theorem withinBudget (hburst : 1 ≤ burst.toInt) (hr : 0 < refillEvery.toInt)
    (hsorted : (requests.map Prod.snd).Pairwise (· ≤ ·))
    (hspan : ∀ p ∈ requests, ∀ q ∈ requests, q.2 - p.2 < 2 ^ 63) :
    WithinBudget burst.toInt.toNat refillEvery.toInt.toNat
      ((newRateLimiter U burst refillEvery).decisions requests) := by
  intro userID first length
  obtain ⟨start, hsince, -⟩ := since_timesOf hsorted hspan userID
  have hspent := Bucket.takes_spent hburst hr (b := none) (fun o ho => by cases ho) hsince
  have hwindow := hspent.window (by omega)
    (by rw [Bucket.map_fst_takes]; exact hsince.sorted) first length
  rw [← map_decisions_of_user, TokenBucket.admitted, List.countP_map, List.countP_filter] at hwindow
  refine Nat.le_trans (Nat.le_of_eq (List.countP_congr fun d _ => ?_)) hwindow
  simp only [Function.comp_apply, Bool.and_eq_true, decide_eq_true_eq]
  tauto

/-- Without an overflow, a user is served as by a bucket without bounds. -/
theorem takes_timesOf (hburst : 1 ≤ burst.toInt) (hr : 0 < refillEvery.toInt)
    (hsorted : (requests.map Prod.snd).Pairwise (· ≤ ·))
    (hspan : ∀ p ∈ requests, ∀ q ∈ requests, q.2 - p.2 < 2 ^ 63)
    (hfits : CounterFits burst.toInt.toNat refillEvery.toInt.toNat requests) (userID : U) :
    (((newRateLimiter U burst refillEvery).decisions requests).filter (·.userID = userID)).map
        (fun d => (d.time, d.allowed)) =
      TokenBucket.requests burst.toInt.toNat refillEvery.toInt.toNat none
        (timesOf requests userID) ∧
    TokenBucket.Before none (timesOf requests userID) := by
  obtain ⟨start, hsince, hfirst⟩ := since_timesOf hsorted hspan userID
  refine ⟨map_decisions_of_user.trans (Bucket.takes_exact hburst hr (b := none)
    (fun o ho => by cases ho) hsince fun t ht => ?_), fun o ho => (by cases ho), hsince.sorted⟩
  have hsum : burst.toInt.toNat + (t - start) / refillEvery.toInt.toNat < 2 ^ 63 :=
    hfits _ (hfirst t ht) _ (mem_timesOf.mp ht) rfl
  omega

end Users

/-- Any burst, any interval and any requests in the order of time, whose differences are
    durations. -/
theorem rate_limiter_budget (burst refillEvery : Int64) (hburst : 1 ≤ burst.toInt)
    (hr : 0 < refillEvery.toInt) (requests : List (U × Time))
    (hsorted : (requests.map Prod.snd).Pairwise (· ≤ ·))
    (hspan : ∀ p ∈ requests, ∀ q ∈ requests, q.2 - p.2 < 2 ^ 63) :
    WithinBudget burst.toInt.toNat refillEvery.toInt.toNat
      ((newRateLimiter U burst refillEvery).decisions requests) ∧
    (∀ userID,
      ((newRateLimiter U burst refillEvery).decisions requests).filter (·.userID = userID) =
        (newRateLimiter U burst refillEvery).decisions (requests.filter (·.1 = userID))) ∧
    (CounterFits burst.toInt.toNat refillEvery.toInt.toNat requests →
      AllowedAfterDenial refillEvery.toInt.toNat
        ((newRateLimiter U burst refillEvery).decisions requests) ∧
      AllowedAfterIdling burst.toInt.toNat refillEvery.toInt.toNat
        ((newRateLimiter U burst refillEvery).decisions requests)) := by
  refine ⟨withinBudget hburst hr hsorted hspan, fun userID => ?_, fun hfits => ⟨?_, ?_⟩⟩
  · -- a run of the user alone has decisions of the user only
    have halone : ((newRateLimiter U burst refillEvery).decisions
        (requests.filter (·.1 = userID))).filter (·.userID = userID) =
          (newRateLimiter U burst refillEvery).decisions (requests.filter (·.1 = userID)) := by
      rw [List.filter_eq_self]
      intro d hd
      obtain ⟨request, hmem, hsender⟩ := decisions_userID hd
      rw [hsender]
      exact (List.mem_filter.mp hmem).2
    rw [← halone, decisions_of_user, decisions_of_user, List.filter_filter]
    simp only [Bool.and_self]
  · intro before d between d' after hds huser hbetween hdenied hwait
    obtain ⟨hexact, hbefore⟩ := takes_timesOf hburst hr hsorted hspan hfits d.userID
    rw [hds] at hexact
    have hnone : between.filter (·.userID = d.userID) = [] := by
      rw [List.filter_eq_nil_iff]
      intro e he
      simpa using hbetween e he
    simp only [List.filter_append, List.filter_cons, huser, decide_true, ↓reduceIte, hnone,
      List.map_append, List.map_cons, hdenied, List.append_assoc, List.cons_append,
      List.nil_append] at hexact
    exact TokenBucket.requests_after_denied (by omega) (by omega) hbefore hexact.symm hwait
  · intro userID before after hds hidle
    obtain ⟨hexact, hbefore⟩ := takes_timesOf hburst hr hsorted hspan hfits userID
    rw [hds, List.filter_append, List.map_append] at hexact
    have hallowed := TokenBucket.requests_after_idle (by omega) hbefore hexact.symm
      (fun o ho => by cases ho) ?_
    · intro e he
      have hmem : (e.time, e.allowed) ∈
          ((after.filter (·.userID = userID)).map fun d => (d.time, d.allowed)).take
            burst.toInt.toNat := by
        rw [← List.map_take]
        exact List.mem_map_of_mem he
      exact hallowed _ hmem
    · intro p hp q hq
      obtain ⟨d, hd, rfl⟩ := List.mem_map.mp hp
      obtain ⟨e, he, rfl⟩ := List.mem_map.mp hq
      simp only [List.mem_filter, decide_eq_true_eq] at hd he
      exact hidle d hd.1 hd.2 e he.1 he.2

end RateLimiter

namespace Sample

/-- Two users: one uses up a burst of two, is denied, and is allowed again after an interval. -/
def limitedRequests : List (Bool × Time) :=
  [(true, 0), (true, 1), (false, 2), (true, 3), (true, 20), (true, 100), (true, 100)]

theorem limitedRequests_within_budget :
    ((newRateLimiter Bool 2 10).decisions limitedRequests).map (·.allowed) =
      [true, true, true, false, true, true, true] ∧
    RateLimiter.CounterFits 2 10 limitedRequests ∧
    RateLimiter.WithinBudget 2 10 ((newRateLimiter Bool 2 10).decisions limitedRequests) ∧
    (∀ userID, ((newRateLimiter Bool 2 10).decisions limitedRequests).filter
        (·.userID = userID) =
      (newRateLimiter Bool 2 10).decisions (limitedRequests.filter (·.1 = userID))) ∧
    (RateLimiter.CounterFits 2 10 limitedRequests →
      RateLimiter.AllowedAfterDenial 10
        ((newRateLimiter Bool 2 10).decisions limitedRequests) ∧
      RateLimiter.AllowedAfterIdling 2 10
        ((newRateLimiter Bool 2 10).decisions limitedRequests)) :=
  ⟨by decide +kernel, by unfold RateLimiter.CounterFits; decide +kernel,
    RateLimiter.rate_limiter_budget 2 10 (by decide) (by decide) limitedRequests
      (by decide +kernel) (by decide +kernel)⟩

/-- With the largest burst the counter overflows at the second request, which is denied, and so
    is the one that comes an interval later. -/
theorem largest_burst_denied :
    (newRateLimiter Unit Int64.maxValue 1).decisions [((), 0), ((), 2), ((), 3)] =
      [⟨(), 0, true⟩, ⟨(), 2, false⟩, ⟨(), 3, false⟩] ∧
    ¬ RateLimiter.AllowedAfterDenial 1
      ((newRateLimiter Unit Int64.maxValue 1).decisions [((), 0), ((), 2), ((), 3)]) := by
  have hdecisions : (newRateLimiter Unit Int64.maxValue 1).decisions
      [((), 0), ((), 2), ((), 3)] = [⟨(), 0, true⟩, ⟨(), 2, false⟩, ⟨(), 3, false⟩] := by
    decide +kernel
  refine ⟨hdecisions, fun hallowed => ?_⟩
  have := hallowed [⟨(), 0, true⟩] ⟨(), 2, false⟩ [] ⟨(), 3, false⟩ [] hdecisions rfl (by simp) rfl
    (by decide)
  cases this

end Sample

end EnjoyThings
