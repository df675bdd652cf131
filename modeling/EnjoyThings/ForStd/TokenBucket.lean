import Mathlib.Data.List.Basic

/-!
# Token buckets

A bucket holds up to `cap` tokens. Every request takes one, and is denied if there is none;
one token comes back every `r` units of time, which is made up for at the next request. A
bucket is opened full by the first request.

The bound on what a window of time admits only needs that a bucket is never given more than
it is due (`Spends`). That requests are admitted needs that it is given all of it, as
`Bucket.request` does.

## Key results

- `Spent.window`: what a window admits
- `requests_after_denied`, `requests_after_idle`: when requests are admitted
-/

namespace TokenBucket

/-- The tokens, and the time up to which they have been made up for. -/
@[ext] structure Bucket where
  tokens : Nat
  last : Nat

variable {cap r : Nat} {b b' : Bucket} {now : Nat} {log : List (Nat × Bool)}

/-! ## What a window admits -/

/-- A request that has left no more in the bucket than it may. -/
structure Spends (cap r : Nat) (b : Option Bucket) (now : Nat) (allowed : Bool) (b' : Bucket) :
    Prop where
  refill : ∀ o, b = some o → ∃ n, b'.last = o.last + n * r ∧
    b'.tokens + allowed.toNat ≤ o.tokens + n
  capped : b'.tokens + allowed.toNat ≤ cap
  recent : b'.last ≤ now ∧ now < b'.last + r

/-- Requests at some times, each with whether it was allowed. -/
def Spent (cap r : Nat) : Option Bucket → List (Nat × Bool) → Prop
  | _, [] => True
  | b, (now, allowed) :: log =>
    ∃ b', Spends cap r b now allowed b' ∧ Spent cap r (some b') log

/-- The allowed requests of a window. -/
def admitted (first last : Nat) (log : List (Nat × Bool)) : Nat :=
  log.countP fun e => e.2 = true ∧ first ≤ e.1 ∧ e.1 ≤ last

variable {first last : Nat} {allowed : Bool}

theorem admitted_cons (hnow : first ≤ now ∧ now ≤ last) :
    admitted first last ((now, allowed) :: log) = admitted first last log + allowed.toNat := by
  simp only [admitted, List.countP_cons]
  cases allowed <;> simp [hnow]

theorem admitted_cons_of_lt (hnow : now < first) :
    admitted first last ((now, allowed) :: log) = admitted first last log := by
  simp only [admitted, List.countP_cons]
  simp [Nat.not_le.mpr hnow]

/-- Nothing is in a window that is over. -/
theorem admitted_eq_zero (h : ∀ e ∈ log, last < e.1) :
    admitted first last log = 0 := by
  rw [admitted, List.countP_eq_zero]
  intro e he
  have := h e he
  simp only [decide_eq_true_eq]
  omega

/-- Up to a point in time a bucket admits what it holds and what comes back until then. -/
theorem Spent.admitted_le (hr : 0 < r) (h : Spent cap r (some b) log)
    (hsorted : (log.map Prod.fst).Pairwise (· ≤ ·)) (hfirst : ∀ e ∈ log, first ≤ e.1) (last : Nat) :
    admitted first last log ≤ b.tokens + (last - b.last) / r := by
  induction log generalizing b with
  | nil => simp [admitted]
  | cons e log ih =>
    obtain ⟨now, allowed⟩ := e
    obtain ⟨b', hspends, hspent⟩ := h
    simp only [List.map_cons, List.pairwise_cons] at hsorted
    by_cases hnow : now ≤ last
    · have hrest := ih hspent hsorted.2 fun e he => hfirst e (List.mem_cons_of_mem _ he)
      rw [admitted_cons ⟨hfirst _ List.mem_cons_self, hnow⟩]
      obtain ⟨n, hlast, htokens⟩ := hspends.refill b rfl
      -- the time until `last` is what has been made up for and what is left after it
      have hsplit : (last - b.last) / r = n + (last - b'.last) / r := by
        have hle := hspends.recent.1
        rw [show last - b.last = (last - b'.last) + n * r by omega, Nat.add_mul_div_right _ _ hr]
        omega
      omega
    · -- this request is past the end of the window, and so are those after it
      rw [admitted_eq_zero]
      · exact Nat.zero_le _
      · intro e he
        rcases List.mem_cons.mp he with rfl | he
        · omega
        · have := hsorted.1 e.1 (List.mem_map_of_mem he)
          omega

/-- A window of any length admits the capacity, what comes back in the meantime and one more,
    for the part of an interval before its first request. -/
theorem Spent.window (hr : 0 < r) {b : Option Bucket} (h : Spent cap r b log)
    (hsorted : (log.map Prod.fst).Pairwise (· ≤ ·)) (first length : Nat) :
    admitted first (first + length) log ≤ cap + length / r + 1 := by
  induction log generalizing b with
  | nil => simp [admitted]
  | cons e log ih =>
    obtain ⟨now, allowed⟩ := e
    obtain ⟨b', hspends, hspent⟩ := h
    simp only [List.map_cons, List.pairwise_cons] at hsorted
    have hlater : ∀ e ∈ log, now ≤ e.1 := fun e he => hsorted.1 e.1 (List.mem_map_of_mem he)
    by_cases hfirst : now < first
    · rw [admitted_cons_of_lt hfirst]
      exact ih hspent hsorted.2
    · by_cases hlast : now ≤ first + length
      · rw [admitted_cons ⟨by omega, hlast⟩]
        have hin : ∀ e ∈ log, first ≤ e.1 := by
          intro e he
          have := hlater e he
          omega
        have hrest := hspent.admitted_le hr hsorted.2 hin (first + length)
        have hcapped := hspends.capped
        have hinterval : (first + length - b'.last) / r ≤ length / r + 1 := by
          rw [← Nat.add_div_right length hr]
          have hrecent := hspends.recent.2
          exact Nat.div_le_div_right (by omega)
        omega
      · rw [admitted_eq_zero]
        · exact Nat.zero_le _
        · intro e he
          rcases List.mem_cons.mp he with rfl | he
          · omega
          · have := hlater e he
            omega

/-! ## When requests are admitted -/

/-- The bucket with everything that has come back until `now`. -/
def Bucket.refilled (cap r : Nat) (b : Bucket) (now : Nat) : Bucket where
  tokens := min cap (b.tokens + (now - b.last) / r)
  last := b.last + (now - b.last) / r * r

/-- A request, and the bucket it leaves. -/
def request (cap r : Nat) : Option Bucket → Nat → Bool × Bucket
  | none, now => (true, ⟨cap - 1, now⟩)
  | some b, now =>
    (decide (0 < (b.refilled cap r now).tokens),
      { b.refilled cap r now with tokens := (b.refilled cap r now).tokens - 1 })

def requests (cap r : Nat) : Option Bucket → List Nat → List (Nat × Bool)
  | _, [] => []
  | b, now :: times =>
    (now, (request cap r b now).1) :: requests cap r (request cap r b now).2 times

/-- The bucket is from before all of the times, which are in order. -/
structure Before (b : Option Bucket) (times : List Nat) : Prop where
  last : ∀ o, b = some o → ∀ t ∈ times, o.last ≤ t
  sorted : times.Pairwise (· ≤ ·)

theorem map_fst_requests (b : Option Bucket) (times : List Nat) :
    (requests cap r b times).map Prod.fst = times := by
  induction times generalizing b with
  | nil => rfl
  | cons now times ih => rw [requests, List.map_cons, ih]

theorem Bucket.refilled_last_le (h : b.last ≤ now) : (b.refilled cap r now).last ≤ now := by
  have := Nat.div_mul_le_self (now - b.last) r
  show b.last + (now - b.last) / r * r ≤ now
  omega

theorem Bucket.le_refilled_tokens {k : Nat} (hcap : k ≤ cap)
    (h : k ≤ b.tokens + (now - b.last) / r) : k ≤ (b.refilled cap r now).tokens :=
  Nat.le_min.mpr ⟨hcap, h⟩

theorem request_last_le {b : Option Bucket} (h : ∀ o, b = some o → o.last ≤ now) :
    (request cap r b now).2.last ≤ now := by
  cases b with
  | none => exact Nat.le_refl now
  | some o =>
    show (o.refilled cap r now).last ≤ now
    exact Bucket.refilled_last_le (h o rfl)

variable {times : List Nat}

theorem Before.request (cap r : Nat) {b : Option Bucket} (h : Before b (now :: times)) :
    (request cap r b now).2.last ≤ now ∧ Before (some (request cap r b now).2) times := by
  have hlast : (TokenBucket.request cap r b now).2.last ≤ now :=
    request_last_le fun o ho => h.last o ho now List.mem_cons_self
  refine ⟨hlast, fun o ho t ht => ?_, (List.pairwise_cons.mp h.sorted).2⟩
  cases ho
  exact Nat.le_trans hlast ((List.pairwise_cons.mp h.sorted).1 t ht)

/-- A bucket that has been waited for has a token. -/
theorem request_of_waited (hcap : 0 < cap) (hr : 0 < r) (h : b.last + r ≤ now) :
    (request cap r (some b) now).1 = true := by
  have hone : 1 ≤ (now - b.last) / r := (Nat.one_le_div_iff hr).mpr (by omega)
  exact decide_eq_true (Bucket.le_refilled_tokens hcap (by omega))

/-- Who has been denied and then waits for one interval is admitted. -/
theorem requests_after_denied (hcap : 0 < cap) (hr : 0 < r) {b : Option Bucket}
    (hb : Before b times) {before after : List (Nat × Bool)} {t t' : Nat}
    (h : requests cap r b times = before ++ (t, false) :: (t', allowed) :: after)
    (hwait : t + r ≤ t') : allowed = true := by
  induction before generalizing b times with
  | nil =>
    match times, h with
    | [], h => cases h
    | [_], h => simp [requests] at h
    | now :: next :: times, h =>
      simp only [requests, List.nil_append, List.cons.injEq, Prod.mk.injEq] at h
      obtain ⟨⟨rfl, -⟩, ⟨rfl, hallowed⟩, -⟩ := h
      rw [← hallowed]
      have hlast := (Before.request cap r hb).1
      exact request_of_waited hcap hr (by omega)
  | cons e before ih =>
    match times, h with
    | now :: times, h =>
      simp only [requests, List.cons_append, List.cons.injEq] at h
      exact ih (Before.request cap r hb).2 h.2

/-- A bucket admits as many requests as it has tokens. -/
theorem requests_of_tokens {k : Nat} (hcap : k ≤ cap) (h : k ≤ b.tokens) :
    ∀ e ∈ (requests cap r (some b) times).take k, e.2 = true := by
  induction times generalizing b k with
  | nil => simp [requests]
  | cons now times ih =>
    cases k with
    | zero => simp
    | succ k =>
      have htokens : k + 1 ≤ (b.refilled cap r now).tokens :=
        Bucket.le_refilled_tokens hcap (Nat.le_add_right_of_le h)
      simp only [requests, List.take_succ_cons, List.mem_cons]
      rintro e (rfl | he)
      · simp only [request, decide_eq_true_eq]
        omega
      · exact ih (by omega) (b := (request cap r (some b) now).2)
          (by simp only [request]; omega) e he

/-- A bucket that was left alone until it is full admits its capacity. -/
theorem requests_of_idle (hr : 0 < r) {b : Option Bucket}
    (hidle : ∀ o, b = some o → ∀ t ∈ times, o.last + cap * r ≤ t) :
    ∀ e ∈ (requests cap r b times).take cap, e.2 = true := by
  match times, cap, hidle with
  | [], _, _ => simp [requests]
  | _ :: _, 0, _ => simp
  | now :: times, cap + 1, hidle =>
    -- the first request leaves all tokens but one
    have hfirst : (request (cap + 1) r b now).1 = true ∧
        cap ≤ (request (cap + 1) r b now).2.tokens := by
      cases b with
      | none => exact ⟨rfl, Nat.le_refl cap⟩
      | some o =>
        have hlast := hidle o rfl now List.mem_cons_self
        have hfull : cap + 1 ≤ (now - o.last) / r := by
          rw [Nat.le_div_iff_mul_le hr]
          omega
        have htokens : cap + 1 ≤ (o.refilled (cap + 1) r now).tokens :=
          Bucket.le_refilled_tokens (Nat.le_refl _) (by omega)
        exact ⟨decide_eq_true (by omega), by simp only [request]; omega⟩
    simp only [requests, List.take_succ_cons, List.mem_cons]
    rintro e (rfl | he)
    · exact hfirst.1
    · exact requests_of_tokens (Nat.le_succ cap) hfirst.2 e he

/-- Who has sent nothing for as long as it takes to fill a bucket is admitted that often. -/
theorem requests_after_idle (hr : 0 < r) {b : Option Bucket} (hb : Before b times)
    {before after : List (Nat × Bool)} (h : requests cap r b times = before ++ after)
    (hstart : ∀ o, b = some o → ∀ e ∈ after, o.last + cap * r ≤ e.1)
    (hidle : ∀ d ∈ before, ∀ e ∈ after, d.1 + cap * r ≤ e.1) :
    ∀ e ∈ after.take cap, e.2 = true := by
  induction before generalizing b times with
  | nil =>
    rw [List.nil_append] at h
    subst h
    refine requests_of_idle hr fun o ho t ht => ?_
    rw [← map_fst_requests b times] at ht
    obtain ⟨e, he, rfl⟩ := List.mem_map.mp ht
    exact hstart o ho e he
  | cons d before ih =>
    match times, h with
    | now :: times, h =>
      simp only [requests, List.cons_append, List.cons.injEq] at h
      obtain ⟨rfl, hrest⟩ := h
      refine ih (Before.request cap r hb).2 hrest (fun o ho e he => ?_)
        fun d hd => hidle d (List.mem_cons_of_mem _ hd)
      cases ho
      have hlast := (Before.request cap r hb).1
      have := hidle _ List.mem_cons_self e he
      omega

end TokenBucket
