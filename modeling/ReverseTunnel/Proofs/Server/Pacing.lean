import Mathlib.Algebra.Order.Field.Rat
import Mathlib.Tactic.FieldSimp
import Mathlib.Tactic.Linarith
import Mathlib.Tactic.Positivity
import Mathlib.Tactic.Ring
import ReverseTunnel.Server.RateLimiter

/-!
# How fast a token can go on

The rule of the rate limiter, read on exact fractions: what it admits, and what it must admit, over
any sequence of queries. The clock may stand still or go back between two queries, and queries of
other tokens may stand anywhere between those of one.

What carries both halves is what a bucket holds. It never holds less than nothing or more than the
limit, and a query adds what the clock moved forward and takes out what it admits. So what a
stretch of queries admits was in the bucket at its start or came in on the way. In the other
direction, a bucket that refuses has not reached its brim, so that nothing that came in was lost.

## Main results

* `Bucket.refill_eq`: what a refill adds.
* `ask_eq`: what a query is told, and what it leaves in the bucket.
* `granted_le`: what a bucket lets out over any queries.
* `accrued`: what has come in since a query, while all others were refused.
* `creations_are_paced`: the bound, the promise, and that other tokens change neither.
-/

namespace ReverseTunnel

/-! ### One bucket -/

namespace Bucket

open Quantity hiding min

/-- The seconds by which the clock moved forward between two times in nanoseconds. -/
def forward (start stop : Int) : ℚ := (max (stop - start) 0 : Int) / 1000000000

/-- A clock never moves forward by less than nothing, even if it goes back. -/
theorem forward_nonneg (start stop : Int) : 0 ≤ forward start stop := by
  have h : (0 : ℚ) ≤ (max (stop - start) 0 : Int) := by exact_mod_cast le_max_right _ _
  unfold forward
  positivity

/-- A clock that stands still does not move forward. -/
@[simp] theorem forward_self (time : Int) : forward time time = 0 := by simp [forward]

/-- While the clock goes on, the spans that it moves forward add up. -/
theorem forward_add {start time stop : Int} (hstart : start ≤ time) (hstop : time ≤ stop) :
    forward start stop = forward start time + forward time stop := by
  simp only [forward, max_eq_left (Int.sub_nonneg.mpr hstart),
    max_eq_left (Int.sub_nonneg.mpr hstop), max_eq_left (Int.sub_nonneg.mpr (hstart.trans hstop))]
  push_cast
  ring

/-- A span in nanoseconds is taken apart into seconds and the rest without a loss. -/
theorem seconds_eq (span : Nat) : (seconds span : ℚ) = span / 1000000000 := by
  have hparts : (span : ℚ) =
      1000000000 * (span / 1000000000 : Nat) + (span % 1000000000 : Nat) := by
    exact_mod_cast (Nat.div_add_mod span 1000000000).symm
  change (((span / 1000000000 : Nat) : Int) : ℚ) +
    (((span % 1000000000 : Nat) : Int) : ℚ) / ((1000000000 : Int) : ℚ) = span / 1000000000
  rw [Int.cast_natCast, Int.cast_natCast, hparts]
  push_cast
  ring

/-- A refill adds what the clock moved forward, up to the brim. -/
theorem refill_eq {b : Bucket ℚ} {limit now : Int} (h : b.left ≤ limit) :
    b.refill (ofInt limit) now =
      ⟨min (b.left + limit / 60 * forward b.time now) limit, now⟩ := by
  rw [refill]
  by_cases hnow : now > b.time
  · have hspan : ((now - b.time).toNat : ℚ) = (max (now - b.time) 0 : Int) := by
      rw [← Int.ofNat_toNat, Int.cast_natCast]
    have hgained : mul (seconds (now - b.time).toNat) (div (ofInt limit) (ofInt 60)) =
        (limit : ℚ) / 60 * forward b.time now := by
      change (seconds (now - b.time).toNat : ℚ) * ((limit : ℚ) / ((60 : Int) : ℚ)) = _
      rw [seconds_eq, hspan, forward]
      push_cast
      ring
    rw [if_pos hnow, hgained, min_def]
    rfl
  · have hspan : forward b.time now = 0 := by
      rw [forward, max_eq_right (by omega)]
      simp
    rw [if_neg hnow, hspan, mul_zero, add_zero, min_eq_left h]

/-- A bucket with less than a whole creation in it refuses, and keeps what it has. -/
theorem take_of_lt {b : Bucket ℚ} (h : b.left < 1) : b.take = (false, b) := by
  have hless : less b.left (ofInt 1) = true := decide_eq_true (by simpa [ofInt] using h)
  rw [take, hless]
  rfl

/-- A bucket with a whole creation in it grants, and has one less. -/
theorem take_of_le {b : Bucket ℚ} (h : 1 ≤ b.left) : b.take = (true, ⟨b.left - 1, b.time⟩) := by
  have hless : less b.left (ofInt 1) = false :=
    decide_eq_false (by simpa [ofInt] using not_lt.mpr h)
  have hsub : sub b.left (ofInt 1) = b.left - 1 := by
    change b.left - ((1 : Int) : ℚ) = _
    rw [Int.cast_one]
  rw [take, hless, hsub]
  rfl

/-- Whether a bucket holds what it can hold. -/
structure Sound (limit : Int) (b : Bucket ℚ) : Prop where
  nonneg : 0 ≤ b.left
  le : b.left ≤ limit

end Bucket

namespace RateLimiter

open Bucket

/-! ### Queries -/

/-- A token asks whether it may open one more tunnel. -/
structure Query where
  token : TokenId
  /-- How many it may open in a minute. -/
  limit : Int
  /-- When it asks, in nanoseconds. -/
  time : Int
  deriving DecidableEq, Repr

/-- What a query is told, and the limiter after it. -/
def ask (r : RateLimiter ℚ) (q : Query) : Bool × RateLimiter ℚ := r.allow q.time q.token q.limit

/-- Queries in a row, each with what it is told. -/
def replies (r : RateLimiter ℚ) : List Query → List (Query × Bool)
  | [] => []
  | q :: queries => (q, (r.ask q).1) :: replies (r.ask q).2 queries

/-- The limiter after queries in a row. -/
def after (r : RateLimiter ℚ) (queries : List Query) : RateLimiter ℚ :=
  queries.foldl (fun r q => (r.ask q).2) r

/-- How many queries of a token were granted. -/
def granted (token : TokenId) (log : List (Query × Bool)) : Nat :=
  log.countP fun entry => entry.1.token == token && entry.2

/-- When a token asked. -/
def times (token : TokenId) (log : List (Query × Bool)) : List Int :=
  (log.filter fun entry => entry.1.token == token).map (·.1.time)

/-- The seconds by which the clock moved forward from each of some times to the next. -/
def forwardSeconds : List Int → ℚ
  | start :: stop :: rest => forward start stop + forwardSeconds (stop :: rest)
  | _ => 0

/-- What is in the bucket of a token when it asks. -/
def held (r : RateLimiter ℚ) (q : Query) : ℚ :=
  match r.buckets.get? q.token with
  | none => q.limit
  | some b => min (b.left + q.limit / 60 * forward b.time q.time) q.limit

/-- Whether the bucket of a token, if it has one, holds what it can hold. -/
def Keeps (r : RateLimiter ℚ) (token : TokenId) (limit : Int) : Prop :=
  ∀ b, r.buckets.get? token = some b → b.Sound limit

variable {r : RateLimiter ℚ} {q : Query} {queries : List Query} {token limit start stop : Int}
  {b : Bucket ℚ}

/-- A token that has no bucket yet has none that holds too much. -/
theorem keeps_new (token : TokenId) (limit : Int) : ({} : RateLimiter ℚ).Keeps token limit :=
  fun _ h => by cases h

/-- The bucket of a token never holds more than the limit when it asks. -/
theorem held_le (r : RateLimiter ℚ) (q : Query) : r.held q ≤ q.limit := by
  unfold held
  split
  · exact le_rfl
  · exact min_le_right _ _

/-- The bucket of a token never holds less than nothing when it asks. -/
theorem Keeps.held_nonneg (h : r.Keeps q.token q.limit) (hlimit : 0 < q.limit) : 0 ≤ r.held q := by
  have hpositive : (0 : ℚ) < q.limit := by exact_mod_cast hlimit
  unfold held
  split
  · exact hpositive.le
  · rename_i b hb
    have := (h b hb).nonneg
    have := forward_nonneg b.time q.time
    exact le_min (by positivity) hpositive.le

/-- A query of another token leaves a bucket alone. -/
theorem get?_ask_of_ne (h : token ≠ q.token) :
    (r.ask q).2.buckets.get? token = r.buckets.get? token := by
  unfold ask allow
  split
  · rfl
  · exact Table.get?_put_of_ne _ _ h

/-- **What a query does**: it is granted if there is a whole creation in the bucket, and takes it
out. -/
theorem ask_eq (hkeeps : r.Keeps q.token q.limit) (htoken : 0 < q.token) (hlimit : 0 < q.limit) :
    (r.ask q).1 = decide (1 ≤ r.held q) ∧
      (r.ask q).2.buckets.get? q.token =
        some ⟨if 1 ≤ r.held q then r.held q - 1 else r.held q, q.time⟩ := by
  have hcounted : ¬ (q.limit ≤ 0 ∨ q.token ≤ 0) :=
    not_or.mpr ⟨not_le.mpr hlimit, not_le.mpr htoken⟩
  have hrefilled : ((r.buckets.get? q.token).getD ⟨Quantity.ofInt q.limit, q.time⟩).refill
      (Quantity.ofInt q.limit) q.time = ⟨r.held q, q.time⟩ := by
    rcases hb : r.buckets.get? q.token with _ | b
    · rw [Option.getD_none, refill_eq le_rfl]
      simp only [held, hb, forward_self, mul_zero, add_zero]
      exact congrArg (Bucket.mk · q.time) (min_self _)
    · rw [Option.getD_some, refill_eq (hkeeps b hb).le]
      simp only [held, hb]
  rw [ask, allow, if_neg hcounted]
  dsimp only
  rw [hrefilled]
  by_cases hwhole : 1 ≤ r.held q
  · rw [take_of_le hwhole]
    simp [hwhole]
  · rw [take_of_lt (not_le.mp hwhole)]
    simp [hwhole]

/-- What a query is told and what it leaves in the bucket is what was in it. -/
theorem exists_left (hkeeps : r.Keeps token limit) (htoken : 0 < token) (hlimit : 0 < limit)
    (hown : q.token = token) (hsame : q.limit = limit) :
    ∃ b, (r.ask q).2.buckets.get? token = some b ∧ b.Sound limit ∧ b.time = q.time ∧
      (((if (r.ask q).1 = true then 1 else 0 : Nat) : ℚ) + b.left = r.held q) := by
  subst hown hsame
  obtain ⟨htold, hleft⟩ := ask_eq hkeeps htoken hlimit
  have hle := held_le r q
  have hnonneg := hkeeps.held_nonneg hlimit
  refine ⟨_, hleft, ?_, rfl, ?_⟩
  · split
    · rename_i hwhole
      exact ⟨sub_nonneg.mpr hwhole, by linarith⟩
    · exact ⟨hnonneg, hle⟩
  · by_cases hwhole : 1 ≤ r.held q
    · simp [htold, hwhole]
    · simp [htold, hwhole]

/-- Whoever asks, the bucket of a token holds what it can hold afterwards, as long as its limit
stays the same. -/
theorem Keeps.ask (h : r.Keeps token limit) (htoken : 0 < token) (hlimit : 0 < limit)
    (hsame : q.token = token → q.limit = limit) : (r.ask q).2.Keeps token limit := by
  intro b hb
  by_cases hown : q.token = token
  · obtain ⟨b', hb', hsound, -⟩ := exists_left h htoken hlimit hown (hsame hown)
    exact Option.some.inj (hb'.symm.trans hb) ▸ hsound
  · rw [get?_ask_of_ne (Ne.symm hown)] at hb
    exact h b hb

/-- If the bucket that a token has is sound, it holds what it can hold. -/
theorem keeps_of_sound (hb : r.buckets.get? token = some b) (h : b.Sound limit) :
    r.Keeps token limit :=
  fun _ hb' => Option.some.inj (hb.symm.trans hb') ▸ h

/-! ### Stretches of a run -/

/-- The first reply of a run is what the limiter says to the first query, and the others are the run
of what it leaves. -/
theorem eq_cons_of_replies {allowed : Bool} {log : List (Query × Bool)}
    (h : r.replies queries = (q, allowed) :: log) :
    ∃ rest, queries = q :: rest ∧ (r.ask q).1 = allowed ∧ (r.ask q).2.replies rest = log := by
  cases queries with
  | nil => cases h
  | cons q' rest =>
    obtain ⟨hentry, hlog⟩ := List.cons.inj h
    obtain ⟨rfl, htold⟩ := Prod.mk.inj hentry
    exact ⟨rest, rfl, htold, hlog⟩

/-- A run whose replies are split is split at the same place, and the rest is a run of what the
front leaves. -/
theorem eq_append_of_replies {log log' : List (Query × Bool)}
    (h : r.replies queries = log ++ log') :
    ∃ front back, queries = front ++ back ∧ r.replies front = log ∧
      (r.after front).replies back = log' := by
  induction log generalizing r queries with
  | nil => exact ⟨[], queries, rfl, rfl, h⟩
  | cons entry log ih =>
    obtain ⟨q, allowed⟩ := entry
    obtain ⟨rest, rfl, htold, hrest⟩ := eq_cons_of_replies h
    obtain ⟨front, back, rfl, hfront, hback⟩ := ih hrest
    exact ⟨q :: front, back, rfl, by rw [replies, hfront, htold], hback⟩

/-- What a run keeps of a bucket, step by step. -/
theorem Keeps.after (h : r.Keeps token limit) (htoken : 0 < token) (hlimit : 0 < limit)
    (hsame : ∀ q ∈ queries, q.token = token → q.limit = limit) :
    (r.after queries).Keeps token limit := by
  induction queries generalizing r with
  | nil => exact h
  | cons q queries ih =>
    obtain ⟨hq, hqueries⟩ := List.forall_mem_cons.mp hsame
    exact ih (h.ask htoken hlimit hq) hqueries

/-- A stretch of a run is a run of its own, from a limiter that has been asked before. -/
theorem exists_replies_eq {segment : List (Query × Bool)} (htoken : 0 < token) (hlimit : 0 < limit)
    (hsame : ∀ q ∈ queries, q.token = token → q.limit = limit)
    (h : segment <:+: replies {} queries) :
    ∃ r queries', replies r queries' = segment ∧ r.Keeps token limit ∧
      ∀ q ∈ queries', q.token = token → q.limit = limit := by
  obtain ⟨earlier, later, hsegment⟩ := h
  obtain ⟨_, _, rfl, hreplies, -⟩ := eq_append_of_replies hsegment.symm
  obtain ⟨front, back, rfl, -, hback⟩ := eq_append_of_replies hreplies
  simp only [List.mem_append, or_imp, forall_and] at hsame
  exact ⟨_, back, hback, (keeps_new token limit).after htoken hlimit hsame.1.1, hsame.1.2⟩

/-! ### The bound -/

/-- One more query adds to what was granted to a token if it is the token's own and is granted. -/
theorem granted_cons (token : TokenId) (q : Query) (allowed : Bool) (log : List (Query × Bool)) :
    granted token ((q, allowed) :: log) =
      granted token log + if q.token = token ∧ allowed = true then 1 else 0 := by
  simp [granted, List.countP_cons]

/-- A query of a token adds its time to the times at which the token asked. -/
theorem times_cons_self {allowed : Bool} {log : List (Query × Bool)} (h : q.token = token) :
    times token ((q, allowed) :: log) = q.time :: times token log := by
  simp [times, h]

/-- A query of another token adds nothing to the times at which a token asked. -/
theorem times_cons_of_ne {allowed : Bool} {log : List (Query × Bool)} (h : q.token ≠ token) :
    times token ((q, allowed) :: log) = times token log := by
  simp [times, h]

/-- What is let out was in the bucket or came in on the way. -/
theorem granted_le (hb : r.buckets.get? token = some b) (hsound : b.Sound limit)
    (htoken : 0 < token) (hlimit : 0 < limit)
    (hsame : ∀ q ∈ queries, q.token = token → q.limit = limit) :
    (granted token (r.replies queries) : ℚ) ≤
      b.left + limit / 60 * forwardSeconds (b.time :: times token (r.replies queries)) := by
  induction queries generalizing r b with
  | nil => simpa [replies, granted, times, forwardSeconds] using hsound.nonneg
  | cons q queries ih =>
    obtain ⟨hq, hqueries⟩ := List.forall_mem_cons.mp hsame
    rw [replies, granted_cons]
    by_cases hown : q.token = token
    · obtain ⟨b', hb', hsound', htime, hleft⟩ :=
        exists_left (keeps_of_sound hb hsound) htoken hlimit hown (hq hown)
      have hheld : r.held q ≤ b.left + limit / 60 * forward b.time q.time := by
        rw [held, hown, hb, hq hown]
        exact min_le_left _ _
      have hrest := ih hb' hsound' hqueries
      rw [htime] at hrest
      simp only [times_cons_self hown, forwardSeconds, hown, true_and, Nat.cast_add, mul_add]
      linarith
    · rw [if_neg fun h => hown h.1, times_cons_of_ne hown]
      exact ih ((get?_ask_of_ne (Ne.symm hown)).trans hb) hsound hqueries

/-- Whatever came before, no more is let out than the limit and what came in between the first query
and the last. -/
theorem granted_le_of_keeps (hkeeps : r.Keeps token limit) (htoken : 0 < token)
    (hlimit : 0 < limit) (hsame : ∀ q ∈ queries, q.token = token → q.limit = limit) :
    (granted token (r.replies queries) : ℚ) ≤
      limit + limit / 60 * forwardSeconds (times token (r.replies queries)) := by
  induction queries generalizing r with
  | nil =>
    have hpositive : (0 : ℚ) < limit := by exact_mod_cast hlimit
    simpa [replies, granted, times, forwardSeconds] using hpositive.le
  | cons q queries ih =>
    obtain ⟨hq, hqueries⟩ := List.forall_mem_cons.mp hsame
    rw [replies, granted_cons]
    by_cases hown : q.token = token
    · -- The first query finds no more than the limit in the bucket, whenever it was last filled.
      obtain ⟨b, hb, hsound, htime, hleft⟩ := exists_left hkeeps htoken hlimit hown (hq hown)
      have hheld : r.held q ≤ limit := hq hown ▸ held_le r q
      have hrest := granted_le hb hsound htoken hlimit hqueries
      rw [htime] at hrest
      simp only [times_cons_self hown, hown, true_and, Nat.cast_add]
      linarith
    · rw [if_neg fun h => hown h.1, times_cons_of_ne hown]
      exact ih (hkeeps.ask htoken hlimit hq) hqueries

/-! ### The promise -/

/-- While a token is refused and the clock does not go back, what came in since the start is in its
bucket, as far as the bucket can hold it. -/
theorem accrued (hb : r.buckets.get? token = some b) (hsound : b.Sound limit)
    (htoken : 0 < token) (hlimit : 0 < limit)
    (hsame : ∀ q ∈ queries, q.token = token → q.limit = limit)
    (hrefused : granted token (r.replies queries) = 0)
    (hclock : (b.time :: times token (r.replies queries) ++ [stop]).IsChain (· ≤ ·))
    (hstart : start ≤ b.time) (hin : min (limit / 60 * forward start b.time) limit ≤ b.left) :
    ∃ b', (r.after queries).buckets.get? token = some b' ∧ start ≤ b'.time ∧ b'.time ≤ stop ∧
      min (limit / 60 * forward start b'.time) (limit : ℚ) ≤ b'.left := by
  induction queries generalizing r b with
  | nil =>
    have hstop : b.time ≤ stop := by simpa [replies, times] using hclock
    exact ⟨b, hb, hstart, hstop, hin⟩
  | cons q queries ih =>
    obtain ⟨hq, hqueries⟩ := List.forall_mem_cons.mp hsame
    rw [replies, granted_cons] at hrefused
    obtain ⟨hrest, hfirst⟩ := Nat.add_eq_zero_iff.mp hrefused
    by_cases hown : q.token = token
    · obtain ⟨b', hb', hsound', htime, hleft⟩ :=
        exists_left (keeps_of_sound hb hsound) htoken hlimit hown (hq hown)
      rw [replies, times_cons_self hown, List.cons_append, List.cons_append,
        List.isChain_cons_cons] at hclock
      have hrefusal : ¬ (r.ask q).1 = true := fun h => by simp [hown, h] at hfirst
      rw [if_neg hrefusal, Nat.cast_zero, zero_add] at hleft
      refine ih hb' hsound' hqueries hrest (by rw [htime]; exact hclock.2)
        (by rw [htime]; exact hstart.trans hclock.1) ?_
      have hcame := forward_add hstart hclock.1
      have hgained := forward_nonneg b.time q.time
      have hrate : (0 : ℚ) ≤ limit / 60 := by
        have : (0 : ℚ) < limit := by exact_mod_cast hlimit
        positivity
      have hmore := mul_nonneg hrate hgained
      rw [hleft, htime, held, hown, hb, hq hown, hcame, mul_add]
      refine le_min ?_ (min_le_right _ _)
      rcases min_le_iff.mp hin with hin | hin
      · exact (min_le_left _ _).trans (by linarith)
      · exact (min_le_right _ _).trans (by linarith)
    · rw [replies, times_cons_of_ne hown] at hclock
      exact ih ((get?_ask_of_ne (Ne.symm hown)).trans hb) hsound hqueries hrest hclock hstart hin

/-- A whole creation comes in while the clock moves by a minute divided by the limit. -/
theorem one_le_held (hb : r.buckets.get? q.token = some b) (hsame : q.limit = limit)
    (hlimit : 0 < limit) (hstart : start ≤ b.time) (hstop : b.time ≤ q.time)
    (hin : min (limit / 60 * forward start b.time) limit ≤ b.left)
    (hlong : (60 : ℚ) / limit ≤ forward start q.time) : 1 ≤ r.held q := by
  have hpositive : (0 : ℚ) < limit := by exact_mod_cast hlimit
  have hone : (1 : ℚ) ≤ limit := by exact_mod_cast hlimit
  have hwhole : (1 : ℚ) ≤ limit / 60 * forward start q.time := by
    calc (1 : ℚ) = limit / 60 * (60 / limit) := by field_simp
      _ ≤ limit / 60 * forward start q.time := by gcongr
  have hgained := forward_nonneg b.time q.time
  have hmore : (0 : ℚ) ≤ limit / 60 * forward b.time q.time := by positivity
  rw [held, hb, hsame]
  refine le_min ?_ hone
  rw [forward_add hstart hstop, mul_add] at hwhole
  rcases min_le_iff.mp hin with hin | hin
  · linarith
  · linarith

/-- After a query that was granted, and others that were refused, the next one is granted if enough
has come in for a whole creation. -/
theorem granted_of_accrued {first last : Query} {allowed : Bool} {between : List (Query × Bool)}
    (hkeeps : r.Keeps token limit) (htoken : 0 < token) (hlimit : 0 < limit)
    (hsame : ∀ q ∈ queries, q.token = token → q.limit = limit)
    (h : r.replies queries = (first, true) :: between ++ [(last, allowed)])
    (hfirst : first.token = token) (hlast : last.token = token)
    (hrefused : granted token between = 0)
    (hclock : (times token ((first, true) :: between ++ [(last, allowed)])).IsChain (· ≤ ·))
    (hlong : (60 : ℚ) / limit ≤ forward first.time last.time) : allowed = true := by
  obtain ⟨rest, rfl, -, hrest⟩ := eq_cons_of_replies h
  obtain ⟨front, back, rfl, rfl, hback⟩ := eq_append_of_replies hrest
  obtain ⟨_, rfl, rfl, -⟩ := eq_cons_of_replies hback
  simp only [List.mem_cons, List.mem_append, or_imp, forall_and, forall_eq] at hsame
  obtain ⟨hfirst', hfront, hlast', -⟩ := hsame
  obtain ⟨b, hb, hsound, htime, -⟩ := exists_left hkeeps htoken hlimit hfirst (hfirst' hfirst)
  have hkeeps' := (keeps_of_sound hb hsound).after htoken hlimit hfront
  have hempty : min ((limit : ℚ) / 60 * forward first.time b.time) limit ≤ b.left := by
    rw [htime, forward_self, mul_zero]
    exact (min_le_left _ _).trans hsound.nonneg
  have hchain : (b.time :: times token (((r.ask first).2).replies front) ++ [last.time]).IsChain
      (· ≤ ·) := by
    simpa [times, htime, hfirst, hlast] using hclock
  obtain ⟨b', hb', hstart, hstop, hin⟩ :=
    accrued hb hsound htoken hlimit hfront hrefused hchain htime.ge hempty
  have hheld : 1 ≤ (after (r.ask first).2 front).held last :=
    one_le_held (hlast ▸ hb') (hlast' hlast) hlimit hstart hstop hin hlong
  subst hlast
  rw [← hlast' rfl] at hkeeps' hlimit
  rw [(ask_eq hkeeps' htoken hlimit).1]
  exact decide_eq_true hheld

/-! ### Other tokens -/

/-- What a query is told hangs on the bucket of its own token alone. -/
theorem ask_congr {r r' : RateLimiter ℚ}
    (h : r.buckets.get? q.token = r'.buckets.get? q.token) :
    (r.ask q).1 = (r'.ask q).1 ∧
      (r.ask q).2.buckets.get? q.token = (r'.ask q).2.buckets.get? q.token := by
  unfold ask allow
  split
  · exact ⟨rfl, h⟩
  · rw [h]
    simp

/-- The replies to a token are those that it gets when nobody else asks, from any limiter that has
the same bucket for it. -/
theorem filter_replies {r r' : RateLimiter ℚ}
    (h : r.buckets.get? token = r'.buckets.get? token) (queries : List Query) :
    (r.replies queries).filter (fun entry => entry.1.token == token) =
      r'.replies (queries.filter fun q => q.token == token) := by
  induction queries generalizing r r' with
  | nil => rfl
  | cons q queries ih =>
    rw [replies]
    by_cases hown : q.token = token
    · subst hown
      obtain ⟨htold, hleft⟩ := ask_congr h
      rw [List.filter_cons_of_pos (by simp), List.filter_cons_of_pos (by simp), replies, htold,
        ih hleft]
    · rw [List.filter_cons_of_neg (by simpa using hown),
        List.filter_cons_of_neg (by simpa using hown)]
      exact ih ((get?_ask_of_ne (Ne.symm hown)).trans h)

/-! ### The pace of a token -/

/-- **Creations are paced.** In any stretch of a run a token is granted no more than its limit and
what the clock moved forward from each of its queries to the next, at a sixtieth of the limit a
second. A query that comes a minute divided by the limit after the last one that was granted is
granted, if the clock was not seen going back, whatever was refused in between. And the token is
told what it would be told if no other had asked. -/
theorem creations_are_paced {token limit : Int} (htoken : 0 < token) (hlimit : 0 < limit)
    {queries : List Query} (hsame : ∀ q ∈ queries, q.token = token → q.limit = limit) :
    (∀ segment, segment <:+: replies {} queries →
      (granted token segment : ℚ) ≤
        limit + limit / 60 * forwardSeconds (times token segment)) ∧
    (∀ first between last allowed,
      (first, true) :: between ++ [(last, allowed)] <:+: replies {} queries →
      first.token = token → last.token = token → granted token between = 0 →
      (times token ((first, true) :: between ++ [(last, allowed)])).IsChain (· ≤ ·) →
      (60 : ℚ) / limit ≤ forward first.time last.time → allowed = true) ∧
    (replies {} queries).filter (fun entry => entry.1.token == token) =
      replies {} (queries.filter fun q => q.token == token) := by
  refine ⟨fun segment hsegment => ?_, fun first between last allowed hsegment => ?_,
    filter_replies rfl queries⟩
  · obtain ⟨r, queries', rfl, hkeeps, hsame'⟩ := exists_replies_eq htoken hlimit hsame hsegment
    exact granted_le_of_keeps hkeeps htoken hlimit hsame'
  · obtain ⟨r, queries', hreplies, hkeeps, hsame'⟩ :=
      exists_replies_eq htoken hlimit hsame hsegment
    exact granted_of_accrued hkeeps htoken hlimit hsame' hreplies

/-- The seventh token may open one tunnel a minute and asks five times; the eighth asks once. The
clock goes back before the last two queries. -/
def impatientRun : List Query := [
  ⟨7, 1, 0⟩, ⟨8, 5, -3000000000⟩, ⟨7, 1, 20000000000⟩, ⟨7, 1, 60000000000⟩, ⟨7, 1, -5000000000⟩,
  ⟨7, 1, 25000000000⟩]

/-- Its query after a minute is granted, and no other but the first. -/
theorem impatientRun_paced :
    (∀ q ∈ impatientRun, q.token = 7 → q.limit = 1) ∧
      (replies {} impatientRun).map (·.2) = [true, true, false, true, false, false] ∧
      times 7 (replies {} impatientRun) =
        [0, 20000000000, 60000000000, -5000000000, 25000000000] ∧
      (granted 7 (replies {} impatientRun) : ℚ) ≤
        (1 : Int) + (1 : Int) / 60 * forwardSeconds (times 7 (replies {} impatientRun)) ∧
      (∀ allowed, (⟨7, 1, 0⟩, true) ::
          [(⟨8, 5, -3000000000⟩, true), (⟨7, 1, 20000000000⟩, false)] ++
          [(⟨7, 1, 60000000000⟩, allowed)] <:+: replies {} impatientRun → allowed = true) ∧
      (replies {} impatientRun).filter (fun entry => entry.1.token == 7) =
        replies {} (impatientRun.filter fun q => q.token == 7) := by
  have hsame : ∀ q ∈ impatientRun, q.token = 7 → q.limit = 1 := by decide
  have htold : (replies {} impatientRun).map (·.2) = [true, true, false, true, false, false] := by
    decide +kernel
  have htimes : times 7 (replies {} impatientRun) =
      [0, 20000000000, 60000000000, -5000000000, 25000000000] := by decide +kernel
  have hminute : (60 : ℚ) / (1 : Int) ≤ forward 0 60000000000 := by decide +kernel
  obtain ⟨hbound, hpromise, halone⟩ :=
    creations_are_paced (by decide : (0 : Int) < 7) (by decide : (0 : Int) < 1) hsame
  refine ⟨hsame, htold, htimes, hbound _ (List.infix_refl _), fun allowed hstretch => ?_, halone⟩
  refine hpromise _ _ _ _ hstretch rfl rfl rfl ?_ hminute
  simp [times]

end RateLimiter
end ReverseTunnel
