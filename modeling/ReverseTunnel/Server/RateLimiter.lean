import ReverseTunnel.Server.Limiter

/-!
# How often a token may open tunnels

Each token has a bucket. With a limit of `L` a minute it holds at most `L` creations and gets
`L / 60` back in a second. The rule is stated over any numbers that can be counted and measured
with: the server runs it on doubles, and it can be read on exact fractions.
-/

namespace ReverseTunnel

/-- Numbers to count and measure with. -/
class Quantity (Q : Type) where
  ofInt : Int → Q
  add : Q → Q → Q
  sub : Q → Q → Q
  mul : Q → Q → Q
  div : Q → Q → Q
  min : Q → Q → Q
  less : Q → Q → Bool

instance : Quantity Float where
  ofInt := Float.ofInt
  add := (· + ·)
  sub := (· - ·)
  mul := (· * ·)
  div := (· / ·)
  min x y := if x ≤ y then x else y
  less x y := x < y

instance : Quantity Rat where
  ofInt n := n
  add := (· + ·)
  sub := (· - ·)
  mul := (· * ·)
  div := (· / ·)
  min x y := if x ≤ y then x else y
  less x y := decide (x < y)

/-- The creations that a token has left, and the time, in nanoseconds, at which they were last
counted. -/
structure Bucket (Q : Type) where
  left : Q
  time : Int

/-- The buckets of the tokens that have asked before. -/
structure RateLimiter (Q : Type) where
  buckets : Table TokenId (Bucket Q) := {}

namespace Bucket

variable {Q : Type} [Quantity Q]
open Quantity

/-- A span of nanoseconds in seconds: the whole seconds, and the rest as a fraction. -/
def seconds (span : Nat) : Q :=
  add (ofInt (span / 1000000000 : Nat))
    (div (ofInt (span % 1000000000 : Nat)) (ofInt 1000000000))

/-- The bucket at a later time, filled up to its capacity. If the clock went back, only the
time changes. -/
def refill (b : Bucket Q) (capacity : Q) (now : Int) : Bucket Q :=
  if now > b.time then
    let gained := mul (seconds (now - b.time).toNat) (div capacity (ofInt 60))
    ⟨min (add b.left gained) capacity, now⟩
  else { b with time := now }

/-- Takes one creation out, if there is a whole one. -/
def take (b : Bucket Q) : Bool × Bucket Q :=
  if less b.left (ofInt 1) then (false, b) else (true, { b with left := sub b.left (ofInt 1) })

end Bucket

namespace RateLimiter

variable {Q : Type} [Quantity Q]

/-- Whether a token may open a tunnel now, and the buckets after it was asked. Without a limit
or an identity nothing is counted. A bucket is full when it is first asked for. -/
def allow (r : RateLimiter Q) (now : Int) (token : TokenId) (limit : Int) :
    Bool × RateLimiter Q :=
  if limit ≤ 0 ∨ token ≤ 0 then (true, r)
  else
    let capacity : Q := Quantity.ofInt limit
    let bucket := (r.buckets.get? token).getD ⟨capacity, now⟩
    let (allowed, bucket) := (bucket.refill capacity now).take
    (allowed, ⟨r.buckets.put token bucket⟩)

end RateLimiter

end ReverseTunnel
