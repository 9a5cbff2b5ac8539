import ReverseTunnel.Table

/-!
# How many tunnels a token may have

A token takes a slot for each of its tunnels and gives it back when the tunnel ends. The limiter
counts the slots that are out; it has no entry for a token that has none.
-/

namespace ReverseTunnel

/-- The identity of a token. Only positive numbers identify. -/
abbrev TokenId := Int

/-- The number of slots that each token has out. -/
structure Limiter where
  active : Table TokenId Nat := {}
  deriving DecidableEq, Repr

/-- A slot that was taken. -/
inductive Slot where
  /-- A slot that nobody counts. -/
  | free
  /-- A slot of this token that is out. -/
  | held (token : TokenId)
  /-- A slot that was given back. -/
  | returned
  deriving DecidableEq, Repr

namespace Limiter

/-- The number of slots that a token has out. -/
def count (l : Limiter) (token : TokenId) : Nat := (l.active.get? token).getD 0

/-- Takes a slot, if fewer than `limit` are out. Without a limit or an identity nothing is
counted. -/
def acquire? (l : Limiter) (token : TokenId) (limit : Int) : Option (Slot × Limiter) :=
  if limit ≤ 0 ∨ token ≤ 0 then some (.free, l)
  else if (l.count token : Int) ≥ limit then none
  else some (.held token, ⟨l.active.put token (l.count token + 1)⟩)

/-- One slot fewer is out. -/
def decrease (l : Limiter) (token : TokenId) : Limiter :=
  match l.active.get? token with
  | none => l
  | some n => if n > 1 then ⟨l.active.put token (n - 1)⟩ else ⟨l.active.erase token⟩

/-- Gives a slot back. Doing so again has no effect. -/
def release (l : Limiter) : Slot → Slot × Limiter
  | .held token => (.returned, l.decrease token)
  | .free => (.returned, l)
  | .returned => (.returned, l)

end Limiter

end ReverseTunnel
