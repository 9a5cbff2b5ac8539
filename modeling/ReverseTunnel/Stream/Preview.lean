import ReverseTunnel.Stream.Source

/-!
# Watching a stream

A preview keeps the first bytes that pass, up to its limit. A tap is a source that shows what is
read from it to a preview, if it has one.
-/

namespace ReverseTunnel

/-- The first bytes of a stream, up to a limit. -/
structure Preview where
  limit : Nat
  data : Bytes := []
  deriving DecidableEq, Repr

namespace Preview

/-- Whether no more bytes will be kept. -/
def full (p : Preview) : Bool := p.limit ≤ p.data.length

/-- More bytes pass. -/
def push (p : Preview) (bytes : Bytes) : Preview :=
  { p with data := p.data ++ bytes.take (p.limit - p.data.length) }

end Preview

/-- A source that may be watched. -/
structure Tap where
  source : Source
  preview : Option Preview := none
  deriving DecidableEq, Repr

namespace Tap

/-- Reads once from the source and shows what was read. -/
def read (limit : Nat) (t : Tap) : Except IoError Bytes × Tap :=
  match t.source.read limit with
  | (.ok got, source) => (.ok got, ⟨source, t.preview.map (·.push got)⟩)
  | (.error e, source) => (.error e, { t with source })

/-- The number of bytes that will arrive. -/
def remaining (t : Tap) : Nat := t.source.remaining

/-- A read through a tap takes away as many bytes as it returns. -/
theorem remaining_read {limit : Nat} {t t' : Tap} {got : Bytes}
    (h : t.read limit = (.ok got, t')) : t.remaining = got.length + t'.remaining := by
  unfold read at h
  split at h
  · rename_i got' source hr
    simp only [Prod.mk.injEq, Except.ok.injEq] at h
    obtain ⟨rfl, rfl⟩ := h
    exact Source.remaining_read hr
  · simp at h

/-- A read that returns anything leaves less to be read, which is why a copy comes to its end. -/
theorem remaining_lt {limit : Nat} {t t' : Tap} {got : Bytes}
    (h : t.read limit = (.ok got, t')) (hne : got ≠ []) : t'.remaining < t.remaining := by
  have := remaining_read h
  have := List.length_pos_iff.mpr hne
  omega

end Tap

end ReverseTunnel
