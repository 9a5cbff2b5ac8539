import ReverseTunnel.Stream.Copy

/-!
# Reading and copying a stream that lasts

A stream that does not fail hands out pieces until nothing is left, and the pieces are the stream.
How large they are is not in the hands of the reader, except that none is larger than what was
asked for. A copy to a sink that takes everything passes the stream on and announces its end,
whatever the pieces were.

## Main results

* `Tap.read_of_lasting`: what one read does.
* `Tap.Hands.prefix_bytes`: what several reads do.
* `copyFrom_of_lasting`: what a copy leaves behind.
-/

namespace ReverseTunnel

/-! ### One read -/

/-- Where all the chunks are empty there is nothing to read. -/
theorem Source.flatten_eq_nil_of_dropWhile {chunks : List Bytes}
    (h : chunks.dropWhile List.isEmpty = []) : chunks.flatten = [] := by
  rw [← flatten_dropWhile_isEmpty, h, List.flatten_nil]

/-- No read gives more than was asked for. -/
theorem Source.length_le_of_read {s left : Source} {limit : Nat} {got : Bytes}
    (h : s.read limit = (.ok got, left)) : got.length ≤ limit := by
  unfold read at h
  split at h
  · cases hfailure : s.failure with
    | none =>
      rw [hfailure] at h
      cases h
      exact Nat.zero_le _
    | some e =>
      rw [hfailure] at h
      cases h
  · cases h
    exact List.length_take_le _ _

/-- A source that lasts gives a piece of what it has, no larger than asked for, and gives nothing
only if it has nothing. -/
theorem Source.read_of_lasting {s : Source} {limit : Nat} (h : s.failure = none)
    (hlimit : 0 < limit) :
    ∃ got left, s.read limit = (.ok got, left) ∧ left.failure = none ∧ got.length ≤ limit ∧
      (got = [] → s.bytes = []) := by
  unfold read
  split
  · rename_i hnone
    refine ⟨[], { s with chunks := [] }, by rw [h]; rfl, h, Nat.zero_le _, fun _ => ?_⟩
    exact flatten_eq_nil_of_dropWhile hnone
  · rename_i chunk rest hsome
    refine ⟨_, _, rfl, h, List.length_take_le _ _, fun hgot => ?_⟩
    -- The first chunk that is left is not empty, so some of it was given.
    have hchunk : chunk.isEmpty = false := by
      have := List.head?_dropWhile_not List.isEmpty s.chunks
      rw [hsome] at this
      simpa using this
    rcases List.take_eq_nil_iff.mp hgot with hzero | hnil
    · omega
    · simp [hnil] at hchunk

namespace Tap

variable {t left : Tap} {limit : Nat} {got : Bytes} {pieces : List Bytes}

/-- What a read of a stream that lasts can give. -/
theorem read_of_lasting {result : Except IoError Bytes} (h : t.source.failure = none)
    (hlimit : 0 < limit) (hread : t.read limit = (result, left)) :
    ∃ got, result = .ok got ∧ left.source.failure = none ∧ got.length ≤ limit ∧
      (got = [] → t.source.bytes = []) := by
  obtain ⟨got, source, hsource, hrest⟩ := Source.read_of_lasting h hlimit
  rw [read, hsource] at hread
  cases hread
  exact ⟨got, rfl, hrest⟩

/-- A read through a tap is a read of the source behind it. -/
theorem source_read (h : t.read limit = (.ok got, left)) :
    t.source.read limit = (.ok got, left.source) := by
  unfold read at h
  split at h
  · rename_i hread
    cases h
    exact hread
  · cases h

/-- What is read through a tap is the beginning of what there was, and the rest is still there. -/
theorem bytes_read (h : t.read limit = (.ok got, left)) :
    t.source.bytes = got ++ left.source.bytes := Source.bytes_read (source_read h)

/-! ### Several reads -/

/-- The next reads of at most `limit` bytes give these pieces. -/
inductive Hands (limit : Nat) : Tap → List Bytes → Prop
  | none (t : Tap) : Hands limit t []
  | more {t left : Tap} {got : Bytes} {pieces : List Bytes} (hread : t.read limit = (.ok got, left))
      (hsome : got ≠ []) (h : Hands limit left pieces) : Hands limit t (got :: pieces)

/-- The pieces are the beginning of the stream, and none is larger than asked for. -/
theorem Hands.prefix_bytes (h : Hands limit t pieces) :
    pieces.flatten <+: t.source.bytes ∧ ∀ piece ∈ pieces, piece.length ≤ limit := by
  induction h with
  | none t => simp
  | more hread _ _ ih =>
    rw [bytes_read hread, List.flatten_cons]
    refine ⟨List.prefix_append_right_inj _ |>.mpr ih.1, ?_⟩
    exact List.forall_mem_cons.mpr ⟨Source.length_le_of_read (source_read hread), ih.2⟩

/-! ### Reading what arrives in large chunks -/

variable {chunk : Bytes} {chunks : List Bytes} {failure : Option IoError}
  {preview : Option Preview}

/-- A read gives the beginning of the first chunk, up to the limit. What it leaves of the chunk is
the first one of the next read. -/
theorem read_chunk (hchunk : chunk ≠ []) (limit : Nat) :
    read limit ⟨⟨chunk :: chunks, failure⟩, preview⟩ =
      (.ok (chunk.take limit),
        ⟨⟨if chunk.length ≤ limit then chunks else chunk.drop limit :: chunks, failure⟩,
          preview.map (·.push (chunk.take limit))⟩) := by
  have hdrop : (chunk :: chunks).dropWhile List.isEmpty = chunk :: chunks :=
    List.dropWhile_cons_of_neg (by simpa using hchunk)
  rw [read, Source.read, hdrop]

/-- The first piece handed out is the beginning of the first chunk, and the other pieces come from
what it leaves. -/
theorem Hands.first_chunk (hchunk : chunk ≠ [])
    (h : Hands limit ⟨⟨chunk :: chunks, failure⟩, preview⟩ (got :: pieces)) :
    got = chunk.take limit ∧ ∃ preview', Hands limit
      ⟨⟨if chunk.length ≤ limit then chunks else chunk.drop limit :: chunks, failure⟩, preview'⟩
      pieces := by
  cases h with
  | more hread _ hrest =>
    rw [read_chunk hchunk] at hread
    cases hread
    exact ⟨rfl, _, hrest⟩

/-- No piece goes beyond the end of a chunk: several of them lie within the first chunk, or some of
them are the chunk and the others come behind it. -/
theorem Hands.of_chunk (hchunk : chunk ≠ [])
    (h : Hands limit ⟨⟨chunk :: chunks, failure⟩, preview⟩ pieces) :
    pieces.flatten.length ≤ chunk.length ∨
      ∃ front behind preview', pieces = front ++ behind ∧ front.flatten = chunk ∧
        Hands limit ⟨⟨chunks, failure⟩, preview'⟩ behind := by
  induction pieces generalizing chunk preview with
  | nil => exact .inl (Nat.zero_le _)
  | cons got pieces ih =>
    obtain ⟨rfl, preview', hrest⟩ := h.first_chunk hchunk
    by_cases hle : chunk.length ≤ limit
    · rw [if_pos hle] at hrest
      have hwhole : [chunk.take limit].flatten = chunk := by simp [List.take_of_length_le hle]
      exact .inr ⟨[chunk.take limit], pieces, preview', rfl, hwhole, hrest⟩
    · rw [if_neg hle] at hrest
      have hlater : chunk.drop limit ≠ [] := fun hnil =>
        hle (List.drop_eq_nil_iff.mp hnil)
      rcases ih hlater hrest with hwithin | ⟨front, behind, preview'', rfl, hfront, hbehind⟩
      · refine .inl ?_
        rw [List.length_drop] at hwithin
        rw [List.flatten_cons, List.length_append, List.length_take]
        omega
      · exact .inr ⟨chunk.take limit :: front, behind, preview'', rfl, by simp [hfront], hbehind⟩

end Tap

/-! ### Copying -/

/-- A sink without a bound takes all that is written to it. -/
theorem Sink.write_of_room {sink : Sink} (h : sink.bound = none) (bytes : Bytes) :
    sink.write bytes = (.ok (), { sink with written := sink.written ++ bytes }) := by
  rw [write, h]

/-- A stream that lasts arrives whole at a sink that takes everything, the end is announced, and
all that was read is counted. -/
theorem copyFrom_of_lasting {tap : Tap} {sink : Sink} (counter total : Nat)
    (hlasting : tap.source.failure = none) (hroom : sink.bound = none) :
    ∃ left, copyFrom tap sink counter total =
      ⟨left, { sink with written := sink.written ++ tap.source.bytes, ended := true },
        counter + tap.source.bytes.length, .ok (total + tap.source.bytes.length)⟩ := by
  fun_induction copyFrom tap sink counter total with
  | case1 tap sink counter total e left hread =>
    obtain ⟨got, hgot, -⟩ := Tap.read_of_lasting hlasting (by decide) hread
    cases hgot
  | case2 tap sink counter total left hread =>
    obtain ⟨got, hgot, -, -, hnil⟩ := Tap.read_of_lasting hlasting (by decide) hread
    cases hgot
    exact ⟨left, by simp [hnil rfl, Sink.finish]⟩
  | case3 tap sink counter total got left hread hsome e sink' hwrite =>
    rw [Sink.write_of_room hroom] at hwrite
    cases hwrite
  | case4 tap sink counter total got left hread hsome sink' hwrite _ ih =>
    obtain ⟨-, -, hlasting', -⟩ := Tap.read_of_lasting hlasting (by decide) hread
    rw [Sink.write_of_room hroom] at hwrite
    cases hwrite
    obtain ⟨left'', hcopy⟩ := ih hlasting' hroom
    refine ⟨left'', hcopy.trans ?_⟩
    rw [Tap.bytes_read hread]
    simp [Nat.add_assoc]

end ReverseTunnel
