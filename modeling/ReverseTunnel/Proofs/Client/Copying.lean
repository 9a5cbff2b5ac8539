import ReverseTunnel.Client.Relay
import ReverseTunnel.Proofs.Stream.Direction
import ReverseTunnel.Proofs.Stream.Reading

/-!
# Copies as directions

A copy reads one stream to its end and writes another. It is a direction of a bridge that nothing
interrupts: the source decides which pieces are read, the sink how much of them is written, and the
direction takes the steps that follow from both. So all that a direction keeps to is kept by a copy.

## Main results

* `reaches_of_write`, `reaches_of_readHead`: one write, and a head that is collected.
* `mirrors_copyFrom`: the loop.
* `mirrors_copyAs`: a copy from its beginning to its end.
-/

namespace ReverseTunnel

open Direction

variable {d d' d'' : Direction} {tap left : Tap} {sink : Sink} {bytes got : Bytes}

/-! ### What a direction can become -/

namespace Direction

/-- Whether some events make one direction of the other. -/
def Reaches (d d' : Direction) : Prop := ∃ events, d.run events = d'

/-- A direction reaches where it is, by no event at all. -/
theorem Reaches.refl (d : Direction) : d.Reaches d := ⟨[], rfl⟩

/-- What is reached after one event is reached. -/
theorem Reaches.after (event : Event) (h : (d.step event).Reaches d') : d.Reaches d' := by
  obtain ⟨events, rfl⟩ := h
  exact ⟨event :: events, rfl⟩

/-- What is reached from what is reached is reached. -/
theorem Reaches.trans (h : d.Reaches d') (h' : d'.Reaches d'') : d.Reaches d'' := by
  obtain ⟨events, rfl⟩ := h
  obtain ⟨events', rfl⟩ := h'
  exact ⟨events ++ events', List.foldl_append⟩

/-- A stream that takes anything takes the beginning of what is to be written, and the rest is to be
written still. -/
theorem step_write (hphase : d.phase = .writing bytes) {count : Nat} (hcount : count ≠ 0) :
    d.step (.write count) =
      { d with delivered := d.delivered ++ bytes.take count }.send (bytes.drop count) := by
  simp only [step, hphase, deliver, if_neg hcount]

end Direction

/-! ### One write -/

/-- What is taken whole is written at once and sent on its way. -/
theorem reaches_of_whole (d : Direction) (bytes : Bytes) :
    (d.send bytes).Reaches { d with delivered := d.delivered ++ bytes, phase := .reading } := by
  cases bytes with
  | nil =>
    rw [List.append_nil]
    exact .after .flushed (.refl _)
  | cons b bs =>
    refine .after (.write (b :: bs).length) ?_
    rw [step_write rfl (by simp), List.take_length, List.drop_length]
    exact .after .flushed (.refl _)

/-- Some of what is to be written is written before the writing fails. -/
theorem reaches_of_part (d : Direction) {room : Nat} (hroom : room < bytes.length) (e : IoError) :
    (d.send bytes).Reaches
      { d with delivered := d.delivered ++ bytes.take room, phase := .ended (.error e) } := by
  have hsend : d.send bytes = { d with phase := .writing bytes } := by
    cases bytes with
    | nil => cases hroom
    | cons b bs => rfl
  rw [hsend]
  cases room with
  | zero =>
    rw [List.take_zero, List.append_nil]
    exact .after (.writeFails e) (.refl _)
  | succ room =>
    refine .after (.write (room + 1)) ?_
    have hrest : bytes.drop (room + 1) ≠ [] := by
      rw [ne_eq, List.drop_eq_nil_iff]
      omega
    rw [step_write rfl (Nat.succ_ne_zero room)]
    refine .after (.writeFails e) ?_
    rw [send, if_neg (by simpa using hrest)]
    exact .refl _

/-- A direction writes what a sink takes, and fails if the sink does. -/
theorem reaches_of_write (d : Direction) (bytes : Bytes) (sink : Sink) :
    ∃ written, (sink.write bytes).2.written = sink.written ++ written ∧
      (d.send bytes).Reaches
        { d with
          delivered := d.delivered ++ written
          phase := match (sink.write bytes).1 with
            | .ok () => .reading
            | .error e => .ended (.error e) } := by
  unfold Sink.write
  split
  · exact ⟨bytes, rfl, reaches_of_whole d bytes⟩
  · rename_i room failure _
    refine ⟨bytes.take room, rfl, ?_⟩
    by_cases hroom : bytes.length ≤ room
    · rw [List.take_of_length_le hroom, if_pos hroom]
      exact reaches_of_whole d bytes
    · rw [if_neg hroom]
      exact reaches_of_part d (Nat.lt_of_not_le hroom) failure

/-! ### Reading -/

/-- A read shows what it returns to whoever watches. -/
theorem preview_of_read {limit : Nat} (h : tap.read limit = (.ok got, left)) :
    left.preview = tap.preview.map (·.push got) := by
  unfold Tap.read at h
  split at h
  · cases h
    rfl
  · cases h

/-- A read that fails shows nothing, and takes nothing away. -/
theorem of_failed_read {limit : Nat} {e : IoError} (h : tap.read limit = (.error e, left)) :
    left.preview = tap.preview ∧ tap.source.bytes = left.source.bytes := by
  unfold Tap.read at h
  split at h
  · cases h
  · rename_i e' source hread
    cases h
    refine ⟨rfl, ?_⟩
    unfold Source.read at hread
    split at hread
    · rename_i hnone
      obtain ⟨-, rfl⟩ := Prod.mk.inj hread
      exact Source.flatten_eq_nil_of_dropWhile hnone
    · cases hread

/-- A read returns no more than was asked for. -/
theorem length_le_of_read {limit : Nat} (h : tap.read limit = (.ok got, left)) :
    got.length ≤ limit := Source.length_le_of_read (Tap.source_read h)

/-- What a read returns is a piece in the sense of a direction, unless it is the end. -/
theorem isPiece_of_read {limit : Nat} (h : tap.read limit = (.ok got, left)) (hsome : got ≠ []) :
    isPiece limit got = true := by
  simpa [isPiece, hsome] using length_le_of_read h

/-- A direction that waits for a piece takes what a read returns, and is to write just that. -/
theorem step_read (hphase : d.phase = .reading) (hread : tap.read copyBufferSize = (.ok got, left))
    (hsome : got ≠ []) : d.step (.read got) = (d.take got).send got := by
  simp only [step, hphase, isPiece_of_read hread hsome, if_true]

/-- A head is collected by reading until there is something to write, or the source fails. -/
theorem reaches_of_readHead {read : Bytes} {scanned : Nat} (host : String)
    (hpreview : d.preview = tap.preview) (htaken : d.taken = read) :
    let run := readHead tap read scanned
    ∃ more, tap.source.bytes = more ++ run.tap.source.bytes ∧ (d.take more).taken = run.read ∧
      (d.take more).preview = run.tap.preview ∧
      (d.collect host scanned).Reaches
        (match run.length with
          | .ok length? => (d.take more).send (withHostIfComplete run.read length? host)
          | .error e => { d.take more with phase := .ended (.error e) }) := by
  -- Reading ends in the first four cases: with a complete head, with one that is too long, and when
  -- the source fails or ends. In the last one a piece is read, and reading goes on.
  fun_induction readHead tap read scanned generalizing d with
  | case1 tap read scanned n hfound =>
    subst htaken
    refine ⟨[], rfl, by rw [take_nil], by rw [take_nil, hpreview], ?_⟩
    rw [take_nil, collect, hfound]
    exact .refl _
  | case2 tap read scanned hfound hlimit =>
    subst htaken
    refine ⟨[], rfl, by rw [take_nil], by rw [take_nil, hpreview], ?_⟩
    simp only [take_nil, collect, hfound, if_pos hlimit]
    exact .refl _
  | case3 tap read scanned hfound hlimit e left hread =>
    subst htaken
    obtain ⟨hleft, hbytes⟩ := of_failed_read hread
    refine ⟨[], hbytes, by rw [take_nil], by rw [take_nil, hpreview, hleft], ?_⟩
    simp only [take_nil, collect, hfound, if_neg hlimit]
    exact .after (.readFails e) (.refl _)
  | case4 tap read scanned hfound hlimit left hread =>
    subst htaken
    have hleft := preview_of_read hread
    refine ⟨[], Tap.bytes_read hread, by rw [take_nil], ?_, ?_⟩
    · simpa [hpreview] using hleft.symm
    · simp only [take_nil, collect, hfound, if_neg hlimit]
      exact .after .eof (.refl _)
  | case5 tap read scanned hfound hlimit got left hread hsome _ ih =>
    subst htaken
    -- The direction reads the piece, and the rest is a head that is collected from there on.
    let waiting : Direction :=
      { d with phase := .collecting host (d.taken.length - (Head.terminator.length - 1)) }
    have hpreview' : (waiting.take got).preview = left.preview := by
      rw [preview_of_read hread, ← hpreview]
      rfl
    obtain ⟨more, hbytes, hread', hpreview'', hreaches⟩ := @ih (waiting.take got) hpreview' rfl
    refine ⟨got ++ more, ?_, ?_, ?_, ?_⟩
    · rw [Tap.bytes_read hread, hbytes, List.append_assoc]
    · rw [← hread', take_take]
      rfl
    · rw [← hpreview'', take_take]
      rfl
    · have hcollect : d.collect host scanned = waiting := by
        simp only [collect, hfound, if_neg hlimit, waiting]
      rw [hcollect]
      refine .after (.read got) ?_
      have hstep : waiting.step (.read got) = (waiting.take got).collect host
          (d.taken.length - (Head.terminator.length - 1)) := by
        simp only [step, waiting, isPiece_of_read hread hsome, if_true]
      rw [hstep]
      rw [take_take] at hreaches
      exact hreaches

/-! ### Copies -/

/-- Whether a direction ends as a copy does that starts with this source and this sink: with its
result and its count, with what it has shown to whoever watches, and with the same bytes read and
written. -/
structure Mirrors (d : Direction) (tap : Tap) (sink : Sink) (run : CopyRun) (d' : Direction) :
    Prop where
  reaches : d.Reaches d'
  phase_eq : d'.phase = .ended run.result
  counter_eq : d'.counter = run.counter
  preview_eq : d'.preview = run.tap.preview
  taken_eq : ∃ read, d'.taken = d.taken ++ read ∧ tap.source.bytes = read ++ run.tap.source.bytes
  delivered_eq : ∃ written, d'.delivered = d.delivered ++ written ∧
    run.sink.written = sink.written ++ written

/-- What a direction reads and writes first, and then the copy that it goes on with. -/
theorem Mirrors.after {run : CopyRun} {middle : Direction} {sink' : Sink} {written : Bytes}
    (hreaches : d.Reaches middle) (htaken : middle.taken = d.taken ++ got)
    (hbytes : tap.source.bytes = got ++ left.source.bytes)
    (hdelivered : middle.delivered = d.delivered ++ written)
    (hwritten : sink'.written = sink.written ++ written)
    (h : Mirrors middle left sink' run d') : Mirrors d tap sink run d' where
  reaches := hreaches.trans h.reaches
  phase_eq := h.phase_eq
  counter_eq := h.counter_eq
  preview_eq := h.preview_eq
  taken_eq := by
    obtain ⟨read, hread, hleft⟩ := h.taken_eq
    exact ⟨got ++ read, by rw [hread, htaken, List.append_assoc],
      by rw [hbytes, hleft, List.append_assoc]⟩
  delivered_eq := by
    obtain ⟨more, hmore, hsink⟩ := h.delivered_eq
    exact ⟨written ++ more, by rw [hmore, hdelivered, List.append_assoc],
      by rw [hsink, hwritten, List.append_assoc]⟩

/-- The loop of a copy is what a direction does that waits for the next piece. -/
theorem mirrors_copyFrom {counter total : Nat} (hphase : d.phase = .reading)
    (hcounter : d.counter = counter) (htotal : d.total = total)
    (hpreview : d.preview = tap.preview) :
    ∃ d', Mirrors d tap sink (copyFrom tap sink counter total) d' := by
  fun_induction copyFrom tap sink counter total generalizing d with
  | case1 tap sink counter total e left hread =>
    obtain ⟨hleft, hbytes⟩ := of_failed_read hread
    have hstep : d.step (.readFails e) = { d with phase := .ended (.error e) } := by
      simp only [step, hphase]
    exact ⟨_, .after (.readFails e) (.refl _), by rw [hstep], by rw [hstep, hcounter],
      by rw [hstep, hpreview, hleft], ⟨[], by simp [hstep], hbytes⟩, ⟨[], by simp [hstep], by simp⟩⟩
  | case2 tap sink counter total left hread =>
    have hleft := preview_of_read hread
    have hclosing : d.step .eof = { d with phase := .closing } := by simp only [step, hphase]
    have hstep : (d.step .eof).step .closed = { d with phase := .ended (.ok d.total) } := by
      rw [hclosing]
      rfl
    refine ⟨_, .after .eof (.after .closed (.refl _)), ?_, ?_, ?_, ?_, ?_⟩
    · rw [hstep, htotal]
    · rw [hstep, hcounter]
    · simpa [hstep, hpreview] using hleft.symm
    · exact ⟨[], by simp [hstep], Tap.bytes_read hread⟩
    · exact ⟨[], by simp [hstep], by simp [Sink.finish]⟩
  | case3 tap sink counter total got left hread hsome e sink' hwrite =>
    obtain ⟨written, hwritten, hreaches⟩ := reaches_of_write (d.take got) got sink
    rw [hwrite] at hwritten hreaches
    rw [← step_read hphase hread hsome] at hreaches
    have hleft := preview_of_read hread
    refine ⟨_, .after (.read got) hreaches, rfl, ?_, ?_, ⟨got, rfl, Tap.bytes_read hread⟩,
      ⟨written, rfl, hwritten⟩⟩
    · rw [← hcounter]
      rfl
    · rw [hleft, ← hpreview]
      rfl
  | case4 tap sink counter total got left hread hsome sink' hwrite _ ih =>
    obtain ⟨written, hwritten, hreaches⟩ := reaches_of_write (d.take got) got sink
    rw [hwrite] at hwritten hreaches
    rw [← step_read hphase hread hsome] at hreaches
    -- Behind the piece the direction waits for the next one, as the loop does with its new counts.
    let middle : Direction :=
      { d.take got with delivered := d.delivered ++ written, phase := .reading }
    have hcounter' : middle.counter = counter + got.length := by rw [← hcounter]; rfl
    have htotal' : middle.total = total + got.length := by rw [← htotal]; rfl
    have hpreview' : middle.preview = left.preview := by
      rw [preview_of_read hread, ← hpreview]
      rfl
    obtain ⟨d', hmirrors⟩ := @ih middle rfl hcounter' htotal' hpreview'
    exact ⟨d', hmirrors.after (.after (.read got) hreaches) rfl (Tap.bytes_read hread) rfl
      hwritten⟩

/-- A copy with another host is what a direction does that is to collect a head first. -/
theorem mirrors_copyWithHost (tap : Tap) (sink : Sink) (host : String) :
    ∃ d', Mirrors (start (some host) tap.preview) tap sink (copyWithHost tap sink host) d' := by
  have hstart : start (some host) tap.preview = (start none tap.preview).collect host 0 := rfl
  have hpreview : (start none tap.preview).preview = tap.preview := rfl
  obtain ⟨more, hbytes, hread, hleft, hreaches⟩ :=
    @reaches_of_readHead _ tap [] 0 host hpreview rfl
  let collected := (start none tap.preview).take more
  have hcounts := (counts_start none tap.preview).take rfl more
  rw [copyWithHost, hstart]
  generalize readHead tap [] 0 = head at *
  have hcounter : collected.counter = head.read.length := by rw [← hread]; exact hcounts.counter_eq
  have htotal : collected.total = head.read.length := by rw [← hread]; exact hcounts.total_eq
  cases hlength : head.length with
  | error e =>
    rw [hlength] at hreaches
    dsimp only
    exact ⟨_, hreaches, rfl, hcounter, hleft, ⟨more, rfl, hbytes⟩,
      ⟨[], rfl, (List.append_nil _).symm⟩⟩
  | ok length? =>
    rw [hlength] at hreaches
    dsimp only
    obtain ⟨written, hwritten, hwrites⟩ :=
      reaches_of_write collected (withHostIfComplete head.read length? host) sink
    generalize sink.write (withHostIfComplete head.read length? host) = write at hwritten hwrites ⊢
    obtain ⟨result, sink'⟩ := write
    cases result with
    | error e =>
      exact ⟨_, hreaches.trans hwrites, rfl, hcounter, hleft, ⟨more, rfl, hbytes⟩,
        ⟨written, rfl, hwritten⟩⟩
    | ok =>
      let middle : Direction :=
        { collected with delivered := collected.delivered ++ written, phase := .reading }
      obtain ⟨d', hmirrors⟩ :=
        @mirrors_copyFrom middle head.tap sink' _ _ rfl hcounter htotal hleft
      exact ⟨d', hmirrors.after (hreaches.trans hwrites) rfl hbytes rfl hwritten⟩

/-- **A copy is a direction that nothing interrupts.** -/
theorem mirrors_copyAs (host : Option String) (tap : Tap) (sink : Sink) :
    ∃ d', Mirrors (start host tap.preview) tap sink (Client.copyAs host tap sink) d' := by
  cases host with
  | none => exact mirrors_copyFrom rfl rfl rfl rfl
  | some host => exact mirrors_copyWithHost tap sink host

end ReverseTunnel
