import ReverseTunnel.Proofs.Client.Copying
import ReverseTunnel.Proofs.Stream.Bridge

/-!
# Watching changes nothing

Somebody who watches a visit sees the first bytes that come from the visitor and from the service.
What is read is shown on its way, and nothing looks at what was shown. So whoever forgets the
previews cannot tell a visit that is watched from one that is not: this holds of every step, and
so of every run. What was shown is the beginning of what was read, whatever is written for it.

## Main results

* `copyAs_unwatched`: a whole copy.
* `Bridge.run_unwatched`: a bridge, with any events.
* `watching_changes_nothing`: both, with what is shown.
-/

namespace ReverseTunnel

/-! ### Forgetting what is shown -/

/-- A source that nobody watches. -/
def Tap.unwatched (t : Tap) : Tap := { t with preview := none }

/-- What a copy left behind, without what was shown. -/
def CopyRun.unwatched (r : CopyRun) : CopyRun := { r with tap := r.tap.unwatched }

/-- The beginning of a stream, without what was shown. -/
def HeadRun.unwatched (r : HeadRun) : HeadRun := { r with tap := r.tap.unwatched }

/-- A direction that nobody watches. -/
def Direction.unwatched (d : Direction) : Direction := { d with preview := none }

/-- A bridge that nobody watches. -/
def Bridge.unwatched (b : Bridge) : Bridge :=
  { b with forward := b.forward.unwatched, backward := b.backward.unwatched }

variable {tap left : Tap} {limit : Nat} {result : Except IoError Bytes}

/-! ### Copies -/

/-- A read returns the same whether anybody watches or not. -/
theorem read_unwatched (h : tap.read limit = (result, left)) :
    tap.unwatched.read limit = (result, left.unwatched) := by
  unfold Tap.read at h ⊢
  split at h
  · rename_i got source hread
    cases h
    simp only [Tap.unwatched, hread, Option.map_none]
  · rename_i e source hread
    cases h
    simp only [Tap.unwatched, hread]

/-- One round of a copy. -/
theorem copyFrom_eq (tap : Tap) (sink : Sink) (counter total : Nat) :
    copyFrom tap sink counter total =
      match tap.read copyBufferSize with
      | (.error e, left) => ⟨left, sink, counter, .error e⟩
      | (.ok got, left) =>
        if got = [] then ⟨left, sink.finish, counter, .ok total⟩
        else
          match sink.write got with
          | (.error e, sink) => ⟨left, sink, counter + got.length, .error e⟩
          | (.ok (), sink) => copyFrom left sink (counter + got.length) (total + got.length) := by
  rw [copyFrom]
  split
  · rename_i hread
    simp only [hread]
  · rename_i hread
    simp only [hread]
    rfl

/-- A copy does the same whether anybody watches or not, from wherever it has come to. -/
theorem copyFrom_unwatched (tap : Tap) (sink : Sink) (counter total : Nat) :
    copyFrom tap.unwatched sink counter total = (copyFrom tap sink counter total).unwatched := by
  fun_induction copyFrom tap sink counter total with
  | case1 tap sink counter total e left hread =>
    rw [copyFrom_eq, read_unwatched hread]
    rfl
  | case2 tap sink counter total left hread =>
    rw [copyFrom_eq, read_unwatched hread]
    rfl
  | case3 tap sink counter total got left hread hsome e sink' hwrite =>
    simp only [copyFrom_eq, read_unwatched hread, if_neg hsome, hwrite]
    rfl
  | case4 tap sink counter total got left hread hsome sink' hwrite _ ih =>
    rw [copyFrom_eq, read_unwatched hread]
    simp only [if_neg hsome, hwrite]
    exact ih

/-- One round of collecting a head. -/
theorem readHead_eq (tap : Tap) (read : Bytes) (scanned : Nat) :
    readHead tap read scanned =
      match Head.lengthFrom? scanned read with
      | some n => ⟨tap, read, .ok (some n)⟩
      | none =>
        if read.length ≥ maxHeadLength then ⟨tap, read, .ok none⟩
        else
          match tap.read headBufferSize with
          | (.error e, left) => ⟨left, read, .error e⟩
          | (.ok got, left) =>
            if got = [] then ⟨left, read, .ok none⟩
            else readHead left (read ++ got) (read.length - (Head.terminator.length - 1)) := by
  rw [readHead]
  cases Head.lengthFrom? scanned read with
  | some n => rfl
  | none =>
    by_cases hlimit : read.length ≥ maxHeadLength
    · simp only [if_pos hlimit]
    · simp only [if_neg hlimit]
      split
      · rename_i hread
        simp only [hread]
      · rename_i hread
        simp only [hread]
        rfl

/-- A head is collected the same way whether anybody watches or not. -/
theorem readHead_unwatched (tap : Tap) (read : Bytes) (scanned : Nat) :
    readHead tap.unwatched read scanned = (readHead tap read scanned).unwatched := by
  fun_induction readHead tap read scanned with
  | case1 tap read scanned n hfound =>
    rw [readHead_eq, hfound]
    rfl
  | case2 tap read scanned hfound hlimit =>
    rw [readHead_eq, hfound]
    exact if_pos hlimit
  | case3 tap read scanned hfound hlimit e left hread =>
    rw [readHead_eq, hfound]
    simp only [if_neg hlimit, read_unwatched hread]
    rfl
  | case4 tap read scanned hfound hlimit left hread =>
    rw [readHead_eq, hfound]
    simp only [if_neg hlimit, read_unwatched hread]
    rfl
  | case5 tap read scanned hfound hlimit got left hread hsome _ ih =>
    rw [readHead_eq, hfound]
    simp only [if_neg hlimit, read_unwatched hread, if_neg hsome]
    exact ih

/-- A copy that changes the host does the same whether anybody watches or not. -/
theorem copyWithHost_unwatched (tap : Tap) (sink : Sink) (host : String) :
    copyWithHost tap.unwatched sink host = (copyWithHost tap sink host).unwatched := by
  unfold copyWithHost
  rw [readHead_unwatched]
  generalize readHead tap [] 0 = head
  cases hlength : head.length with
  | error e => simp only [HeadRun.unwatched, hlength, CopyRun.unwatched]
  | ok length? =>
    simp only [HeadRun.unwatched, hlength]
    generalize sink.write (withHostIfComplete head.read length? host) = write
    obtain ⟨result, sink'⟩ := write
    cases result with
    | error e => rfl
    | ok => exact copyFrom_unwatched head.tap sink' head.read.length head.read.length

/-- A copy does the same if nobody watches. -/
theorem copyAs_unwatched (host : Option String) (tap : Tap) (sink : Sink) :
    Client.copyAs host tap.unwatched sink = (Client.copyAs host tap sink).unwatched := by
  cases host with
  | none => exact copyFrom_unwatched tap sink 0 0
  | some host => exact copyWithHost_unwatched tap sink host

/-! ### Bridges -/

namespace Direction

/-- Collecting a head in one direction of a bridge is the same without a watcher. -/
theorem collect_unwatched (d : Direction) (host : String) (scanned : Nat) :
    (d.collect host scanned).unwatched = d.unwatched.collect host scanned := by
  have htaken : d.unwatched.taken = d.taken := rfl
  rw [collect, collect, htaken]
  split
  · rfl
  · split
    · rfl
    · rfl

/-- So is writing. -/
theorem deliver_unwatched (d : Direction) (pending : Bytes) (count : Nat) :
    (d.deliver pending count).unwatched = d.unwatched.deliver pending count := by
  rw [deliver, deliver]
  split
  · rfl
  · rfl

/-- An event does the same if nobody watches: a read pushes to what is shown, and looks at nothing
of it. -/
theorem step_unwatched (d : Direction) (event : Event) :
    (d.step event).unwatched = d.unwatched.step event := by
  have hphase : d.unwatched.phase = d.phase := rfl
  unfold step
  rw [hphase]
  split
  -- A piece of a head, a piece and a write are looked at further; all else is as it was.
  case h_4 host scanned bytes _ =>
    split
    · exact collect_unwatched (d.take bytes) host scanned
    · rfl
  case h_7 bytes _ =>
    split
    · rfl
    · rfl
  case h_10 pending count _ => exact deliver_unwatched d pending count
  all_goals rfl

/-- So is being stopped. -/
theorem halt_unwatched (d : Direction) : d.halt.unwatched = d.unwatched.halt := by
  have hphase : d.unwatched.phase = d.phase := rfl
  rw [halt, halt, hphase]
  split
  · rfl
  · rfl

end Direction

namespace Bridge

/-- Each event does the same to a bridge that nobody watches. -/
theorem step_unwatched (b : Bridge) (event : Event) :
    (b.step event).unwatched = b.unwatched.step event := by
  cases event with
  | cancel => rfl
  | forward event =>
    simp only [step, unwatched, Direction.step_unwatched]
  | backward event =>
    simp only [step, unwatched, Direction.step_unwatched]
  | observe =>
    have hphase : b.unwatched.phase = b.phase := rfl
    have hseen : b.unwatched.seen? = b.seen? := rfl
    rw [step, step, hphase, hseen]
    split
    · rfl
    · rfl
  | haltForward | haltBackward =>
    have hrunning : b.unwatched.isRunning = b.isRunning := rfl
    rw [step, step, hrunning]
    split
    · rfl
    · simp only [unwatched, Direction.halt_unwatched]
  | «return» =>
    have hphase : b.unwatched.phase = b.phase := rfl
    rw [step, step, hphase]
    split
    · rfl
    · rfl

/-- So do all events, one after another. -/
theorem run_unwatched (b : Bridge) (events : List Event) :
    (b.run events).unwatched = b.unwatched.run events := by
  induction events generalizing b with
  | nil => rfl
  | cons event events ih =>
    rw [show b.run (event :: events) = (b.step event).run events from rfl, ih, step_unwatched]
    rfl

end Bridge

/-! ### Visits -/

open Client

/-- What a copy has shown is the beginning of what it has read, and it has counted all of that. -/
theorem exists_read_copyAs (host : Option String) (source : Source) (sink : Sink)
    (limit : Option Nat) :
    let run := copyAs host ⟨source, limit.map ({ limit := · })⟩ sink
    ∃ read, source.bytes = read ++ run.tap.source.bytes ∧ run.counter = read.length ∧
      run.tap.preview = limit.map fun limit => ⟨limit, read.take limit⟩ := by
  obtain ⟨d, hmirrors⟩ := mirrors_copyAs host ⟨source, limit.map ({ limit := · })⟩ sink
  obtain ⟨read, hread, hbytes⟩ := hmirrors.taken_eq
  obtain ⟨events, rfl⟩ := hmirrors.reaches
  have hcounts := Direction.counts_run host (limit.map ({ limit := · })) events
  have hshows := Direction.shows_run host limit events
  refine ⟨read, hbytes, ?_, ?_⟩
  · rw [← hmirrors.counter_eq, hcounts.counter_eq, hread]
    rfl
  · rw [Direction.Shows, hread] at hshows
    exact hmirrors.preview_eq.symm.trans hshows

/-- What a bridge of a visit has shown is the beginning of what it has read. -/
theorem bridge_shows (s : RelaySettings) (events : List Bridge.Event) :
    (s.bridge.run events).forward.Shows s.previewLimit ∧
      (s.bridge.run events).backward.Shows s.previewLimit :=
  Bridge.run_induction (fun hadvance h => h.advance hadvance)
    (Direction.shows_start s.host s.previewLimit) (Direction.shows_start none s.previewLimit) events

/-- **Watching changes nothing.** Whatever comes from a source, in whatever pieces, whatever the
sink takes, and with another host or without, a copy that is watched writes, counts and returns what
it does if nobody watches, and leaves the same behind. So does a bridge of a visit, whatever happens
at it and in whatever order, at every moment. What is shown is what was read, up to the limit, as it
came. -/
theorem watching_changes_nothing :
    (∀ (host : Option String) (source : Source) (sink : Sink) (limit : Nat),
      let plain := copyAs host ⟨source, none⟩ sink
      let watched := copyAs host ⟨source, some { limit }⟩ sink
      (watched.sink = plain.sink ∧ watched.counter = plain.counter ∧
        watched.result = plain.result ∧ watched.tap.source = plain.tap.source) ∧
      ∃ read, source.bytes = read ++ watched.tap.source.bytes ∧ watched.counter = read.length ∧
        watched.tap.preview = some ⟨limit, read.take limit⟩) ∧
    ∀ (s : RelaySettings) (events : List Bridge.Event),
      let plain := ({ s with previewLimit := none } : RelaySettings).bridge.run events
      let watched := s.bridge.run events
      watched.unwatched = plain ∧ watched.forward.Shows s.previewLimit ∧
        watched.backward.Shows s.previewLimit := by
  refine ⟨fun host source sink limit => ⟨?_, ?_⟩, fun s events => ⟨?_, bridge_shows s events⟩⟩
  · have hplain : copyAs host ⟨source, none⟩ sink =
        (copyAs host ⟨source, some { limit }⟩ sink).unwatched :=
      copyAs_unwatched host ⟨source, some { limit }⟩ sink
    rw [hplain]
    exact ⟨rfl, rfl, rfl, rfl⟩
  · exact exists_read_copyAs host source sink (some limit)
  · exact Bridge.run_unwatched s.bridge events

end ReverseTunnel
