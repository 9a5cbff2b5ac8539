import ReverseTunnel.Stream.Direction

/-!
# What a direction keeps to

Whatever happens in one direction of a bridge, and wherever it is stopped, it has counted the bytes
that it read, and whoever watches it has seen the first of them. If it passes the stream on as it
is, what it has written is the beginning of what it has read, behind by no more than one piece.

An event can do only a few things to a direction. They are told once, and each of the three facts
is kept by every one of them. What a direction has read and written is more than a pair of texts
that fit together: it is what the events brought and what they took, one after another. That is said
of every history, whatever the direction does with the bytes and wherever it is stopped.

## Main results

* `advance_step`: what an event can do.
* `books_step`, `Ledger`: what a direction has read and written is what happened in it.
* `counts_run`, `shows_run`: what every direction keeps.
* `Faithful`: what a direction keeps that passes the stream on as it is.
-/

namespace ReverseTunnel

/-! ### What is shown -/

namespace Preview

/-- Showing nothing changes nothing. -/
@[simp] theorem push_nil (p : Preview) : p.push [] = p := by simp [push]

/-- Showing bytes piece by piece is showing them at once, also where they do not all fit. -/
theorem push_push (p : Preview) (bytes bytes' : Bytes) :
    (p.push bytes).push bytes' = p.push (bytes ++ bytes') := by
  have hroom : p.limit - (p.data.length + min (p.limit - p.data.length) bytes.length) =
      p.limit - p.data.length - bytes.length := by omega
  simp only [push, List.take_append, List.length_append, List.length_take, hroom,
    List.append_assoc]

/-- A preview that holds what it can hold of some bytes still does when more bytes pass. -/
theorem push_take (limit : Nat) (shown bytes : Bytes) :
    (⟨limit, shown.take limit⟩ : Preview).push bytes = ⟨limit, (shown ++ bytes).take limit⟩ := by
  have hroom : limit - min limit shown.length = limit - shown.length := by omega
  simp only [push, List.take_append, List.length_take, hroom]

end Preview

namespace Direction

/-! ### What an event can do -/

/-- Whether a direction is over. -/
def Phase.isOver : Phase → Bool
  | .ended _ | .halted => true
  | _ => false

/-- What can become of a direction at once. -/
inductive Advance (d : Direction) : Direction → Prop
  /-- Nothing changes. -/
  | stays : Advance d d
  /-- A piece of the head is read, and goes on if the head is complete or too long. -/
  | collects {host : String} {scanned : Nat} (hphase : d.phase = .collecting host scanned)
      (bytes : Bytes) : Advance d ((d.take bytes).collect host scanned)
  /-- The stream ends within the head, which goes on as it is. -/
  | givesUp {host : String} {scanned : Nat} (hphase : d.phase = .collecting host scanned) :
      Advance d (d.send d.taken)
  /-- A piece is read. -/
  | reads {bytes : Bytes} (hphase : d.phase = .reading) (hlength : bytes.length ≤ copyBufferSize) :
      Advance d ((d.take bytes).send bytes)
  /-- Some of what is to be written is written. -/
  | writes {pending : Bytes} (hphase : d.phase = .writing pending) (count : Nat) :
      Advance d
        ({ d with delivered := d.delivered ++ pending.take count }.send (pending.drop count))
  /-- What was written is on its way. -/
  | goesOn (hphase : d.phase = .flushing) : Advance d { d with phase := .reading }
  /-- The stream has ended. -/
  | closes (hphase : d.phase = .reading) : Advance d { d with phase := .closing }
  /-- The end was passed on. -/
  | completes (hphase : d.phase = .closing) : Advance d { d with phase := .ended (.ok d.total) }
  /-- Something failed. -/
  | fails (hphase : d.phase.isOver = false) (e : IoError) :
      Advance d { d with phase := .ended (.error e) }
  /-- It was stopped. -/
  | stops (hphase : ∀ result, d.phase ≠ .ended result) : Advance d { d with phase := .halted }

variable {d d' : Direction} {events : List Event} {bytes pending owed : Bytes}
  {limit : Option Nat} {outcome : Except TunnelError Unit}

/-- What becomes of a direction when the stream accepts some of what is to be written, or nothing.
-/
theorem advance_deliver (hphase : d.phase = .writing pending) (count : Nat) :
    Advance d (d.deliver pending count) := by
  unfold deliver
  split
  · exact .fails (by rw [hphase]; rfl) .writeZero
  · exact .writes hphase count

/-- **What an event can do.** -/
theorem advance_step (d : Direction) (event : Event) : Advance d (d.step event) := by
  unfold step
  split
  · exact .stays
  · exact .stays
  · rename_i hended hhalted
    refine .fails ?_ _
    cases hphase : d.phase with
    | ended result => exact absurd hphase (hended result)
    | halted => exact absurd hphase hhalted
    | _ => rfl
  · rename_i hphase
    split
    · exact .collects hphase _
    · exact .stays
  · rename_i hphase
    exact .givesUp hphase
  · rename_i hphase
    exact .fails (by rw [hphase]; rfl) _
  · rename_i hphase
    split
    · rename_i hpiece
      exact .reads hphase (of_decide_eq_true (Bool.and_eq_true_iff.mp hpiece).2)
    · exact .stays
  · rename_i hphase
    exact .closes hphase
  · rename_i hphase
    exact .fails (by rw [hphase]; rfl) _
  · rename_i hphase
    exact advance_deliver hphase _
  · rename_i hphase
    exact .fails (by rw [hphase]; rfl) _
  · rename_i hphase
    exact .goesOn hphase
  · rename_i hphase
    exact .fails (by rw [hphase]; rfl) _
  · rename_i hphase
    exact .completes hphase
  · rename_i hphase
    exact .completes hphase
  · exact .stays

/-- What becomes of a direction that is stopped. -/
theorem advance_halt (d : Direction) : Advance d d.halt := by
  unfold halt
  split
  · exact .stays
  · rename_i hphase
    exact .stops hphase

/-- What every change at once keeps is kept by every run. -/
theorem run_induction {P : Direction → Prop} (hkept : ∀ {d d'}, Advance d d' → P d → P d')
    (h : P d) (events : List Event) : P (d.run events) := by
  induction events generalizing d with
  | nil => exact h
  | cons event events ih => exact ih (hkept (advance_step d event) h)

/-- A direction that has something to write is not over, and neither is one that has nothing. -/
theorem isOver_send (d : Direction) (bytes : Bytes) : (d.send bytes).phase.isOver = false := by
  unfold send
  split <;> rfl

/-- Collecting goes on, or what was collected does. -/
theorem collect_eq (d : Direction) (host : String) (scanned : Nat) :
    ∃ phase : Phase, phase.isOver = false ∧ d.collect host scanned = { d with phase } := by
  unfold collect
  split
  · exact ⟨_, isOver_send d _, rfl⟩
  · split
    · exact ⟨_, isOver_send d _, rfl⟩
    · exact ⟨_, rfl, rfl⟩

/-- Reading nothing changes nothing. -/
@[simp] theorem take_nil (d : Direction) : d.take [] = d := by
  simp [take]

/-- Reading in two pieces is reading both at once. -/
theorem take_take (d : Direction) (bytes bytes' : Bytes) :
    (d.take bytes).take bytes' = d.take (bytes ++ bytes') := by
  simp [take, Function.comp_def, Preview.push_push, Nat.add_assoc]

/-! ### What the events are -/

/-- The bytes that an event has a direction read in a phase: a piece that arrives while the
direction waits for one, and that is no more than it asked for. -/
def Phase.received : Phase → Event → Bytes
  | .collecting _ _, .read bytes => if isPiece headBufferSize bytes then bytes else []
  | .reading, .read bytes => if isPiece copyBufferSize bytes then bytes else []
  | _, _ => []

/-- The bytes that an event has a direction write in a phase: as many of those that are to be
written as the stream accepts. -/
def Phase.accepted : Phase → Event → Bytes
  | .writing pending, .write count => pending.take count
  | _, _ => []

/-- Taking up bytes to write reads nothing. -/
@[simp] theorem taken_send (d : Direction) (bytes : Bytes) : (d.send bytes).taken = d.taken := rfl

/-- Taking up bytes to write writes none of them yet. -/
@[simp] theorem delivered_send (d : Direction) (bytes : Bytes) :
    (d.send bytes).delivered = d.delivered := rfl

/-- Collecting a head reads nothing and writes nothing. -/
theorem books_collect (d : Direction) (host : String) (scanned : Nat) :
    (d.collect host scanned).taken = d.taken ∧ (d.collect host scanned).delivered = d.delivered := by
  obtain ⟨phase, -, heq⟩ := collect_eq d host scanned
  rw [heq]
  exact ⟨rfl, rfl⟩

/-- Writing reads nothing, and what it writes is what the stream accepts. -/
theorem books_deliver (d : Direction) (pending : Bytes) (count : Nat) :
    (d.deliver pending count).taken = d.taken ∧
      (d.deliver pending count).delivered = d.delivered ++ pending.take count := by
  unfold deliver
  split
  · rename_i hzero
    rw [hzero, List.take_zero, List.append_nil]
    exact ⟨rfl, rfl⟩
  · exact ⟨rfl, rfl⟩

/-- **One event in the books.** A direction has read what the event brings it and written what the
event takes from it, and nothing else. -/
theorem books_step (d : Direction) (event : Event) :
    (d.step event).taken = d.taken ++ d.phase.received event ∧
      (d.step event).delivered = d.delivered ++ d.phase.accepted event := by
  cases hphase : d.phase with
  | collecting host scanned =>
    cases event with
    | read bytes =>
      simp only [step, hphase, Phase.received, Phase.accepted, List.append_nil]
      split
      · exact books_collect (d.take bytes) host scanned
      · exact ⟨(List.append_nil _).symm, rfl⟩
    | _ => simp [step, hphase, Phase.received, Phase.accepted]
  | reading =>
    cases event with
    | read bytes =>
      simp only [step, hphase, Phase.received, Phase.accepted, List.append_nil]
      split
      · exact ⟨rfl, rfl⟩
      · exact ⟨(List.append_nil _).symm, rfl⟩
    | _ => simp [step, hphase, Phase.received, Phase.accepted]
  | writing pending =>
    cases event with
    | write count =>
      simpa [step, hphase, Phase.received, Phase.accepted] using books_deliver d pending count
    | _ => simp [step, hphase, Phase.received, Phase.accepted]
  | flushing | closing | ended | halted =>
    cases event <;> simp [step, hphase, Phase.received, Phase.accepted]

/-- What happened in a direction so far: each event, with the phase in which it came. -/
abbrev History := List (Phase × Event)

/-- Whether the books of a direction are what happened in it: it has read the pieces that arrived,
joined in their order, and written what was accepted of them, piece by piece. -/
structure Ledger (history : History) (d : Direction) : Prop where
  taken_eq : d.taken = history.flatMap fun (phase, event) => phase.received event
  delivered_eq : d.delivered = history.flatMap fun (phase, event) => phase.accepted event

variable {history : History}

/-- A direction begins with empty books. -/
theorem ledger_start (host : Option String) (preview : Option Preview) :
    (start host preview).Ledger [] := ⟨rfl, rfl⟩

/-- Each event is entered into the books. -/
theorem Ledger.step (h : d.Ledger history) (event : Event) :
    (d.step event).Ledger (history ++ [(d.phase, event)]) := by
  obtain ⟨htaken, hdelivered⟩ := books_step d event
  constructor
  · rw [htaken, h.taken_eq, List.flatMap_append, List.flatMap_singleton]
  · rw [hdelivered, h.delivered_eq, List.flatMap_append, List.flatMap_singleton]

/-- A stop leaves the books as they are, so nothing is lost or added by an interruption. -/
theorem Ledger.halt (h : d.Ledger history) : d.halt.Ledger history := by
  unfold Direction.halt
  split
  · exact h
  · exact ⟨h.taken_eq, h.delivered_eq⟩

/-! ### What every direction keeps -/

/-- Whether all that was read is counted, and the result, if there is one, is the count. -/
structure Counts (d : Direction) : Prop where
  counter_eq : d.counter = d.taken.length
  total_eq : d.total = d.taken.length
  result_eq : ∀ total, d.phase = .ended (.ok total) → total = d.taken.length

/-- At the start nothing is read and nothing is counted. -/
theorem counts_start (host : Option String) (preview : Option Preview) :
    (start host preview).Counts where
  counter_eq := rfl
  total_eq := rfl
  result_eq := fun total h => by cases host <;> cases h

/-- A phase that is not over is no end, of whatever result. -/
theorem Phase.ne_ended {phase : Phase} (h : phase.isOver = false) (result : Except IoError Nat) :
    phase ≠ .ended result := by
  rintro rfl
  cases h

/-- The count stays right in another phase, if that ends with no other result than the count. -/
theorem Counts.enter (h : d.Counts) {phase : Phase}
    (hresult : ∀ total, phase = .ended (.ok total) → total = d.taken.length) :
    Counts { d with phase } where
  counter_eq := h.counter_eq
  total_eq := h.total_eq
  result_eq := hresult

/-- The count stays right in every phase that is not over. -/
theorem Counts.goOn (h : d.Counts) {phase : Phase} (hphase : phase.isOver = false) :
    Counts { d with phase } :=
  h.enter fun _ hended => absurd hended (Phase.ne_ended hphase _)

/-- What is read is counted as it is read. -/
theorem Counts.take (h : d.Counts) (hphase : d.phase.isOver = false) (bytes : Bytes) :
    (d.take bytes).Counts where
  counter_eq := by simp [Direction.take, h.counter_eq]
  total_eq := by simp [Direction.take, h.total_eq]
  result_eq := fun _ hended => absurd hended (Phase.ne_ended hphase _)

/-- The count stays right with whatever is taken up to be written. -/
theorem Counts.send (h : d.Counts) (bytes : Bytes) : (d.send bytes).Counts :=
  h.goOn (isOver_send d bytes)

/-- Nothing that can become of a direction spoils the count. -/
theorem Counts.advance (h : d.Counts) (hadvance : Advance d d') : d'.Counts := by
  cases hadvance with
  | stays => exact h
  | @collects host scanned hphase bytes =>
    obtain ⟨phase, hopen, heq⟩ := collect_eq (d.take bytes) host scanned
    rw [heq]
    exact (h.take (by rw [hphase]; rfl) bytes).goOn hopen
  | givesUp => exact h.send d.taken
  | @reads bytes hphase => exact (h.take (by rw [hphase]; rfl) bytes).send bytes
  | @writes pending hphase count =>
    have hwritten : Counts { d with delivered := d.delivered ++ pending.take count } :=
      ⟨h.counter_eq, h.total_eq, h.result_eq⟩
    exact hwritten.send _
  | completes => exact h.enter fun total heq => by cases heq; exact h.total_eq
  | goesOn | closes | fails | stops => exact h.enter fun _ heq => by cases heq

/-- Every direction has counted what it has read. -/
theorem counts_run (host : Option String) (preview : Option Preview) (events : List Event) :
    ((start host preview).run events).Counts :=
  run_induction (fun hadvance h => h.advance hadvance) (counts_start host preview) events

/-- Whether whoever watches has seen the first bytes that were read, as many as the limit allows. -/
def Shows (limit : Option Nat) (d : Direction) : Prop :=
  d.preview = limit.map fun limit => ⟨limit, d.taken.take limit⟩

/-- What is read is shown as far as there is room for it. -/
theorem Shows.take (h : d.Shows limit) (bytes : Bytes) : (d.take bytes).Shows limit := by
  rw [Shows] at h
  rw [Shows, Direction.take, h, Option.map_map]
  exact congrArg (Option.map · limit) (funext fun limit => Preview.push_take limit d.taken bytes)

/-- Nothing that can become of a direction spoils what is shown. -/
theorem Shows.advance (h : d.Shows limit) (hadvance : Advance d d') : d'.Shows limit := by
  cases hadvance with
  | @collects host scanned hphase bytes =>
    obtain ⟨phase, -, heq⟩ := collect_eq (d.take bytes) host scanned
    rw [heq]
    exact h.take bytes
  | @reads bytes => exact h.take bytes
  | stays | givesUp | writes | goesOn | closes | completes | fails | stops => exact h

/-- At the start nothing is read and nothing is shown. -/
theorem shows_start (host : Option String) (limit : Option Nat) :
    (start host (limit.map ({ limit := · }))).Shows limit := by
  simp [Shows, start]

/-- Every direction has shown the beginning of what it has read. -/
theorem shows_run (host : Option String) (limit : Option Nat) (events : List Event) :
    ((start host (limit.map ({ limit := · }))).run events).Shows limit :=
  run_induction (fun hadvance h => h.advance hadvance) (shows_start host limit) events

/-! ### What a direction keeps that passes the stream on as it is -/

/-- Whether these can be the bytes that were read and not written, in a phase. -/
def Phase.Owes : Phase → Bytes → Prop
  | .collecting _ _, _ => False
  | .writing pending, owed => owed = pending ∧ owed.length ≤ copyBufferSize
  | .ended (.error _), owed | .halted, owed => owed.length ≤ copyBufferSize
  | .reading, owed | .flushing, owed | .closing, owed | .ended (.ok _), owed => owed = []

/-- In no phase are more bytes owed than a single piece has. -/
theorem Phase.Owes.length_le {phase : Phase} (h : phase.Owes owed) :
    owed.length ≤ copyBufferSize := by
  unfold Owes at h
  split at h
  · cases h
  · exact h.2
  · exact h
  · exact h
  all_goals exact h ▸ Nat.zero_le _

/-- Whether the writing is behind the reading by no more than the phase allows. -/
def InStep (d : Direction) : Prop := ∃ owed, d.taken = d.delivered ++ owed ∧ d.phase.Owes owed

/-- At the start nothing is owed. -/
theorem inStep_start (preview : Option Preview) : (start none preview).InStep := ⟨[], rfl, rfl⟩

/-- If the bytes that are taken up are all that is missing, and no more than a piece, the writing is
in step. -/
theorem inStep_send (htaken : d.taken = d.delivered ++ bytes)
    (hlength : bytes.length ≤ copyBufferSize) : (d.send bytes).InStep := by
  refine ⟨bytes, htaken, ?_⟩
  unfold send
  split
  · rename_i hempty
    exact List.isEmpty_iff.mp hempty
  · exact ⟨rfl, hlength⟩

/-- Nothing that can become of a direction brings it out of step: bytes are owed when they are read,
and are no longer when they are written. -/
theorem InStep.advance (h : d.InStep) (hadvance : Advance d d') : d'.InStep := by
  obtain ⟨owed, htaken, howes⟩ := h
  cases hadvance with
  | stays => exact ⟨owed, htaken, howes⟩
  | collects hphase | givesUp hphase => rw [hphase] at howes; cases howes
  | @reads bytes hphase hlength =>
    rw [hphase] at howes
    obtain rfl : owed = [] := howes
    exact inStep_send (by simpa [Direction.take] using htaken) hlength
  | @writes pending hphase count =>
    rw [hphase] at howes
    obtain ⟨rfl, hlength⟩ : owed = pending ∧ owed.length ≤ copyBufferSize := howes
    have hrest : (owed.drop count).length ≤ owed.length := by simp
    refine inStep_send ?_ (Nat.le_trans hrest hlength)
    rw [List.append_assoc, List.take_append_drop]
    exact htaken
  | goesOn hphase | closes hphase | completes hphase =>
    rw [hphase] at howes
    exact ⟨owed, htaken, howes⟩
  | fails | stops => exact ⟨owed, htaken, howes.length_le⟩

/-- What a direction is to be that passes the stream on as it is: what it has written is the
beginning of what it has read, in order and once. It has counted what it has read, and is behind by
no more than one piece. If it has ended without a failure, all is written, and its result is the
count. -/
structure Faithful (d : Direction) : Prop where
  delivered_prefix : d.delivered <+: d.taken
  counter_eq : d.counter = d.taken.length
  counter_le : d.counter ≤ d.delivered.length + copyBufferSize
  complete : ∀ total, d.phase = .ended (.ok total) → d.delivered = d.taken ∧ total = d.counter

/-- A direction that counts what it reads and is in step passes the stream on faithfully. -/
theorem faithful_of_inStep (hcounts : d.Counts) (h : d.InStep) : d.Faithful := by
  obtain ⟨owed, htaken, howes⟩ := h
  refine ⟨⟨owed, htaken.symm⟩, hcounts.counter_eq, ?_, fun total hended => ?_⟩
  · have := howes.length_le
    rw [hcounts.counter_eq, htaken, List.length_append]
    omega
  · rw [hended] at howes
    obtain rfl : owed = [] := howes
    refine ⟨by rw [htaken, List.append_nil], ?_⟩
    rw [hcounts.result_eq total hended, hcounts.counter_eq]

/-! ### Ends -/

/-- A direction that has ended stays as it is. -/
theorem eq_of_advance (hended : d.outcome? = some outcome) (h : Advance d d') : d' = d := by
  obtain ⟨result, hresult⟩ : ∃ result, d.phase = .ended result := by
    unfold outcome? at hended
    split at hended
    · exact ⟨_, ‹_›⟩
    · exact ⟨_, ‹_›⟩
    · cases hended
  cases h with
  | stays => rfl
  | fails hphase => rw [hresult] at hphase; cases hphase
  | stops hphase => exact absurd hresult (hphase result)
  | collects hphase | givesUp hphase | reads hphase | writes hphase | goesOn hphase | closes hphase
  | completes hphase => rw [hresult] at hphase; cases hphase

end Direction
end ReverseTunnel
