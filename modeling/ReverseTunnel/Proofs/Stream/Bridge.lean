import Mathlib.Data.List.Induction
import ReverseTunnel.Proofs.Stream.Direction
import ReverseTunnel.Stream.Bridge

/-!
# What a bridge returns

The task that watches a bridge looks at it again and again, and returns once a look has found it
cancelled or one of its directions over. Time counts in looks: two directions that one look finds
over have ended together, and the direction forward is ahead. Until the watching task returns it is
not too late for a cancellation.

The invariant is on all looks so far. While the bridge goes on they have found nothing; once it is
to stop, the last of them has found what is to be returned.

## Main results

* `touches_step`: what an event does to the two directions.
* `faithful_run`: what both directions keep that pass the streams on as they are.
* `ledger_run`: what they have read and written is what happened in them.
* `FinishedFirst`: which direction has ended first, and how; `FinishedFirst.unique`.
* `returns_run`: what is returned.
* `bridging_never_corrupts`: both together, for every interleaving.
-/

namespace ReverseTunnel
namespace Bridge

open Direction (Advance)

variable {start b b' : Bridge} {event : Event} {events : List Event}
  {outcome result : Except TunnelError Unit}

/-! ### The directions -/

/-- The event in the direction forward that an event of a bridge is, if it is one. -/
def Event.forward? : Event → Option Direction.Event
  | .forward event => some event
  | _ => none

/-- The event in the direction backward that an event of a bridge is, if it is one. -/
def Event.backward? : Event → Option Direction.Event
  | .backward event => some event
  | _ => none

/-- What an event of a bridge can do to one of its directions: one that is the direction's own is a
step of it, and any other leaves it as it is or stops it. -/
inductive Touches (own? : Option Direction.Event) (d : Direction) : Direction → Prop
  | own {event : Direction.Event} (h : own? = some event) : Touches own? d (d.step event)
  | leaves (h : own? = none) : Touches own? d d
  | stops (h : own? = none) : Touches own? d d.halt

/-- **What an event does to the two directions.** All that is said of a direction below goes through
this. -/
theorem touches_step (b : Bridge) (event : Event) :
    Touches event.forward? b.forward (b.step event).forward ∧
      Touches event.backward? b.backward (b.step event).backward := by
  cases event with
  | forward event => exact ⟨.own rfl, .leaves rfl⟩
  | backward event => exact ⟨.leaves rfl, .own rfl⟩
  | cancel => exact ⟨.leaves rfl, .leaves rfl⟩
  | haltForward =>
    rw [step]
    split
    · exact ⟨.leaves rfl, .leaves rfl⟩
    · exact ⟨.stops rfl, .leaves rfl⟩
  | haltBackward =>
    rw [step]
    split
    · exact ⟨.leaves rfl, .leaves rfl⟩
    · exact ⟨.leaves rfl, .stops rfl⟩
  | observe | «return» =>
    rw [step]
    split
    · exact ⟨.leaves rfl, .leaves rfl⟩
    · exact ⟨.leaves rfl, .leaves rfl⟩

/-- Whatever an event does to a direction is what can become of it at once. -/
theorem Touches.advance {own? : Option Direction.Event} {d d' : Direction}
    (h : Touches own? d d') : Advance d d' := by
  cases h with
  | own => exact Direction.advance_step d _
  | leaves => exact .stays
  | stops => exact Direction.advance_halt d

/-- An event does to each direction what can become of a direction at once. -/
theorem advance_step (b : Bridge) (event : Event) :
    Advance b.forward (b.step event).forward ∧ Advance b.backward (b.step event).backward :=
  ⟨(touches_step b event).1.advance, (touches_step b event).2.advance⟩

/-- What every change of a direction keeps is kept of both. -/
theorem run_induction {P : Direction → Prop} (hkept : ∀ {d d'}, Advance d d' → P d → P d')
    (hforward : P b.forward) (hbackward : P b.backward) (events : List Event) :
    P (b.run events).forward ∧ P (b.run events).backward := by
  induction events generalizing b with
  | nil => exact ⟨hforward, hbackward⟩
  | cons event events ih =>
    obtain ⟨hadvance, hadvance'⟩ := advance_step b event
    exact ih (hkept hadvance hforward) (hkept hadvance' hbackward)

/-- Both directions keep to what they read, if they pass the streams on as they are. -/
theorem faithful_run (preview preview' : Option Preview) (cancelled : Bool) (events : List Event) :
    let start : Bridge :=
      { forward := .start none preview, backward := .start none preview', cancelled }
    (start.run events).forward.Faithful ∧ (start.run events).backward.Faithful := by
  intro start
  have hkept : ∀ {d d'}, Advance d d' → d.Counts ∧ d.InStep → d'.Counts ∧ d'.InStep :=
    fun hadvance h => ⟨h.1.advance hadvance, h.2.advance hadvance⟩
  have hforward : start.forward.Counts ∧ start.forward.InStep :=
    ⟨Direction.counts_start none preview, Direction.inStep_start preview⟩
  have hbackward : start.backward.Counts ∧ start.backward.InStep :=
    ⟨Direction.counts_start none preview', Direction.inStep_start preview'⟩
  obtain ⟨⟨hcounts, hstep⟩, hcounts', hstep'⟩ := run_induction hkept hforward hbackward events
  exact ⟨Direction.faithful_of_inStep hcounts hstep, Direction.faithful_of_inStep hcounts' hstep'⟩

/-! ### The books of the directions -/

/-- What happens in one direction of a bridge, and in which phases of it. The direction is `of`, and
`own?` gives the events that are its own. -/
def history (of : Bridge → Direction) (own? : Event → Option Direction.Event) (b : Bridge) :
    List Event → Direction.History
  | [] => []
  | event :: events =>
    (own? event).toList.map ((of b).phase, ·) ++ history of own? (b.step event) events

/-- What happens in the direction forward. -/
def forwardHistory : Bridge → List Event → Direction.History := history forward Event.forward?

/-- What happens in the direction backward. -/
def backwardHistory : Bridge → List Event → Direction.History := history backward Event.backward?

/-- An event is entered into the books of a direction if it is the direction's own. -/
theorem Touches.ledger {own? : Option Direction.Event} {d d' : Direction}
    {past : Direction.History} (h : Touches own? d d') (hpast : d.Ledger past) :
    d'.Ledger (past ++ own?.toList.map (d.phase, ·)) := by
  cases h with
  | @own event hown =>
    rw [hown]
    exact hpast.step event
  | leaves hown =>
    rw [hown, Option.toList_none, List.map_nil, List.append_nil]
    exact hpast
  | stops hown =>
    rw [hown, Option.toList_none, List.map_nil, List.append_nil]
    exact hpast.halt

/-- If the books of a direction are in order they stay so, with what happens in it entered. -/
theorem ledger_history {of : Bridge → Direction} {own? : Event → Option Direction.Event}
    (htouches : ∀ b event, Touches (own? event) (of b) (of (b.step event)))
    {past : Direction.History} (h : (of b).Ledger past) (events : List Event) :
    (of (b.run events)).Ledger (past ++ history of own? b events) := by
  induction events generalizing b past with
  | nil =>
    rw [history, List.append_nil]
    exact h
  | cons event events ih =>
    rw [history, ← List.append_assoc]
    exact ih ((htouches b event).ledger h)

/-- **Both directions keep books.** Wherever a bridge is interrupted, each direction has read the
pieces that arrived and written what was accepted of them, in their order. -/
theorem ledger_run (hforward : b.forward.Ledger []) (hbackward : b.backward.Ledger [])
    (events : List Event) :
    (b.run events).forward.Ledger (b.forwardHistory events) ∧
      (b.run events).backward.Ledger (b.backwardHistory events) :=
  ⟨ledger_history (fun b event => (touches_step b event).1) hforward events,
    ledger_history (fun b event => (touches_step b event).2) hbackward events⟩

/-! ### Runs -/

/-- Events that follow others start from the bridge that those have left. -/
theorem run_append (b : Bridge) (events events' : List Event) :
    b.run (events ++ events') = (b.run events).run events' := List.foldl_append

/-- The last event of a run starts from the bridge that the others have left. -/
theorem run_concat (b : Bridge) (events : List Event) (event : Event) :
    b.run (events ++ [event]) = (b.run events).step event := run_append b events [event]

/-- A bridge is cancelled by the event that cancels it and by no other, and stays so. -/
theorem cancelled_step_iff (b : Bridge) (event : Event) :
    (b.step event).cancelled = true ↔ b.cancelled = true ∨ .cancel = event := by
  cases event with
  | cancel => simp [step]
  | forward | backward => simp [step]
  | haltForward | haltBackward | observe | «return» =>
    rw [step]
    split <;> simp

/-- A bridge is cancelled if it was at the start or on the way. -/
theorem cancelled_run_iff (b : Bridge) (events : List Event) :
    (b.run events).cancelled = true ↔ b.cancelled = true ∨ .cancel ∈ events := by
  induction events generalizing b with
  | nil => simp [run]
  | cons event events ih =>
    rw [show b.run (event :: events) = (b.step event).run events from rfl, ih, cancelled_step_iff,
      or_assoc, List.mem_cons]

/-! ### Looks -/

/-- The bridge as the watching task finds it, each time that it looks. -/
def looks (b : Bridge) : List Event → List Bridge
  | [] => []
  | .observe :: events => b :: (b.step .observe).looks events
  | event :: events => (b.step event).looks events

/-- The looks of a run are those of its beginning, and then those of the rest from where the
beginning has led. -/
theorem looks_append (b : Bridge) (events events' : List Event) :
    b.looks (events ++ events') = b.looks events ++ (b.run events).looks events' := by
  fun_induction looks b events with
  | case1 => rfl
  | case2 b events ih => rw [List.cons_append, looks, ih]; rfl
  | case3 b event events hother ih => rw [List.cons_append, looks, ih]; rfl; exact hother

/-- How the direction has ended that was over first, counted in looks: the direction forward if no
earlier look found the direction backward over, the direction backward if neither an earlier look
nor this one found the direction forward over. -/
inductive FinishedFirst (looks : List Bridge) (outcome : Except TunnelError Unit) : Prop
  | forward {earlier later : List Bridge} {b : Bridge} (hlooks : looks = earlier ++ b :: later)
      (hended : b.forward.outcome? = some outcome)
      (hahead : ∀ b' ∈ earlier, b'.backward.outcome? = none)
  | backward {earlier later : List Bridge} {b : Bridge} (hlooks : looks = earlier ++ b :: later)
      (hended : b.backward.outcome? = some outcome)
      (hahead : ∀ b' ∈ earlier ++ [b], b'.forward.outcome? = none)

/-- Which direction was over first does not change with more looks. -/
theorem FinishedFirst.append {looks : List Bridge} (h : FinishedFirst looks outcome)
    (more : List Bridge) : FinishedFirst (looks ++ more) outcome := by
  cases h with
  | forward hlooks hended hahead =>
    exact .forward (by rw [hlooks, List.append_assoc, List.cons_append]) hended hahead
  | backward hlooks hended hahead =>
    exact .backward (by rw [hlooks, List.append_assoc, List.cons_append]) hended hahead

/-- Whether what has ended in one bridge has ended so in the other. -/
def Persists (b b' : Bridge) : Prop :=
  (∀ outcome, b.forward.outcome? = some outcome → b'.forward.outcome? = some outcome) ∧
    ∀ outcome, b.backward.outcome? = some outcome → b'.backward.outcome? = some outcome

/-- What has ended stays so over an event. -/
theorem persists_step (b : Bridge) (event : Event) : b.Persists (b.step event) := by
  obtain ⟨hforward, hbackward⟩ := advance_step b event
  refine ⟨fun outcome h => ?_, fun outcome h => ?_⟩
  · rwa [Direction.eq_of_advance h hforward]
  · rwa [Direction.eq_of_advance h hbackward]

/-- What has stayed so over two times has stayed so over both. -/
theorem Persists.trans {b'' : Bridge} (h : b.Persists b') (h' : b'.Persists b'') :
    b.Persists b'' :=
  ⟨fun outcome hended => h'.1 outcome (h.1 outcome hended),
    fun outcome hended => h'.2 outcome (h.2 outcome hended)⟩

/-- What had ended before a run is found so in each of its looks. -/
theorem persists_of_mem_looks (h : b' ∈ b.looks events) : b.Persists b' := by
  fun_induction looks b events with
  | case1 => cases h
  | case2 b events ih =>
    rcases List.mem_cons.mp h with rfl | h
    · exact ⟨fun _ => id, fun _ => id⟩
    · exact (persists_step b .observe).trans (ih h)
  | case3 b event events _ ih => exact (persists_step b event).trans (ih h)

/-- What one look finds ended, every later look finds ended in the same way. -/
theorem pairwise_looks (b : Bridge) (events : List Event) :
    (b.looks events).Pairwise Persists := by
  fun_induction looks b events with
  | case1 => exact .nil
  | case2 b events ih =>
    exact .cons (fun b' h => (persists_step b .observe).trans (persists_of_mem_looks h)) ih
  | case3 b event events _ ih => exact ih

section Unique

variable {looks earlier later earlier' later' : List Bridge} {outcome' : Except TunnelError Unit}

/-- Of two looks in one run, the first is among those up to the second, or the second is in front of
the first. -/
theorem mem_of_looks (h : looks = earlier ++ b :: later) (h' : looks = earlier' ++ b' :: later') :
    b ∈ earlier' ++ [b'] ∨ b' ∈ earlier := by
  rcases List.append_eq_append_iff.mp (h.symm.trans h') with ⟨more, rfl, heq⟩ | ⟨more, rfl, heq⟩
  · cases more with
    | nil => exact .inl (by simp [(List.cons.inj heq).1])
    | cons b'' more => exact .inl (by simp [(List.cons.inj heq).1])
  · cases more with
    | nil => exact .inl (by simp [(List.cons.inj heq).1])
    | cons b'' more => exact .inr (by simp [(List.cons.inj heq).1])

/-- What looks find of one direction when it is over is the same whenever they find it. -/
theorem eq_of_looks {of : Bridge → Option (Except TunnelError Unit)}
    (hof : ∀ {b b'}, Persists b b' → ∀ outcome, of b = some outcome → of b' = some outcome)
    (hlooks : looks.Pairwise Persists) (h : looks = earlier ++ b :: later)
    (h' : looks = earlier' ++ b' :: later') (hended : of b = some outcome)
    (hended' : of b' = some outcome') : outcome = outcome' := by
  rcases mem_of_looks h h' with hmem | hmem
  · rcases List.mem_append.mp hmem with hmem | hmem
    · rw [h', List.pairwise_append] at hlooks
      have hstays := hof (hlooks.2.2 b hmem b' List.mem_cons_self) outcome hended
      exact Option.some.inj (hstays.symm.trans hended')
    · rw [List.mem_singleton.mp hmem] at hended
      exact Option.some.inj (hended.symm.trans hended')
  · rw [h, List.pairwise_append] at hlooks
    have hstays := hof (hlooks.2.2 b' hmem b List.mem_cons_self) outcome' hended'
    exact Option.some.inj (hended.symm.trans hstays)

/-- If the direction forward is over first, the direction backward is not: no look finds it over
that lies before the one that finds the direction forward over. -/
theorem not_ahead_of_ahead (h : looks = earlier ++ b :: later)
    (h' : looks = earlier' ++ b' :: later') (hended : b.forward.outcome? = some outcome)
    (hended' : b'.backward.outcome? = some outcome')
    (hahead : ∀ b ∈ earlier, b.backward.outcome? = none) :
    ¬ ∀ b ∈ earlier' ++ [b'], b.forward.outcome? = none := by
  intro hahead'
  rcases mem_of_looks h h' with hmem | hmem
  · cases hended.symm.trans (hahead' b hmem)
  · cases hended'.symm.trans (hahead b' hmem)

/-- One direction is over first, and it ends in one way. -/
theorem FinishedFirst.unique (h : FinishedFirst (start.looks events) outcome)
    (h' : FinishedFirst (start.looks events) outcome') : outcome = outcome' := by
  have hpairwise := pairwise_looks start events
  cases h with
  | forward hlooks hended hahead =>
    cases h' with
    | forward hlooks' hended' hahead' =>
      exact eq_of_looks (fun h => h.1) hpairwise hlooks hlooks' hended hended'
    | backward hlooks' hended' hahead' =>
      exact absurd hahead' (not_ahead_of_ahead hlooks hlooks' hended hended' hahead)
  | backward hlooks hended hahead =>
    cases h' with
    | forward hlooks' hended' hahead' =>
      exact absurd hahead (not_ahead_of_ahead hlooks' hlooks hended' hended hahead')
    | backward hlooks' hended' hahead' =>
      exact eq_of_looks (fun h => h.2) hpairwise hlooks hlooks' hended hended'

end Unique

/-! ### The watching task -/

/-- What an event can do to the watching task. -/
inductive Watch (b : Bridge) (event : Event) : Phase → Prop
  /-- Nothing, unless it looks, and finds something. -/
  | waits (hnothing : event = .observe → b.phase = .running → b.seen? = none) :
      Watch b event b.phase
  | sees {outcome : Except TunnelError Unit} (hevent : event = .observe)
      (hphase : b.phase = .running) (hseen : b.seen? = some outcome) :
      Watch b event (.stopped outcome)
  | returns {outcome : Except TunnelError Unit} (hevent : event = .return)
      (hphase : b.phase = .stopped outcome) :
      Watch b event (.returned (if b.cancelled then .error .cancelled else outcome))

/-- Nothing else can become of the watching task with an event. -/
theorem watch_step (b : Bridge) (event : Event) : Watch b event (b.step event).phase := by
  cases event with
  | forward | backward | cancel => exact .waits fun h => by cases h
  | haltForward | haltBackward =>
    rw [step]
    split
    · exact .waits fun h => by cases h
    · exact .waits fun h => by cases h
  | observe =>
    rw [step]
    split
    · rename_i hphase hseen
      exact .sees rfl hphase hseen
    · rename_i hnothing
      refine .waits fun _ hphase => ?_
      cases hseen : b.seen? with
      | none => rfl
      | some outcome => exact absurd hseen (hnothing outcome hphase)
  | «return» =>
    rw [step]
    split
    · rename_i hphase
      exact .returns rfl hphase
    · exact .waits fun h => by cases h

/-- A look finds nothing exactly while nothing is cancelled and no direction has ended. -/
theorem seen?_eq_none_iff :
    b.seen? = none ↔
      b.cancelled = false ∧ b.forward.outcome? = none ∧ b.backward.outcome? = none := by
  cases hcancelled : b.cancelled with
  | true => simp [seen?, hcancelled]
  | false => simp [seen?, hcancelled]

/-- If a look is the first that finds something, and no cancellation, it finds the direction over
that is over first. -/
theorem finishedFirst_of_seen? {found : List Bridge} (hnothing : ∀ b' ∈ found, b'.seen? = none)
    (hopen : b.cancelled = false) (hseen : b.seen? = some outcome) :
    FinishedFirst (found ++ [b]) outcome := by
  have hclear : ∀ b' ∈ found, b'.forward.outcome? = none ∧ b'.backward.outcome? = none :=
    fun b' hb => (seen?_eq_none_iff.mp (hnothing b' hb)).2
  have hended : b.forward.outcome? = some outcome ∨
      b.forward.outcome? = none ∧ b.backward.outcome? = some outcome := by
    simpa [seen?, hopen] using hseen
  rcases hended with hforward | ⟨hforward, hbackward⟩
  · exact .forward rfl hforward fun b' hb => (hclear b' hb).2
  · refine .backward rfl hbackward fun b' hb => ?_
    rcases List.mem_append.mp hb with hb | hb
    · exact (hclear b' hb).1
    · rw [List.mem_singleton.mp hb]
      exact hforward

/-- What the looks have found so far: nothing while the bridge goes on, and what is to be returned
once it is to stop, unless it is cancelled. -/
structure Looked (found : List Bridge) (b : Bridge) : Prop where
  nothing : b.phase = .running → ∀ b' ∈ found, b'.seen? = none
  first : ∀ outcome, b.phase = .stopped outcome → b.cancelled = false →
    FinishedFirst found outcome

/-- One more event. -/
theorem Looked.step {found : List Bridge} (h : Looked found b) (event : Event) :
    Looked (found ++ b.looks [event]) (b.step event) := by
  have hcancelled : (b.step event).cancelled = false → b.cancelled = false := by
    simp only [Bool.eq_false_iff, ne_eq, cancelled_step_iff, not_or]
    exact And.left
  have hwatch := watch_step b event
  generalize hphase : (b.step event).phase = phase at hwatch
  cases hwatch with
  | waits hnothing =>
    refine ⟨fun hrunning b' hb => ?_, fun outcome hstopped hopen => ?_⟩
    · rw [hphase] at hrunning
      rcases List.mem_append.mp hb with hb | hb
      · exact h.nothing hrunning b' hb
      · cases event with
        | observe =>
          rw [List.mem_singleton.mp hb]
          exact hnothing rfl hrunning
        | _ => cases hb
    · rw [hphase] at hstopped
      exact (h.first outcome hstopped (hcancelled hopen)).append _
  | sees hevent hrunning hseen =>
    subst hevent
    refine ⟨fun hrunning' => ?_, fun outcome hstopped hopen => ?_⟩
    · cases hphase.symm.trans hrunning'
    · cases hphase.symm.trans hstopped
      exact finishedFirst_of_seen? (h.nothing hrunning) (hcancelled hopen) hseen
  | returns =>
    refine ⟨fun hrunning => ?_, fun outcome hstopped => ?_⟩
    · cases hphase.symm.trans hrunning
    · cases hphase.symm.trans hstopped

/-- From a bridge that is running, the looks of every run have found what the watching task goes by.
-/
theorem looked_run (hrunning : start.phase = .running) (events : List Event) :
    Looked (start.looks events) (start.run events) := by
  induction events using List.reverseRecOn with
  | nil =>
    refine ⟨fun _ b hb => ?_, fun outcome hstopped => ?_⟩
    · cases hb
    · cases hrunning.symm.trans hstopped
  | append_singleton events event ih =>
    rw [looks_append, run_concat]
    exact ih.step event

/-! ### The result -/

/-- What is to be returned by a bridge that returns right after some events. -/
structure Returns (start : Bridge) (events : List Event) (result : Except TunnelError Unit) :
    Prop where
  waiting : (start.run events).result? = none
  returned : (start.run (events ++ [.return])).result? = some result
  cancelled : start.cancelled = true ∨ .cancel ∈ events → result = .error .cancelled
  first : ¬ (start.cancelled = true ∨ .cancel ∈ events) →
    FinishedFirst (start.looks events) result

/-- Once a bridge is to stop, the next return gives the result: the cancellation if there was one,
and otherwise what the first look has found that found something. -/
theorem returns_of_stopped (hrunning : start.phase = .running)
    (hstopped : (start.run events).phase = .stopped outcome) :
    Returns start events
      (if (start.run events).cancelled then .error .cancelled else outcome) where
  waiting := by rw [result?, hstopped]
  returned := by rw [run_concat, step, hstopped]; rfl
  cancelled := fun h => if_pos ((cancelled_run_iff start events).mpr h)
  first := fun h => by
    have hopen := mt (cancelled_run_iff start events).mp h
    rw [if_neg hopen]
    exact (looked_run hrunning events).first outcome hstopped (Bool.eq_false_iff.mpr hopen)

/-- What a bridge returns is what it was to return when it did. -/
theorem returns_run (hrunning : start.phase = .running)
    (h : (start.run events).result? = some result) :
    ∃ upto, upto ++ [.return] <+: events ∧ Returns start upto result := by
  induction events using List.reverseRecOn with
  | nil =>
    rw [run, List.foldl_nil, result?, hrunning] at h
    cases h
  | append_singleton events event ih =>
    have hwatch := watch_step (start.run events) event
    rw [run_concat, result?] at h
    -- Either the result was there before the last event, or that event is the return.
    generalize ((start.run events).step event).phase = phase at h hwatch
    cases hwatch with
    | waits =>
      obtain ⟨upto, hupto, hreturns⟩ := ih h
      exact ⟨upto, hupto.trans (List.prefix_append _ _), hreturns⟩
    | sees => cases h
    | returns hevent hstopped =>
      cases h
      subst hevent
      exact ⟨events, List.prefix_rfl, returns_of_stopped hrunning hstopped⟩

/-- Once a bridge is cancelled or a direction is over, a look is enough for a result. -/
theorem result?_of_over
    (h : b.cancelled = true ∨ b.forward.outcome? ≠ none ∨ b.backward.outcome? ≠ none) :
    (b.run [.observe, .return]).result? ≠ none := by
  have hseen : b.seen? ≠ none := by
    rw [ne_eq, seen?_eq_none_iff]
    rintro ⟨hopen, hforward, hbackward⟩
    simp [hopen, hforward, hbackward] at h
  obtain ⟨outcome, hseen⟩ := Option.ne_none_iff_exists'.mp hseen
  cases hphase : b.phase with
  | running => simp [run, step, hphase, hseen, result?]
  | stopped | returned => simp [run, step, hphase, result?]

/-- **Bridging never corrupts.** Take any two connections, and anything that can happen on them, at
the bridge between them and to the task that watches it, in any order: pieces, ends and failures, a
writer that fails within a piece, a cancellation, and the stop of each direction at any point. Both
directions keep to what they have read, at every moment, and what they have read and written is what
arrived and what was accepted. Whatever the two directions are, what the bridge returns is the
cancellation, if it was cancelled before it returned, and otherwise how the direction ended that was
over first; and it can return as soon as there is something to return. -/
theorem bridging_never_corrupts (cancelled : Bool) (events : List Event) :
    (∀ preview preview',
      let start : Bridge :=
        { forward := .start none preview, backward := .start none preview', cancelled }
      (start.run events).forward.Faithful ∧ (start.run events).backward.Faithful) ∧
    (∀ host host' preview preview',
      let start : Bridge :=
        { forward := .start host preview, backward := .start host' preview', cancelled }
      (start.run events).forward.Ledger (start.forwardHistory events) ∧
        (start.run events).backward.Ledger (start.backwardHistory events)) ∧
    ∀ forward backward,
      let start : Bridge := { forward, backward, cancelled }
      let b := start.run events
      (∀ result, b.result? = some result →
        ∃ upto, upto ++ [.return] <+: events ∧ Returns start upto result) ∧
      (b.cancelled = true ∨ b.forward.outcome? ≠ none ∨ b.backward.outcome? ≠ none →
        (start.run (events ++ [.observe, .return])).result? ≠ none) := by
  refine ⟨fun preview preview' => faithful_run preview preview' cancelled events,
    fun host host' preview preview' => ledger_run (Direction.ledger_start host preview)
      (Direction.ledger_start host' preview') events,
    fun forward backward => ⟨fun result h => returns_run rfl h, fun h => ?_⟩⟩
  rw [run_append]
  exact result?_of_over h

/-- Two directions that end between two looks have ended together: the direction forward is ahead,
although the direction backward has ended before it. -/
example :
    (({} : Bridge).run [.backward .eof, .backward .closed, .forward (.readFails ⟨"reset"⟩),
      .observe, .return]).result? = some (.error (.io "reset")) := rfl

end Bridge
end ReverseTunnel
