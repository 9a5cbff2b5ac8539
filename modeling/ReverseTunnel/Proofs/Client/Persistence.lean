import Mathlib.Algebra.Group.Nat.Defs
import Mathlib.Data.List.Induction
import Mathlib.Data.List.Infix
import ReverseTunnel.Client.Reconnect
import ReverseTunnel.Multiplex
import ReverseTunnel.Proofs.Client.Understanding

/-!
# What a run holds on to

A tunnel that loses its connection comes back, and what it is known by stays the same. Anything can
happen meanwhile, in any order: streams come, connections fail or cannot be made, the server answers
this or that, and the holder closes the tunnel. So everything here is about all lists of events, and
about the moments between them.

What a single event does is said once (`Turn`). The rest are invariants: which connections are open
(`Custody`), what has been done since the connection was lost (`Effort`), and why the run is on its
way out (`Cause`).

## Main results

* `turn`: what an event does is one of the turns.
* `effort_run`: the pauses of a resume, whatever happens.
* `run_failures`: a resume goes on as long as it is told that asking again may help.
* `steadfast_of_openTunnel`: all that is promised of a run.
-/

namespace ReverseTunnel.Client

variable {ι : Type}

/-! ### What a resume does -/

/-- The pause before an attempt, in milliseconds; the first attempt has the number 1. -/
def pauseBefore (attempt : Nat) : Nat := min (250 * 2 ^ (attempt - 1)) 5000

/-- The next pause of a resume is twice the one before it, as long as it is not the longest. -/
theorem nextPause_pauseBefore (attempt : Nat) :
    nextPause (pauseBefore (attempt + 1)) = pauseBefore (attempt + 2) := by
  have hdouble : 2 ^ (attempt + 1) = 2 ^ attempt * 2 := pow_succ 2 attempt
  simp only [nextPause, pauseBefore, longestPause, Nat.add_sub_cancel,
    show attempt + 2 - 1 = attempt + 1 from rfl, hdouble]
  omega

/-- What is done to get a connection: a pause, then as many dials as it takes, with pauses between
them that start anew. -/
def dials (attempt failures : Nat) : List Act :=
  .pause (pauseBefore attempt) :: .dial ::
    (List.range failures).flatMap fun i => [.pause (pauseBefore (i + 1)), .dial]

/-- An attempt: how many dials failed, and the connection on which it then asked. -/
structure Attempt where
  failures : Nat
  connection : Nat

/-- What is done in some attempts, one after another. -/
def attempts (tries : List Attempt) : List Act :=
  tries.zipIdx.flatMap fun (a, i) => dials (i + 1) a.failures ++ [.ask a.connection]

/-- What has been done since the run last went on with a connection. What it does with streams, and
what is closed when, is left out. -/
def effort (acts : List Act) : List Act :=
  acts.foldl (fun done act =>
    match act with
    | .install _ => []
    | .serve | .close _ => done
    | .pause _ | .dial | .ask _ => done ++ [act]) []

/-- What one more act adds to the effort: nothing if it is for a stream or a connection in use,
itself if it is for a new one, and a new connection clears all. -/
theorem effort_concat (acts : List Act) (act : Act) :
    effort (acts ++ [act]) =
      match act with
      | .install _ => []
      | .serve | .close _ => effort acts
      | .pause _ | .dial | .ask _ => effort acts ++ [act] := by
  rw [effort, List.foldl_append]
  cases act <;> rfl

/-- One more dial fails. -/
theorem dials_succ (attempt failures : Nat) :
    dials attempt (failures + 1) =
      dials attempt failures ++ [.pause (pauseBefore (failures + 1)), .dial] := by
  simp [dials, List.range_succ]

/-- One more attempt is made. -/
theorem attempts_concat (tries : List Attempt) (a : Attempt) :
    attempts (tries ++ [a]) =
      attempts tries ++ (dials (tries.length + 1) a.failures ++ [.ask a.connection]) := by
  simp [attempts, List.zipIdx_append]

/-! ### What an event does -/

/-- Whether a stage belongs to a resume. -/
def Stage.Resuming : Stage → Prop
  | .pausing _ | .dialing _ _ | .waiting _ _ | .asking _ _ => True
  | .serving | .leaving _ | .ended _ => False

/-- Whether a run at this stage is on its way out. -/
def Stage.Over : Stage → Prop
  | .leaving _ | .ended _ => True
  | .serving | .pausing _ | .dialing _ _ | .waiting _ _ | .asking _ _ => False

/-- Whether the holder asks for the end. -/
def Event.Closes (e : Event ι) : Prop := e = .close ∨ e = .cancel

namespace Tunnel

variable {shown : ι → String} {t t' : Tunnel ι} {e : Event ι}

/-- The error of a run that came back as something else. -/
def mismatch (shown : ι → String) (t : Tunnel ι) (other : ι) : TunnelError :=
  .resumeMismatch s!"expected {shown t.identity}, got {shown other}"

/-- What an event can do to a run. -/
inductive Turn (shown : ι → String) (t : Tunnel ι) : Event ι → Tunnel ι → Prop
  /-- The holder closes the tunnel. -/
  | close (h : ∀ result, t.stage ≠ .ended result) :
      Turn shown t .close ({ t with closing := true }.act (.close t.current))
  /-- The holder closes the tunnel, which is over, or cancels. -/
  | note {e : Event ι} (h : e.Closes) : Turn shown t e { t with closing := true }
  | serve (h : t.stage = .serving) : Turn shown t .opened (t.act .serve)
  /-- The run takes notice of being closed, while it waits for streams. -/
  | stop {e : Event ι} (h : t.stage = .serving) (hclosing : t.closing = true)
      (he : ¬ e.Closes) : Turn shown t e (t.leave (.ok ()))
  /-- A connection is lost, and a resume begins. -/
  | lose {error : TunnelError} (h : t.stage = .serving) (hopen : t.closing = false)
      (hback : t.reconnects = true) :
      Turn shown t (.lost error) (t.rest firstPause (.pausing firstPause))
  /-- A connection is lost for good. -/
  | fail {error : TunnelError} (h : t.stage = .serving) (hopen : t.closing = false)
      (hback : t.reconnects = false) : Turn shown t (.lost error) (t.leave (.error error))
  | dial {pause : Nat} (h : t.stage = .pausing pause) :
      Turn shown t .rested (t.dial pause firstPause)
  | redial {pause retry : Nat} (h : t.stage = .waiting pause retry) :
      Turn shown t .rested (t.dial pause (nextPause retry))
  | wait {pause retry : Nat} {error : TunnelError} (h : t.stage = .dialing pause retry) :
      Turn shown t (.unconnected error) (t.rest retry (.waiting pause retry))
  | ask {pause retry : Nat} (h : t.stage = .dialing pause retry) :
      Turn shown t .connected (t.ask pause)
  /-- The server grants the same once more. -/
  | install {pause connection : Nat} (h : t.stage = .asking pause connection) :
      Turn shown t (.answered (.ok t.identity)) (t.install connection)
  | mismatch {pause connection : Nat} {other : ι} (h : t.stage = .asking pause connection)
      (hother : other ≠ t.identity) :
      Turn shown t (.answered (.ok other))
        ((t.act (.close connection)).leave (.error (t.mismatch shown other)))
  /-- The server says that asking again may help. -/
  | retry {pause connection : Nat} {error : TunnelError} (h : t.stage = .asking pause connection)
      (hpasses : error.retryable = true) :
      Turn shown t (.answered (.error error))
        ((t.act (.close connection)).rest (nextPause pause) (.pausing (nextPause pause)))
  | refuse {pause connection : Nat} {error : TunnelError} (h : t.stage = .asking pause connection)
      (hfinal : error.retryable = false) :
      Turn shown t (.answered (.error error)) ((t.act (.close connection)).leave (.error error))
  /-- The run takes notice of being closed, in a resume. -/
  | abandon (h : t.stage.Resuming) (hnone : ∀ pause connection, t.stage ≠ .asking pause connection)
      (hclosing : t.closing = true) : Turn shown t .noticed (t.leave (.error .cancelled))
  | desert {pause connection : Nat} (h : t.stage = .asking pause connection)
      (hclosing : t.closing = true) :
      Turn shown t .noticed ((t.act (.close connection)).leave (.error .cancelled))
  | finish {outcome : Except TunnelError Unit} (h : t.stage = .leaving outcome) :
      Turn shown t .finished ((t.act (.close t.current)).enter (.ended (t.finalResult outcome)))
  /-- It does not matter at this stage. -/
  | idle {e : Event ι} (he : ¬ e.Closes) : Turn shown t e t

/-- While the run waits for streams, being closed comes first. Otherwise a stream is served, and a
lost connection is the beginning of a resume or of the end. -/
theorem turn_of_serving (shown : ι → String) (hstage : t.stage = .serving) (he : ¬ e.Closes) :
    Turn shown t e (t.serve e) := by
  have hopen (h : ¬ t.closing = true) : t.closing = false := Bool.eq_false_iff.mpr h
  cases e with
  | opened =>
    rw [Tunnel.serve]
    split
    · exact .stop hstage ‹_› he
    · exact .serve hstage
  | lost error =>
    rw [Tunnel.serve]
    split
    · exact .stop hstage ‹_› he
    · rename_i hclosing
      split
      · exact .lose hstage (hopen hclosing) ‹_›
      · rename_i hback
        exact .fail hstage (hopen hclosing) (Bool.eq_false_iff.mpr hback)
  | noticed =>
    rw [Tunnel.serve]
    split
    · exact .stop hstage ‹_› he
    · exact .idle he
  | _ => exact .idle he

section

variable [DecidableEq ι] {pause connection : Nat}

/-- That the holder closes the tunnel or cancels is noted at any stage, and closes the connection in
use unless the run is over. -/
theorem turn_of_closes (shown : ι → String) (t : Tunnel ι) (he : e.Closes) :
    Turn shown t e (t.step shown e) := by
  obtain ⟨reconnects, identity, current, connections, closing, stage, acts⟩ := t
  rcases he with rfl | rfl
  · cases stage with
    | ended result => exact .note (.inl rfl)
    | _ => exact .close (fun result h => by cases h)
  · exact .note (.inr rfl)

/-- The answer to a request is the same once more, something else, or a refusal that passes or does
not. -/
theorem turn_of_asking (shown : ι → String) (hstage : t.stage = .asking pause connection)
    (answer : Except TunnelError ι) :
    Turn shown t (.answered answer) (t.judge shown pause connection answer) := by
  rcases answer with error | other
  · rw [judge]
    split
    · exact .retry hstage ‹_›
    · rename_i hfinal
      exact .refuse hstage (Bool.eq_false_iff.mpr hfinal)
  · rw [judge]
    split
    · rename_i hsame
      subst hsame
      exact .install hstage
    · rename_i hother
      exact .mismatch hstage hother

/-- In a resume being closed is noticed between any two steps, and a connection on which the run has
asked is closed then. -/
theorem turn_of_noticed (shown : ι → String) (hresuming : t.stage.Resuming) :
    Turn shown t .noticed (t.step shown .noticed) := by
  obtain ⟨reconnects, identity, current, connections, closing, stage, acts⟩ := t
  cases stage with
  | serving | leaving | ended => exact hresuming.elim
  | asking pause connection =>
    simp only [step]
    split
    · exact .desert rfl ‹_›
    · exact .idle (by simp [Event.Closes])
  | pausing | dialing | waiting =>
    simp only [step]
    split
    · exact .abandon trivial (fun _ _ h => by cases h) ‹_›
    · exact .idle (by simp [Event.Closes])

/-- **What an event does is one of the turns.** Everything below is by cases on them, so that a
change to what a single event does is a change here and nowhere else. -/
theorem turn (shown : ι → String) (t : Tunnel ι) (e : Event ι) :
    Turn shown t e (t.step shown e) := by
  by_cases he : e.Closes
  · exact turn_of_closes shown t he
  obtain ⟨reconnects, identity, current, connections, closing, stage, acts⟩ := t
  cases e with
  | close => exact absurd (.inl rfl) he
  | cancel => exact absurd (.inr rfl) he
  | opened =>
    cases stage with
    | serving => exact turn_of_serving shown rfl he
    | _ => exact .idle he
  | lost error =>
    cases stage with
    | serving => exact turn_of_serving shown rfl he
    | _ => exact .idle he
  | noticed =>
    cases stage with
    | serving => exact turn_of_serving shown rfl he
    | leaving | ended => exact .idle he
    | pausing | dialing | waiting | asking => exact turn_of_noticed shown trivial
  | rested =>
    cases stage with
    | pausing pause => exact .dial rfl
    | waiting pause retry => exact .redial rfl
    | _ => exact .idle he
  | connected =>
    cases stage with
    | dialing pause retry => exact .ask rfl
    | _ => exact .idle he
  | unconnected error =>
    cases stage with
    | dialing pause retry => exact .wait rfl
    | _ => exact .idle he
  | answered answer =>
    cases stage with
    | asking pause connection => exact turn_of_asking shown rfl answer
    | _ => exact .idle he
  | finished =>
    cases stage with
    | leaving outcome => exact .finish rfl
    | _ => exact .idle he

end

/-! ### What is held -/

/-- Which connections a run has had, and which of them are closed. -/
structure Custody (t : Tunnel ι) : Prop where
  current_lt : t.current < t.connections
  known : ∀ c, .install c ∈ t.acts ∨ .ask c ∈ t.acts → c < t.connections
  asking : ∀ pause c, t.stage = .asking pause c →
    c < t.connections ∧ c ≠ t.current ∧ .install c ∉ t.acts
  closed : ∀ c < t.connections, c ≠ t.current → (∀ pause, t.stage ≠ .asking pause c) →
    .close c ∈ t.acts
  ended : ∀ result, t.stage = .ended result → .close t.current ∈ t.acts

namespace Custody

/-- Nothing is lost by a move to a stage at which the run does not ask. If it did, it closes the
connection on which it asked. -/
theorem move (h : t.Custody) {acts : List Act} {stage : Stage} {closing : Bool}
    (hacts : t.acts ⊆ acts)
    (hnew : ∀ c, .install c ∈ acts ∨ .ask c ∈ acts → .install c ∈ t.acts ∨ .ask c ∈ t.acts)
    (hstage : ∀ pause c, stage ≠ .asking pause c)
    (hasked : ∀ pause c, t.stage = .asking pause c → .close c ∈ acts)
    (hended : ∀ result, stage = .ended result → .close t.current ∈ acts) :
    ({ t with acts, stage, closing } : Tunnel ι).Custody where
  current_lt := h.current_lt
  known c hc := h.known c (hnew c hc)
  asking pause c hc := absurd hc (hstage pause c)
  closed c hc hne _ := by
    by_cases hask : ∃ pause, t.stage = .asking pause c
    · obtain ⟨pause, hask⟩ := hask
      exact hasked pause c hask
    · refine hacts (h.closed c hc hne ?_)
      intro pause hpause
      exact hask ⟨pause, hpause⟩
  ended := hended

/-- Nor by what the holder does. -/
theorem note (h : t.Custody) {acts : List Act} {closing : Bool} (hacts : t.acts ⊆ acts)
    (hnew : ∀ c, .install c ∈ acts ∨ .ask c ∈ acts → .install c ∈ t.acts ∨ .ask c ∈ t.acts)
    (hinstall : ∀ c, .install c ∈ acts → .install c ∈ t.acts) :
    ({ t with acts, closing } : Tunnel ι).Custody where
  current_lt := h.current_lt
  known c hc := h.known c (hnew c hc)
  asking pause c hc := by
    obtain ⟨hlt, hne, hnot⟩ := h.asking pause c hc
    exact ⟨hlt, hne, fun hmem => hnot (hinstall c hmem)⟩
  closed c hc hne hask := hacts (h.closed c hc hne hask)
  ended result hresult := hacts (h.ended result hresult)

/-- The run gets a connection and asks on it. -/
theorem ask (h : t.Custody) (hstage : ∀ pause c, t.stage ≠ .asking pause c) (pause : Nat) :
    (t.ask pause).Custody where
  current_lt := Nat.lt_succ_of_lt h.current_lt
  known c hc := by
    have hc : .install c ∈ t.acts ++ [.ask t.connections] ∨
      .ask c ∈ t.acts ++ [.ask t.connections] := hc
    simp only [List.mem_append, List.mem_singleton, reduceCtorEq, or_false, Act.ask.injEq] at hc
    change c < t.connections + 1
    rcases hc with hc | hc | rfl
    · exact Nat.lt_succ_of_lt (h.known c (.inl hc))
    · exact Nat.lt_succ_of_lt (h.known c (.inr hc))
    · exact Nat.lt_succ_self _
  asking pause' c hc := by
    obtain rfl : t.connections = c := (Stage.asking.inj hc).2
    refine ⟨Nat.lt_succ_self _, Nat.ne_of_gt h.current_lt, ?_⟩
    intro hmem
    have hmem : .install t.connections ∈ t.acts ++ [.ask t.connections] := hmem
    simp only [List.mem_append, List.mem_singleton, reduceCtorEq, or_false] at hmem
    exact Nat.lt_irrefl _ (h.known _ (.inl hmem))
  closed c hc hne hask := by
    have hc : c < t.connections + 1 := hc
    have hother : c ≠ t.connections := by
      rintro rfl
      exact hask pause rfl
    have hclosed : .close c ∈ t.acts :=
      h.closed c (by omega) hne fun pause' => hstage pause' c
    exact List.mem_append_left _ hclosed
  ended result hresult := by cases hresult

/-- The run goes on with the connection on which it asked, and closes the one before. -/
theorem install (h : t.Custody) {pause connection : Nat}
    (hstage : t.stage = .asking pause connection) : (t.install connection).Custody where
  current_lt := (h.asking pause connection hstage).1
  known c hc := by
    have hc : .install c ∈ t.acts ++ [.install connection] ++ [.close t.current] ∨
      .ask c ∈ t.acts ++ [.install connection] ++ [.close t.current] := hc
    simp only [List.mem_append, List.mem_singleton, reduceCtorEq, or_false,
      Act.install.injEq] at hc
    rcases hc with (hc | rfl) | hc
    · exact h.known c (.inl hc)
    · exact (h.asking pause c hstage).1
    · exact h.known c (.inr hc)
  asking pause' c hc := by cases hc
  closed c hc hne _ := by
    change Act.close c ∈ t.acts ++ [.install connection] ++ [.close t.current]
    by_cases hcurrent : c = t.current
    · exact List.mem_append_right _ (hcurrent ▸ List.mem_singleton_self _)
    · refine List.mem_append_left _ (List.mem_append_left _ (h.closed c hc hcurrent ?_))
      intro pause' hask
      exact hne (Stage.asking.inj (hask.symm.trans hstage)).2
  ended result hresult := by cases hresult

/-- **Every turn keeps custody.** No turn loses sight of a connection: one that is not in use any
more is closed, and none is used that was closed. -/
theorem turn (h : t.Custody) (hturn : Turn shown t e t') : t'.Custody := by
  have mem_close {c c' : Nat} {acts : List Act} :
      .install c ∈ acts ++ [.close c'] ∨ .ask c ∈ acts ++ [.close c'] →
        .install c ∈ acts ∨ .ask c ∈ acts := by simp
  cases hturn with
  | close => exact h.note (List.subset_append_left _ _) (fun _ => mem_close) (by simp)
  | note => exact h.note (List.Subset.refl _) (fun _ => id) (fun _ => id)
  | serve hstage | stop hstage | fail hstage | dial hstage | redial hstage | wait hstage
  | lose hstage =>
    refine h.move ?_ ?_ ?_ ?_ ?_ <;> simp [hstage, act]
  | ask hstage => exact h.ask (by simp [hstage]) _
  | install hstage => exact h.install hstage
  | mismatch hstage | retry hstage | refuse hstage | desert hstage =>
    refine h.move ?_ ?_ ?_ ?_ ?_ <;> simp [hstage, act]
  | abandon hresuming hnone =>
    refine h.move ?_ ?_ ?_ ?_ ?_ <;> simp [hnone]
  | finish hstage => refine h.move ?_ ?_ ?_ ?_ ?_ <;> simp [hstage, act]
  | idle => exact h

/-- A tunnel that has just been opened holds one connection. -/
theorem fresh (reconnects : Bool) (identity : ι) :
    ({ reconnects, identity } : Tunnel ι).Custody where
  current_lt := Nat.zero_lt_one
  known c hc := by
    simp only [List.mem_singleton, Act.install.injEq, reduceCtorEq, or_false] at hc
    exact hc ▸ Nat.zero_lt_one
  asking pause c hc := by cases hc
  closed c hc hne _ := absurd (Nat.lt_one_iff.mp hc) hne
  ended result hresult := by cases hresult

end Custody

/-! ### What has been done of a resume -/

/-- What has been done of a resume, at each stage of a run. -/
inductive Effort : Stage → List Act → Prop
  | serving : Effort .serving []
  | pausing (tries : List Attempt) :
      Effort (.pausing (pauseBefore (tries.length + 1)))
        (attempts tries ++ [.pause (pauseBefore (tries.length + 1))])
  | dialing (tries : List Attempt) (failures : Nat) :
      Effort (.dialing (pauseBefore (tries.length + 1)) (pauseBefore (failures + 1)))
        (attempts tries ++ dials (tries.length + 1) failures)
  | waiting (tries : List Attempt) (failures : Nat) :
      Effort (.waiting (pauseBefore (tries.length + 1)) (pauseBefore (failures + 1)))
        (attempts tries ++
          (dials (tries.length + 1) failures ++ [.pause (pauseBefore (failures + 1))]))
  | asking (tries : List Attempt) (failures connection : Nat) :
      Effort (.asking (pauseBefore (tries.length + 1)) connection)
        (attempts (tries ++ [⟨failures, connection⟩]))
  | ended {stage : Stage} {done : List Act} (tries : List Attempt) (hover : stage.Over)
      (h : done <+: attempts tries) : Effort stage done

/-- Whatever has been done is the beginning of some attempts. -/
theorem Effort.begun {stage : Stage} {done : List Act} (h : Effort stage done) :
    ∃ tries, done <+: attempts tries := by
  -- What was begun of an attempt is finished by a request on some connection.
  have within (tries : List Attempt) (failures : Nat) {begun : List Act}
      (hbegun : begun <+: dials (tries.length + 1) failures) :
      ∃ tries', attempts tries ++ begun <+: attempts tries' := by
    refine ⟨tries ++ [⟨failures, 0⟩], ?_⟩
    rw [attempts_concat]
    exact (List.prefix_append_right_inj _).mpr (hbegun.trans (List.prefix_append _ _))
  cases h with
  | serving => exact ⟨[], List.nil_prefix⟩
  | pausing tries => exact within tries 0 ⟨[.dial], rfl⟩
  | dialing tries failures => exact within tries failures (List.prefix_refl _)
  | waiting tries failures =>
    refine within tries (failures + 1) ⟨[.dial], ?_⟩
    rw [dials_succ]
    simp
  | asking tries failures connection => exact ⟨_, List.prefix_refl _⟩
  | ended tries _ h => exact ⟨tries, h⟩

/-- On its way out a run does nothing more for a resume. -/
theorem Effort.goesOut {stage stage' : Stage} {done : List Act} (h : Effort stage done)
    (hover : stage'.Over) : Effort stage' done := by
  obtain ⟨tries, hbegun⟩ := h.begun
  exact .ended tries hover hbegun

section

variable {pause again connection : Nat} {done : List Act}

/-- With the connection lost, the first attempt begins with the shortest pause. -/
theorem Effort.lose (h : Effort .serving done) :
    Effort (.pausing firstPause) (done ++ [.pause firstPause]) := by
  cases h with
  | serving => exact .pausing []
  | ended _ hover => exact hover.elim

/-- The pause before an attempt is followed by its first dial. -/
theorem Effort.dial (h : Effort (.pausing pause) done) :
    Effort (.dialing pause firstPause) (done ++ [.dial]) := by
  cases h with
  | pausing tries =>
    rw [List.append_assoc]
    exact .dialing tries 0
  | ended _ hover => exact hover.elim

/-- A dial that fails is followed by a pause. -/
theorem Effort.wait (h : Effort (.dialing pause again) done) :
    Effort (.waiting pause again) (done ++ [.pause again]) := by
  cases h with
  | dialing tries failures =>
    rw [List.append_assoc]
    exact .waiting tries failures
  | ended _ hover => exact hover.elim

/-- That pause is followed by one more dial. -/
theorem Effort.redial (h : Effort (.waiting pause again) done) :
    Effort (.dialing pause (nextPause again)) (done ++ [.dial]) := by
  cases h with
  | waiting tries failures =>
    have hdials : dials (tries.length + 1) failures ++ [.pause (pauseBefore (failures + 1))] ++
        [.dial] = dials (tries.length + 1) (failures + 1) := by
      rw [dials_succ, List.append_assoc]
      rfl
    rw [List.append_assoc, hdials, nextPause_pauseBefore]
    exact .dialing tries (failures + 1)
  | ended _ hover => exact hover.elim

/-- A dial that succeeds is followed by the request, which completes the attempt. -/
theorem Effort.ask (h : Effort (.dialing pause again) done) (connection : Nat) :
    Effort (.asking pause connection) (done ++ [.ask connection]) := by
  cases h with
  | dialing tries failures =>
    rw [List.append_assoc, ← attempts_concat tries ⟨failures, connection⟩]
    exact .asking tries failures connection
  | ended _ hover => exact hover.elim

/-- An attempt that fails for a reason that passes is followed by the pause before the next one. -/
theorem Effort.retry (h : Effort (.asking pause connection) done) :
    Effort (.pausing (nextPause pause)) (done ++ [.pause (nextPause pause)]) := by
  cases h with
  | asking tries failures =>
    have hpause : nextPause (pauseBefore (tries.length + 1)) =
        pauseBefore ((tries ++ [(⟨failures, connection⟩ : Attempt)]).length + 1) := by
      rw [nextPause_pauseBefore, List.length_append]
      rfl
    rw [hpause]
    exact .pausing _
  | ended _ hover => exact hover.elim

end

/-- **Every turn keeps to the pauses.** What has been done of a resume fits the stage at which the
run stands, whatever happens next. -/
theorem Effort.turn (h : Effort t.stage (effort t.acts)) (hturn : Turn shown t e t') :
    Effort t'.stage (effort t'.acts) := by
  cases hturn with
  | note | idle => exact h
  | close | serve =>
    simp only [act, effort_concat]
    exact h
  | stop | fail | abandon => exact h.goesOut (show Stage.Over (.leaving _) from trivial)
  | mismatch | refuse | desert =>
    simp only [act, leave, enter, effort_concat]
    exact h.goesOut (show Stage.Over (.leaving _) from trivial)
  | finish =>
    simp only [act, enter, effort_concat]
    exact h.goesOut (show Stage.Over (.ended _) from trivial)
  | lose hstage =>
    rw [hstage] at h
    simp only [rest, act, enter, effort_concat]
    exact h.lose
  | dial hstage =>
    rw [hstage] at h
    simp only [Tunnel.dial, act, enter, effort_concat]
    exact h.dial
  | wait hstage =>
    rw [hstage] at h
    simp only [rest, act, enter, effort_concat]
    exact h.wait
  | redial hstage =>
    rw [hstage] at h
    simp only [Tunnel.dial, act, enter, effort_concat]
    exact h.redial
  | ask hstage =>
    rw [hstage] at h
    simp only [Tunnel.ask, act, enter, effort_concat]
    exact h.ask _
  | install =>
    simp only [Tunnel.install, act, enter, effort_concat]
    exact .serving
  | retry hstage =>
    rw [hstage] at h
    simp only [rest, act, enter, effort_concat]
    exact h.retry

/-! ### Runs -/

/-- No turn changes what the run is known by, nor whether it connects again. -/
theorem Turn.identity (h : Turn shown t e t') :
    t'.identity = t.identity ∧ t'.reconnects = t.reconnects := by
  cases h <;> exact ⟨rfl, rfl⟩

/-- It is noted at once that the holder asks for the end, and never forgotten. -/
theorem Turn.closing (h : Turn shown t e t') : t'.closing = true ↔ t.closing = true ∨ e.Closes := by
  cases h with
  | close | note => simp_all [act, Event.Closes]
  | stop | idle => simp_all [leave, enter]
  | _ => simp [act, enter, leave, rest, Tunnel.dial, Tunnel.ask, Tunnel.install, Event.Closes]

/-- Whether a run is on its way out with an outcome, or has ended with it or with none. -/
def Leaves (t : Tunnel ι) (outcome : Except TunnelError Unit) : Prop :=
  t.stage = .leaving outcome ∨ t.stage = .ended outcome ∨ t.stage = .ended (.ok ())

/-- The result of a run is the outcome it left with, or it ended well. -/
theorem finalResult_eq (t : Tunnel ι) (outcome : Except TunnelError Unit) :
    t.finalResult outcome = outcome ∨ t.finalResult outcome = .ok () := by
  rcases outcome with error | _
  · simp only [finalResult]
    split
    · exact .inr rfl
    · exact .inl rfl
  · exact .inl rfl

/-- A run on its way out stays so, and goes on with no other connection. -/
theorem Turn.leaves {outcome : Except TunnelError Unit} (h : Turn shown t e t')
    (hleaves : t.Leaves outcome) :
    t'.Leaves outcome ∧ ∀ c, .install c ∈ t'.acts → .install c ∈ t.acts := by
  have hnot (stage : Stage) (hstage : ¬ stage.Over) : t.stage ≠ stage := by
    rintro rfl
    rcases hleaves with heq | heq | heq <;> exact hstage (heq ▸ trivial)
  cases h with
  | close => exact ⟨hleaves, by simp [act]⟩
  | note | idle => exact ⟨hleaves, fun _ => id⟩
  | @finish left hstage =>
    refine ⟨?_, by simp [act, enter]⟩
    rcases hleaves with heq | heq | heq
    · obtain rfl : left = outcome := Stage.leaving.inj (hstage.symm.trans heq)
      rcases t.finalResult_eq left with hresult | hresult
      · exact .inr (.inl (congrArg Stage.ended hresult))
      · exact .inr (.inr (congrArg Stage.ended hresult))
    · exact absurd (hstage.symm.trans heq) (by simp)
    · exact absurd (hstage.symm.trans heq) (by simp)
  | serve hstage | stop hstage | lose hstage | fail hstage | dial hstage | redial hstage
  | wait hstage | ask hstage | install hstage | mismatch hstage | retry hstage | refuse hstage
  | desert hstage => exact absurd hstage (hnot _ id)
  | abandon hresuming =>
    rcases hleaves with heq | heq | heq <;> exact absurd hresuming (heq ▸ id)

section

variable [DecidableEq ι] {t₀ : Tunnel ι}

/-- Events can be run in two parts. -/
theorem run_append (events more : List (Event ι)) :
    t₀.run shown (events ++ more) = (t₀.run shown events).run shown more :=
  List.foldl_append

/-- One more event is one more turn. -/
theorem turn_run (shown : ι → String) (t₀ : Tunnel ι) (events : List (Event ι)) (e : Event ι) :
    Turn shown (t₀.run shown events) e (t₀.run shown (events ++ [e])) := by
  rw [run_append]
  exact turn shown _ e

/-- What holds at first and is kept by every turn holds after any events. -/
theorem run_induction {P : List (Event ι) → Tunnel ι → Prop} (hstart : P [] t₀)
    (hturn : ∀ events e t', P events (t₀.run shown events) →
      Turn shown (t₀.run shown events) e t' → P (events ++ [e]) t')
    (events : List (Event ι)) : P events (t₀.run shown events) := by
  induction events using List.reverseRecOn with
  | nil => exact hstart
  | append_singleton events e ih => exact hturn events e _ ih (turn_run shown t₀ events e)

/-- What the run is known by, and whether it connects again, is as it was at the start. -/
theorem identity_run (events : List (Event ι)) :
    (t₀.run shown events).identity = t₀.identity ∧
      (t₀.run shown events).reconnects = t₀.reconnects := by
  refine run_induction (P := fun _ t => t.identity = t₀.identity ∧ t.reconnects = t₀.reconnects)
    ⟨rfl, rfl⟩ ?_ events
  intro events e t' h hturn
  exact ⟨hturn.identity.1.trans h.1, hturn.identity.2.trans h.2⟩

/-- A run knows that it was closed exactly if one of the events closed it. -/
theorem closing_run (shown : ι → String) (hopen : t₀.closing = false) (events : List (Event ι)) :
    (t₀.run shown events).closing = true ↔ ∃ e ∈ events, e.Closes := by
  refine run_induction (P := fun events t => t.closing = true ↔ ∃ e ∈ events, e.Closes)
    (by simp [hopen]) ?_ events
  intro events e t' h hturn
  rw [hturn.closing, h]
  simp [or_and_right, exists_or]

/-- A run on its way out stays so whatever comes, and goes on with no other connection. -/
theorem leaves_run (shown : ι → String) {outcome : Except TunnelError Unit}
    (hleaves : t₀.Leaves outcome) (events : List (Event ι)) : (t₀.run shown events).Leaves outcome ∧
      ∀ c, .install c ∈ (t₀.run shown events).acts → .install c ∈ t₀.acts := by
  refine run_induction (P := fun _ t => t.Leaves outcome ∧ ∀ c, .install c ∈ t.acts →
    .install c ∈ t₀.acts) ⟨hleaves, fun _ => id⟩ ?_ events
  intro events e t' h hturn
  obtain ⟨hleaves', hinstalled⟩ := hturn.leaves h.1
  exact ⟨hleaves', fun c hc => h.2 c (hinstalled c hc)⟩

/-! ### How a run ends -/

/-- What ends a run that is not asked to end. -/
inductive Cause (shown : ι → String) (t₀ : Tunnel ι) (events : List (Event ι)) :
    TunnelError → Prop
  /-- A connection is lost, and the run does not connect again. -/
  | lost {before : List (Event ι)} {error : TunnelError} (h : before ++ [.lost error] <+: events)
      (hstage : (t₀.run shown before).stage = .serving) (hback : t₀.reconnects = false) :
      Cause shown t₀ events error
  /-- A request comes to nothing, for a reason that does not pass. -/
  | refused {before : List (Event ι)} {error : TunnelError} {pause connection : Nat}
      (h : before ++ [.answered (.error error)] <+: events)
      (hstage : (t₀.run shown before).stage = .asking pause connection)
      (hfinal : error.retryable = false) : Cause shown t₀ events error
  /-- The server grants something else. -/
  | mismatch {before : List (Event ι)} {other : ι} {pause connection : Nat}
      (h : before ++ [.answered (.ok other)] <+: events)
      (hstage : (t₀.run shown before).stage = .asking pause connection)
      (hother : other ≠ t₀.identity) : Cause shown t₀ events (t₀.mismatch shown other)

/-- What made a run end stays the cause when more happens. -/
theorem Cause.mono {events more : List (Event ι)} {error : TunnelError}
    (h : Cause shown t₀ events error) (hmore : events <+: more) : Cause shown t₀ more error := by
  cases h with
  | lost h hstage hback => exact .lost (h.trans hmore) hstage hback
  | refused h hstage hfinal => exact .refused (h.trans hmore) hstage hfinal
  | mismatch h hstage hother => exact .mismatch (h.trans hmore) hstage hother

/-- A run is on its way out because it was asked to end, or for one of these causes. -/
theorem cause_of_leaving {outcome : Except TunnelError Unit} (events : List (Event ι))
    (h : (t₀.run shown events).stage = .leaving outcome) (hserving : t₀.stage = .serving) :
    (t₀.run shown events).closing = true ∨
      ∃ error, outcome = .error error ∧ Cause shown t₀ events error := by
  refine run_induction (P := fun events t => t.stage = .leaving outcome → t.closing = true ∨
    ∃ error, outcome = .error error ∧ Cause shown t₀ events error) ?_ ?_ events h
  · intro hleaving
    exact absurd (hserving.symm.trans hleaving) (by simp)
  intro events e t' ih hturn hleaving
  have earlier (hsame : (t₀.run shown events).stage = .leaving outcome) :
      t'.closing = true ∨
        ∃ error, outcome = .error error ∧ Cause shown t₀ (events ++ [e]) error := by
    rcases ih hsame with hclosing | ⟨error, houtcome, hcause⟩
    · exact .inl (hturn.closing.mpr (.inl hclosing))
    · exact .inr ⟨error, houtcome, hcause.mono (List.prefix_append _ _)⟩
  cases hturn with
  | close | note => exact .inl rfl
  | stop _ hclosing | abandon _ _ hclosing | desert _ hclosing => exact .inl hclosing
  | fail hstage _ hback =>
    obtain rfl := Stage.leaving.inj hleaving
    exact .inr ⟨_, rfl, .lost (List.prefix_refl _) hstage ((identity_run events).2 ▸ hback)⟩
  | refuse hstage hfinal =>
    obtain rfl := Stage.leaving.inj hleaving
    exact .inr ⟨_, rfl, .refused (List.prefix_refl _) hstage hfinal⟩
  | @mismatch pause connection other hstage hother =>
    have hidentity : (t₀.run shown events).identity = t₀.identity := (identity_run events).1
    have herror : (t₀.run shown events).mismatch shown other = t₀.mismatch shown other := by
      rw [mismatch, mismatch, hidentity]
    obtain rfl := Stage.leaving.inj hleaving
    refine .inr ⟨_, congrArg Except.error herror, ?_⟩
    exact .mismatch (List.prefix_refl _) hstage (hidentity ▸ hother)
  | serve | idle => exact earlier hleaving
  | lose | dial | redial | wait | ask | install | retry | finish => cases hleaving

/-- A run that has ended did its last act at some moment, with the outcome that it had then. -/
theorem finished_of_ended {result : Except TunnelError Unit} (events : List (Event ι))
    (h : (t₀.run shown events).stage = .ended result) (hserving : t₀.stage = .serving) :
    ∃ before outcome, before ++ [.finished] <+: events ∧
      (t₀.run shown before).stage = .leaving outcome ∧
      result = (t₀.run shown before).finalResult outcome := by
  refine run_induction (P := fun events t => t.stage = .ended result →
    ∃ before outcome, before ++ [.finished] <+: events ∧
      (t₀.run shown before).stage = .leaving outcome ∧
      result = (t₀.run shown before).finalResult outcome) ?_ ?_ events h
  · intro hended
    exact absurd (hserving.symm.trans hended) (by simp)
  intro events e t' ih hturn hended
  have earlier (hsame : (t₀.run shown events).stage = .ended result) :
      ∃ before outcome, before ++ [.finished] <+: events ++ [e] ∧
        (t₀.run shown before).stage = .leaving outcome ∧
        result = (t₀.run shown before).finalResult outcome := by
    obtain ⟨before, outcome, hbefore, hrest⟩ := ih hsame
    exact ⟨before, outcome, hbefore.trans (List.prefix_append _ _), hrest⟩
  cases hturn with
  | finish hstage =>
    exact ⟨events, _, List.prefix_refl _, hstage, (Stage.ended.inj hended).symm⟩
  | close | note | serve | idle => exact earlier hended
  | stop | lose | fail | dial | redial | wait | ask | install | mismatch | retry | refuse
  | abandon | desert => cases hended

/-! ### Going on -/

/-- An attempt that fails: what the dials ran into, and the answer to the request. -/
structure FailedTry where
  dials : List TunnelError
  answer : TunnelError

/-- What happens in it. -/
def FailedTry.events (f : FailedTry) : List (Event ι) :=
  .rested :: (f.dials.flatMap fun error => [.unconnected error, .rested]) ++
    [.connected, .answered (.error f.answer)]

/-- However many dials fail, the run dials again. -/
theorem run_redials (shown : ι → String) {pause retry : Nat}
    (hstage : t₀.stage = .dialing pause retry) (errors : List TunnelError) :
    ∃ retry', (t₀.run shown (errors.flatMap fun error => [.unconnected error, .rested])).stage =
      .dialing pause retry' := by
  induction errors generalizing t₀ retry with
  | nil => exact ⟨retry, hstage⟩
  | cons error errors ih =>
    have hagain : ((t₀.step shown (.unconnected error)).step shown .rested).stage =
        .dialing pause (nextPause retry) := by
      simp [step, hstage, rest, enter, dial]
    exact ih hagain

/-- An attempt that fails for a reason that passes is followed by a pause before another one. -/
theorem run_failedTry (shown : ι → String) {pause : Nat} (hstage : t₀.stage = .pausing pause)
    {f : FailedTry} (hpasses : f.answer.retryable = true) :
    (t₀.run shown f.events).stage = .pausing (nextPause pause) := by
  have hdialing : (t₀.step shown .rested).stage = .dialing pause firstPause := by
    simp [step, hstage, dial, enter]
  obtain ⟨retry, hretry⟩ := run_redials shown hdialing f.dials
  rw [FailedTry.events, List.cons_append, run, List.foldl_cons, ← run, run_append]
  generalize (t₀.step shown .rested).run shown _ = t at hretry ⊢
  simp [run, step, hretry, ask, enter, judge, hpasses, rest]

/-- **A resume goes on** for as long as it is told that asking again may help. -/
theorem run_failures (shown : ι → String) (failures : List FailedTry)
    (hpasses : ∀ f ∈ failures, f.answer.retryable = true) {attempt : Nat}
    (hstage : t₀.stage = .pausing (pauseBefore (attempt + 1))) :
    (t₀.run shown (failures.flatMap FailedTry.events)).stage =
      .pausing (pauseBefore (attempt + failures.length + 1)) := by
  induction failures generalizing t₀ attempt with
  | nil => exact hstage
  | cons f failures ih =>
    have hnext := run_failedTry shown hstage (hpasses f List.mem_cons_self)
    rw [nextPause_pauseBefore] at hnext
    rw [List.flatMap_cons, run_append, List.length_cons,
      ih (fun f' hf' => hpasses f' (List.mem_cons_of_mem f hf')) hnext]
    congr 2
    omega

/-- Whether an event takes a run out of a resume: an answer to its request, other than that asking
again may help, or notice of being closed. -/
def Settles (t : Tunnel ι) (e : Event ι) : Prop :=
  (∃ pause connection answer, t.stage = .asking pause connection ∧ e = .answered answer ∧
      ∀ error, answer = .error error → error.retryable = false) ∨
    e = .noticed ∧ t.closing = true

/-- **A resume goes on exactly until it is settled.** -/
theorem resuming_step_iff {t : Tunnel ι} (hresuming : t.stage.Resuming) (e : Event ι) :
    (t.step shown e).stage.Resuming ↔ ¬ t.Settles e := by
  have hturn := turn shown t e
  constructor
  · rintro hnext (⟨pause, connection, answer, hstage, rfl, hfinal⟩ | ⟨rfl, hclosing⟩)
    · rcases answer with error | other
      · simp [step, hstage, judge, hfinal error rfl, leave, enter, Stage.Resuming] at hnext
      · simp only [step, hstage, judge] at hnext
        split at hnext <;> exact hnext
    · rcases t with ⟨_, _, _, _, _, stage, _⟩
      cases stage <;> simp_all [step, Stage.Resuming, leave, enter]
  · intro hsettles
    generalize t.step shown e = t' at hturn
    cases hturn with
    | close | note | idle => exact hresuming
    | serve hstage | stop hstage | lose hstage | fail hstage | finish hstage =>
      rw [hstage] at hresuming
      exact hresuming.elim
    | dial | redial | wait | ask | retry => trivial
    | install hstage => exact absurd (.inl ⟨_, _, _, hstage, rfl, fun _ h => by cases h⟩) hsettles
    | mismatch hstage =>
      exact absurd (.inl ⟨_, _, _, hstage, rfl, fun _ h => by cases h⟩) hsettles
    | refuse hstage hfinal =>
      refine absurd (.inl ⟨_, _, _, hstage, rfl, fun error h => ?_⟩) hsettles
      cases h
      exact hfinal
    | abandon _ _ hclosing | desert _ hclosing => exact absurd (.inr ⟨rfl, hclosing⟩) hsettles

end

/-- A run has a result only when it has ended with it. -/
theorem stage_of_result {result : Except TunnelError Unit} (h : t.result? = some result) :
    t.stage = .ended result := by
  simp only [result?] at h
  split at h
  · rename_i hended
    exact Option.some.inj h ▸ hended
  · cases h

/-- What is done stays done. -/
theorem Turn.acts (h : Turn shown t e t') : ∃ done, t'.acts = t.acts ++ done ∧
    (.close t.current ∈ done → e = .close ∨ (∃ outcome, t.stage = .leaving outcome) ∨
      ∃ pause connection, t.stage = .asking pause connection ∧
        (connection = t.current ∨ done = [.install t'.current, .close t.current] ∧
          t'.current = connection)) := by
  cases h with
  | close => exact ⟨[.close t.current], rfl, fun _ => .inl rfl⟩
  | note | stop | fail | abandon | idle => exact ⟨[], (List.append_nil _).symm, by simp⟩
  | serve => exact ⟨[.serve], rfl, by simp⟩
  | lose => exact ⟨[.pause _], rfl, by simp⟩
  | dial | redial => exact ⟨[.dial], rfl, by simp⟩
  | wait => exact ⟨[.pause _], rfl, by simp⟩
  | ask => exact ⟨[.ask _], rfl, by simp⟩
  | @install pause connection hstage =>
    refine ⟨[.install connection, .close t.current], List.append_assoc _ _ _, fun _ => ?_⟩
    exact .inr (.inr ⟨pause, connection, hstage, .inr ⟨rfl, rfl⟩⟩)
  | @mismatch pause connection _ hstage | @refuse pause connection _ hstage
  | @desert pause connection hstage =>
    refine ⟨[.close connection], rfl, fun hmem => .inr (.inr ⟨pause, connection, hstage, .inl ?_⟩)⟩
    exact (Act.close.inj (List.mem_singleton.mp hmem)).symm
  | @retry pause connection _ hstage =>
    refine ⟨[.close connection, .pause _], List.append_assoc _ _ _, fun hmem => ?_⟩
    refine .inr (.inr ⟨pause, connection, hstage, .inl ?_⟩)
    simp only [List.mem_cons, Act.close.injEq, reduceCtorEq, List.not_mem_nil, or_false] at hmem
    exact hmem.symm
  | finish hstage => exact ⟨[.close t.current], rfl, fun _ => .inr (.inl ⟨_, hstage⟩)⟩

/-- What was done before a run is still done after it. -/
theorem acts_run [DecidableEq ι] (t₀ : Tunnel ι) (events : List (Event ι)) :
    t₀.acts ⊆ (t₀.run shown events).acts := by
  refine run_induction (P := fun _ t => t₀.acts ⊆ t.acts) (List.Subset.refl _) ?_ events
  intro events e t' h hturn
  obtain ⟨done, hacts, -⟩ := hturn.acts
  rw [hacts]
  exact List.Subset.trans h (List.subset_append_left _ _)

end Tunnel

/-! ### All that is promised -/

/-- Whether an error that is reported comes from elsewhere: `cancelled` is the word that the run
itself has for being closed. -/
def Event.Foreign : Event ι → Prop
  | .lost error => error ≠ .cancelled
  | .answered (.error error) => error ≠ .cancelled
  | _ => True

/-- Reading an answer never says that the run was closed. -/
theorem readAnswer_ne_cancelled {α : Type} (parse? : Bytes → Option α) (reply : Bytes) :
    readAnswer parse? reply ≠ .error .cancelled := by
  simp only [readAnswer]
  cases Received.ofStream parse? reply true <;> simp

/-- Neither does what the answer to a request for a name says. -/
theorem nameOf_ne_cancelled (answer : HttpTunnelAnswer) : nameOf answer ≠ .error .cancelled := by
  rw [nameOf_eq]
  split
  · simp
  · split <;> simp

/-- Neither does what the answer to a request for a port says. -/
theorem portOf_ne_cancelled (answer : TcpTunnelAnswer) : portOf answer ≠ .error .cancelled := by
  rw [portOf_eq]
  split
  · simp
  · split <;> simp

/-- So whatever the server sends, what is made of it is not the word for being closed. -/
theorem grantOf_ne_cancelled (kind : TunnelKind) (reply : Bytes) :
    grantOf kind reply ≠ .error .cancelled := by
  cases kind with
  | http =>
    have hread := readAnswer_ne_cancelled HttpTunnelAnswer.parse? reply
    simp only [grantOf]
    cases hanswer : readAnswer HttpTunnelAnswer.parse? reply with
    | error e => simpa [bind, Except.bind, hanswer] using hread
    | ok answer => exact nameOf_ne_cancelled answer
  | tcp =>
    have hread := readAnswer_ne_cancelled TcpTunnelAnswer.parse? reply
    simp only [grantOf]
    cases hanswer : readAnswer TcpTunnelAnswer.parse? reply with
    | error e => simpa [bind, Except.bind, hanswer] using hread
    | ok answer => exact portOf_ne_cancelled answer

/-- What comes of a request is never that word. -/
theorem foreign_of_request (known : Grant → ι) (peer : Peer) (request : TunnelRequest) :
    (Event.answered ((requestTunnel peer request).2.map known)).Foreign := by
  have hresult : (requestTunnel peer request).2 ≠ .error .cancelled := by
    simp only [requestTunnel]
    split
    · simp
    · simp
    · simp
    · exact grantOf_ne_cancelled _ _
  cases h : (requestTunnel peer request).2 with
  | ok grant => trivial
  | error error =>
    rintro rfl
    exact hresult h

/-- Nor does a connection that is lost say it. -/
theorem foreign_of_accept {session : MuxSession} {side : End} {error : TunnelError}
    (h : session.accept side = .error error) : (Event.lost error : Event ι).Foreign := by
  simp only [MuxSession.accept] at h
  split at h
  · obtain rfl := Except.error.inj h
    simp [Event.Foreign]
  · split at h <;> cases h

/-- What it takes to open a tunnel. -/
theorem eq_of_openTunnel {reconnects cancelled : Bool} {connected : Except TunnelError Unit}
    {answered : Except TunnelError ι} {t₀ : Tunnel ι}
    (h : openTunnel reconnects cancelled connected answered = .ok t₀) :
    ∃ identity, answered = .ok identity ∧ t₀ = { reconnects, identity } := by
  simp only [openTunnel, opening] at h
  split at h
  · cases h
  · split at h
    · cases h
    · cases h
    · exact ⟨_, rfl, (Except.ok.inj h).symm⟩

section

variable [DecidableEq ι]

/-- What is promised of a run, at each moment of it: after these events, and for whatever comes
next. -/
structure Steadfast (shown : ι → String) (t₀ : Tunnel ι) (events : List (Event ι)) : Prop where
  /-- It is known by the same all the time. -/
  identity : (t₀.run shown events).identity = t₀.identity
  /-- What is granted as something else is never used and ends the run. -/
  mismatch : ∀ pause connection other,
    (t₀.run shown events).stage = .asking pause connection → other ≠ t₀.identity →
    ∀ more, (t₀.run shown (events ++ .answered (.ok other) :: more)).Leaves
        (.error (t₀.mismatch shown other)) ∧
      .install connection ∉ (t₀.run shown (events ++ .answered (.ok other) :: more)).acts ∧
      .close connection ∈ (t₀.run shown (events ++ .answered (.ok other) :: more)).acts
  /-- When the connection is lost, it tries again as long as it is told that this may help. -/
  tries : t₀.reconnects = true → (t₀.run shown events).stage = .serving →
    (t₀.run shown events).closing = false →
    ∀ (error : TunnelError) (failures : List Tunnel.FailedTry),
      (∀ f ∈ failures, f.answer.retryable = true) →
      (t₀.run shown
        (events ++ .lost error :: failures.flatMap Tunnel.FailedTry.events)).stage =
          .pausing (pauseBefore (failures.length + 1))
  /-- It does so no longer than that, unless it is closed. -/
  settles : (t₀.run shown events).stage.Resuming → ∀ e,
    (t₀.run shown (events ++ [e])).stage.Resuming ↔ ¬ (t₀.run shown events).Settles e
  /-- It pauses before each attempt, longer and longer. -/
  pauses : ∃ tries, effort (t₀.run shown events).acts <+: attempts tries
  /-- It does not close the connection that it runs on, but when it has gone on with another
  one, and at the very end. -/
  replaces : ∀ e, e ≠ .close →
    (∀ outcome, (t₀.run shown events).stage ≠ .leaving outcome) →
    ∃ done, (t₀.run shown (events ++ [e])).acts = (t₀.run shown events).acts ++ done ∧
      (.close (t₀.run shown events).current ∈ done →
        done = [.install (t₀.run shown (events ++ [e])).current,
          .close (t₀.run shown events).current] ∧
        (t₀.run shown (events ++ [e])).current ≠ (t₀.run shown events).current)
  /-- When it has ended, each connection that it ever got is closed, and so is each on which it
  ever asked. -/
  returns : ∀ result, (t₀.run shown events).result? = some result → ∀ connection,
    connection < (t₀.run shown events).connections ∨
        .ask connection ∈ (t₀.run shown events).acts →
      (t₀.run shown events).closed connection = true
  /-- Its holder is told that it ended well exactly if it had asked for the end before. Otherwise
  it is told what made it end. -/
  result : (∀ e ∈ events, e.Foreign) →
    ∀ result, (t₀.run shown events).wait false = some result →
    ∃ before, before ++ [.finished] <+: events ∧
      (∃ outcome, (t₀.run shown before).stage = .leaving outcome) ∧
      (result = .ok () ↔ ∃ e ∈ before, e.Closes) ∧
      ∀ error, result = .error error → Tunnel.Cause shown t₀ before error
  /-- It is told so once. -/
  later : (t₀.run shown events).wait true = some (.ok ())

/-- Custody is kept by every run. -/
theorem custody_run (shown : ι → String) {t₀ : Tunnel ι} (h : t₀.Custody)
    (events : List (Event ι)) : (t₀.run shown events).Custody :=
  Tunnel.run_induction (P := fun _ t => t.Custody) h (fun _ _ _ hcustody hturn =>
    hcustody.turn hturn) events

/-- What has been done of a resume fits the stage after any events. -/
theorem effort_run {t₀ : Tunnel ι} (h : Tunnel.Effort t₀.stage (effort t₀.acts))
    (events : List (Event ι)) :
    Tunnel.Effort (t₀.run shown events).stage (effort (t₀.run shown events).acts) :=
  Tunnel.run_induction (P := fun _ t => Tunnel.Effort t.stage (effort t.acts)) h
    (fun _ _ _ heffort hturn => heffort.turn hturn) events

/-! ### Each promise by itself -/

section

variable {shown : ι → String} {t₀ : Tunnel ι}

/-- What is granted as something else is never used and ends the run. -/
theorem mismatch_run (hcustody : t₀.Custody) {events : List (Event ι)} {pause connection : Nat}
    {other : ι} (hstage : (t₀.run shown events).stage = .asking pause connection)
    (hother : other ≠ t₀.identity) (more : List (Event ι)) :
    (t₀.run shown (events ++ .answered (.ok other) :: more)).Leaves
        (.error (t₀.mismatch shown other)) ∧
      .install connection ∉ (t₀.run shown (events ++ .answered (.ok other) :: more)).acts ∧
      .close connection ∈ (t₀.run shown (events ++ .answered (.ok other) :: more)).acts := by
  have hidentity : (t₀.run shown events).identity = t₀.identity :=
    (Tunnel.identity_run events).1
  obtain ⟨-, -, hnew⟩ := (custody_run shown hcustody events).asking pause connection hstage
  have hrun : t₀.run shown (events ++ .answered (.ok other) :: more) =
      ((t₀.run shown events).step shown (.answered (.ok other))).run shown more :=
    Tunnel.run_append events (.answered (.ok other) :: more)
  rw [hrun]
  clear hrun
  generalize t₀.run shown events = t at *
  have hstep : Tunnel.step shown t (.answered (.ok other)) =
      (t.act (.close connection)).leave (.error (t₀.mismatch shown other)) := by
    simp [Tunnel.step, hstage, Tunnel.judge, hidentity, hother, Tunnel.mismatch, Tunnel.act]
  rw [hstep]
  have hleaving : ((t.act (.close connection)).leave (.error (t₀.mismatch shown other))).Leaves
      (.error (t₀.mismatch shown other)) := .inl rfl
  obtain ⟨hleaves, hinstalled⟩ := Tunnel.leaves_run shown hleaving more
  refine ⟨hleaves, fun hmem => ?_, Tunnel.acts_run _ more ?_⟩
  · have hmem := hinstalled connection hmem
    simp only [Tunnel.leave, Tunnel.enter, Tunnel.act, List.mem_append, List.mem_singleton,
      reduceCtorEq, or_false] at hmem
    exact hnew hmem
  · simp [Tunnel.leave, Tunnel.enter, Tunnel.act]

/-- When the connection is lost, the run tries again as long as it is told that this may help. -/
theorem tries_run (hback : t₀.reconnects = true) {events : List (Event ι)}
    (hserving : (t₀.run shown events).stage = .serving)
    (hopen : (t₀.run shown events).closing = false) (error : TunnelError)
    (failures : List Tunnel.FailedTry) (hpasses : ∀ f ∈ failures, f.answer.retryable = true) :
    (t₀.run shown (events ++ .lost error :: failures.flatMap Tunnel.FailedTry.events)).stage =
      .pausing (pauseBefore (failures.length + 1)) := by
  have hback' : (t₀.run shown events).reconnects = true :=
    (Tunnel.identity_run events).2.trans hback
  have hlost : ((t₀.run shown events).step shown (.lost error)).stage =
      .pausing (pauseBefore (0 + 1)) := by
    simp only [Tunnel.step, hserving, Tunnel.serve, hopen, hback']
    rfl
  have hrun := Tunnel.run_failures shown failures hpasses hlost
  rw [Nat.zero_add] at hrun
  rw [Tunnel.run_append]
  exact hrun

/-- A connection in use is not closed but for another one, and at the end. -/
theorem replaces_run (hcustody : t₀.Custody) (events : List (Event ι)) {e : Event ι}
    (hclose : e ≠ .close) (hstays : ∀ outcome, (t₀.run shown events).stage ≠ .leaving outcome) :
    ∃ done, (t₀.run shown (events ++ [e])).acts = (t₀.run shown events).acts ++ done ∧
      (.close (t₀.run shown events).current ∈ done →
        done = [.install (t₀.run shown (events ++ [e])).current,
          .close (t₀.run shown events).current] ∧
        (t₀.run shown (events ++ [e])).current ≠ (t₀.run shown events).current) := by
  obtain ⟨done, hacts, hclosed⟩ := (Tunnel.turn_run shown t₀ events e).acts
  refine ⟨done, hacts, fun hmem => ?_⟩
  rcases hclosed hmem with heq | ⟨outcome, hleaving⟩ | ⟨pause, connection, hstage, hwhich⟩
  · exact absurd heq hclose
  · exact absurd hleaving (hstays outcome)
  · obtain ⟨-, hne, -⟩ := (custody_run shown hcustody events).asking pause connection hstage
    rcases hwhich with heq | ⟨hdone, hcurrent⟩
    · exact absurd heq hne
    · exact ⟨hdone, hcurrent ▸ hne⟩

/-- When a run has ended, each connection that it ever got is closed. -/
theorem returns_run (hcustody : t₀.Custody) (events : List (Event ι))
    {result : Except TunnelError Unit}
    (hended : (t₀.run shown events).stage = .ended result) {connection : Nat}
    (hgot : connection < (t₀.run shown events).connections ∨
      .ask connection ∈ (t₀.run shown events).acts) :
    .close connection ∈ (t₀.run shown events).acts := by
  have h := custody_run shown hcustody events
  replace hgot : connection < (t₀.run shown events).connections := by
    rcases hgot with hlt | hasked
    · exact hlt
    · exact h.known connection (.inr hasked)
  by_cases hcurrent : connection = (t₀.run shown events).current
  · exact hcurrent ▸ h.ended result hended
  · exact h.closed connection hgot hcurrent (by simp [hended])

/-- The word for being closed is used for nothing else. -/
theorem Tunnel.Cause.ne_cancelled {events : List (Event ι)} (hforeign : ∀ e ∈ events, e.Foreign)
    {error : TunnelError} (h : Tunnel.Cause shown t₀ events error) : error ≠ .cancelled := by
  have mem {before : List (Event ι)} {e : Event ι} (hbegin : before ++ [e] <+: events) :
      e ∈ events := hbegin.subset (List.mem_append_right _ (List.mem_singleton_self e))
  cases h with
  | lost hbegin => exact hforeign _ (mem hbegin)
  | refused hbegin => exact hforeign _ (mem hbegin)
  | mismatch => simp [Tunnel.mismatch]

/-- How a run that has ended ended. -/
theorem result_run (hserving : t₀.stage = .serving) (hopen : t₀.closing = false)
    {events : List (Event ι)} (hforeign : ∀ e ∈ events, e.Foreign)
    {result : Except TunnelError Unit}
    (hended : (t₀.run shown events).stage = .ended result) :
    ∃ before, before ++ [.finished] <+: events ∧
      (∃ outcome, (t₀.run shown before).stage = .leaving outcome) ∧
      (result = .ok () ↔ ∃ e ∈ before, e.Closes) ∧
      ∀ error, result = .error error → Tunnel.Cause shown t₀ before error := by
  obtain ⟨before, outcome, hbefore, hleaving, rfl⟩ :=
    Tunnel.finished_of_ended events hended hserving
  refine ⟨before, hbefore, ⟨outcome, hleaving⟩, ?_⟩
  have hearlier : ∀ e ∈ before, e.Foreign := fun e he =>
    hforeign e (hbefore.subset (List.mem_append_left _ he))
  rw [← Tunnel.closing_run shown hopen before]
  cases hclosing : (t₀.run shown before).closing with
  | true =>
    have hgood : (t₀.run shown before).finalResult outcome = .ok () := by
      rcases outcome with error | _ <;> simp [Tunnel.finalResult, hclosing]
    simp [hgood]
  | false =>
    -- Nobody asked for the end, so something else made the run end.
    rcases Tunnel.cause_of_leaving before hleaving hserving with hcloses | ⟨error, rfl, hcause⟩
    · exact absurd (hclosing.symm.trans hcloses) (by simp)
    have hbad : (t₀.run shown before).finalResult (.error error) = .error error := by
      simp [Tunnel.finalResult, hclosing, hcause.ne_cancelled hearlier]
    rw [hbad]
    refine ⟨by simp, fun other hother => ?_⟩
    obtain rfl : error = other := Except.error.inj hother
    exact hcause

end

/-- **Every run of a tunnel that was opened is steadfast**, whatever happens on the way. An opening
that fails closes each connection on which it asked. What requests come to, and how connections are
lost, is never told with the run's own word for being closed. -/
theorem steadfast_of_openTunnel (shown : ι → String) (reconnects cancelled : Bool)
    (connected : Except TunnelError Unit) (answered : Except TunnelError ι) :
    (∀ error, openTunnel reconnects cancelled connected answered = .error error →
      ∀ connection, .ask connection ∈ (opening reconnects cancelled connected answered).1 →
        .close connection ∈ (opening reconnects cancelled connected answered).1) ∧
    (∀ (known : Grant → ι) (peer : Peer) (request : TunnelRequest),
      (Event.answered ((requestTunnel peer request).2.map known)).Foreign) ∧
    (∀ (session : MuxSession) (side : End) (error : TunnelError),
      session.accept side = .error error → (Event.lost error : Event ι).Foreign) ∧
    ∀ t₀, openTunnel reconnects cancelled connected answered = .ok t₀ →
      ∀ events : List (Event ι), Steadfast shown t₀ events := by
  refine ⟨?_, foreign_of_request, fun _ _ _ => foreign_of_accept, ?_⟩
  · intro error herror connection hasked
    simp only [openTunnel, opening] at herror hasked ⊢
    split at herror
    · simp_all
    · split at herror <;> simp_all
  · intro t₀ hopened events
    obtain ⟨identity, -, rfl⟩ := eq_of_openTunnel hopened
    have hcustody := Tunnel.Custody.fresh reconnects identity
    constructor
    case identity => exact (Tunnel.identity_run events).1
    case mismatch =>
      intro pause connection other hasking hother more
      exact mismatch_run hcustody hasking hother more
    case tries =>
      intro hback hserving hopen error failures hpasses
      exact tries_run hback hserving hopen error failures hpasses
    case settles =>
      intro hresuming e
      rw [Tunnel.run_append]
      exact Tunnel.resuming_step_iff hresuming e
    case pauses => exact (effort_run .serving events).begun
    case replaces =>
      intro e hclose hstays
      exact replaces_run hcustody events hclose hstays
    case returns =>
      intro result hresult connection hgot
      simpa [Tunnel.closed] using returns_run hcustody events (Tunnel.stage_of_result hresult) hgot
    case result =>
      intro hforeign result hresult
      exact result_run rfl rfl hforeign (Tunnel.stage_of_result hresult)
    case later => rfl

/-- A night on a bad line: a lost connection, a dial that fails, a server that still holds the
port for the client that it lost, and a close between the grant and its use. -/
def night : List (Event UInt16) :=
  [.opened, .lost (.io "reset"), .rested, .unconnected (.io "refused"), .rested, .connected,
    .answered (.error (.rejected ⟨.portUnavailable, "requested port unavailable"⟩)), .rested,
    .connected, .close, .answered (.ok 30001), .noticed, .finished]

/-- The tunnel as it was in the evening. -/
def evening : Tunnel UInt16 := { reconnects := true, identity := 30001 }

/-- What happens in the night is foreign to the run, and the tunnel of the evening holds on through
it and ends well. -/
theorem steadfast_night :
    openTunnel true false (.ok ()) (.ok 30001) = .ok evening ∧ (∀ e ∈ night, e.Foreign) ∧
      Steadfast toString evening night ∧
      (evening.run toString night).wait false = some (.ok ()) := by
  have hforeign : ∀ e ∈ night, e.Foreign := by simp [night, Event.Foreign]
  refine ⟨rfl, hforeign, ?_, rfl⟩
  exact (steadfast_of_openTunnel toString true false (.ok ()) (.ok 30001)).2.2.2 evening rfl night

end

end ReverseTunnel.Client
