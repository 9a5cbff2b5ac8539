import ReverseTunnel.Server.State

/-!
# Courses of events

A course is the server with its sessions, together with a trace: every reply that a session got,
the latest first. The trace is a second ledger. Nothing of the server reads it; it remembers
what the state forgets, such as who once asked for what. What a session has taken and not yet
given back is read off its own replies (`standing`), without a look at the state, so that the
state can be compared with it.

## Main results

* `mem_past_iff`: a session forgets nothing that it was told.
* `Course.invariant`: what holds at the start and is kept by every reply holds in the course of
  all moves.
-/

namespace ReverseTunnel.Server

/-- A call with the reply that it got. -/
structure Event where
  call : Call
  reply : call.Reply

/-- What sessions were told, the latest first. -/
abbrev Trace (σ : Type) := List (σ × Event)

/-! ### The standing of a session -/

/-- What a session knows and holds, by the replies that it got. -/
structure Standing where
  /-- The request that it received, once its fields are read. -/
  asked : Option TunnelRequest := none
  /-- The identity of its token. -/
  token : Option TokenId := none
  /-- The slot that it took and did not give back. -/
  slot : Slot := .returned
  /-- The id and the policy with which it registered, until it unregisters. -/
  listing : Option (String × Policy) := none
  /-- The port that it bound, until it unbinds it. -/
  port : Option UInt16 := none
  /-- All that it was told, the latest first. -/
  past : List Event := []

namespace Standing

/-- What a reply changes. -/
def note (st : Standing) : (call : Call) → call.Reply → Standing
  | .receive, .request raw => { st with asked := raw.decode.toOption }
  | .identify _, reply => { st with token := (reply.getD none).filter fun id => 0 < id }
  | .acquire token limit, true =>
    { st with slot := if limit ≤ 0 ∨ token ≤ 0 then .free else .held token }
  | .release, _ => { st with slot := .returned }
  | .register id policy, true => { st with listing := some (id, policy) }
  | .unregister _, _ => { st with listing := none }
  | .bind port, true => { st with port := some port }
  | .unbind _, _ => { st with port := none }
  | _, _ => st

/-- The standing after one more reply. -/
def after (st : Standing) (e : Event) : Standing :=
  { st.note e.call e.reply with past := e :: st.past }

/-- What a session is told is kept, the latest first. -/
@[simp] theorem after_past (st : Standing) (e : Event) : (st.after e).past = e :: st.past := rfl

/-- Whether the session has no tunnel. -/
def Unseen (st : Standing) : Prop := st.listing = none ∧ st.port = none

/-- Whether the session holds nothing at all. -/
def AtRest (st : Standing) : Prop := st.slot = .returned ∧ st.Unseen

end Standing

section

variable {σ : Type} [DecidableEq σ]

/-- The standing of a session, from its own replies among all. -/
def standing (me : σ) : Trace σ → Standing
  | [] => {}
  | (who, e) :: earlier => if who = me then (standing me earlier).after e else standing me earlier

/-- A session that is told something stands where its own reply leads. -/
@[simp] theorem standing_cons_self (me : σ) (e : Event) (trace : Trace σ) :
    standing me ((me, e) :: trace) = (standing me trace).after e := by
  simp [standing]

/-- What one session is told does not change where another one stands. -/
theorem standing_cons_of_ne {me who : σ} (h : who ≠ me) (e : Event) (trace : Trace σ) :
    standing me ((who, e) :: trace) = standing me trace := by
  simp [standing, h]

/-- What a reply does not change for its own session, it changes for nobody. -/
theorem standing_cons_congr {β : Type} (f : Standing → β) {me : σ} {e : Event} {trace : Trace σ}
    (hf : f ((standing me trace).after e) = f (standing me trace)) (you : σ) :
    f (standing you ((me, e) :: trace)) = f (standing you trace) := by
  by_cases hyou : me = you
  · subst hyou
    rw [standing_cons_self, hf]
  · rw [standing_cons_of_ne hyou]

/-- The past of a session is its part of the trace. -/
theorem mem_past_iff {me : σ} {e : Event} {trace : Trace σ} :
    e ∈ (standing me trace).past ↔ (me, e) ∈ trace := by
  induction trace with
  | nil => simp [standing]
  | cons head earlier ih =>
      obtain ⟨who, told⟩ := head
      by_cases h : who = me
      · subst h
        simp [ih]
      · rw [standing_cons_of_ne h, ih]
        simp [Ne.symm h]

end

/-! ### Moves -/

/-- What happens next. -/
inductive Move (σ : Type) where
  /-- A client connects, under a name that no session has had. -/
  | enter (me : σ)
  /-- A session makes its next call. -/
  | step (me : σ) (c : Circumstances)

/-- The server with its sessions, and all that they were told. -/
structure Course (σ : Type) where
  system : System σ
  trace : Trace σ := []

namespace Course

variable {σ : Type} [DecidableEq σ]

/-- A server that nobody has connected to yet: there may be reservations and spent requests,
but no tunnels. -/
def start (store : Store) (rates : RateLimiter Float) : Course σ :=
  { system := { shared := { store, rates } } }

/-- The reply that the next call of a session would get, if it has one to make. -/
def told? (system : System σ) (me : σ) (c : Circumstances) : Option (σ × Event) :=
  match system.sessions.get? me with
  | some ⟨.ask call _, seat⟩ => some (me, ⟨call, (perform me c system.shared seat call).1⟩)
  | _ => none

/-- The course after one more move. Names of sessions are not used twice. -/
def next (settings : Settings) (w : Course σ) : Move σ → Course σ
  | .enter me =>
    if w.system.sessions.contains me then w
    else { w with system := w.system.enter settings me }
  | .step me c => ⟨w.system.step me c, (told? w.system me c).toList ++ w.trace⟩

/-- The course of some moves, one after another. -/
def run (settings : Settings) (w : Course σ) (moves : List (Move σ)) : Course σ :=
  moves.foldl (next settings) w

/-- The course after a session that is in its seat was told the reply to a call. -/
def reply (w : Course σ) (me : σ) (c : Circumstances) (call : Call)
    (next : call.Reply → Plan Unit) (seat : Seat) : Course σ :=
  let done := perform me c w.system.shared seat call
  ⟨⟨done.2.1, w.system.sessions.put me ⟨next done.1, done.2.2⟩⟩, (me, ⟨call, done.1⟩) :: w.trace⟩

/-- A session that has a call to make is told its reply. -/
theorem next_step_of_ask {settings : Settings} {w : Course σ} {me : σ} {call : Call}
    {next : call.Reply → Plan Unit} {seat : Seat}
    (h : w.system.sessions.get? me = some ⟨.ask call next, seat⟩) (c : Circumstances) :
    w.next settings (.step me c) = w.reply me c call next seat := by
  simp [Course.next, System.step, told?, reply, h]

/-- Nothing happens to a session that has ended, or that never was. -/
theorem next_step_of_not_ask {settings : Settings} {w : Course σ} {me : σ}
    (h : ∀ call next seat, w.system.sessions.get? me ≠ some ⟨.ask call next, seat⟩)
    (c : Circumstances) : w.next settings (.step me c) = w := by
  rcases hs : w.system.sessions.get? me with _ | ⟨_ | ⟨call, next⟩, seat⟩
  · simp [Course.next, System.step, told?, hs]
  · simp [Course.next, System.step, told?, hs]
  · exact absurd hs (h call next seat)

/-- A step of one session tells the others nothing. -/
theorem standing_next_of_ne {settings : Settings} {w : Course σ} {me you : σ} (h : me ≠ you)
    (c : Circumstances) :
    standing you (w.next settings (.step me c)).trace = standing you w.trace := by
  by_cases hask : ∃ call next seat, w.system.sessions.get? me = some ⟨.ask call next, seat⟩
  · obtain ⟨call, next, seat, hask⟩ := hask
    rw [next_step_of_ask hask]
    exact standing_cons_of_ne h _ _
  · rw [next_step_of_not_ask (fun call next seat hs => hask ⟨call, next, seat, hs⟩)]

/-- What holds before a move, and is kept if somebody enters and if a session is told a reply, holds
after it. -/
theorem kept_next {settings : Settings} {P : Course σ → Prop} {w : Course σ} (hw : P w)
    (henter : ∀ me, w.system.sessions.get? me = none →
      P { w with system := w.system.enter settings me })
    (hreply : ∀ me c call next seat, w.system.sessions.get? me = some ⟨.ask call next, seat⟩ →
      P (w.reply me c call next seat))
    (move : Move σ) : P (w.next settings move) := by
  rcases move with me | ⟨me, c⟩
  · by_cases hme : w.system.sessions.contains me = true
    · simpa only [next, if_pos hme] using hw
    · simp only [next, if_neg hme]
      exact henter me (by simpa [Table.contains] using hme)
  · by_cases h : ∃ call next seat, w.system.sessions.get? me = some ⟨.ask call next, seat⟩
    · obtain ⟨call, next, seat, h⟩ := h
      rw [next_step_of_ask h]
      exact hreply me c call next seat h
    · rw [next_step_of_not_ask (fun call next seat hs => h ⟨call, next, seat, hs⟩)]
      exact hw

/-- **The rule of invariants.** What holds at the start, and is kept when somebody enters and
when a session is told a reply, holds in the course of all moves. -/
theorem invariant {settings : Settings} {store : Store} {rates : RateLimiter Float}
    {P : Course σ → Prop} (hstart : P (start store rates))
    (henter : ∀ w me, P w → w.system.sessions.get? me = none →
      P { w with system := w.system.enter settings me })
    (hreply : ∀ w me c call next seat, P w →
      w.system.sessions.get? me = some ⟨.ask call next, seat⟩ →
      P (w.reply me c call next seat))
    (moves : List (Move σ)) : P ((start store rates).run settings moves) := by
  refine List.foldlRecOn moves _ hstart fun w hw move _ => ?_
  exact kept_next hw (fun me => henter w me hw)
    (fun me c call next seat => hreply w me c call next seat hw) move

end Course

end ReverseTunnel.Server
