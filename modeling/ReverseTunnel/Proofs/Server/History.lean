import Mathlib.Data.List.Induction
import ReverseTunnel.Proofs.Server.Candor
import ReverseTunnel.Proofs.Server.Compliance

/-!
# The history of a course

A course only adds to what was told and to what is reserved, and it never changes who is known.
Every reply in its trace was the reply to one step, in the course of the moves before that step.
And whatever conduct a session keeps when it is alone, it keeps in company: it is where its plan
would have come had it been told the same.

## Main results

* `Course.occurred`: where a reply came from.
* `Course.follows_run`: every session keeps its conduct in every course.
* `Course.sound_run`: so every dialogue is sound.
-/

namespace ReverseTunnel.Server

/-- Tokens are as they were, whatever happens to reservations. -/
theorem StoreEffect.tokens {before after : Store} {e : Event} (h : StoreEffect before e after) :
    after.tokens = before.tokens := by
  cases h with
  | look => rfl
  | quiet => rfl
  | reserve h =>
      rcases reserve?_eq_some h with ⟨-, rfl⟩ | ⟨-, rfl⟩
      · rfl
      · rfl

/-! ### What sessions remember -/

section

variable {S σ : Type} [DecidableEq σ] (after : S → Event → S) (first : S)

/-- What a session remembers of its own replies among all, if each is noted in this way. -/
def memory (me : σ) (trace : Trace σ) : S :=
  (standing me trace).past.foldr (fun e s => after s e) first

/-- A session that is told something notes it in what it remembers. -/
@[simp] theorem memory_cons_self (me : σ) (e : Event) (trace : Trace σ) :
    memory after first me ((me, e) :: trace) = after (memory after first me trace) e := by
  simp [memory]

/-- What one session is told changes nothing in what another one remembers. -/
theorem memory_cons_of_ne {me who : σ} (h : who ≠ me) (e : Event) (trace : Trace σ) :
    memory after first me ((who, e) :: trace) = memory after first me trace := by
  rw [memory, standing_cons_of_ne h, memory]

/-- What is kept by every reply holds of what a session remembers. -/
theorem memory_induction {P : S → Prop} (hfirst : P first) (hafter : ∀ s e, P s → P (after s e))
    (me : σ) (trace : Trace σ) : P (memory after first me trace) := by
  rw [memory]
  induction (standing me trace).past with
  | nil => exact hfirst
  | cons e past ih => exact hafter _ e ih

end

/-! ### Dialogues -/

/-- A dialogue notes what was told and nothing else. -/
structure Dialogue.Faithful (d : Dialogue) : Prop where
  raw : ∀ raw, d.raw = some raw → ⟨.receive, .request raw⟩ ∈ d.told
  said : ∀ a, a ∈ d.said ↔ ∃ sent, ⟨.send a, sent⟩ ∈ d.told
  reserved : ∀ token place,
    (token, place) ∈ d.reserved ↔ ⟨.reserve token place, true⟩ ∈ d.told

namespace Dialogue.Faithful

variable {d : Dialogue}

/-- A reply to another call is noted nowhere else. -/
theorem hear (h : d.Faithful) {e : Event} (hsend : ∀ a sent, ⟨.send a, sent⟩ ≠ e)
    (hreserve : ∀ token place, ⟨.reserve token place, true⟩ ≠ e) : (d.hear [e]).Faithful where
  raw raw hraw := List.mem_cons_of_mem e (h.raw raw hraw)
  said a := by simp [Dialogue.hear, h.said, hsend]
  reserved token place := by simp [Dialogue.hear, h.reserved, hreserve]

/-- A faithful dialogue notes every reply as it should. -/
theorem after (h : d.Faithful) (e : Event) : (d.after e).Faithful := by
  obtain ⟨call, reply⟩ := e
  cases call with
  | receive =>
      have hmore := h.hear (e := ⟨.receive, reply⟩) (by simp) (by simp)
      rcases reply with raw | _ | _
      · refine ⟨fun raw' hraw => ?_, hmore.said, hmore.reserved⟩
        obtain rfl : raw = raw' := Option.some.inj hraw
        exact List.mem_cons_self
      · exact hmore
      · exact hmore
  | reserve token place =>
      rcases reply with _ | _
      · exact h.hear (by simp) (by simp)
      · refine ⟨fun raw hraw => List.mem_cons_of_mem _ (h.raw raw hraw), fun a => ?_,
          fun token' place' => ?_⟩
        · simp [Dialogue.after, note, h.said]
        · simp [Dialogue.after, note, h.reserved]
  | send answer =>
      refine ⟨fun raw hraw => List.mem_cons_of_mem _ (h.raw raw hraw), fun a => ?_,
        fun token place => ?_⟩
      · by_cases ha : a = answer
        · subst ha
          simp only [Dialogue.after, note, List.mem_cons_self, true_iff]
          exact ⟨reply, List.mem_cons_self⟩
        · simp [Dialogue.after, note, h.said, ha]
      · simp [Dialogue.after, note, h.reserved]
  | _ => exact h.hear (by simp) (by simp)

end Dialogue.Faithful

section

variable {σ : Type} [DecidableEq σ]

/-- The dialogue of a session. -/
abbrev dialogue (me : σ) (trace : Trace σ) : Dialogue := memory Dialogue.after {} me trace

/-- A session was told just what the trace says that it was told. -/
theorem mem_told_iff {me : σ} {e : Event} {trace : Trace σ} :
    e ∈ (dialogue me trace).told ↔ (me, e) ∈ trace := by
  have htold : (dialogue me trace).told = (standing me trace).past := by
    rw [dialogue, memory]
    induction (standing me trace).past with
    | nil => rfl
    | cons e past ih => exact congrArg (e :: ·) ih
  rw [htold, mem_past_iff]

/-- The dialogue of every session notes what the session was told and nothing else. -/
theorem faithful_dialogue (me : σ) (trace : Trace σ) : (dialogue me trace).Faithful :=
  memory_induction _ _ ⟨fun raw h => (by cases h), by simp, by simp⟩ (fun _ e h => h.after e) me
    trace

/-- A session has said what it had sent or tried to send. -/
theorem mem_said_iff {me : σ} {a : Answer} {trace : Trace σ} :
    a ∈ (dialogue me trace).said ↔ ∃ sent, (me, ⟨.send a, sent⟩) ∈ trace := by
  simp only [(faithful_dialogue me trace).said, mem_told_iff]

/-- A session has reserved the places that the store has granted it. -/
theorem mem_reserved_iff {me : σ} {token : TokenId} {place : Place} {trace : Trace σ} :
    (token, place) ∈ (dialogue me trace).reserved ↔ (me, ⟨.reserve token place, true⟩) ∈ trace := by
  rw [(faithful_dialogue me trace).reserved, mem_told_iff]

end

/-- The number of bytes of an answer. -/
def Answer.size (a : Answer) : Nat := a.toJson.print.length

/-- An answer is sent if it fits and the client listens. -/
theorem perform_send {σ : Type} (me : σ) (c : Circumstances) (shared : Shared σ) (seat : Seat)
    (a : Answer) : (perform me c shared seat (.send a)).1 =
      (decide (a.size ≤ maxMessageLength) && c.connected) := by
  by_cases hfits : a.size ≤ maxMessageLength
  · have hline : encodeLine maxMessageLength a.toJson = .ok (a.toJson.print ++ [Bytes.newline]) :=
      if_neg (Nat.not_lt.mpr hfits)
    rcases hconnected : c.connected with _ | _ <;> simp [perform, hline, hfits, hconnected]
  · have hline : encodeLine maxMessageLength a.toJson = .error (.tooLarge a.toJson.print.length) :=
      if_pos (Nat.lt_of_not_le hfits)
    simp [perform, hline, hfits]

namespace Course

variable {σ : Type} [DecidableEq σ] {settings : Settings}

/-- Moves that follow others start from the course that those have led to. -/
theorem run_append (w : Course σ) (first second : List (Move σ)) :
    w.run settings (first ++ second) = (w.run settings first).run settings second :=
  List.foldl_append

/-- A move in the middle is made in the course that the moves before it have led to, and those
behind it go on from there. -/
theorem run_append_cons (w : Course σ) (earlier later : List (Move σ)) (move : Move σ) :
    w.run settings (earlier ++ move :: later) =
      ((w.run settings earlier).next settings move).run settings later :=
  run_append w earlier (move :: later)

/-- The last move is made in the course that the others have led to. -/
theorem run_concat (w : Course σ) (moves : List (Move σ)) (move : Move σ) :
    w.run settings (moves ++ [move]) = (w.run settings moves).next settings move := by
  rw [run_append]
  rfl

/-! ### What only grows -/

/-- The second course is what the first one may have become. -/
structure Precedes (w w' : Course σ) : Prop where
  trace : w.trace <:+ w'.trace
  store : Grows w.system.shared.store w'.system.shared.store
  tokens : w'.system.shared.store.tokens = w.system.shared.store.tokens

namespace Precedes

omit [DecidableEq σ]

/-- Every course is what it may have become without a move. -/
theorem refl (w : Course σ) : w.Precedes w := ⟨List.suffix_refl _, .refl _, rfl⟩

/-- What may become of a course in two parts may become of it at once. -/
theorem trans {w w' w'' : Course σ} (h : w.Precedes w') (h' : w'.Precedes w'') : w.Precedes w'' :=
  ⟨h.trace.trans h'.trace, h.store.trans h'.store, h'.tokens.trans h.tokens⟩

end Precedes

/-- A reply adds to the trace and takes no place from its owner. -/
theorem precedes_reply (w : Course σ) (me : σ) (c : Circumstances) (call : Call)
    (next : call.Reply → Plan Unit) (seat : Seat) : w.Precedes (w.reply me c call next seat) where
  trace := List.suffix_cons _ _
  store := perform_grows me c w.system.shared seat call
  tokens := (perform_storeEffect me c w.system.shared seat call).tokens

/-- A move adds to the trace, if anything, and takes no place from its owner. -/
theorem precedes_next (w : Course σ) (move : Move σ) : w.Precedes (w.next settings move) :=
  kept_next (P := w.Precedes) (.refl w) (fun _ _ => ⟨List.suffix_refl _, .refl _, rfl⟩)
    (fun me c call next seat _ => w.precedes_reply me c call next seat) move

/-- Over any moves the trace only grows, and so do the reservations. -/
theorem precedes_run (w : Course σ) (moves : List (Move σ)) :
    w.Precedes (w.run settings moves) := by
  induction moves generalizing w with
  | nil => exact .refl w
  | cons move moves ih => exact (w.precedes_next move).trans (ih (w.next settings move))

/-! ### Where a reply came from -/

/-- A session that has this call to make next is told this reply. -/
def Occurs (w : Course σ) (me : σ) (c : Circumstances) (e : Event) : Prop :=
  ∃ next seat, w.system.sessions.get? me = some ⟨.ask e.call next, seat⟩ ∧
    e.reply = (perform me c w.system.shared seat e.call).1

/-- What a session was told after a move, it was told before or is told by the move. -/
theorem mem_trace_next {w : Course σ} {move : Move σ} {me : σ} {e : Event}
    (h : (me, e) ∈ (w.next settings move).trace) :
    (me, e) ∈ w.trace ∨ ∃ c, move = .step me c ∧ w.Occurs me c e := by
  rcases move with who | ⟨who, c⟩
  · rw [next] at h
    split at h
    · exact .inl h
    · exact .inl h
  · by_cases hask : ∃ call next seat, w.system.sessions.get? who = some ⟨.ask call next, seat⟩
    · obtain ⟨call, next, seat, hask⟩ := hask
      rw [next_step_of_ask hask] at h
      rcases List.mem_cons.mp h with heq | hmem
      · obtain ⟨rfl, rfl⟩ := Prod.mk.inj heq
        exact .inr ⟨c, rfl, next, seat, hask, rfl⟩
      · exact .inl hmem
    · rw [next_step_of_not_ask (fun call next seat hs => hask ⟨call, next, seat, hs⟩)] at h
      exact .inl h

/-- **Every reply was the reply to one step**, in the course of the moves before it. -/
theorem occurred {store : Store} {rates : RateLimiter Float} {moves : List (Move σ)} {me : σ}
    {e : Event} (h : (me, e) ∈ ((start store rates).run settings moves).trace) :
    ∃ earlier c later, moves = earlier ++ .step me c :: later ∧
      ((start store rates).run settings earlier).Occurs me c e := by
  induction moves using List.reverseRecOn with
  | nil => exact absurd h List.not_mem_nil
  | append_singleton moves move ih =>
      rw [run_concat] at h
      rcases mem_trace_next h with hmem | ⟨c, rfl, hoccurs⟩
      · obtain ⟨earlier, c, later, rfl, hoccurs⟩ := ih hmem
        exact ⟨earlier, c, later ++ [move], by simp, hoccurs⟩
      · exact ⟨moves, c, [], rfl, hoccurs⟩

/-! ### Sessions in company -/

/-- Every session keeps a conduct. -/
structure Follows {S : Type} (conduct : Conduct S) (first : S) (post : S → Unit → Prop)
    (w : Course σ) : Prop where
  obeys : ∀ me running, w.system.sessions.get? me = some running →
    running.plan.Obeys conduct post (memory conduct.after first me w.trace)
  absent : ∀ me, w.system.sessions.get? me = none → memory conduct.after first me w.trace = first

section

variable {S : Type} {conduct : Conduct S} {first : S} {post : S → Unit → Prop}

/-- A session that enters keeps the conduct, if sessions keep it alone, and disturbs no other one.
-/
theorem Follows.enter {w : Course σ} (h : w.Follows conduct first post)
    (hsession : (session settings).Obeys conduct post first) {me : σ}
    (hme : w.system.sessions.get? me = none) :
    ({ w with system := w.system.enter settings me } : Course σ).Follows conduct first post := by
  refine ⟨fun you running hr => ?_, fun you hr => ?_⟩
  · rcases Table.of_get?_put hr with ⟨rfl, rfl⟩ | ⟨-, hr⟩
    · rw [h.absent you hme]
      exact hsession
    · exact h.obeys you running hr
  · have hyou : you ≠ me := by
      rintro rfl
      simp [System.enter] at hr
    exact h.absent you ((Table.get?_put_of_ne _ _ hyou).symm.trans hr)

/-- A session that is told something keeps its conduct, and no other one notices. -/
theorem Follows.reply {w : Course σ} (h : w.Follows conduct first post) {me : σ} {call : Call}
    {next : call.Reply → Plan Unit} {seat : Seat}
    (hme : w.system.sessions.get? me = some ⟨.ask call next, seat⟩) (c : Circumstances) :
    (w.reply me c call next seat).Follows conduct first post := by
  refine ⟨fun you running hr => ?_, fun you hr => ?_⟩
  · rcases Table.of_get?_put hr with ⟨rfl, rfl⟩ | ⟨hyou, hr⟩
    · rw [Course.reply, memory_cons_self]
      exact (h.obeys you _ hme).ask_inv.2 _
    · rw [Course.reply, memory_cons_of_ne _ _ (Ne.symm hyou)]
      exact h.obeys you running hr
  · have hyou : you ≠ me := by
      rintro rfl
      simp [Course.reply] at hr
    rw [Course.reply, memory_cons_of_ne _ _ (Ne.symm hyou)]
    exact h.absent you ((Table.get?_put_of_ne _ _ hyou).symm.trans hr)

/-- **Sessions keep their conduct in company.** -/
theorem follows_run (hsession : (session settings).Obeys conduct post first) (store : Store)
    (rates : RateLimiter Float) (moves : List (Move σ)) :
    ((start store rates).run settings moves).Follows conduct first post :=
  invariant ⟨fun me running h => by simp [start] at h, fun _ _ => rfl⟩
    (fun _ _ h hme => h.enter hsession hme) (fun _ _ c _ _ _ h hme => h.reply hme c) moves

/-- What is kept by every reply to a call that is due holds of what every session remembers. -/
theorem memory_invariant {P : S → Prop} (hsession : (session settings).Obeys conduct post first)
    (hfirst : P first)
    (hkept : ∀ s call reply, P s → conduct.due s call → P (conduct.after s ⟨call, reply⟩))
    (store : Store) (rates : RateLimiter Float) (moves : List (Move σ)) (me : σ) :
    P (memory conduct.after first me ((start store rates).run settings moves).trace) := by
  have both : ((start store rates).run settings moves).Follows conduct first post ∧
      ∀ me, P (memory conduct.after first me ((start store rates).run settings moves).trace) := by
    refine invariant (P := fun w : Course σ => w.Follows conduct first post ∧
        ∀ me, P (memory conduct.after first me w.trace))
      ⟨follows_run hsession store rates [], fun _ => hfirst⟩
      (fun w me h hme => ⟨h.1.enter hsession hme, h.2⟩)
      (fun w me c call next seat h hme => ⟨h.1.reply hme c, fun you => ?_⟩) moves
    by_cases hyou : me = you
    · subst hyou
      rw [Course.reply, memory_cons_self]
      exact hkept _ _ _ (h.2 me) (h.1.obeys me _ hme).ask_inv.1
    · rw [Course.reply, memory_cons_of_ne _ _ hyou]
      exact h.2 you
  exact both.2 me

end

/-! ### Candid sessions -/

/-- Every session of every course is candid. -/
theorem candid_run (settings : Settings) (store : Store) (rates : RateLimiter Float)
    (moves : List (Move σ)) :
    ((start store rates).run settings moves).Follows (candor settings) {}
      (fun d _ => d.Addressed → d.Answered) :=
  follows_run (session_candid settings) store rates moves

/-- **Every dialogue of every course is sound.** -/
theorem sound_run (settings : Settings) (store : Store) (rates : RateLimiter Float)
    (moves : List (Move σ)) (me : σ) :
    (dialogue me ((start store rates).run settings moves).trace).Sound settings :=
  memory_invariant (P := Dialogue.Sound settings) (session_candid settings) .start
    (fun _ _ reply h hdue => h.after hdue reply) store rates moves me

/-! ### What clients hear -/

/-- What the client of a session was told. -/
def heard? (w : Course σ) (me : σ) : Option Answer :=
  (w.system.sessions.get? me).bind (·.seat.answer)

/-- What a client has heard after one more reply to its session. -/
def hear (before : Option Answer) : Event → Option Answer
  | ⟨.send answer, true⟩ => some answer
  | _ => before

omit [DecidableEq σ] in

/-- A client has heard what its session was told that it could send, and before that what it had
heard before. -/
theorem perform_answer (me : σ) (c : Circumstances) (shared : Shared σ) (seat : Seat)
    (call : Call) : (perform me c shared seat call).2.2.answer =
      hear seat.answer ⟨call, (perform me c shared seat call).1⟩ := by
  cases call with
  | send answer =>
      simp only [perform]
      split
      · split <;> rfl
      · rfl
  | reserve | acquire | register | bind =>
      simp only [perform]
      split <;> rfl
  | _ => rfl

/-- A client has heard what its session remembers to have told it. -/
theorem heard?_eq_memory (settings : Settings) (store : Store) (rates : RateLimiter Float)
    (moves : List (Move σ)) (me : σ) :
    ((start store rates).run settings moves).heard? me =
      memory hear none me ((start store rates).run settings moves).trace := by
  have both : ((start store rates).run settings moves).Orderly settings ∧
      ∀ me, ((start store rates).run settings moves).heard? me =
        memory hear none me ((start store rates).run settings moves).trace := by
    refine invariant (P := fun w : Course σ => w.Orderly settings ∧
        ∀ me, w.heard? me = memory hear none me w.trace)
      ⟨.start store rates, fun me => by simp [heard?, start, memory, standing]⟩
      (fun w me h hme => ⟨h.1.enter hme, fun you => ?_⟩)
      (fun w me c call next seat h hme => ⟨h.1.reply hme c, fun you => ?_⟩) moves
    · by_cases hyou : you = me
      · subst hyou
        simp [heard?, System.enter, memory, h.1.absent you hme]
      · have hget : (w.system.enter settings me).sessions.get? you = w.system.sessions.get? you :=
          Table.get?_put_of_ne _ _ hyou
        rw [← h.2 you, heard?, heard?, hget]
    · by_cases hyou : you = me
      · subst hyou
        have hbefore := h.2 you
        rw [heard?, hme, Option.bind_some] at hbefore
        rw [Course.reply, memory_cons_self, ← hbefore, ← perform_answer]
        simp [heard?]
      · rw [Course.reply, memory_cons_of_ne _ _ (Ne.symm hyou), ← h.2 you]
        simp [heard?, Table.get?_put_of_ne _ _ hyou]
  exact both.2 me

omit [DecidableEq σ] in
/-- Any other reply leaves a client with what it has heard. -/
theorem hear_of_ne {before : Option Answer} {e : Event} (h : ∀ a, e ≠ ⟨.send a, true⟩) :
    hear before e = before := by
  unfold hear
  split
  · exact absurd rfl (h _)
  · rfl

omit [DecidableEq σ] in
/-- What was heard was sent, and where something was sent something was heard. -/
theorem hear_past (past : List Event) :
    (∀ a, past.foldr (fun e before => hear before e) none = some a → ⟨.send a, true⟩ ∈ past) ∧
      ∀ a, ⟨.send a, true⟩ ∈ past → (past.foldr (fun e before => hear before e) none).isSome := by
  induction past with
  | nil => exact ⟨fun a h => (by cases h), fun a h => absurd h List.not_mem_nil⟩
  | cons e past ih =>
      rw [List.foldr_cons]
      by_cases he : ∃ b, e = ⟨.send b, true⟩
      · obtain ⟨b, rfl⟩ := he
        refine ⟨fun a h => ?_, fun _ _ => rfl⟩
        obtain rfl : b = a := Option.some.inj h
        exact List.mem_cons_self
      · rw [not_exists] at he
        rw [hear_of_ne he]
        refine ⟨fun a h => List.mem_cons_of_mem e (ih.1 a h), fun a h => ih.2 a ?_⟩
        exact (List.mem_cons.mp h).resolve_left (Ne.symm (he a))

/-- **A client has heard what its session had sent.** -/
theorem heard?_eq_some_iff (settings : Settings) (store : Store) (rates : RateLimiter Float)
    (moves : List (Move σ)) (me : σ) (a : Answer) :
    ((start store rates).run settings moves).heard? me = some a ↔
      (me, ⟨.send a, true⟩) ∈ ((start store rates).run settings moves).trace := by
  have hpast := hear_past (standing me ((start store rates).run settings moves).trace).past
  rw [heard?_eq_memory, memory]
  refine ⟨fun h => mem_past_iff.mp (hpast.1 a h), fun h => ?_⟩
  obtain ⟨b, hb⟩ := Option.isSome_iff_exists.mp (hpast.2 a (mem_past_iff.mpr h))
  -- Nothing else was sent, since a session has one thing to say at most.
  have hsent := mem_said_iff.mpr ⟨true, mem_past_iff.mp (hpast.1 b hb)⟩
  have hsaid := mem_said_iff.mpr ⟨true, h⟩
  have hsound := sound_run settings store rates moves me
  obtain rfl : b = a := by simpa [hsound.said_eq hsaid] using hsent
  exact hb

/-- What a client has heard fits into a line. -/
theorem size_le_of_heard {settings : Settings} {store : Store} {rates : RateLimiter Float}
    {moves : List (Move σ)} {me : σ} {a : Answer}
    (h : ((start store rates).run settings moves).heard? me = some a) :
    a.size ≤ maxMessageLength := by
  obtain ⟨_, c, _, -, _, seat, -, hreply⟩ :=
    occurred ((heard?_eq_some_iff settings store rates moves me a).mp h)
  have hsent := hreply.trans (perform_send me c _ seat a)
  exact of_decide_eq_true (Bool.and_eq_true_iff.mp hsent.symm).1

end Course

end ReverseTunnel.Server
