import ReverseTunnel.Proofs.Server.History
import ReverseTunnel.Server.Rehearsal

/-!
# A session in a world of its own

A session that has the server to itself meets nobody but its client and the services that know
tokens and places. These are not the server's: they may reply anything, or not know how to reply,
and every question can change what they reply next (`Services`). So a plan can be played to its
end, in any world, and what it leaves behind can be compared with what it found.

## Main results

* `Plan.drive_eq_play`: to play a plan is to drive it where every call is replied to.
* `Plan.Obeys.play`: what a rule of conduct promises holds where the plan ends.
* `World.Stored.drive`: in a world whose services have a store, a plan is replied to as the server
  replies.
-/

namespace ReverseTunnel.Server

/-! ### Plans that are played to their end -/

namespace Plan

variable {α β S : Type}

/-- Follows a plan to its end where every call is replied to. -/
def play (reply : (call : Call) → S → call.Reply × S) : Plan α → S → α × S
  | .done a, now => (a, now)
  | .ask call next, now => (next (reply call now).1).play reply (reply call now).2

variable {reply : (call : Call) → S → call.Reply × S} {now : S}

/-- A plan to which every call is replied is driven to its end, which is where playing it leads. -/
theorem drive_eq_play (p : Plan α) (now : S) :
    p.drive (fun call now => some (reply call now)) now =
      (.done (p.play reply now).1, (p.play reply now).2) := by
  induction p generalizing now with
  | done a => rfl
  | ask call next ih => exact ih _ _

/-- One plan after another is played one after the other. -/
theorem play_bind (p : Plan α) (f : α → Plan β) :
    (p >>= f).play reply now = (f (p.play reply now).1).play reply (p.play reply now).2 := by
  induction p generalizing now with
  | done a => rfl
  | ask call next ih => exact ih _

/-- A single call is played by its reply. -/
theorem play_call (call : Call) : (Server.call call).play reply now = reply call now := rfl

/-- What a memory promises of a state holds to the end of a plan that obeys, if every reply keeps
the promise. -/
theorem Obeys.play {M : Type} {c : Conduct M} {post : M → α → Prop} {p : Plan α} {m : M}
    {P : M → S → Prop} (h : p.Obeys c post m) (hnow : P m now)
    (hreply : ∀ m now call, P m now → P (c.after m ⟨call, (reply call now).1⟩) (reply call now).2) :
    ∃ m', post m' (p.play reply now).1 ∧ P m' (p.play reply now).2 := by
  induction h generalizing now with
  | done hpost => exact ⟨_, hpost, hnow⟩
  | @ask call next m hdue hnext ih => exact ih _ (hreply m now call hnow)

end Plan

section

variable {α β S : Type} {reply : (call : Call) → S → call.Reply × S} {now now' : S}

/-- A trial that has its result is played without a call. -/
theorem play_run_pure (a : α) : (pure a : Trial α).run.play reply now = (.ok a, now) := rfl

/-- One trial after another: a rejection of the first one is passed on. -/
theorem play_run_bind (x : Trial α) (f : α → Trial β) :
    (x >>= f).run.play reply now =
      match x.run.play reply now with
      | (.ok a, now) => (f a).run.play reply now
      | (.error r, now) => (.error r, now) := by
  rw [ExceptT.run_bind, Plan.play_bind]
  rcases x.run.play reply now with ⟨r | a, now⟩
  · rfl
  · rfl

/-- A call of a trial is played by its reply, with which the trial goes on. -/
theorem play_run_ask_bind {call : Call} {f : call.Reply → Trial β} {told : call.Reply}
    (h : reply call now = (told, now')) :
    (ask call >>= f).run.play reply now = (f told).run.play reply now' := by
  change (f (reply call now).1).run.play reply (reply call now).2 = _
  rw [h]

end

/-! ### The world of a session -/

/-- The services that know tokens and places. Each has a state of its own; what it replies, and
whether it knows how to reply, is its own affair. -/
structure Services (T R : Type) where
  validate : String → T → Option Bool × T
  identify : String → T → Option (Option TokenId) × T
  owner : Place → R → Option (Option TokenId) × R
  reserve : TokenId → Place → R → Bool × R

/-- A session in the middle of its world: the server, the services, and what was said so far. -/
structure Scene (σ T R : Type) where
  shared : Shared σ
  seat : Seat
  /-- The state of the services that know tokens. -/
  tokens : T
  /-- The state of the service that knows places. -/
  places : R
  /-- What the session has said, the latest last. -/
  said : List Answer := []

/-- The scene with another slot, and with other counts. -/
def Scene.charged {σ T R : Type} (now : Scene σ T R) (slot : Slot) (limiter : Limiter)
    (rates : RateLimiter Float) : Scene σ T R :=
  { now with
    shared := { now.shared with limiter, rates }
    seat := { now.seat with slot } }

/-- Whatever a session finds around it. -/
structure World (σ T R : Type) where
  settings : Settings
  services : Services T R
  me : σ
  /-- What surrounds each call. -/
  circumstances : Call → Circumstances
  /-- What the client does. -/
  script : Script

namespace World

variable {σ T R : Type} (w : World σ T R)

/-- The reply to a call, and the scene after it. -/
def reply (call : Call) (now : Scene σ T R) : call.Reply × Scene σ T R :=
  let asServer (call : Call) : call.Reply × Scene σ T R :=
    let done := perform w.me (w.circumstances call) now.shared now.seat call
    (done.1, { now with shared := done.2.1, seat := done.2.2 })
  match call with
  | .receive => ((Rehearsal.reception? w.script).getD .ended, now)
  | .validate token =>
    let done := w.services.validate token now.tokens
    (done.1, { now with tokens := done.2 })
  | .identify token =>
    let done := w.services.identify token now.tokens
    (done.1, { now with tokens := done.2 })
  | .owner place =>
    let done := w.services.owner place now.places
    (done.1, { now with places := done.2 })
  | .reserve token place =>
    let done := w.services.reserve token place now.places
    (done.1, { now with places := done.2 })
  | .send answer =>
    let done := asServer (.send answer)
    (done.1, { done.2 with said := now.said ++ [answer] })
  | call => asServer call

variable {w} {now : Scene σ T R}

/-- Nothing is said but by a call that says it. -/
theorem said_reply {call : Call} (h : ∀ answer, call ≠ .send answer) :
    (w.reply call now).2.said = now.said := by
  cases call with
  | send answer => exact absurd rfl (h answer)
  | _ => simp only [World.reply]

variable (w) in
/-- To say something changes nothing but what was said. -/
theorem reply_send (now : Scene σ T R) (answer : Answer) :
    ∃ seat, seat.slot = now.seat.slot ∧
      (w.reply (.send answer) now).2 = { now with seat, said := now.said ++ [answer] } := by
  have hkept : ∃ seat,
      (perform w.me (w.circumstances (.send answer)) now.shared now.seat (.send answer)).2 =
        (now.shared, seat) ∧ seat.slot = now.seat.slot := by
    simp only [perform]
    split
    · split
      · exact ⟨_, rfl, rfl⟩
      · exact ⟨_, rfl, rfl⟩
    · exact ⟨_, rfl, rfl⟩
  obtain ⟨seat, hkept, hslot⟩ := hkept
  exact ⟨seat, hslot, by simp only [World.reply, hkept]⟩

/-! ### What the client hears -/

variable (w) in
/-- What the client has heard after one more answer: that answer, if it fits and the client
listens. -/
def heard (before : Option Answer) (answer : Answer) : Option Answer :=
  if answer.size ≤ maxMessageLength ∧ (w.circumstances (.send answer)).connected = true then
    some answer
  else before

/-- An answer that is sent is heard if it fits and the client listens, and otherwise what was heard
before stays. -/
theorem answer_reply_send (answer : Answer) :
    (w.reply (.send answer) now).2.seat.answer = w.heard now.seat.answer answer := by
  have hheard := Course.perform_answer w.me (w.circumstances (.send answer)) now.shared now.seat
    (.send answer)
  rw [perform_send] at hheard
  simp only [World.reply, hheard, heard]
  by_cases hfits : answer.size ≤ maxMessageLength
  · rcases hconnected : (w.circumstances (.send answer)).connected with _ | _ <;>
      simp [Course.hear, hfits]
  · simp [Course.hear, hfits]

/-- Nothing is heard but what is sent. -/
theorem answer_reply {call : Call} (h : ∀ answer, call ≠ .send answer) :
    (w.reply call now).2.seat.answer = now.seat.answer := by
  have hheard := Course.perform_answer w.me (w.circumstances call) now.shared now.seat call
  rw [Course.hear_of_ne fun answer he => h answer (congrArg Event.call he)] at hheard
  cases call with
  | send answer => exact absurd rfl (h answer)
  | _ => simp only [World.reply, hheard]

variable (w now) in
/-- What a plan says and what of it is heard go together. -/
theorem exists_said {α : Type} (p : Plan α) :
    ∃ more, (p.play w.reply now).2.said = now.said ++ more ∧
      (p.play w.reply now).2.seat.answer = more.foldl w.heard now.seat.answer := by
  induction p generalizing now with
  | done a => exact ⟨[], (List.append_nil _).symm, rfl⟩
  | ask call next ih =>
      obtain ⟨more, hsaid, hheard⟩ := ih (w.reply call now).1 (w.reply call now).2
      by_cases hsend : ∃ answer, call = .send answer
      · obtain ⟨answer, rfl⟩ := hsend
        refine ⟨answer :: more, ?_, ?_⟩
        · exact hsaid.trans (List.append_assoc now.said [answer] more)
        · exact hheard.trans (by rw [answer_reply_send, List.foldl_cons])
      · have hnot : ∀ answer, call ≠ .send answer := not_exists.mp hsend
        refine ⟨more, ?_, ?_⟩
        · exact hsaid.trans (by rw [said_reply hnot])
        · exact hheard.trans (by rw [answer_reply hnot])

end World

/-! ### The services of a store -/

/-- A store as a service for tokens and places. It replies to a call if it works. -/
def Services.ofStore (works : Call → Bool) : Services Store Store where
  validate token store :=
    (if works (.validate token) then some (store.valid token) else none, store)
  identify token store :=
    (if works (.identify token) then some (store.tokenId? token) else none, store)
  owner place store := (if works (.owner place) then some (store.owner? place) else none, store)
  reserve token place store :=
    match if works (.reserve token place) then store.reserve? token place else none with
    | some store => (true, store)
    | none => (false, store)

section

variable {σ : Type}

/-- Whether a scene is that of a server whose store the services have. -/
structure Scene.Mirrors (now : Scene σ Store Store) (here : Shared σ × Seat) : Prop where
  shared : here.1 = { now.shared with store := now.places }
  seat : here.2 = now.seat
  tokens : now.tokens.tokens = now.places.tokens

/-- Whether a world has a store for its services, and what arrives in it is what a client sends. -/
structure World.Stored (w : World σ Store Store) : Prop where
  services : w.services = .ofStore fun call => (w.circumstances call).works
  arrives : Rehearsal.reception? w.script = some (w.circumstances .receive).arrives

variable {w : World σ Store Store} {now : Scene σ Store Store} {here : Shared σ × Seat}

/-- In a world with a store, a call is replied to as the server does it. -/
theorem World.Stored.reply (hw : w.Stored) (h : now.Mirrors here) (call : Call) :
    (w.reply call now).1 = (perform w.me (w.circumstances call) here.1 here.2 call).1 ∧
      (w.reply call now).2.Mirrors (perform w.me (w.circumstances call) here.1 here.2 call).2 := by
  obtain ⟨shared, seat⟩ := here
  obtain ⟨rfl, rfl, htokens⟩ := h
  cases call with
  | receive =>
      simp only [World.reply, hw.arrives, Option.getD_some, perform, true_and]
      exact ⟨rfl, rfl, htokens⟩
  | validate token =>
      simp only [World.reply, hw.services, Services.ofStore, perform]
      exact ⟨by simp only [Store.valid, htokens], rfl, rfl, htokens⟩
  | identify token =>
      simp only [World.reply, hw.services, Services.ofStore, perform]
      exact ⟨by simp only [Store.tokenId?, htokens], rfl, rfl, htokens⟩
  | owner place =>
      simp only [World.reply, hw.services, Services.ofStore, perform, true_and]
      exact ⟨rfl, rfl, htokens⟩
  | reserve token place =>
      simp only [World.reply, hw.services, Services.ofStore, perform]
      rcases hreserved : (if (w.circumstances (.reserve token place)).works then
        now.places.reserve? token place else none) with _ | store
      · exact ⟨rfl, rfl, rfl, htokens⟩
      · refine ⟨rfl, rfl, rfl, htokens.trans ?_⟩
        split at hreserved
        · obtain ⟨-, rfl⟩ | ⟨-, rfl⟩ := reserve?_eq_some hreserved
          · rfl
          · rfl
        · cases hreserved
  | acquire token limit =>
      simp only [World.reply, perform]
      split <;> exact ⟨rfl, rfl, rfl, htokens⟩
  | register id policy =>
      simp only [World.reply, perform]
      split <;> exact ⟨rfl, rfl, rfl, htokens⟩
  | bind port =>
      simp only [World.reply, perform]
      split <;> exact ⟨rfl, rfl, rfl, htokens⟩
  | send answer =>
      simp only [World.reply, perform]
      split
      · split <;> exact ⟨rfl, rfl, rfl, htokens⟩
      · exact ⟨rfl, rfl, rfl, htokens⟩
  | _ =>
      simp only [World.reply, perform, true_and]
      refine ⟨?_, ?_, htokens⟩
      · simp only
      · simp only

/-- A plan that is played against the services of a store does what it does against the server
itself, reply by reply. -/
theorem World.Stored.play {α : Type} (hw : w.Stored) (h : now.Mirrors here) (p : Plan α) :
    ∃ later, (p.play w.reply now).2.Mirrors later ∧
      p.play (fun call here => perform w.me (w.circumstances call) here.1 here.2 call) here =
        ((p.play w.reply now).1, later) := by
  induction p generalizing now here with
  | done a => exact ⟨here, h, rfl⟩
  | ask call next ih =>
      obtain ⟨hreply, hnext⟩ := hw.reply h call
      obtain ⟨later, hlater, hplayed⟩ := ih (w.reply call now).1 hnext
      refine ⟨later, hlater, ?_⟩
      rw [Plan.play, ← hreply]
      exact hplayed

/-- **A world with a store is that of a server alone**: a plan that is played in it is driven by
the replies of the server. -/
theorem World.Stored.drive {α : Type} (hw : w.Stored) (h : now.Mirrors here) (p : Plan α) :
    ∃ later, (p.play w.reply now).2.Mirrors later ∧
      p.drive
          (fun call here => some (perform w.me (w.circumstances call) here.1 here.2 call)) here =
        (.done (p.play w.reply now).1, later) := by
  obtain ⟨later, hlater, hplayed⟩ := hw.play h p
  refine ⟨later, hlater, ?_⟩
  rw [Plan.drive_eq_play, hplayed]

end

end ReverseTunnel.Server
