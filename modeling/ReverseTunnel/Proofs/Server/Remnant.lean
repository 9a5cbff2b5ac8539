import ReverseTunnel.Proofs.Server.History
import ReverseTunnel.Proofs.Server.Reservation

/-!
# What rejected requests leave behind

A place is reserved before the policy of its tunnel is read, before the tunnel is registered and
before its port is bound. When one of these fails the request is turned down, and the reservation
stays: it is the token's own from its first use. Nothing else is left. A request that is turned
down for any other reason has not touched a reservation, and no request touches more than one.

## Main results

* `Course.store_next`: a step changes reservations by giving away a place that was nobody's.
* `rejected_reserve_once_at_most`: what the steps of a session that was turned down have done.
* `not_forgetsRejected`: a request that is turned down and keeps its name.
-/

namespace ReverseTunnel.Server

section

variable {σ : Type} [DecidableEq σ] {settings : Settings} {w w' : Course σ} {me : σ}
  {c c' : Circumstances}

namespace Course

/-- **A step changes reservations by one at most**: a place that was nobody's becomes that of the
token for which it is reserved. -/
theorem store_next (settings : Settings) (w : Course σ) (me : σ) (c : Circumstances) :
    (w.next settings (.step me c)).system.shared.store = w.system.shared.store ∨
      ∃ token place, (token, place) ∈
          (dialogue me (w.next settings (.step me c)).trace).reserved ∧
        w.system.shared.store.owner? place = none ∧
        (w.next settings (.step me c)).system.shared.store =
          w.system.shared.store.assign token place := by
  by_cases h : ∃ call next seat, w.system.sessions.get? me = some ⟨.ask call next, seat⟩
  · obtain ⟨call, next, seat, h⟩ := h
    rw [next_step_of_ask h]
    have heffect := perform_storeEffect me c w.system.shared seat call
    simp only [reply, mem_reserved_iff]
    generalize (⟨call, (perform me c w.system.shared seat call).1⟩ : Event) = e at heffect ⊢
    generalize (perform me c w.system.shared seat call).2.1.store = after at heffect ⊢
    cases heffect with
    | look => exact .inl rfl
    | quiet => exact .inl rfl
    | reserve hr =>
        rcases reserve?_eq_some hr with ⟨hnone, rfl⟩ | ⟨-, rfl⟩
        · exact .inr ⟨_, _, List.mem_cons_self, hnone, rfl⟩
        · exact .inl rfl
  · rw [next_step_of_not_ask (fun call next seat hs => h ⟨call, next, seat, hs⟩)]
    exact .inl rfl

/-- What a session has reserved it has reserved from then on. -/
theorem Precedes.reserved (h : w.Precedes w') {claim : TokenId × Place}
    (hmem : claim ∈ (dialogue me w.trace).reserved) : claim ∈ (dialogue me w'.trace).reserved :=
  mem_reserved_iff.mpr (h.trace.subset (mem_reserved_iff.mp hmem))

/-- Whether a step of a session changes reservations. -/
def Alters (settings : Settings) (w : Course σ) (me : σ) (c : Circumstances) : Prop :=
  (w.next settings (.step me c)).system.shared.store ≠ w.system.shared.store

/-- A session that reserves one place at most does not change reservations twice. -/
theorem not_alters_of_alters
    (hsound : (dialogue me (w'.next settings (.step me c')).trace).Sound settings)
    (h : w.Alters settings me c) (hlater : (w.next settings (.step me c)).Precedes w') :
    ¬ w'.Alters settings me c' := by
  intro h'
  obtain ⟨token, place, hmem, -, hstore⟩ := (store_next settings w me c).resolve_left h
  obtain ⟨token', place', hmem', hnone, -⟩ := (store_next settings w' me c').resolve_left h'
  have hlast : w'.Precedes (w'.next settings (.step me c')) := w'.precedes_next (.step me c')
  have honly := hsound.reserved_eq ((hlater.trans hlast).reserved hmem)
  rw [honly, List.mem_singleton] at hmem'
  obtain ⟨rfl, rfl⟩ := Prod.mk.inj hmem'
  -- The place has had an owner since the first time.
  have howner : w'.system.shared.store.owner? place' = some token' := by
    refine hlater.store place' token' ?_
    rw [hstore, owner?_assign, if_pos rfl]
  exact absurd (hnone.symm.trans howner) (by simp)

end Course

/-- **Rejected requests leave one reservation at most.** In every course, a session that turned
its client down has changed reservations in one of its steps at most. If it did, the rejection is
one of those that come late: for its policy, its registration or its port. Then the step gave the
place that the request names, which was nobody's, to whom its token identifies. So a rejection for
any other reason leaves the store as it was. -/
theorem rejected_reserve_once_at_most (settings : Settings) (store : Store)
    (rates : RateLimiter Float) (moves : List (Move σ)) :
    let w := (Course.start store rates).run settings moves
    ∀ me kind r, .rejected kind r ∈ (dialogue me w.trace).said →
      (∀ earlier c later, moves = earlier ++ .step me c :: later →
        let before := (Course.start store rates).run settings earlier
        let after := before.next settings (.step me c)
        after.system.shared.store = before.system.shared.store ∨
          ∃ raw token place, (dialogue me w.trace).raw = some raw ∧ Late raw r ∧
            settings.ownsPlaces = true ∧ Names settings raw place ∧
            Identified settings raw (dialogue me w.trace).told (some token) ∧
            before.system.shared.store.owner? place = none ∧
            after.system.shared.store = before.system.shared.store.assign token place) ∧
      ∀ earlier c between c' later,
        moves = earlier ++ .step me c :: (between ++ .step me c' :: later) →
        ((Course.start store rates).run settings earlier).Alters settings me c →
        ¬ ((Course.start store rates).run settings
          (earlier ++ .step me c :: between)).Alters settings me c' := by
  intro w me kind r hsaid
  have hsound := Course.sound_run settings store rates moves me
  have hafter (earlier : List (Move σ)) (c : Circumstances) (later : List (Move σ))
      (hmoves : moves = earlier ++ .step me c :: later) :
      (((Course.start store rates).run settings earlier).next settings (.step me c)).Precedes
        w := by
    have hw : w = (((Course.start store rates).run settings earlier).next settings
        (.step me c)).run settings later := by
      rw [← Course.run_append_cons, ← hmoves]
    rw [hw]
    exact Course.precedes_run _ later
  -- What a step reserves is noted in the dialogue, which has room for one reservation.
  refine ⟨fun earlier c later hmoves => ?_, fun earlier c between c' later hmoves halters => ?_⟩
  · refine (Course.store_next settings _ me c).imp_right ?_
    rintro ⟨token, place, hmem, hnone, hassigned⟩
    have hmem := (hafter earlier c later hmoves).reserved hmem
    obtain ⟨howns, raw, hraw, hnames, htoken⟩ := hsound.reservable _ hmem
    refine ⟨raw, token, place, hraw, ?_, howns, hnames, htoken, hnone, hassigned⟩
    rcases (hsound.founded _ hsaid).of_rejected with ⟨hnoraw, -⟩ | ⟨raw', hraw', -, -, hlate⟩
    · exact absurd (hraw.symm.trans hnoraw) (by simp)
    · obtain rfl := Option.some.inj (hraw.symm.trans hraw')
      exact hlate.resolve_left (List.ne_nil_of_mem hmem)
  · refine Course.not_alters_of_alters ?_ halters ?_
    · rw [← Course.run_concat]
      exact Course.sound_run settings store rates _ me
    · rw [Course.run_append_cons]
      exact Course.precedes_run _ between

/-! ### A name that is kept -/

/-- A client whose token is `a` asks for the name `demo`, with a network that is none. -/
def keepsName : Circumstances :=
  { arrives := .request ⟨"http", "a",
    [("subdomain", .string "demo"), ("allow_cidr", .array [.string "x"])]⟩ }

/-- That client with the server to itself. -/
def keptName (steps : Nat) : Course Unit :=
  (Course.start twoTokens {}).run smallServer
    (.enter () :: List.replicate steps (.step () keepsName))

/-- The client is turned down for its policy, when it has the name already. -/
theorem keptName_rejected : Answer.rejected (some .http)
    ⟨.invalidRequest, "invalid allow_cidr: \"x\""⟩ ∈ (dialogue () (keptName 10).trace).said :=
  List.mem_cons_self

/-- The seventh step of the session reserves the name, and the eighth changes nothing. -/
theorem keptName_late :
    (∃ raw, (dialogue () (keptName 10).trace).raw = some raw ∧
      Late raw ⟨.invalidRequest, "invalid allow_cidr: \"x\""⟩) ∧
    ¬ (keptName 7).Alters smallServer () keepsName := by
  have hrejected := rejected_reserve_once_at_most smallServer twoTokens {}
    (.enter () :: List.replicate 10 (.step () keepsName)) () _ _ keptName_rejected
  have halters : (keptName 6).Alters smallServer () keepsName := fun h =>
    absurd (congrArg (Store.owner? · (.subdomain "demo")) h) (by decide)
  constructor
  · obtain ⟨raw, token, place, hraw, hlate, -⟩ := (hrejected.1
      (.enter () :: List.replicate 6 (.step () keepsName)) keepsName _ rfl).resolve_left halters
    exact ⟨raw, hraw, hlate⟩
  · exact hrejected.2 (.enter () :: List.replicate 6 (.step () keepsName)) keepsName [] keepsName _
      rfl halters

/-- Whether a client that has the server to itself leaves reservations as they were when it is
turned down. -/
def Settings.ForgetsRejected (s : Settings) : Prop :=
  ∀ (store : Store) (rates : RateLimiter Float) (moves : List (Move Unit))
    (kind : Option TunnelKind) (r : Rejection),
    let w := (Course.start store rates).run s moves
    .rejected kind r ∈ (dialogue () w.trace).said → w.system.shared.store = store

/-- A name stays with the token that asked for it in vain. -/
theorem not_forgetsRejected : ¬ smallServer.ForgetsRejected := by
  intro h
  have hstore := h twoTokens {} (.enter () :: List.replicate 10 (.step () keepsName)) _ _
    keptName_rejected
  exact absurd (congrArg (Store.owner? · (.subdomain "demo")) hstore) (by decide)

end

end ReverseTunnel.Server
