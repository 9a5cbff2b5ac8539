import Mathlib.Data.Set.Card
import ReverseTunnel.Proofs.Server.Compliance

/-!
# What sessions hold

Three things are handed out by the server and have to come back: an entry of the registry, a
port, and a slot. For each of them the state of the server is compared with what the sessions
were told. The registry lists what the sessions registered and did not unregister, under the
ids that they registered it with; the ports are bound by whoever bound them; and the limiter
counts the sessions that have a slot. An unregistration names nothing but an id, so that it
takes away the entry of its own session is a consequence of all this, not a check.

## Main results

* `Registered.step`, `Bound.step`, `Counted.step`: every effect keeps the server in line with
  what the sessions were told.
* `holdings_are_returned`: who has what, in every course, and that it comes back.
-/

namespace ReverseTunnel.Server

section

variable {σ : Type} [DecidableEq σ] {s : Settings} {before after : Shared σ} {trace : Trace σ}
  {me : σ} {seat seat' : Seat} {e : Event}

/-! ### Entries of the registry -/

/-- The registry lists what the sessions registered, and no more. -/
structure Registered (shared : Shared σ) (trace : Trace σ) : Prop where
  owned : ∀ id tunnel, shared.registry.tunnels.get? id = some tunnel → tunnel.id = id ∧
    ∃ shown, (standing tunnel.session trace).listing = some (shown, tunnel.policy) ∧
      Registry.normalId? shown = some id
  found : ∀ me shown policy, (standing me trace).listing = some (shown, policy) →
    ∃ id, Registry.normalId? shown = some id ∧
      shared.registry.tunnels.get? id = some ⟨id, me, policy⟩

namespace Registered

/-- The registry stays in line with a reply that changes neither the registry nor what the session
is listed under. -/
theorem congr (h : Registered before trace) (hregistry : after.registry = before.registry)
    (hlisting : ((standing me trace).after e).listing = (standing me trace).listing) :
    Registered after ((me, e) :: trace) := by
  have same := standing_cons_congr Standing.listing hlisting
  refine ⟨fun id tunnel hid => ?_, fun you shown policy hl => ?_⟩
  · rw [same]
    exact h.owned id tunnel (hregistry ▸ hid)
  · rw [hregistry]
    exact h.found you shown policy ((same you).symm.trans hl)

/-- An entry made by a session that had none. -/
theorem register (h : Registered before trace) (hnone : (standing me trace).listing = none)
    {shown id : String} {policy : Policy} (hid : Registry.normalId? shown = some id)
    (hfree : before.registry.tunnels.get? id = none) :
    Registered { before with registry := ⟨before.registry.tunnels.put id ⟨id, me, policy⟩⟩ }
      ((me, ⟨.register shown policy, true⟩) :: trace) := by
  refine ⟨fun other tunnel ht => ?_, fun you shown' policy' hl => ?_⟩
  · rcases Table.of_get?_put ht with ⟨rfl, rfl⟩ | ⟨-, ht⟩
    · refine ⟨rfl, shown, ?_, hid⟩
      rw [standing_cons_self]
      rfl
    · obtain ⟨hid', shown', hl, hn⟩ := h.owned other tunnel ht
      have hne : me ≠ tunnel.session := by
        rintro rfl
        simp [hnone] at hl
      refine ⟨hid', shown', ?_, hn⟩
      rw [standing_cons_of_ne hne]
      exact hl
  · by_cases hyou : me = you
    · subst hyou
      rw [standing_cons_self] at hl
      obtain ⟨rfl, rfl⟩ := Prod.mk.inj (Option.some.inj hl)
      exact ⟨id, hid, Table.get?_put_self _ _ _⟩
    · rw [standing_cons_of_ne hyou] at hl
      obtain ⟨id', hid', ht⟩ := h.found you shown' policy' hl
      have hne : id' ≠ id := by
        rintro rfl
        simp [hfree] at ht
      exact ⟨id', hid', (Table.get?_put_of_ne _ _ hne).trans ht⟩

/-- The entry of the session that registered the id is removed, and nobody else's. -/
theorem unregister (h : Registered before trace) {shown : String} {policy : Policy}
    (hlisting : (standing me trace).listing = some (shown, policy)) :
    Registered { before with registry := before.registry.unregister shown }
      ((me, ⟨.unregister shown, ()⟩) :: trace) := by
  obtain ⟨id, hid, hget⟩ := h.found me shown policy hlisting
  have herase : before.registry.unregister shown = ⟨before.registry.tunnels.erase id⟩ := by
    simp only [Registry.unregister, hid]
  rw [herase]
  refine ⟨fun other tunnel ht => ?_, fun you shown' policy' hl => ?_⟩
  · obtain ⟨hother, ht⟩ := Table.of_get?_erase ht
    obtain ⟨hid', shown', hl, hn⟩ := h.owned other tunnel ht
    -- An entry that is left cannot be its own: that one was under the id just erased.
    have hne : me ≠ tunnel.session := by
      rintro rfl
      obtain ⟨rfl, -⟩ := Prod.mk.inj (Option.some.inj (hlisting.symm.trans hl))
      exact hother (Option.some.inj (hn.symm.trans hid))
    refine ⟨hid', shown', ?_, hn⟩
    rw [standing_cons_of_ne hne]
    exact hl
  · have hyou : me ≠ you := by
      rintro rfl
      rw [standing_cons_self] at hl
      simp [Standing.after, Standing.note] at hl
    rw [standing_cons_of_ne hyou] at hl
    obtain ⟨id', hid', ht⟩ := h.found you shown' policy' hl
    -- Nor was anybody else's entry under it: the one that was there is its own.
    have hne : id' ≠ id := by
      rintro rfl
      exact hyou (congrArg Tunnel.session (Option.some.inj (hget.symm.trans ht)))
    exact ⟨id', hid', (Table.get?_erase_of_ne _ hne).trans ht⟩

/-- Every effect of a call that is due keeps the registry in line. -/
theorem step (h : Registered before trace) (heffect : Effect me before seat e after seat')
    (hdue : (standing me trace).Due s e.call) : Registered after ((me, e) :: trace) := by
  cases heffect with
  | register hid hfree => exact h.register hdue.1.1 hid hfree
  | unregister shown =>
      obtain ⟨policy, hl⟩ := hdue
      exact h.unregister hl
  | bind | unbind | acquire | release => exact h.congr rfl rfl
  | quiet hregistry _ _ _ hstanding => exact h.congr hregistry (hstanding _).1

/-- The only entry of a session is the one that it registered. -/
theorem unique (h : Registered before trace) {id other : String} {tunnel tunnel' : Tunnel σ}
    (ht : before.registry.tunnels.get? id = some tunnel)
    (ht' : before.registry.tunnels.get? other = some tunnel')
    (hsession : tunnel.session = tunnel'.session) : id = other := by
  obtain ⟨-, shown, hl, hn⟩ := h.owned id tunnel ht
  obtain ⟨-, shown', hl', hn'⟩ := h.owned other tunnel' ht'
  rw [hsession] at hl
  obtain ⟨rfl, -⟩ := Prod.mk.inj (Option.some.inj (hl.symm.trans hl'))
  exact Option.some.inj (hn.symm.trans hn')

end Registered

/-! ### Ports -/

/-- The ports are bound by whoever bound them and did not unbind them. -/
def Bound (shared : Shared σ) (trace : Trace σ) : Prop :=
  ∀ me port, shared.listeners.get? port = some me ↔ (standing me trace).port = some port

namespace Bound

/-- The ports stay in line with a reply that changes neither the listeners nor the port of the
session. -/
theorem congr (h : Bound before trace) (hlisteners : after.listeners = before.listeners)
    (hport : ((standing me trace).after e).port = (standing me trace).port) :
    Bound after ((me, e) :: trace) := by
  intro you port
  rw [hlisteners, standing_cons_congr Standing.port hport]
  exact h you port

/-- If a session without a port binds a free one, the ports stay in line. -/
theorem bind (h : Bound before trace) (hnone : (standing me trace).port = none) {port : UInt16}
    (hfree : before.listeners.get? port = none) :
    Bound { before with listeners := before.listeners.put port me }
      ((me, ⟨.bind port, true⟩) :: trace) := by
  intro you other
  by_cases hyou : me = you
  · subst hyou
    rw [standing_cons_self]
    change _ ↔ some port = some other
    by_cases hother : other = port
    · subst hother
      simp
    · have hget := (h me other).not.mpr (by simp [hnone])
      simp [Table.get?_put_of_ne _ _ hother, hget, Ne.symm hother]
  · rw [standing_cons_of_ne hyou]
    by_cases hother : other = port
    · subst hother
      have hport := (h you other).not.mp (by simp [hfree])
      simp [hyou, hport]
    · simpa only [Table.get?_put_of_ne _ _ hother] using h you other

/-- If a session unbinds its port, the ports stay in line. -/
theorem unbind (h : Bound before trace) {port : UInt16}
    (hport : (standing me trace).port = some port) :
    Bound { before with listeners := before.listeners.erase port }
      ((me, ⟨.unbind port, ()⟩) :: trace) := by
  intro you other
  by_cases hother : other = port
  · subst hother
    have hnot : (standing you ((me, ⟨.unbind other, ()⟩) :: trace)).port ≠ some other := by
      by_cases hyou : me = you
      · subst hyou
        simp [Standing.after, Standing.note]
      · rw [standing_cons_of_ne hyou]
        intro hown
        exact hyou (Option.some.inj (((h me other).mpr hport).symm.trans ((h you other).mpr hown)))
    simpa using hnot
  · rw [Table.get?_erase_of_ne _ hother, h you other]
    by_cases hyou : me = you
    · subst hyou
      rw [standing_cons_self]
      simp [Standing.after, Standing.note, hport, Ne.symm hother]
    · rw [standing_cons_of_ne hyou]

/-- Every effect of a call that is due keeps the ports in line. -/
theorem step (h : Bound before trace) (heffect : Effect me before seat e after seat')
    (hdue : (standing me trace).Due s e.call) : Bound after ((me, e) :: trace) := by
  cases heffect with
  | bind hfree => exact h.bind hdue.1.2 hfree
  | unbind port => exact h.unbind hdue
  | register | unregister | acquire | release => exact h.congr rfl rfl
  | quiet _ hlisteners _ _ hstanding => exact h.congr hlisteners (hstanding _).2.1

end Bound

/-! ### Slots -/

/-- The sessions that have a slot of a token. -/
def holders (token : TokenId) (trace : Trace σ) : Set σ :=
  {me | (standing me trace).slot = .held token}

omit [DecidableEq σ] in
/-- Taking an element out of a set makes it smaller by one, if the element was in it. -/
theorem ncard_sdiff_singleton_add {S : Set σ} (hS : S.Finite) (x : σ) [Decidable (x ∈ S)] :
    (S \ {x}).ncard + (if x ∈ S then 1 else 0) = S.ncard := by
  by_cases hx : x ∈ S
  · rw [if_pos hx]
    exact Set.ncard_sdiff_singleton_add_one hx hS
  · rw [if_neg hx, Set.sdiff_singleton_eq_self hx, Nat.add_zero]

/-- A reply changes the number of holders by what it changes for its own session. -/
theorem ncard_holders_cons (me : σ) (e : Event) {token : TokenId}
    (hfinite : (holders token trace).Finite) :
    (holders token ((me, e) :: trace)).Finite ∧
      (holders token ((me, e) :: trace)).ncard + (standing me trace).slot.weight token =
        (holders token trace).ncard + ((standing me trace).after e).slot.weight token := by
  classical
  have others : holders token ((me, e) :: trace) \ {me} = holders token trace \ {me} := by
    ext you
    simp only [holders, Set.mem_sdiff, Set.mem_ofPred_eq, Set.mem_singleton_iff]
    refine and_congr_left fun hyou => ?_
    rw [standing_cons_of_ne (Ne.symm hyou)]
  have hfinite' : (holders token ((me, e) :: trace)).Finite := by
    refine Set.Finite.of_sdiff (t := {me}) ?_ (Set.finite_singleton me)
    rw [others]
    exact hfinite.sdiff
  -- The two sets differ in `me` at most, so each is compared with what is left without it.
  have hbefore := ncard_sdiff_singleton_add hfinite me
  have hafter := ncard_sdiff_singleton_add hfinite' me
  rw [others] at hafter
  have hin : me ∈ holders token trace ↔ (standing me trace).slot = .held token := Iff.rfl
  have hin' : me ∈ holders token ((me, e) :: trace) ↔
      ((standing me trace).after e).slot = .held token := by
    simp only [holders, Set.mem_ofPred_eq, standing_cons_self]
  refine ⟨hfinite', ?_⟩
  simp only [hin, hin', ← Slot.weight_eq] at hbefore hafter
  omega

/-- The limiter counts the sessions that have a slot. -/
structure Counted (shared : Shared σ) (trace : Trace σ) : Prop where
  finite : ∀ token, (holders token trace).Finite
  count : ∀ token, shared.limiter.count token = (holders token trace).ncard

namespace Counted

/-- The count stays right with a reply that changes neither the limiter nor the slot of the session.
-/
theorem congr (h : Counted before trace) (hlimiter : after.limiter = before.limiter)
    (hslot : ((standing me trace).after e).slot = (standing me trace).slot) :
    Counted after ((me, e) :: trace) := by
  have same := standing_cons_congr Standing.slot hslot
  have hholders : ∀ token, holders token ((me, e) :: trace) = holders token trace := by
    intro token
    ext you
    simp only [holders, Set.mem_ofPred_eq, same]
  refine ⟨fun token => ?_, fun token => ?_⟩
  · rw [hholders]
    exact h.finite token
  · rw [hholders, hlimiter]
    exact h.count token

/-- Every effect of a call that is due keeps the limiter in line. -/
theorem step (h : Counted before trace) (heffect : Effect me before seat e after seat')
    (hdue : (standing me trace).Due s e.call) (hseat : seat.slot = (standing me trace).slot) :
    Counted after ((me, e) :: trace) := by
  cases heffect with
  | @acquire token limit slot limiter ha =>
      refine ⟨fun other => (ncard_holders_cons me _ (h.finite other)).1, fun other => ?_⟩
      have hnone : (standing me trace).slot = .returned := hdue.1.1
      have hcard := (ncard_holders_cons me ⟨.acquire token limit, true⟩ (h.finite other)).2
      have hcount := Limiter.count_acquire? ha other
      rw [Limiter.slot_of_acquire? ha, h.count] at hcount
      rw [hnone] at hcard
      exact hcount.trans hcard.symm
  | release =>
      refine ⟨fun other => (ncard_holders_cons me _ (h.finite other)).1, fun other => ?_⟩
      have hcard := (ncard_holders_cons me ⟨.release, ()⟩ (h.finite other)).2
      have hcount := Limiter.count_release before.limiter (standing me trace).slot other
      rw [h.count] at hcount
      change _ = _ + 0 at hcard
      dsimp only
      rw [hseat]
      omega
  | register | unregister | bind | unbind => exact h.congr rfl rfl
  | quiet _ _ hlimiter _ hstanding => exact h.congr hlimiter (hstanding _).2.2

end Counted

/-! ### All holdings -/

/-- The session that a place leads to. -/
def Shared.at? (shared : Shared σ) : Place → Option σ
  | .subdomain id => (shared.registry.tunnels.get? id).map (·.session)
  | .port port => shared.listeners.get? port

/-- The sessions whose seat has a slot of a token. -/
def System.holders (system : System σ) (token : TokenId) : Set σ :=
  {me | ∃ running, system.sessions.get? me = some running ∧ running.seat.slot = .held token}

/-- The server is in line with what the sessions were told. -/
structure Holdings (shared : Shared σ) (trace : Trace σ) : Prop where
  registered : Registered shared trace
  bound : Bound shared trace
  counted : Counted shared trace

namespace Holdings

/-- Where nobody was told anything, nothing is listed, bound or counted. -/
theorem start (store : Store) (rates : RateLimiter Float) :
    Holdings ({ store, rates } : Shared σ) [] where
  registered := ⟨fun id tunnel h => by simp at h, fun me shown policy h => by simp [standing] at h⟩
  bound me port := by simp [standing]
  counted := by
    have hnone : ∀ token, holders token ([] : Trace σ) = ∅ := fun token => by
      simp [holders, standing]
    refine ⟨fun token => ?_, fun token => ?_⟩
    · rw [hnone]
      exact Set.finite_empty
    · rw [hnone, Set.ncard_empty]
      rfl

variable {shared : Shared σ} {place other : Place}

/-- A session is found only where it registered or bound. -/
theorem of_at? (h : Holdings shared trace) (hat : shared.at? place = some me) :
    (∃ id shown policy, place = .subdomain id ∧ Registry.normalId? shown = some id ∧
      (standing me trace).listing = some (shown, policy)) ∨
    (∃ port, place = .port port ∧ (standing me trace).port = some port) := by
  rcases place with id | port
  · obtain ⟨tunnel, ht, rfl⟩ := Option.map_eq_some_iff.mp hat
    obtain ⟨-, shown, hl, hid⟩ := h.registered.owned id tunnel ht
    exact .inl ⟨id, shown, tunnel.policy, rfl, hid, hl⟩
  · exact .inr ⟨port, rfl, (h.bound me port).mp hat⟩

/-- A session without a tunnel is found nowhere. -/
theorem not_unseen_of_at? (h : Holdings shared trace) (hat : shared.at? place = some me) :
    ¬ (standing me trace).Unseen := by
  intro hunseen
  rcases h.of_at? hat with ⟨id, shown, policy, -, -, hl⟩ | ⟨port, -, hp⟩
  · simp [hunseen.1] at hl
  · simp [hunseen.2] at hp

/-- A session is found at one place at most. -/
theorem at?_inj (h : Holdings shared trace) (hproper : (standing me trace).Proper s)
    (hat : shared.at? place = some me) (hat' : shared.at? other = some me) : place = other := by
  rcases h.of_at? hat with ⟨id, shown, policy, rfl, hid, hl⟩ | ⟨port, rfl, hp⟩ <;>
    rcases h.of_at? hat' with ⟨id', shown', policy', rfl, hid', hl'⟩ | ⟨port', rfl, hp'⟩
  · obtain ⟨rfl, -⟩ := Prod.mk.inj (Option.some.inj (hl.symm.trans hl'))
    exact congrArg Place.subdomain (Option.some.inj (hid.symm.trans hid'))
  · exact (hproper.not_both hl hp').elim
  · exact (hproper.not_both hl' hp).elim
  · exact congrArg Place.port (Option.some.inj (hp.symm.trans hp'))

end Holdings

namespace Course

/-- In every course the server is in line with what the sessions were told. -/
theorem holdings_run (settings : Settings) (store : Store) (rates : RateLimiter Float)
    (moves : List (Move σ)) :
    Holdings ((start store rates).run settings moves).system.shared
      ((start store rates).run settings moves).trace := by
  refine shared_invariant (.start store rates) ?_ moves
  intro shared trace me c call seat h hdue hseat
  have heffect := perform_effect me c shared seat call
  exact ⟨h.registered.step heffect hdue, h.bound.step heffect hdue,
    h.counted.step heffect hdue hseat⟩

/-- The sessions that have a slot are those that know of one. -/
theorem Orderly.holders_eq {w : Course σ} (h : w.Orderly s) (token : TokenId) :
    w.system.holders token = ReverseTunnel.Server.holders token w.trace := by
  ext me
  constructor
  · rintro ⟨running, hme, hslot⟩
    exact (h.slot me running hme).symm.trans hslot
  · intro hslot
    rcases hme : w.system.sessions.get? me with _ | running
    · have hslot : (standing me w.trace).slot = .held token := hslot
      rw [h.absent me hme] at hslot
      simp at hslot
    · exact ⟨running, hme, (h.slot me running hme).trans hslot⟩

/-- A step of one session takes no entry away from another. -/
theorem get?_next_of_ne {settings : Settings} {w : Course σ} {me : σ} {c : Circumstances}
    (h : Registered w.system.shared w.trace)
    (h' : Registered (w.next settings (.step me c)).system.shared
      (w.next settings (.step me c)).trace)
    {id : String} {tunnel : Tunnel σ}
    (ht : w.system.shared.registry.tunnels.get? id = some tunnel) (hne : tunnel.session ≠ me) :
    (w.next settings (.step me c)).system.shared.registry.tunnels.get? id = some tunnel := by
  obtain ⟨hid, shown, hl, hn⟩ := h.owned id tunnel ht
  rw [← standing_next_of_ne (Ne.symm hne) c] at hl
  obtain ⟨id', hn', ht'⟩ := h'.found tunnel.session shown tunnel.policy hl
  obtain rfl := Option.some.inj (hn.symm.trans hn')
  rw [ht']
  exact congrArg some (by rw [← hid])

end Course

/-- **What sessions hold is theirs, and comes back.** In every course, whatever clients, the
network and the operating system do: each entry of the registry is that of a session which
registered it and did not unregister it, with the policy that it registered; each such session
was asked for that policy, and has this one entry, under its id in its comparable form; no step
of another session replaces or removes an entry; a session that has ended is found nowhere and
gave its slot back; and the limiter counts the sessions that have a slot, no more and no
fewer. -/
theorem holdings_are_returned (settings : Settings) (store : Store) (rates : RateLimiter Float)
    (moves : List (Move σ)) :
    let w := (Course.start store rates).run settings moves
    let tunnels := w.system.shared.registry.tunnels
    (∀ id tunnel, tunnels.get? id = some tunnel → tunnel.id = id ∧
      ∃ shown, (standing tunnel.session w.trace).listing = some (shown, tunnel.policy) ∧
        Registry.normalId? shown = some id) ∧
    (∀ me shown policy, (standing me w.trace).listing = some (shown, policy) →
      (standing me w.trace).AskedFor policy ∧
      ∃ id, Registry.normalId? shown = some id ∧ tunnels.get? id = some ⟨id, me, policy⟩ ∧
        ∀ other tunnel, tunnels.get? other = some tunnel → tunnel.session = me → other = id) ∧
    (∀ me c id tunnel, tunnels.get? id = some tunnel → tunnel.session ≠ me →
      (w.next settings (.step me c)).system.shared.registry.tunnels.get? id = some tunnel) ∧
    (∀ me seat, w.system.sessions.get? me = some ⟨.done (), seat⟩ →
      (∀ place, w.system.shared.at? place ≠ some me) ∧ seat.slot = .returned) ∧
    (∀ token, (w.system.holders token).Finite ∧
      w.system.shared.limiter.count token = (w.system.holders token).ncard) := by
  intro w tunnels
  have horderly : w.Orderly settings := Course.orderly_run settings store rates moves
  have h : Holdings w.system.shared w.trace := Course.holdings_run settings store rates moves
  refine ⟨h.registered.owned, fun me shown policy hl => ?_, fun me c id tunnel ht hne => ?_,
    fun me seat hme => ?_, fun token => ?_⟩
  · obtain ⟨id, hid, ht⟩ := h.registered.found me shown policy hl
    refine ⟨((horderly.proper me).listing shown policy hl).2, id, hid, ht, ?_⟩
    intro other tunnel ht' hsession
    exact h.registered.unique ht' ht hsession
  · have hnext : Holdings (w.next settings (.step me c)).system.shared
        (w.next settings (.step me c)).trace := by
      have := Course.holdings_run settings store rates (moves ++ [.step me c])
      rwa [Course.run, List.foldl_append] at this
    exact Course.get?_next_of_ne h.registered hnext.registered ht hne
  · obtain ⟨hrest, hslot⟩ := horderly.atRest_of_done hme
    exact ⟨fun place hat => h.not_unseen_of_at? hat hrest.2, hslot⟩
  · rw [horderly.holders_eq]
    exact ⟨h.counted.finite token, h.counted.count token⟩

end

end ReverseTunnel.Server
