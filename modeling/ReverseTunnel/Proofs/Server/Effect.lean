import ReverseTunnel.Proofs.Server.Course
import ReverseTunnel.Proofs.Server.Slots

/-!
# Effects of calls

What the calls of a session can do to the entries, the ports and the slots that the server hands
out. There are three things to take and three ways to give back; every other call leaves all of
it alone, and so does one of these that fails. It is said once, so that an invariant is a matter
of these cases and not of every call.

## Main results

* `perform_effect`: what a call does is one of the effects.
* `Effect.slot`: the seat of a session has the slot that the session knows of.
-/

namespace ReverseTunnel.Server

section

variable {σ : Type}

/-- What a reply to a session comes with, as far as entries, ports and slots go. -/
inductive Effect (me : σ) (before : Shared σ) (seat : Seat) : Event → Shared σ → Seat → Prop
  /-- An entry is made, under an id that is free. -/
  | register {shown id : String} {policy : Policy} (hid : Registry.normalId? shown = some id)
      (hfree : before.registry.tunnels.get? id = none) :
      Effect me before seat ⟨.register shown policy, true⟩
        { before with registry := ⟨before.registry.tunnels.put id ⟨id, me, policy⟩⟩ } seat
  /-- An entry is removed, whosever it is. -/
  | unregister (shown : String) :
      Effect me before seat ⟨.unregister shown, ()⟩
        { before with registry := before.registry.unregister shown } seat
  /-- A port is bound that was not. -/
  | bind {port : UInt16} (hfree : before.listeners.get? port = none) :
      Effect me before seat ⟨.bind port, true⟩
        { before with listeners := before.listeners.put port me } seat
  /-- A port is unbound, whosever it is. -/
  | unbind (port : UInt16) :
      Effect me before seat ⟨.unbind port, ()⟩
        { before with listeners := before.listeners.erase port } seat
  /-- A slot is taken. -/
  | acquire {token : TokenId} {limit : Int} {slot : Slot} {limiter : Limiter}
      (h : before.limiter.acquire? token limit = some (slot, limiter)) :
      Effect me before seat ⟨.acquire token limit, true⟩ { before with limiter } { seat with slot }
  /-- A slot is given back. -/
  | release :
      Effect me before seat ⟨.release, ()⟩
        { before with limiter := (before.limiter.release seat.slot).2 }
        { seat with slot := (before.limiter.release seat.slot).1 }
  /-- Nothing of it is touched. -/
  | quiet {e : Event} {after : Shared σ} {seat' : Seat}
      (hregistry : after.registry = before.registry)
      (hlisteners : after.listeners = before.listeners) (hlimiter : after.limiter = before.limiter)
      (hslot : seat'.slot = seat.slot)
      (hstanding : ∀ st : Standing, (st.after e).listing = st.listing ∧
        (st.after e).port = st.port ∧ (st.after e).slot = st.slot) :
      Effect me before seat e after seat'

/-- What a call does is one of the effects. -/
theorem perform_effect (me : σ) (c : Circumstances) (shared : Shared σ) (seat : Seat)
    (call : Call) :
    Effect me shared seat ⟨call, (perform me c shared seat call).1⟩
      (perform me c shared seat call).2.1 (perform me c shared seat call).2.2 := by
  cases call with
  | register shown policy =>
      rcases hid : Registry.normalId? shown with _ | id
      · simp only [perform, Registry.register, hid]
        exact .quiet rfl rfl rfl rfl fun st => ⟨rfl, rfl, rfl⟩
      · by_cases hc : shared.registry.tunnels.contains id = true
        · simp only [perform, Registry.register, hid, if_pos hc]
          exact .quiet rfl rfl rfl rfl fun st => ⟨rfl, rfl, rfl⟩
        · simp only [perform, Registry.register, hid, if_neg hc]
          exact .register hid (by simpa [Table.contains] using hc)
  | unregister shown =>
      simp only [perform]
      exact .unregister shown
  | bind port =>
      by_cases hb : (c.bindable && !shared.listeners.contains port) = true
      · simp only [perform, if_pos hb]
        exact .bind (by simpa [Table.contains] using (Bool.and_eq_true_iff.mp hb).2)
      · simp only [perform, if_neg hb]
        exact .quiet rfl rfl rfl rfl fun st => ⟨rfl, rfl, rfl⟩
  | unbind port => exact .unbind port
  | acquire token limit =>
      rcases ha : shared.limiter.acquire? token limit with _ | ⟨slot, limiter⟩
      · simp only [perform, ha]
        exact .quiet rfl rfl rfl rfl fun st => ⟨rfl, rfl, rfl⟩
      · simp only [perform, ha]
        exact .acquire ha
  | release => exact .release
  | receive =>
      refine .quiet rfl rfl rfl rfl fun st => ?_
      rcases hc : c.arrives with raw | _ | _ <;>
        simp only [perform, hc, Standing.after, Standing.note, and_self]
  | reserve token place =>
      simp only [perform]
      split <;> exact .quiet rfl rfl rfl rfl fun st => ⟨rfl, rfl, rfl⟩
  | create token limit =>
      simp only [perform]
      exact .quiet rfl rfl rfl rfl fun st => ⟨rfl, rfl, rfl⟩
  | send answer =>
      simp only [perform]
      split
      · split <;> exact .quiet rfl rfl rfl rfl fun st => ⟨rfl, rfl, rfl⟩
      · exact .quiet rfl rfl rfl rfl fun st => ⟨rfl, rfl, rfl⟩
  | _ => exact .quiet rfl rfl rfl rfl fun st => ⟨rfl, rfl, rfl⟩

/-- A session knows of its slot what its seat has. -/
theorem Effect.slot {me : σ} {before after : Shared σ} {seat seat' : Seat} {e : Event}
    {st : Standing} (h : Effect me before seat e after seat') (hseat : seat.slot = st.slot) :
    seat'.slot = (st.after e).slot := by
  cases h with
  | acquire ha => exact Limiter.slot_of_acquire? ha
  | release => exact Limiter.slot_of_release before.limiter seat.slot
  | quiet _ _ _ hslot hstanding => exact hslot.trans (hseat.trans (hstanding st).2.2.symm)
  | register | unregister | bind | unbind => exact hseat

end

end ReverseTunnel.Server
