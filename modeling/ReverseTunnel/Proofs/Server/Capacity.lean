import ReverseTunnel.Proofs.Server.Holdings

/-!
# Tunnels of one token

A token that may have so many tunnels at once has no more. Every session that can be found
somewhere has a slot of its token, if slots are counted, and is found at one place only; and
the slots that are out never exceed the limit, since each was taken under it.

## Main results

* `Course.capped_run`: no more slots are out than may be.
* `tunnels_are_capped`: the laws of the limiter, and what they come to.
-/

namespace ReverseTunnel.Server

section

variable {σ : Type} [DecidableEq σ] {s : Settings} {before after : Shared σ} {trace : Trace σ}
  {me : σ} {seat seat' : Seat} {e : Event}

/-- No token has more slots out than it may have tunnels, if there is a limit. -/
def Capped (s : Settings) (l : Limiter) : Prop :=
  0 < s.maxTunnels → ∀ token, (l.count token : Int) ≤ s.maxTunnels

/-- One more slot of a token is out only if there was room for it. -/
theorem Capped.acquire {l l' : Limiter} (h : Capped s l) {token : TokenId} {slot : Slot}
    (ha : l.acquire? token s.maxTunnels = some (slot, l')) : Capped s l' := by
  intro hmax other
  have hcount := Limiter.count_acquire? ha other
  have hold := h hmax other
  have hroom : ¬ (0 < token ∧ 0 < s.maxTunnels ∧ s.maxTunnels ≤ l.count token) := by
    rw [← Limiter.acquire?_eq_none_iff, ha]
    simp
  rw [Limiter.slot_of_acquire? ha] at hcount
  by_cases hfree : s.maxTunnels ≤ 0 ∨ token ≤ 0
  · rw [if_pos hfree] at hcount
    simp only [Slot.weight] at hcount
    omega
  · rw [if_neg hfree] at hcount
    have htoken : 0 < token := Int.not_le.mp (not_or.mp hfree).2
    by_cases ho : token = other
    · subst ho
      have hlt : (l.count token : Int) < s.maxTunnels :=
        Int.not_le.mp fun hle => hroom ⟨htoken, hmax, hle⟩
      simp only [Slot.weight, if_true] at hcount
      omega
    · simp only [Slot.weight, if_neg ho] at hcount
      omega

/-- Giving a slot back leaves every token within its limit. -/
theorem Capped.release {l : Limiter} (h : Capped s l) (slot : Slot) :
    Capped s (l.release slot).2 := by
  intro hmax other
  have hcount := Limiter.count_release l slot other
  have hold := h hmax other
  omega

/-- No call that is due takes a slot that is not to be had. -/
theorem Capped.step (h : Capped s before.limiter) (heffect : Effect me before seat e after seat')
    (hdue : (standing me trace).Due s e.call) : Capped s after.limiter := by
  cases heffect with
  | acquire ha =>
      obtain ⟨-, -, rfl⟩ := hdue
      exact h.acquire ha
  | release => exact h.release seat.slot
  | register | unregister | bind | unbind => exact h
  | quiet _ _ hlimiter _ _ => exact hlimiter ▸ h

namespace Course

/-- No more slots are out than may be. -/
theorem capped_run (settings : Settings) (store : Store) (rates : RateLimiter Float)
    (moves : List (Move σ)) :
    Capped settings ((start store rates).run settings moves).system.shared.limiter := by
  refine shared_invariant (P := fun shared _ => Capped settings shared.limiter) ?_ ?_ moves
  · intro hmax token
    exact Int.le_of_lt hmax
  · intro shared trace me c call seat h hdue _
    exact h.step (perform_effect me c shared seat call) hdue

/-- The places at which tunnels of a token can be found. -/
def tunnelsOf (w : Course σ) (token : TokenId) : Set Place :=
  {place | ∃ me, w.system.shared.at? place = some me ∧ (standing me w.trace).token = some token}

/-- Each tunnel of a token has a session of its own, and that session a slot. -/
theorem ncard_tunnelsOf_le {w : Course σ} (horderly : w.Orderly s)
    (h : Holdings w.system.shared w.trace) (hmax : 0 < s.maxTunnels) (token : TokenId) :
    (w.tunnelsOf token).Finite ∧
      (w.tunnelsOf token).ncard ≤ w.system.shared.limiter.count token := by
  have hfinite : (some '' holders token w.trace).Finite := (h.counted.finite token).image some
  have hmaps : ∀ place ∈ w.tunnelsOf token,
      w.system.shared.at? place ∈ some '' holders token w.trace := by
    rintro place ⟨me, hat, htoken⟩
    have hcharged := (horderly.proper me).charged (h.not_unseen_of_at? hat)
    exact ⟨me, (hcharged token htoken).2 hmax, hat.symm⟩
  -- A session is found at one place at most, so different places have different holders.
  have hinj : Set.InjOn w.system.shared.at? (w.tunnelsOf token) := by
    rintro place ⟨me, hat, -⟩ other ⟨me', hat', -⟩ heq
    obtain rfl := Option.some.inj (hat.symm.trans (heq.trans hat'))
    exact h.at?_inj (horderly.proper me) hat hat'
  refine ⟨Set.Finite.of_injOn hmaps hinj hfinite, ?_⟩
  calc (w.tunnelsOf token).ncard
      ≤ (some '' holders token w.trace).ncard :=
        Set.ncard_le_ncard_of_injOn _ hmaps hinj hfinite
    _ = (holders token w.trace).ncard :=
        Set.ncard_image_of_injective _ (Option.some_injective σ)
    _ = w.system.shared.limiter.count token := (h.counted.count token).symm

end Course

/-- **Tunnels are capped.** Whatever is done with slots in whatever order: the count of a token
is the number of its slots that were taken under a limit and neither released nor dropped; no
token is listed with none; a token that is counted gets a slot exactly when fewer are out than
the limit says, and otherwise nothing changes; and a slot that was given back changes nothing
when it is released once more or dropped. In every course of the server, therefore, no token
has more tunnels than it may have. -/
theorem tunnels_are_capped (acts : List Usage.Act) (settings : Settings) (store : Store)
    (rates : RateLimiter Float) (moves : List (Move σ)) :
    (let u := Usage.run {} acts;
      (∀ token, u.limiter.count token = u.outstanding token) ∧
      (∀ token, u.limiter.active.get? token ≠ some 0) ∧
      (∀ token limit, 0 < token → 0 < limit →
        ((u.limiter.acquire? token limit).isSome = true ↔ (u.outstanding token : Int) < limit) ∧
        (limit ≤ u.outstanding token → u.step (.acquire token limit) = u)) ∧
      (∀ number k, u.taken[number]? = some k → k.isOut = false →
        (u.step (.release number)).limiter = u.limiter ∧
        (u.step (.drop number)).limiter = u.limiter)) ∧
    (let w := (Course.start store rates).run settings moves;
      0 < settings.maxTunnels → ∀ token, (w.tunnelsOf token).Finite ∧
        ((w.tunnelsOf token).ncard : Int) ≤ settings.maxTunnels) := by
  constructor
  · intro u
    have h : u.Sound := Usage.sound_run acts
    refine ⟨h.count, h.pruned, fun token limit htoken hlimit => ?_, fun number k hk hout => ?_⟩
    · have hnone : u.limiter.acquire? token limit = none ↔ limit ≤ u.outstanding token := by
        rw [Limiter.acquire?_eq_none_iff, h.count]
        exact ⟨fun h => h.2.2, fun h => ⟨htoken, hlimit, h⟩⟩
      refine ⟨?_, fun hfull => ?_⟩
      · rw [← Int.not_le, ← hnone, Option.isSome_iff_ne_none]
      · simp only [Usage.step, hnone.mpr hfull]
    · exact ⟨Usage.giveBack_of_not_isOut h hk hout _, Usage.giveBack_of_not_isOut h hk hout _⟩
  · intro w hmax token
    have horderly : w.Orderly settings := Course.orderly_run settings store rates moves
    have h : Holdings w.system.shared w.trace := Course.holdings_run settings store rates moves
    obtain ⟨hfinite, hle⟩ := Course.ncard_tunnelsOf_le horderly h hmax token
    have hcap := Course.capped_run settings store rates moves hmax token
    exact ⟨hfinite, le_trans (by exact_mod_cast hle) hcap⟩

end

end ReverseTunnel.Server
