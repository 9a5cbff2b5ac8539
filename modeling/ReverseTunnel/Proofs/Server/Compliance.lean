import ReverseTunnel.Proofs.Server.Discipline
import ReverseTunnel.Proofs.Server.Effect

/-!
# Sessions in company

The discipline is a matter of one session. Here it is carried over to all sessions of a course:
whatever the others did in between, a session is where its plan would have come had it been
alone and told the same. So an invariant of what the sessions share has to be checked for calls
that are due only.

## Main results

* `Course.orderly_run`: every course is orderly.
* `Course.shared_invariant`: the rule of invariants for what is shared.
-/

namespace ReverseTunnel.Server

namespace Course

variable {σ : Type} [DecidableEq σ]

/-- Every session is on the way that it was told, its seat is as it believes, and it can be
relied on. -/
structure Orderly (s : Settings) (w : Course σ) : Prop where
  obeys : ∀ me running, w.system.sessions.get? me = some running →
    running.plan.Obeys (discipline s) (fun st _ => st.AtRest) (standing me w.trace)
  slot : ∀ me running, w.system.sessions.get? me = some running →
    running.seat.slot = (standing me w.trace).slot
  absent : ∀ me, w.system.sessions.get? me = none → standing me w.trace = {}
  proper : ∀ me, (standing me w.trace).Proper s

namespace Orderly

variable {s : Settings} {w : Course σ}

/-- A course with no session yet is an orderly one. -/
theorem start (store : Store) (rates : RateLimiter Float) :
    (Course.start store rates : Course σ).Orderly s where
  obeys me running h := by simp [Course.start] at h
  slot me running h := by simp [Course.start] at h
  absent me _ := rfl
  proper me := .of_unseen ⟨rfl, rfl⟩

/-- Whoever enters was told nothing, and is at the beginning of its plan. -/
theorem enter (h : w.Orderly s) {me : σ} (hme : w.system.sessions.get? me = none) :
    ({ w with system := w.system.enter s me } : Course σ).Orderly s := by
  have hstanding := h.absent me hme
  refine ⟨fun you running hr => ?_, fun you running hr => ?_, fun you hr => ?_, h.proper⟩
  · rcases Table.of_get?_put hr with ⟨rfl, rfl⟩ | ⟨-, hr⟩
    · rw [hstanding]
      exact session_obeys s
    · exact h.obeys you running hr
  · rcases Table.of_get?_put hr with ⟨rfl, rfl⟩ | ⟨-, hr⟩
    · rw [hstanding]
    · exact h.slot you running hr
  · have hyou : you ≠ me := by
      rintro rfl
      simp [System.enter] at hr
    exact h.absent you ((Table.get?_put_of_ne _ _ hyou).symm.trans hr)

section

variable {me : σ} {call : Call} {next : call.Reply → Plan Unit} {seat : Seat}

/-- A session makes only calls that are due. -/
theorem due (h : w.Orderly s)
    (hme : w.system.sessions.get? me = some ⟨.ask call next, seat⟩) :
    (standing me w.trace).Due s call :=
  (h.obeys me _ hme).ask_inv.1

/-- A reply takes its session one call further, and leaves the others where they are. -/
theorem told (h : w.Orderly s) (hme : w.system.sessions.get? me = some ⟨.ask call next, seat⟩)
    (reply : call.Reply) (shared : Shared σ) {seat' : Seat}
    (hslot : seat'.slot = ((standing me w.trace).after ⟨call, reply⟩).slot) :
    (⟨⟨shared, w.system.sessions.put me ⟨next reply, seat'⟩⟩, (me, ⟨call, reply⟩) :: w.trace⟩ :
      Course σ).Orderly s := by
  refine ⟨fun you running hr => ?_, fun you running hr => ?_, fun you hr => ?_, fun you => ?_⟩
  · rcases Table.of_get?_put hr with ⟨rfl, rfl⟩ | ⟨hyou, hr⟩
    · rw [standing_cons_self]
      exact (h.obeys you _ hme).ask_inv.2 reply
    · rw [standing_cons_of_ne (Ne.symm hyou)]
      exact h.obeys you running hr
  · rcases Table.of_get?_put hr with ⟨rfl, rfl⟩ | ⟨hyou, hr⟩
    · rw [standing_cons_self]
      exact hslot
    · rw [standing_cons_of_ne (Ne.symm hyou)]
      exact h.slot you running hr
  · have hyou : you ≠ me := by
      rintro rfl
      simp at hr
    rw [standing_cons_of_ne (Ne.symm hyou)]
    exact h.absent you ((Table.get?_put_of_ne _ _ hyou).symm.trans hr)
  · by_cases hyou : you = me
    · subst hyou
      rw [standing_cons_self]
      exact (h.proper you).after (h.due hme) reply
    · rw [standing_cons_of_ne (Ne.symm hyou)]
      exact h.proper you

/-- A reply leaves a course orderly, whatever the circumstances are. -/
theorem reply (h : w.Orderly s) (hme : w.system.sessions.get? me = some ⟨.ask call next, seat⟩)
    (c : Circumstances) : (w.reply me c call next seat).Orderly s :=
  h.told hme _ _ ((perform_effect me c w.system.shared seat call).slot (h.slot me _ hme))

end

/-- A session that has ended holds nothing. -/
theorem atRest_of_done (h : w.Orderly s) {me : σ} {seat : Seat}
    (hme : w.system.sessions.get? me = some ⟨.done (), seat⟩) :
    (standing me w.trace).AtRest ∧ seat.slot = .returned := by
  have hrest := (h.obeys me _ hme).done_inv
  exact ⟨hrest, (h.slot me _ hme).trans hrest.1⟩

end Orderly

/-- **Every course is orderly.** -/
theorem orderly_run (settings : Settings) (store : Store) (rates : RateLimiter Float)
    (moves : List (Move σ)) : ((start store rates).run settings moves).Orderly settings :=
  invariant (.start store rates) (fun _ _ h hme => h.enter hme)
    (fun _ _ c _ _ _ h hme => h.reply hme c) moves

/-- **The rule of invariants for what is shared.** A property of the shared state and the trace
holds in every course if it holds at the start and if every reply to a call that is due keeps
it. -/
theorem shared_invariant {settings : Settings} {store : Store} {rates : RateLimiter Float}
    {P : Shared σ → Trace σ → Prop} (hstart : P { store, rates } [])
    (hreply : ∀ shared trace me c call seat, P shared trace →
      (standing me trace).Due settings call → seat.slot = (standing me trace).slot →
      P (perform me c shared seat call).2.1
        ((me, ⟨call, (perform me c shared seat call).1⟩) :: trace))
    (moves : List (Move σ)) :
    P ((start store rates).run settings moves).system.shared
      ((start store rates).run settings moves).trace := by
  have both : ((start store rates).run settings moves).Orderly settings ∧
      P ((start store rates).run settings moves).system.shared
        ((start store rates).run settings moves).trace := by
    refine invariant (P := fun w : Course σ => w.Orderly settings ∧ P w.system.shared w.trace)
      ⟨.start store rates, hstart⟩ (fun w me h hme => ⟨h.1.enter hme, h.2⟩)
      (fun w me c call next seat h hme => ⟨h.1.reply hme c, ?_⟩) moves
    exact hreply _ _ me c call seat h.2 (h.1.due hme) (h.1.slot me _ hme)
  exact both.2

end Course

end ReverseTunnel.Server
