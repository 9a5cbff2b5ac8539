import ReverseTunnel.Proofs.Server.Course

/-!
# Conduct of plans

A rule of conduct says which calls are due, given what a plan was told before. Whether a plan
obeys is a question about the plan alone: it has to make only calls that are due whatever it is
told, and to end as promised. No other session comes into it, so a plan is read from its first
call to its last; the interleavings are dealt with once, for all plans that obey.

## Main results

* `Plan.Obeys.bind`, `obeys_run_bind`: one plan after another, and one trial after another.
* `Plan.Obeys.mono`: a weaker promise is kept too.
-/

namespace ReverseTunnel.Server

/-- A rule of conduct over a memory of type `S`. -/
structure Conduct (S : Type) where
  /-- What is remembered after a reply. -/
  after : S → Event → S
  /-- Which calls may be made. -/
  due : S → Call → Prop

section

variable {α β S : Type} {c : Conduct S} {post : S → α → Prop} {s : S}

namespace Plan

/-- Whatever it is told, the plan makes only calls that are due, and ends with a memory and a
result as `post` says. -/
inductive Obeys (c : Conduct S) (post : S → α → Prop) : Plan α → S → Prop
  | done {a : α} {s : S} : post s a → Obeys c post (.done a) s
  | ask {call : Call} {next : call.Reply → Plan α} {s : S} : c.due s call →
      (∀ reply, Obeys c post (next reply) (c.after s ⟨call, reply⟩)) →
      Obeys c post (.ask call next) s

/-- The next call of a plan that obeys is due, and what follows it obeys. -/
theorem Obeys.ask_inv {call : Call} {next : call.Reply → Plan α}
    (h : (Plan.ask call next).Obeys c post s) :
    c.due s call ∧ ∀ reply, (next reply).Obeys c post (c.after s ⟨call, reply⟩) := by
  cases h with
  | ask hdue hnext => exact ⟨hdue, hnext⟩

/-- A plan that obeys and has ended kept its promise. -/
theorem Obeys.done_inv {a : α} (h : (Plan.done a).Obeys c post s) : post s a := by
  cases h with
  | done hpost => exact hpost

/-- A plan that keeps a promise keeps every weaker one. -/
theorem Obeys.mono {p : Plan α} {post' : S → α → Prop} (h : p.Obeys c post s)
    (hpost : ∀ s a, post s a → post' s a) : p.Obeys c post' s := by
  induction h with
  | done ha => exact .done (hpost _ _ ha)
  | ask hdue _ ih => exact .ask hdue ih

/-- One plan after another obeys if the second one obeys wherever the first one can end. -/
theorem Obeys.bind {p : Plan α} {f : α → Plan β} {mid : S → α → Prop} {post : S → β → Prop}
    (h : p.Obeys c mid s) (hf : ∀ s a, mid s a → (f a).Obeys c post s) :
    (p >>= f).Obeys c post s := by
  induction h with
  | done ha => exact hf _ _ ha
  | ask hdue _ ih => exact .ask hdue ih

end Plan

/-! ### Trials -/

/-- One trial after another: the second one starts if the first one was not rejected, and a
rejection is passed on. -/
theorem obeys_run_bind {x : Trial α} {f : α → Trial β} {mid : S → Except Rejection α → Prop}
    {post : S → Except Rejection β → Prop} (h : x.run.Obeys c mid s)
    (hok : ∀ s a, mid s (.ok a) → (f a).run.Obeys c post s)
    (herror : ∀ s r, mid s (.error r) → post s (.error r)) :
    (x >>= f).run.Obeys c post s := by
  refine Plan.Obeys.bind (p := x.run) h fun s e he => ?_
  rcases e with r | a
  · exact .done (herror s r he)
  · exact hok s a he

/-- A trial that has its result already goes on with it. -/
theorem obeys_run_mk_bind {a : α} {f : α → Trial β} {post : S → Except Rejection β → Prop}
    (h : (f a).run.Obeys c post s) :
    (ExceptT.mk (pure (.ok a)) >>= f : Trial β).run.Obeys c post s :=
  h

end

end ReverseTunnel.Server
