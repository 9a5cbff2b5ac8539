import Mathlib.Logic.Function.Basic
import ReverseTunnel.Proofs.Server.Course

/-!
# Claims to places

A claim looks a place up, reserves it if it is nobody's, and looks once more if that failed. It
is three calls at most, and between any two of them other sessions may reserve what they like.
What saves it is that reservations only grow: a place that has an owner keeps it. So each reply
to a claim stays true, and what is left of the claim can be judged in any store that has grown
since (`Settles`).

## Main results

* `perform_grows`: no call of a session takes a place from its owner.
* `claim_settles`: a claim ends within three calls, as the store says.
* `claims_are_exclusive`: any number of claims, in any interleaving, over any reservations.
-/

namespace ReverseTunnel.Server

/-! ### Reservations only grow -/

/-- Whoever owns a place in the first store owns it in the second. -/
def Grows (before now : Store) : Prop :=
  ∀ place owner, before.owner? place = some owner → now.owner? place = some owner

namespace Grows

/-- Every store has the owners that it has. -/
theorem refl (store : Store) : Grows store store := fun _ _ h => h

/-- Owners that are kept by two changes are kept by both together. -/
theorem trans {a b c : Store} (hab : Grows a b) (hbc : Grows b c) : Grows a c :=
  fun place owner h => hbc place owner (hab place owner h)

end Grows

/-- Giving a place away changes the owner of that place and of no other. -/
theorem owner?_assign (store : Store) (owner : TokenId) (place other : Place) :
    (store.assign owner place).owner? other =
      if other.normal = place.normal then some owner else store.owner? other := by
  rw [Store.assign, Store.owner?, Store.owner?]
  by_cases h : other.normal = place.normal
  · simp [h]
  · simp [h, Table.get?_put_of_ne]

/-- A reservation succeeds exactly where nobody else is the owner, and makes its owner one. -/
theorem reserve?_eq_some {store store' : Store} {owner : TokenId} {place : Place}
    (h : store.reserve? owner place = some store') :
    (store.owner? place = none ∧ store' = store.assign owner place) ∨
      (store.owner? place = some owner ∧ store' = store) := by
  rw [Store.reserve?] at h
  rcases ho : store.owner? place with _ | current
  · rw [ho] at h
    exact .inl ⟨rfl, (Option.some.inj h).symm⟩
  · rw [ho] at h
    by_cases hc : current = owner
    · subst hc
      exact .inr ⟨rfl, (Option.some.inj (by simpa using h)).symm⟩
    · simp [hc] at h

/-- A reservation fails exactly where somebody else is the owner. -/
theorem reserve?_eq_none {store : Store} {owner : TokenId} {place : Place}
    (h : store.reserve? owner place = none) :
    ∃ current, store.owner? place = some current ∧ current ≠ owner := by
  rw [Store.reserve?] at h
  rcases ho : store.owner? place with _ | current
  · simp [ho] at h
  · refine ⟨current, rfl, fun hc => ?_⟩
    simp [ho, hc] at h

/-- A reservation takes no place from its owner. -/
theorem grows_of_reserve? {store store' : Store} {owner : TokenId} {place : Place}
    (h : store.reserve? owner place = some store') : Grows store store' := by
  rcases reserve?_eq_some h with ⟨hnone, rfl⟩ | ⟨-, rfl⟩
  · intro other current hother
    rw [owner?_assign]
    by_cases hp : other.normal = place.normal
    · have : store.owner? other = none := by rw [Store.owner?, hp]; exact hnone
      simp [this] at hother
    · simpa [hp] using hother
  · exact Grows.refl _

/-- Whoever reserved a place owns it. -/
theorem owner?_of_reserve? {store store' : Store} {owner : TokenId} {place : Place}
    (h : store.reserve? owner place = some store') : store'.owner? place = some owner := by
  rcases reserve?_eq_some h with ⟨-, rfl⟩ | ⟨howner, rfl⟩
  · simp [owner?_assign]
  · exact howner

/-- What a reply comes with, as far as reservations go. -/
inductive StoreEffect (before : Store) : Event → Store → Prop
  /-- A place is looked up. -/
  | look (place : Place) : StoreEffect before ⟨.owner place, some (before.owner? place)⟩ before
  /-- A place is reserved. -/
  | reserve {token : TokenId} {place : Place} {after : Store}
      (h : before.reserve? token place = some after) :
      StoreEffect before ⟨.reserve token place, true⟩ after
  /-- Nothing is said about reservations, and nothing done. -/
  | quiet {e : Event} (hlook : ∀ place owner, e ≠ ⟨.owner place, some owner⟩)
      (hreserve : ∀ token place, e ≠ ⟨.reserve token place, true⟩) : StoreEffect before e before

/-- What a call does to reservations is one of the effects. -/
theorem perform_storeEffect {σ : Type} (me : σ) (c : Circumstances) (shared : Shared σ)
    (seat : Seat) (call : Call) :
    StoreEffect shared.store ⟨call, (perform me c shared seat call).1⟩
      (perform me c shared seat call).2.1.store := by
  cases call with
  | owner place =>
      by_cases hw : c.works = true
      · simp only [perform, if_pos hw]
        exact .look place
      · simp only [perform, if_neg hw]
        exact .quiet (by simp) (by simp)
  | reserve token place =>
      by_cases hw : c.works = true
      · rcases hr : shared.store.reserve? token place with _ | store
        · simp only [perform, if_pos hw, hr]
          exact .quiet (by simp) (by simp)
        · simp only [perform, if_pos hw, hr]
          exact .reserve hr
      · simp only [perform, if_neg hw]
        exact .quiet (by simp) (by simp)
  | acquire token limit =>
      simp only [perform]
      split <;> exact .quiet (by simp) (by simp)
  | register id policy =>
      simp only [perform]
      split <;> exact .quiet (by simp) (by simp)
  | bind port =>
      simp only [perform]
      split <;> exact .quiet (by simp) (by simp)
  | send answer =>
      simp only [perform]
      split
      · split <;> exact .quiet (by simp) (by simp)
      · exact .quiet (by simp) (by simp)
  | create token limit =>
      simp only [perform]
      exact .quiet (by simp) (by simp)
  | unregister id =>
      simp only [perform]
      exact .quiet (by simp) (by simp)
  | _ => exact .quiet (by simp) (by simp)

/-- No effect takes a place from its owner. -/
theorem StoreEffect.grows {before after : Store} {e : Event} (h : StoreEffect before e after) :
    Grows before after := by
  cases h with
  | look place => exact Grows.refl before
  | reserve h => exact grows_of_reserve? h
  | quiet => exact Grows.refl before

/-- No call of a session takes a place from its owner. -/
theorem perform_grows {σ : Type} (me : σ) (c : Circumstances) (shared : Shared σ) (seat : Seat)
    (call : Call) : Grows shared.store (perform me c shared seat call).2.1.store :=
  (perform_storeEffect me c shared seat call).grows

/-! ### One claim -/

/-- What a token is told about a place that has an owner. -/
def judge (token owner : TokenId) : Except Rejection Unit :=
  if owner = token then .ok () else .error (.plain .unauthorized)

/-- The check of the owner is the judgement, and asks nobody. -/
theorem run_judge (token owner : TokenId) :
    (if owner = token then pure () else throw (.plain .unauthorized) : Trial Unit).run =
      .done (judge token owner) := by
  rw [judge]
  split <;> rfl

/-- The calls of a claim, where places belong to tokens. -/
theorem run_claim {s : Settings} (h : s.ownsPlaces = true) (place : Place) (token : TokenId) :
    (claim s place (some token)).run = .ask (.owner place) fun
      | none => .done (.error (lookupFailed place))
      | some (some owner) => .done (judge token owner)
      | some none => .ask (.reserve token place) fun
        | true => .done (.ok ())
        | false => .ask (.owner place) fun
          | some (some owner) => .done (judge token owner)
          | _ => .done (.error (claimFailed place)) := by
  rw [claim, if_pos h]
  refine congrArg (Plan.ask _) (funext fun reply => ?_)
  rcases reply with _ | _ | owner
  · rfl
  · refine congrArg (Plan.ask _) (funext fun reply => ?_)
    rcases reply with _ | _
    · refine congrArg (Plan.ask _) (funext fun reply => ?_)
      rcases reply with _ | _ | owner
      · rfl
      · rfl
      · exact run_judge token owner
    · rfl
  · exact run_judge token owner

/-- Nobody claims a place without an identity. -/
theorem run_claim_none {s : Settings} (h : s.ownsPlaces = true) (place : Place) :
    (claim s place none).run = .done (.error (.plain .unauthorized)) := by
  unfold claim
  rw [if_pos h]
  rfl

/-- Where places belong to nobody, a claim asks nobody. -/
theorem run_claim_of_not_ownsPlaces {s : Settings} (h : s.ownsPlaces = false) (place : Place)
    (token : Option TokenId) : (claim s place token).run = .done (.ok ()) := by
  unfold claim
  rw [if_neg (by simp [h])]
  rfl

/-- Whether a store bears the result of a claim out. -/
def Verdict (place : Place) (token : TokenId) (store : Store) : Except Rejection Unit → Prop
  | .ok () => store.owner? place = some token
  | .error r => r = .plain .unauthorized ∧
      ∃ owner, store.owner? place = some owner ∧ owner ≠ token

/-- A result that a store bears out is borne out by every store in which the owners are still
owners. -/
theorem Verdict.mono {place : Place} {token : TokenId} {before now : Store}
    {result : Except Rejection Unit} (hgrows : Grows before now)
    (h : Verdict place token before result) : Verdict place token now result := by
  rcases result with r | ⟨⟩
  · obtain ⟨hr, owner, howner, hne⟩ := h
    exact ⟨hr, owner, hgrows place owner howner, hne⟩
  · exact hgrows place token h

/-- The judgement about an owner is borne out by every store that has this owner. -/
theorem verdict_judge {place : Place} {token owner : TokenId} {store : Store}
    (h : store.owner? place = some owner) : Verdict place token store (judge token owner) := by
  rw [judge]
  split
  · rename_i heq
    exact heq ▸ h
  · rename_i hne
    exact ⟨rfl, owner, h, hne⟩

/-- What is left of a claim ends within so many calls and as the store says, however much is
reserved before each of them. -/
def Settles (σ : Type) (place : Place) (token : TokenId) :
    Plan (Except Rejection Unit) → Nat → Store → Prop
  | .done result, _, store => Verdict place token store result
  | .ask _ _, 0, _ => False
  | .ask call next, n + 1, store => ∀ (me : σ) (shared : Shared σ) (seat : Seat),
      Grows store shared.store →
        Settles σ place token (next (perform me {} shared seat call).1) n
          (perform me {} shared seat call).2.1.store

/-- What settles from a store settles from every later one, in which the owners are still owners. -/
theorem Settles.mono {σ : Type} {place : Place} {token : TokenId}
    {plan : Plan (Except Rejection Unit)} {n : Nat} {before now : Store}
    (hgrows : Grows before now) (h : Settles σ place token plan n before) :
    Settles σ place token plan n now := by
  rcases plan with result | ⟨call, next⟩
  · exact Verdict.mono hgrows h
  · rcases n with _ | n
    · exact h
    · exact fun me shared seat hs => h me shared seat (hgrows.trans hs)

/-- **A claim ends within three calls, as the store says.** The second lookup comes after a
reservation that failed; somebody else owns the place by then, so it is told whom, and the
fallback for a place that nobody owns is not reached. -/
theorem claim_settles (σ : Type) {s : Settings} (h : s.ownsPlaces = true) (place : Place)
    (token : TokenId) (store : Store) :
    Settles σ place token (claim s place (some token)).run 3 store := by
  rw [run_claim h]
  intro _ shared₁ _ _
  rcases h₁ : shared₁.store.owner? place with _ | owner
  · simp only [perform, h₁, if_true]
    intro _ shared₂ _ _
    rcases h₂ : shared₂.store.reserve? token place with _ | store₂
    · obtain ⟨owner, howner, hne⟩ := reserve?_eq_none h₂
      simp only [perform, h₂, if_true]
      intro _ shared₃ _ hgrows
      have h₃ := hgrows place owner howner
      simp only [perform, h₃, if_true]
      exact verdict_judge h₃
    · simp only [perform, h₂, if_true]
      exact owner?_of_reserve? h₂
  · simp only [perform, h₁, if_true]
    exact verdict_judge h₁

/-! ### Many claims at once -/

/-- A claim to be made. -/
structure Claimant where
  place : Place
  token : TokenId

/-- Claims on their way, and what they share. -/
structure Contest (σ : Type) where
  shared : Shared σ
  plans : σ → Plan (Except Rejection Unit)

namespace Contest

variable {σ : Type} [DecidableEq σ]

/-- Every claim is still to be made. -/
def start (s : Settings) (shared : Shared σ) (who : σ → Claimant) : Contest σ :=
  ⟨shared, fun me => (claim s (who me).place (some (who me).token)).run⟩

/-- One call of one claim. The store does not fail. -/
def step (w : Contest σ) (me : σ) : Contest σ :=
  match w.plans me with
  | .done _ => w
  | .ask call next =>
    let (reply, shared, _) := perform me {} w.shared {} call
    ⟨shared, Function.update w.plans me (next reply)⟩

/-- The claims after so many turns. -/
def run (w : Contest σ) (turns : List σ) : Contest σ := turns.foldl step w

/-- Every claim settles, given what is reserved, within the calls that it has left. -/
def Settling (who : σ → Claimant) (left : σ → Nat) (w : Contest σ) : Prop :=
  ∀ me, Settles σ (who me).place (who me).token (w.plans me) (left me) w.shared.store

/-- A turn takes one call from the claim whose turn it is, and nothing from the others. -/
theorem settling_step {who : σ → Claimant} {left : σ → Nat} {w : Contest σ}
    (h : w.Settling who left) (me : σ) :
    (w.step me).Settling who (Function.update left me (left me - 1)) := by
  rw [step]
  rcases hp : w.plans me with result | ⟨call, next⟩
  · intro other
    by_cases ho : other = me
    · subst ho
      simpa [Settles, hp] using h other
    · simpa [ho] using h other
  · have hme := h me
    rw [hp] at hme
    rcases hn : left me with _ | n
    · rw [hn] at hme
      exact hme.elim
    · rw [hn] at hme
      intro other
      -- What the others have left was judged in the old store, which has only grown.
      by_cases ho : other = me
      · subst ho
        simpa using hme other w.shared {} (Grows.refl _)
      · simpa [ho] using (h other).mono (perform_grows me {} w.shared {} call)

/-- No turn of a contest takes a place from its owner. -/
theorem grows_step (w : Contest σ) (me : σ) : Grows w.shared.store (w.step me).shared.store := by
  rw [step]
  split
  · exact Grows.refl _
  · exact perform_grows me {} w.shared {} _

/-- However the turns are taken, who owns a place at the start owns it at the end. -/
theorem grows_run (w : Contest σ) (turns : List σ) :
    Grows w.shared.store (w.run turns).shared.store := by
  induction turns generalizing w with
  | nil => exact Grows.refl _
  | cons me turns ih => exact (w.grows_step me).trans (ih (w.step me))

/-- After any turns, every claim has as many calls left as it had turns fewer. -/
theorem settling_run {who : σ → Claimant} {left : σ → Nat} {w : Contest σ}
    (h : w.Settling who left) (turns : List σ) :
    (w.run turns).Settling who (fun me => left me - turns.count me) := by
  induction turns generalizing w left with
  | nil => simpa [run] using h
  | cons me turns ih =>
      have hrun := ih (settling_step h me)
      intro other
      have hother := hrun other
      by_cases ho : other = me
      · subst ho
        simpa [run, Nat.sub_sub, Nat.add_comm] using hother
      · simpa [run, ho, List.count_cons_of_ne (Ne.symm ho)] using hother

end Contest

/-- **Claims are exclusive.** Any number of claims to any places by any identities, over any
reservations and in any interleaving: two that were granted for one place are of one identity;
whoever was granted a place owns it from then on; whoever was refused one was refused as
unauthorized, and somebody else owns it; and every claim that had three turns has ended. -/
theorem claims_are_exclusive {σ : Type} [DecidableEq σ] {s : Settings}
    (hs : s.ownsPlaces = true) (shared : Shared σ) (who : σ → Claimant) (turns : List σ) :
    let w := (Contest.start s shared who).run turns
    (∀ me you, w.plans me = .done (.ok ()) → w.plans you = .done (.ok ()) →
      (who me).place.normal = (who you).place.normal → (who me).token = (who you).token) ∧
    (∀ me, w.plans me = .done (.ok ()) → ∀ later,
      (w.run later).shared.store.owner? (who me).place = some (who me).token) ∧
    (∀ me r, w.plans me = .done (.error r) → r = .plain .unauthorized ∧
      ∃ owner, w.shared.store.owner? (who me).place = some owner ∧ owner ≠ (who me).token) ∧
    (∀ me, 3 ≤ turns.count me → (w.plans me).isDone = true) := by
  intro w
  have hstart : (Contest.start s shared who).Settling who fun _ => 3 := fun me =>
    claim_settles σ hs (who me).place (who me).token shared.store
  have hw : w.Settling who fun me => 3 - turns.count me := Contest.settling_run hstart turns
  have granted : ∀ me, w.plans me = .done (.ok ()) →
      w.shared.store.owner? (who me).place = some (who me).token := by
    intro me hme
    have := hw me
    rwa [hme] at this
  refine ⟨fun me you hme hyou hplace => ?_, fun me hme later => ?_, fun me r hme => ?_,
    fun me hturns => ?_⟩
  · have h := granted me hme
    rw [Store.owner?, hplace] at h
    exact Option.some.inj (h.symm.trans (granted you hyou))
  · exact w.grows_run later _ _ (granted me hme)
  · have := hw me
    rwa [hme] at this
  · have hme : Settles σ _ _ (w.plans me) (3 - turns.count me) _ := hw me
    rcases hp : w.plans me with result | ⟨call, next⟩
    · rfl
    · rw [hp, Nat.sub_eq_zero_of_le hturns] at hme
      exact hme.elim

/-- A server with two ports that tells tokens apart and keeps reservations. -/
def smallServer : Settings :=
  { tunnelDomain := "t", ports := ⟨1, 2⟩, identifies := true, reserves := true }

/-- Two tokens that claim one name, each in its own writing. -/
def rivals (first : Bool) : Claimant :=
  if first then ⟨.subdomain "Demo", 1⟩ else ⟨.subdomain " demo", 2⟩

/-- Both rivals find the name free before either reserves it: the second one to reserve it is
told that it is the first one's. -/
theorem claims_of_rivals :
    let w := (Contest.start smallServer {} rivals).run [true, false, false, true, true]
    w.plans false = .done (.ok ()) ∧ w.plans true = .done (.error (.plain .unauthorized)) ∧
      ∃ owner, w.shared.store.owner? (.subdomain "Demo") = some owner ∧ owner ≠ 1 := by
  intro w
  have hgranted : w.plans false = .done (.ok ()) := rfl
  have hrefused : w.plans true = .done (.error (.plain .unauthorized)) := rfl
  have hexclusive := claims_are_exclusive (s := smallServer) rfl {} rivals
    [true, false, false, true, true]
  exact ⟨hgranted, hrefused, (hexclusive.2.2.1 true _ hrefused).2⟩

end ReverseTunnel.Server
