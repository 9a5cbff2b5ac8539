import ReverseTunnel.Server.Limiter

/-!
# Slots in use

The limiter counts; it does not know the slots that it counts. Here both are put side by side,
with a record of every slot that was ever taken: for whom, under which limit, and whether it was
given back. The count of a token is then no more and no less than the number of its slots that
are out, in whatever order slots are taken, released and dropped.

## Main results

* `count_acquire?`, `count_release`: what a slot is worth is added once and taken off once.
* `Usage.sound_run`: the limiter and the record agree at all times.
-/

namespace ReverseTunnel

/-- What a slot counts for a token. -/
def Slot.weight (token : TokenId) : Slot → Nat
  | .held owner => if owner = token then 1 else 0
  | .free => 0
  | .returned => 0

/-- A slot weighs one for the token that holds it, and nothing for others. -/
theorem Slot.weight_eq (slot : Slot) (token : TokenId) :
    slot.weight token = if slot = .held token then 1 else 0 := by
  cases slot <;> simp [weight]

namespace Limiter

/-! ### The laws of the limiter -/

/-- A slot is taken in one of two ways: it is not counted, or it is counted for its token. -/
theorem acquire?_eq_some {l l' : Limiter} {token : TokenId} {limit : Int} {slot : Slot}
    (h : l.acquire? token limit = some (slot, l')) :
    ((limit ≤ 0 ∨ token ≤ 0) ∧ slot = .free ∧ l' = l) ∨
      (¬ (limit ≤ 0 ∨ token ≤ 0) ∧ slot = .held token ∧
        l' = ⟨l.active.put token (l.count token + 1)⟩) := by
  rw [acquire?] at h
  by_cases hfree : limit ≤ 0 ∨ token ≤ 0
  · rw [if_pos hfree] at h
    obtain ⟨rfl, rfl⟩ := Prod.mk.inj (Option.some.inj h)
    exact .inl ⟨hfree, rfl, rfl⟩
  · rw [if_neg hfree] at h
    by_cases hfull : (l.count token : Int) ≥ limit
    · rw [if_pos hfull] at h
      cases h
    · rw [if_neg hfull] at h
      obtain ⟨rfl, rfl⟩ := Prod.mk.inj (Option.some.inj h)
      exact .inr ⟨hfree, rfl, rfl⟩

/-- The slot that is taken depends on the token and the limit only. -/
theorem slot_of_acquire? {l l' : Limiter} {token : TokenId} {limit : Int} {slot : Slot}
    (h : l.acquire? token limit = some (slot, l')) :
    slot = if limit ≤ 0 ∨ token ≤ 0 then .free else .held token := by
  obtain ⟨hfree, rfl, -⟩ | ⟨hheld, rfl, -⟩ := acquire?_eq_some h
  · rw [if_pos hfree]
  · rw [if_neg hheld]

/-- A slot that is given back is marked so, and cannot be given back twice. -/
@[simp] theorem slot_of_release (l : Limiter) (slot : Slot) : (l.release slot).1 = .returned := by
  cases slot <;> rfl

/-- No slot is to be had exactly when as many are out as may be. -/
theorem acquire?_eq_none_iff {l : Limiter} {token : TokenId} {limit : Int} :
    l.acquire? token limit = none ↔ 0 < token ∧ 0 < limit ∧ limit ≤ l.count token := by
  rw [acquire?]
  constructor
  · intro h
    split at h
    · simp at h
    · rename_i hcounted
      obtain ⟨hlimit, htoken⟩ := not_or.mp hcounted
      split at h
      · rename_i hfull
        exact ⟨Int.not_le.mp htoken, Int.not_le.mp hlimit, hfull⟩
      · simp at h
  · rintro ⟨htoken, hlimit, hfull⟩
    rw [if_neg (not_or.mpr ⟨Int.not_le.mpr hlimit, Int.not_le.mpr htoken⟩), if_pos hfull]

/-- A slot that is taken is counted for its token, and for no other. -/
theorem count_acquire? {l l' : Limiter} {token : TokenId} {limit : Int} {slot : Slot}
    (h : l.acquire? token limit = some (slot, l')) (other : TokenId) :
    l'.count other = l.count other + slot.weight other := by
  obtain ⟨-, rfl, rfl⟩ | ⟨-, rfl, rfl⟩ := acquire?_eq_some h
  · rfl
  · by_cases ho : token = other
    · subst ho
      simp [count, Slot.weight]
    · simp [count, Slot.weight, ho, Table.get?_put_of_ne _ _ (Ne.symm ho)]

/-- Taking a slot off a token counts one less for it, if it has any, and changes nothing for others.
-/
theorem count_decrease (l : Limiter) (token other : TokenId) :
    (l.decrease token).count other = l.count other - if token = other then 1 else 0 := by
  rw [decrease]
  rcases hn : l.active.get? token with _ | n
  · by_cases ho : token = other
    · subst ho
      simp [count, hn]
    · simp [ho]
  · by_cases ho : token = other
    · subst ho
      by_cases h1 : n > 1
      · simp [count, hn, h1]
      · simp only [count, hn, if_neg h1, Table.get?_erase_self, Option.getD_none,
          Option.getD_some, if_true]
        omega
    · rw [if_neg ho, Nat.sub_zero]
      dsimp only
      split
      · simp [count, Table.get?_put_of_ne _ _ (Ne.symm ho)]
      · simp [count, Table.get?_erase_of_ne _ (Ne.symm ho)]

/-- A slot that is given back is counted no longer. -/
theorem count_release (l : Limiter) (slot : Slot) (other : TokenId) :
    (l.release slot).2.count other = l.count other - slot.weight other := by
  cases slot with
  | free => rfl
  | held token => exact count_decrease l token other
  | returned => rfl

/-- Whether no token is listed without a slot. -/
def Pruned (l : Limiter) : Prop := ∀ token, l.active.get? token ≠ some 0

namespace Pruned

variable {l l' : Limiter}

/-- A limiter stays pruned if a token is listed with some slots. -/
theorem put (h : l.Pruned) (token : TokenId) {n : Nat} (hn : n ≠ 0) :
    Pruned ⟨l.active.put token n⟩ := by
  intro other hzero
  rcases Table.of_get?_put hzero with ⟨-, hzero⟩ | ⟨-, hzero⟩
  · exact hn hzero
  · exact h other hzero

/-- A limiter stays pruned when a slot is taken from it. -/
theorem acquire? (h : l.Pruned) {token : TokenId} {limit : Int} {slot : Slot}
    (ha : l.acquire? token limit = some (slot, l')) : l'.Pruned := by
  obtain ⟨-, -, rfl⟩ | ⟨-, -, rfl⟩ := acquire?_eq_some ha
  · exact h
  · exact h.put token (Nat.succ_ne_zero _)

/-- A limiter stays pruned when a slot is taken off a token, since the last one takes the token with
it. -/
theorem decrease (h : l.Pruned) (token : TokenId) : (l.decrease token).Pruned := by
  rw [Limiter.decrease]
  split
  · exact h
  · split
    · exact h.put token (by omega)
    · intro other hzero
      exact h other (Table.of_get?_erase hzero).2

/-- A limiter stays pruned when a slot is given back to it. -/
theorem release (h : l.Pruned) (slot : Slot) : (l.release slot).2.Pruned := by
  cases slot with
  | free => exact h
  | held token => exact h.decrease token
  | returned => exact h

end Pruned

end Limiter

/-! ### The record of slots -/

/-- A slot that was taken at some time, and what became of it. -/
structure Taken where
  token : TokenId
  limit : Int
  slot : Slot
  /-- Whether it was released. -/
  released : Bool := false
  /-- Whether it was dropped, so that nobody has it any longer. -/
  dropped : Bool := false

namespace Taken

/-- Whether the slot was neither released nor dropped. -/
def isOut (k : Taken) : Bool := !k.released && !k.dropped

/-- Whether the slot is one of those that are to be counted for a token. -/
def counts (token : TokenId) (k : Taken) : Bool :=
  decide (k.token = token) && decide (0 < k.token) && decide (0 < k.limit) && k.isOut

/-- Whether the slot is what it has to be: given back if it is not out, held if it counts. -/
def Sound (k : Taken) : Prop :=
  k.slot = if k.isOut then (if k.limit ≤ 0 ∨ k.token ≤ 0 then .free else .held k.token)
    else .returned

/-- A slot that is what it has to be weighs one for a token if it is to be counted for it, and
nothing otherwise. -/
theorem Sound.weight {k : Taken} (h : k.Sound) (token : TokenId) :
    k.slot.weight token = if k.counts token then 1 else 0 := by
  rw [h]
  by_cases hout : k.isOut = true
  · by_cases hfree : k.limit ≤ 0 ∨ k.token ≤ 0
    · have hnot : k.counts token = false := by
        rcases hfree with hlimit | htoken
        · simp [counts, Int.not_lt.mpr hlimit]
        · simp [counts, Int.not_lt.mpr htoken]
      simp [hout, hfree, hnot, Slot.weight]
    · obtain ⟨hlimit, htoken⟩ := not_or.mp hfree
      simp [hout, hfree, counts, Slot.weight, Int.not_le.mp hlimit, Int.not_le.mp htoken]
  · simp [hout, Slot.weight, counts]

end Taken

/-- A limiter, and the slots that were taken from it, in this order. -/
structure Usage where
  limiter : Limiter := {}
  taken : List Taken := []

namespace Usage

/-- What can be done with slots. -/
inductive Act where
  /-- To ask for a slot. -/
  | acquire (token : TokenId) (limit : Int)
  /-- To release a slot that one has, perhaps once more. -/
  | release (number : Nat)
  /-- To drop a slot that one has. -/
  | drop (number : Nat)

/-- The number of slots of a token that are out. -/
def outstanding (u : Usage) (token : TokenId) : Nat := u.taken.countP (Taken.counts token)

/-- Gives a slot back that somebody still has. -/
def giveBack (u : Usage) (number : Nat) (mark : Taken → Taken) : Usage :=
  match u.taken[number]? with
  | none => u
  | some k =>
    if k.dropped then u
    else
      let (slot, limiter) := u.limiter.release k.slot
      ⟨limiter, u.taken.set number (mark { k with slot })⟩

/-- What comes of an act. A slot is released when it is dropped. -/
def step (u : Usage) : Act → Usage
  | .acquire token limit =>
    match u.limiter.acquire? token limit with
    | some (slot, limiter) => ⟨limiter, u.taken ++ [⟨token, limit, slot, false, false⟩]⟩
    | none => u
  | .release number => u.giveBack number fun k => { k with released := true }
  | .drop number => u.giveBack number fun k => { k with dropped := true }

/-- What comes of many acts, one after another. -/
def run (u : Usage) (acts : List Act) : Usage := acts.foldl step u

/-- The limiter and the record agree. -/
structure Sound (u : Usage) : Prop where
  slots : ∀ k ∈ u.taken, k.Sound
  count : ∀ token, u.limiter.count token = u.outstanding token
  pruned : u.limiter.Pruned

namespace Sound

variable {u : Usage}

/-- The limiter and the record agree after a slot was asked for, whether or not there was one. -/
theorem acquire (h : u.Sound) (token : TokenId) (limit : Int) :
    (u.step (.acquire token limit)).Sound := by
  simp only [Usage.step]
  rcases ha : u.limiter.acquire? token limit with _ | ⟨slot, limiter⟩
  · exact h
  have hnew : Taken.Sound ⟨token, limit, slot, false, false⟩ := Limiter.slot_of_acquire? ha
  refine ⟨fun k hk => ?_, fun other => ?_, h.pruned.acquire? ha⟩
  · rcases List.mem_append.mp hk with hk | hk
    · exact h.slots k hk
    · rw [List.mem_singleton.mp hk]
      exact hnew
  · calc limiter.count other = u.limiter.count other + slot.weight other :=
          Limiter.count_acquire? ha other
      _ = u.outstanding other + slot.weight other := by rw [h.count]
      _ = _ := by
          rw [hnew.weight other]
          simp [outstanding, List.countP_append]

/-- A slot that is marked as given back is worth nothing any more. -/
theorem giveBack (h : u.Sound) (number : Nat) (mark : Taken → Taken)
    (hslot : ∀ k, (mark k).slot = k.slot) (hout : ∀ k, (mark k).isOut = false) :
    (u.giveBack number mark).Sound := by
  rw [Usage.giveBack]
  rcases hk : u.taken[number]? with _ | k
  · exact h
  dsimp only
  split
  · exact h
  have hmem : k ∈ u.taken := List.mem_of_getElem? hk
  obtain ⟨hlt, hget⟩ := List.getElem?_eq_some_iff.mp hk
  refine ⟨fun k' hk' => ?_, fun token => ?_, h.pruned.release k.slot⟩
  · rcases List.mem_or_eq_of_mem_set hk' with hk' | rfl
    · exact h.slots k' hk'
    · simp [Taken.Sound, hslot, hout, Limiter.slot_of_release]
  · have hnot : ∀ k', Taken.counts token (mark k') = false := fun k' => by
      simp [Taken.counts, hout]
    calc (u.limiter.release k.slot).2.count token
        = u.limiter.count token - k.slot.weight token := Limiter.count_release _ _ _
      _ = u.outstanding token - if k.counts token then 1 else 0 := by
          rw [h.count, (h.slots k hmem).weight]
      _ = _ := by simp [outstanding, List.countP_set hlt, hget, hnot]

/-- Every act keeps the limiter and the record in agreement. -/
theorem step (h : u.Sound) (act : Act) : (u.step act).Sound := by
  cases act with
  | acquire token limit => exact h.acquire token limit
  | release number =>
      exact h.giveBack number (fun k => { k with released := true }) (fun _ => rfl) fun _ => rfl
  | drop number =>
      exact h.giveBack number (fun k => { k with dropped := true }) (fun _ => rfl) fun k =>
        Bool.and_false _

end Sound

/-- **The limiter and the record agree**, whatever was done with slots in whatever order. -/
theorem sound_run (acts : List Act) : (run {} acts).Sound := by
  have hstart : Sound {} := ⟨by simp, fun _ => rfl, fun _ => by simp⟩
  exact List.foldlRecOn acts _ hstart fun _ h act _ => h.step act

/-- To give a slot back that was given back before is to do nothing to the limiter. -/
theorem giveBack_of_not_isOut {u : Usage} (h : u.Sound) {number : Nat} {k : Taken}
    (hk : u.taken[number]? = some k) (hout : k.isOut = false) (mark : Taken → Taken) :
    (u.giveBack number mark).limiter = u.limiter := by
  have hslot : k.slot = .returned := by
    have := h.slots k (List.mem_of_getElem? hk)
    simpa [Taken.Sound, hout] using this
  rw [giveBack]
  rw [hk]
  dsimp only
  split
  · rfl
  · rw [hslot]
    rfl

end Usage

end ReverseTunnel
