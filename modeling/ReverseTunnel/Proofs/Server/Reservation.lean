import ReverseTunnel.Proofs.Server.Holdings
import ReverseTunnel.Proofs.Text.Normal

/-!
# Reservations of live tunnels

A tunnel that appears at a place which its request named is at a place of its own token, now and
later. One that appears elsewhere was not promised so much. A port that the server chose was not
somebody else's when it was looked up; but whoever names that port afterwards reserves it, even
though it cannot be bound any more and the request fails. A random id is not looked up at all.

## Main results

* `Recorded.step`: what was told about reservations stays true, and a place that had no owner
  has got one only by a reservation since.
* `reservations_are_respected`: who can own the place of a live tunnel.
-/

namespace ReverseTunnel.Server

section

variable {σ : Type} {before after : Store} {trace : Trace σ} {me : σ} {e : Event}

/-! ### The record of reservations -/

/-- The store is as the sessions were told, but for what was reserved since. -/
structure Recorded (store : Store) (trace : Trace σ) : Prop where
  told : ∀ me place owner, (me, ⟨.owner place, some (some owner)⟩) ∈ trace →
    store.owner? place = some owner
  made : ∀ me place owner, (me, ⟨.reserve owner place, true⟩) ∈ trace →
    store.owner? place = some owner
  since : ∀ later me place earlier, trace = later ++ (me, ⟨.owner place, some none⟩) :: earlier →
    ∀ owner, store.owner? place = some owner →
      ∃ who named, (who, ⟨.reserve owner named, true⟩) ∈ later ∧ named.normal = place.normal

namespace Recorded

/-- Where nobody was told anything, the store is as the sessions were told. -/
theorem start (store : Store) : Recorded store ([] : Trace σ) where
  told me place owner h := by simp at h
  made me place owner h := by simp at h
  since later me place earlier h := by simp at h

/-- After one more reply a split of the trace is one at the reply itself or one before it. -/
theorem split_cons {P : Prop} {later earlier : Trace σ} {x : σ × Event}
    (h : (me, e) :: trace = later ++ x :: earlier) (hhead : (me, e) = x → P)
    (htail : ∀ later', later = (me, e) :: later' → trace = later' ++ x :: earlier → P) : P := by
  rcases List.cons_eq_append_iff.mp h with ⟨-, heq⟩ | ⟨later', hlater, htrace⟩
  · exact hhead (List.cons.inj heq).1.symm
  · exact htail later' hlater htrace

/-- A lookup that found something is of one place and found one owner. -/
theorem look_inj {place place' : Place} {owner owner' : Option TokenId}
    (h : (⟨.owner place, some owner⟩ : Event) = ⟨.owner place', some owner'⟩) :
    place = place' ∧ owner = owner' := by
  cases h
  exact ⟨rfl, rfl⟩

/-- A lookup tells what is the case. -/
theorem look (h : Recorded before trace) (place : Place) :
    Recorded before ((me, ⟨.owner place, some (before.owner? place)⟩) :: trace) := by
  refine ⟨fun you other owner hmem => ?_, fun you other owner hmem => ?_,
    fun later you other earlier htrace owner howner => ?_⟩
  · rcases List.mem_cons.mp hmem with heq | hmem
    · obtain ⟨rfl, howner⟩ := look_inj (Prod.mk.inj heq).2
      exact howner.symm
    · exact h.told you other owner hmem
  · rcases List.mem_cons.mp hmem with heq | hmem
    · cases (Prod.mk.inj heq).2
    · exact h.made you other owner hmem
  · refine split_cons htrace (fun heq => ?_) fun later' hlater htrace' => ?_
    · obtain ⟨rfl, hnone⟩ := look_inj (Prod.mk.inj heq).2
      simp [hnone] at howner
    · obtain ⟨who, named, hmem, hnamed⟩ := h.since later' you other earlier htrace' owner howner
      exact ⟨who, named, hlater ▸ List.mem_cons_of_mem _ hmem, hnamed⟩

/-- A reservation gives its place an owner and no other. -/
theorem reserve (h : Recorded before trace) {token : TokenId} {place : Place}
    (hr : before.reserve? token place = some after) :
    Recorded after ((me, ⟨.reserve token place, true⟩) :: trace) := by
  have hgrows := grows_of_reserve? hr
  refine ⟨fun you other owner hmem => ?_, fun you other owner hmem => ?_,
    fun later you other earlier htrace owner howner => ?_⟩
  · rcases List.mem_cons.mp hmem with heq | hmem
    · cases (Prod.mk.inj heq).2
    · exact hgrows other owner (h.told you other owner hmem)
  · rcases List.mem_cons.mp hmem with heq | hmem
    · cases (Prod.mk.inj heq).2
      exact owner?_of_reserve? hr
    · exact hgrows other owner (h.made you other owner hmem)
  · refine split_cons htrace (fun heq => ?_) fun later' hlater htrace' => ?_
    · cases (Prod.mk.inj heq).2
    subst hlater
    -- If the place had its owner before, the reservation that gave it one is further back.
    have before' : before.owner? other = some owner →
        ∃ who named, (who, ⟨.reserve owner named, true⟩) ∈
          (me, ⟨.reserve token place, true⟩) :: later' ∧ named.normal = other.normal := by
      intro hold
      obtain ⟨who, named, hmem, hnamed⟩ := h.since later' you other earlier htrace' owner hold
      exact ⟨who, named, List.mem_cons_of_mem _ hmem, hnamed⟩
    rcases reserve?_eq_some hr with ⟨-, rfl⟩ | ⟨-, rfl⟩
    · rw [owner?_assign] at howner
      by_cases hp : other.normal = place.normal
      · rw [if_pos hp] at howner
        obtain rfl := Option.some.inj howner
        exact ⟨me, place, List.mem_cons_self, hp.symm⟩
      · rw [if_neg hp] at howner
        exact before' howner
    · exact before' howner

/-- A reply that says nothing about reservations needs no place in the record. -/
theorem quiet (h : Recorded before trace)
    (hlook : ∀ place owner, e ≠ ⟨.owner place, some owner⟩)
    (hreserve : ∀ token place, e ≠ ⟨.reserve token place, true⟩) :
    Recorded before ((me, e) :: trace) := by
  refine ⟨fun you other owner hmem => ?_, fun you other owner hmem => ?_,
    fun later you other earlier htrace owner howner => ?_⟩
  · rcases List.mem_cons.mp hmem with heq | hmem
    · exact absurd (Prod.mk.inj heq).2.symm (hlook _ _)
    · exact h.told you other owner hmem
  · rcases List.mem_cons.mp hmem with heq | hmem
    · exact absurd (Prod.mk.inj heq).2.symm (hreserve _ _)
    · exact h.made you other owner hmem
  · refine split_cons htrace (fun heq => ?_) fun later' hlater htrace' => ?_
    · exact absurd (Prod.mk.inj heq).2 (hlook _ _)
    · obtain ⟨who, named, hmem, hnamed⟩ := h.since later' you other earlier htrace' owner howner
      exact ⟨who, named, hlater ▸ List.mem_cons_of_mem _ hmem, hnamed⟩

/-- Every effect on the store is recorded. -/
theorem step (h : Recorded before trace) (heffect : StoreEffect before e after) :
    Recorded after ((me, e) :: trace) := by
  cases heffect with
  | look place => exact h.look place
  | reserve hr => exact h.reserve hr
  | quiet hlook hreserve => exact h.quiet hlook hreserve

/-- Whoever a session knows as the owner of a place is its owner. -/
theorem owner?_of_knows [DecidableEq σ] (h : Recorded before trace) {place : Place}
    {owner : TokenId} (hknows : (standing me trace).Knows place owner) : before.owner? place = some owner := by
  rcases hknows with htold | hmade
  · exact h.told me place owner (mem_past_iff.mp htold)
  · exact h.made me place owner (mem_past_iff.mp hmade)

end Recorded

end

/-! ### Live tunnels -/

section

variable {σ : Type} [DecidableEq σ] {s : Settings} {shared : Shared σ} {trace : Trace σ} {me : σ}

/-- In every course the store is as the sessions were told. -/
theorem Course.recorded_run (settings : Settings) (store : Store) (rates : RateLimiter Float)
    (moves : List (Move σ)) :
    Recorded ((start store rates).run settings moves).system.shared.store
      ((start store rates).run settings moves).trace := by
  refine shared_invariant (P := fun shared trace => Recorded shared.store trace) (.start store) ?_
    moves
  intro shared trace me c call seat h _ _
  exact h.step (perform_storeEffect me c shared seat call)

/-- A live tunnel is at the comparable form of a place that its session is entitled to. -/
theorem Holdings.entitled (h : Holdings shared trace) (hproper : (standing me trace).Proper s)
    {place : Place} (hat : shared.at? place = some me) :
    ∃ due : Place, place = due.normal ∧ (standing me trace).Entitled s due := by
  rcases h.of_at? hat with ⟨id, shown, policy, rfl, hid, hl⟩ | ⟨port, rfl, hp⟩
  · exact ⟨.subdomain shown, (Registry.normal_of_normalId? hid).symm,
      (hproper.listing shown policy hl).1⟩
  · exact ⟨.port port, rfl, hproper.port port hp⟩

/-- Whoever has come to own a port which a session found to be spared reserved it since. -/
theorem Recorded.since_spared {store : Store} (h : Recorded store trace) {port : UInt16}
    (hspared : (standing me trace).Spared (.port port)) {token owner : TokenId}
    (htoken : (standing me trace).token = some token)
    (howner : store.owner? (.port port) = some owner) (hne : owner ≠ token) :
    ∃ who later earlier, trace = later ++ (me, ⟨.owner (.port port), some none⟩) :: earlier ∧
      (who, ⟨.reserve owner (.port port), true⟩) ∈ later := by
  obtain ⟨told, hmem, hown⟩ := hspared
  have hmem := mem_past_iff.mp hmem
  rcases hown with rfl | rfl
  · obtain ⟨later, earlier, htrace⟩ := List.append_of_mem hmem
    obtain ⟨who, named, hreserved, hnamed⟩ := h.since later me _ earlier htrace owner howner
    rcases named with name | number
    · simp [Place.normal] at hnamed
    · obtain rfl : number = port := by simpa [Place.normal] using hnamed
      exact ⟨who, later, earlier, htrace, hreserved⟩
  · rw [htoken] at hmem
    have htold := h.told me _ token hmem
    exact absurd (Option.some.inj (howner.symm.trans htold)) hne

/-- **Reservations of live tunnels.** Where places belong to tokens, a live tunnel at a place
that its request named is at a place of its own token. If its port was chosen for it, and is
another token's by now, then nobody had reserved it when the session looked it up, and somebody
reserved it for that token since. Nothing is said of random ids. -/
theorem reservations_are_respected (settings : Settings) (hs : settings.ownsPlaces = true)
    (store : Store) (rates : RateLimiter Float) (moves : List (Move σ)) :
    let w := (Course.start store rates).run settings moves
    ∀ me place token, w.system.shared.at? place = some me →
      (standing me w.trace).token = some token →
      ∃ request, (standing me w.trace).asked = some request ∧
        ((∃ named, namedPlace? settings request = some named ∧ place = named.normal ∧
            w.system.shared.store.owner? place = some token) ∨
          (namedPlace? settings request = none ∧ ∀ port, place = .port port → ∀ owner,
            w.system.shared.store.owner? place = some owner → owner ≠ token →
            ∃ who later earlier,
              w.trace = later ++ (me, ⟨.owner place, some none⟩) :: earlier ∧
              (who, ⟨.reserve owner place, true⟩) ∈ later)) := by
  intro w me place token hat htoken
  have hproper := (Course.orderly_run settings store rates moves).proper me
  have hrecorded : Recorded w.system.shared.store w.trace :=
    Course.recorded_run settings store rates moves
  obtain ⟨due, rfl, request, hasked, hentitled⟩ :=
    (Course.holdings_run settings store rates moves).entitled hproper hat
  refine ⟨request, hasked, ?_⟩
  rcases hnamed : namedPlace? settings request with _ | named
  · simp only [hnamed] at hentitled
    refine .inr ⟨rfl, fun port hport owner howner hne => ?_⟩
    rcases due with name | number
    · simp [Place.normal] at hport
    · exact hrecorded.since_spared (hentitled hs number rfl) htoken howner hne
  · simp only [hnamed] at hentitled
    obtain ⟨rfl, hown⟩ := hentitled
    obtain ⟨token', htoken', hknows⟩ := hown hs
    obtain rfl := Option.some.inj (htoken.symm.trans htoken')
    refine .inl ⟨due, rfl, rfl, ?_⟩
    rw [Store.owner?_normal]
    exact hrecorded.owner?_of_knows hknows

/-! ### Disputed places -/

/-- Whether no live tunnel is at a place that is reserved for another token than its own. -/
def Course.Undisputed (w : Course σ) : Prop :=
  ∀ me place token owner, w.system.shared.at? place = some me →
    (standing me w.trace).token = some token →
    w.system.shared.store.owner? place = some owner → owner = token

/-- Two tokens that the server can tell apart. -/
def twoTokens : Store := (({} : Store).addToken "a" 1).addToken "b" 2

/-- A session is given the port 1; another one asks for that port, cannot bind it, and has it
reserved for its token nevertheless. -/
def disputedPort : Course Bool :=
  let unnamed : Circumstances := { arrives := .request ⟨"tcp", "a", []⟩ }
  let named : Circumstances :=
    { arrives := .request ⟨"tcp", "b", [("remote_port", .number (.ofNat 1))]⟩ }
  (Course.start twoTokens {}).run smallServer
    ([.enter true, .enter false] ++ List.replicate 7 (.step true unnamed) ++
      List.replicate 7 (.step false named))

/-- A session is given a random id that is reserved for another token. -/
def disputedId : Course Unit :=
  let unnamed : Circumstances :=
    { arrives := .request ⟨"http", "a", []⟩, draws := ["abcdefgh"] }
  (Course.start (twoTokens.assign 2 (.subdomain "abcdefgh")) {}).run smallServer
    (.enter () :: List.replicate 7 (.step () unnamed))

/-- The one port that is disputed was reserved after it had been looked up. -/
theorem disputedPort_reserved_since :
    ∃ who later earlier,
      disputedPort.trace = later ++ (true, ⟨.owner (.port 1), some none⟩) :: earlier ∧
      (who, ⟨.reserve 2 (.port 1), true⟩) ∈ later := by
  have howner : disputedPort.system.shared.store.owner? (.port 1) = some 2 := rfl
  obtain ⟨request, -, ⟨named, -, -, hown⟩ | ⟨-, hsince⟩⟩ :=
    reservations_are_respected smallServer rfl twoTokens {} _ true (.port 1) 1
      (rfl : disputedPort.system.shared.at? (.port 1) = some true) rfl
  · exact absurd (howner.symm.trans hown) (by decide)
  · exact hsince 1 rfl 2 howner (by decide)

/-- Neither a port that the server chose nor a random id is safe from being another token's. -/
theorem not_undisputed : ¬ disputedPort.Undisputed ∧ ¬ disputedId.Undisputed := by
  constructor
  · intro h
    exact absurd (h true (.port 1) 1 2 rfl rfl rfl) (by decide)
  · intro h
    exact absurd (h () (.subdomain "abcdefgh") 1 2 rfl rfl rfl) (by decide)

end

end ReverseTunnel.Server
