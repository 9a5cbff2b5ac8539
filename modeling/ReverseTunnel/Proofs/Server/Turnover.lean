import ReverseTunnel.Proofs.Server.History
import ReverseTunnel.Proofs.Server.Payment
import ReverseTunnel.Proofs.Server.Reservation

/-!
# Tokens that come and go

The tokens of a store need not stay as they were when the server started: tokens are added and
revoked while sessions are on their way. A session looks its token up twice, and the store may
change in between. Who is let in by the first lookup and found to be nobody by the second is not
turned away; it is served as one that no limit applies to.

So a session is charged to whom the store knew its token as when it asked, and it is charged to
nobody only if its token was revoked between the two lookups.

## Main definitions

* `Change`, `Course.evolve`: what can happen where tokens come and go, and the course of it.
* `AllPositive`: every token of a store identifies somebody.

## Main results

* `Course.told_before`: where a reply came from, and what the session had been told before.
* `Course.revoke_mem`: a token that is no longer known was revoked.
* `charged_unless_revoked`: to whom a session is charged.
* `not_chargesSomebody`: a session whose token is revoked between the two lookups.
-/

namespace ReverseTunnel.Server

/-- What happens next where tokens come and go. -/
inductive Change (σ : Type) where
  /-- The server moves. -/
  | move (move : Move σ)
  /-- A token is made valid, with an identity. -/
  | grant (token : String) (id : TokenId)
  /-- A token is made invalid. -/
  | revoke (token : String)

/-- Every token of a store identifies somebody. -/
def AllPositive (store : Store) : Prop :=
  ∀ token id, store.tokens.get? token = some id → 0 < id

namespace AllPositive

variable {store : Store}

/-- If a token is added that identifies somebody, every token still does. -/
theorem addToken (h : AllPositive store) {token : String} {id : TokenId} (hid : 0 < id) :
    AllPositive (store.addToken token id) := by
  intro other found hfound
  rcases Table.of_get?_put hfound with ⟨-, rfl⟩ | ⟨-, hfound⟩
  · exact hid
  · exact h other found hfound

/-- If a token is revoked, every other one still identifies somebody. -/
theorem revokeToken (h : AllPositive store) (token : String) :
    AllPositive (store.revokeToken token) := by
  intro other found hfound
  exact h other found (Table.of_get?_erase hfound).2

end AllPositive

namespace Course

variable {σ : Type} [DecidableEq σ] {settings : Settings} {me : σ} {e : Event}
  {c : Circumstances} {w : Course σ} {shown : String}

omit [DecidableEq σ] in
/-- The course with another store. -/
def withStore (w : Course σ) (store : Store) : Course σ :=
  { w with system := { w.system with shared := { w.system.shared with store } } }

omit [DecidableEq σ] in
/-- Whom the store identifies by a token that is shown, at this point of the course. -/
def tokenId? (w : Course σ) (shown : String) : Option TokenId :=
  w.system.shared.store.tokenId? shown

/-- The course after one more change. -/
def change (settings : Settings) (w : Course σ) : Change σ → Course σ
  | .move move => w.next settings move
  | .grant token id => w.withStore (w.system.shared.store.addToken token id)
  | .revoke token => w.withStore (w.system.shared.store.revokeToken token)

/-- The course of some changes, one after another. -/
def evolve (settings : Settings) (w : Course σ) (changes : List (Change σ)) : Course σ :=
  changes.foldl (change settings) w

/-- Changes that follow others start from the course that those have led to. -/
theorem evolve_append (w : Course σ) (first second : List (Change σ)) :
    w.evolve settings (first ++ second) = (w.evolve settings first).evolve settings second :=
  List.foldl_append

/-- The last change is made in the course that the others have led to. -/
theorem evolve_concat (w : Course σ) (changes : List (Change σ)) (change : Change σ) :
    w.evolve settings (changes ++ [change]) =
      (w.evolve settings changes).change settings change := by
  rw [evolve_append]
  rfl

/-! ### Sessions -/

/-- To give and take tokens tells nobody anything. -/
theorem mem_trace_change {change : Change σ} (h : (me, e) ∈ (w.change settings change).trace) :
    (me, e) ∈ w.trace ∨ ∃ c, change = .move (.step me c) ∧ w.Occurs me c e := by
  cases change with
  | move move =>
      refine (mem_trace_next h).imp_right ?_
      rintro ⟨c, rfl, hoccurs⟩
      exact ⟨c, rfl, hoccurs⟩
  | grant token id => exact .inl h
  | revoke token => exact .inl h

/-- What was told is not forgotten. -/
theorem trace_subset_evolve (w : Course σ) (changes : List (Change σ)) :
    w.trace ⊆ (w.evolve settings changes).trace := by
  induction changes generalizing w with
  | nil => exact List.Subset.refl _
  | cons change changes ih =>
      refine List.Subset.trans ?_ (ih (w.change settings change))
      cases change with
      | move move => exact (w.precedes_next move).trace.subset
      | grant token id => exact List.Subset.refl _
      | revoke token => exact List.Subset.refl _

/-- Whatever becomes of tokens, every session keeps its conduct. -/
theorem follows_evolve {S : Type} {conduct : Conduct S} {first : S} {post : S → Unit → Prop}
    (hsession : (session settings).Obeys conduct post first) (store : Store)
    (rates : RateLimiter Float) (changes : List (Change σ)) :
    ((start store rates).evolve settings changes).Follows conduct first post := by
  refine List.foldlRecOn changes _ (follows_run hsession store rates []) fun w hw change _ => ?_
  cases change with
  | move move =>
      exact kept_next hw (fun _ hme => hw.enter hsession hme)
        (fun _ c _ _ _ hme => hw.reply hme c) move
  | grant token id => exact ⟨hw.obeys, hw.absent⟩
  | revoke token => exact ⟨hw.obeys, hw.absent⟩

/-- A call that is replied to was due. -/
theorem Occurs.due {S : Type} {conduct : Conduct S} {first : S} {post : S → Unit → Prop}
    (h : w.Occurs me c e) (hw : w.Follows conduct first post) :
    conduct.due (memory conduct.after first me w.trace) e.call := by
  obtain ⟨next, seat, hme, -⟩ := h
  exact (hw.obeys me _ hme).ask_inv.1

/-- What a session remembers for paying is all that it was told. -/
theorem memory_payment (s : Settings) (me : σ) (trace : Trace σ) :
    memory (payment s).after [] me trace = (standing me trace).past :=
  List.foldr_cons_nil

/-- Every reply was the reply to one step, and by the changes before it the session had been told
what made its call due. -/
theorem told_before {store : Store} {rates : RateLimiter Float} {changes : List (Change σ)}
    (h : (me, e) ∈ ((start store rates).evolve settings changes).trace) :
    ∃ earlier c later, changes = earlier ++ .move (.step me c) :: later ∧
      ((start store rates).evolve settings earlier).Occurs me c e ∧
      PaymentDue settings
        (standing me ((start store rates).evolve settings earlier).trace).past e.call := by
  induction changes using List.reverseRecOn with
  | nil => exact absurd h List.not_mem_nil
  | append_singleton changes change ih =>
      rw [evolve_concat] at h
      rcases mem_trace_change h with hmem | ⟨c, rfl, hoccurs⟩
      · obtain ⟨earlier, c, later, rfl, hbefore⟩ := ih hmem
        exact ⟨earlier, c, later ++ [change], by simp, hbefore⟩
      · have hdue := hoccurs.due (follows_evolve (session_pays settings) store rates changes)
        rw [memory_payment] at hdue
        exact ⟨changes, c, [], rfl, hoccurs, hdue⟩

/-! ### Tokens -/

/-- No move of the server makes a token valid or invalid. -/
theorem tokenId?_next (w : Course σ) (move : Move σ) (shown : String) :
    (w.next settings move).tokenId? shown = w.tokenId? shown :=
  congrArg (Table.get? · (Text.trim shown)) (w.precedes_next move).tokens

/-- Every token goes on identifying somebody, if every token that is added does. -/
theorem allPositive_evolve {changes : List (Change σ)} (hw : AllPositive w.system.shared.store)
    (hgrants : ∀ token id, .grant token id ∈ changes → 0 < id) :
    AllPositive (w.evolve settings changes).system.shared.store := by
  refine List.foldlRecOn (motive := fun w : Course σ => AllPositive w.system.shared.store)
    changes _ hw fun w hw change hmem => ?_
  cases change with
  | move move =>
      intro token id hid
      refine hw token id ?_
      have hkept : w.Precedes (w.next settings move) := w.precedes_next move
      rwa [← hkept.tokens]
  | grant token id => exact hw.addToken (hgrants token id hmem)
  | revoke token => exact hw.revokeToken token

/-- A token that was known and is no longer was revoked. -/
theorem revoke_mem {changes : List (Change σ)} (hbefore : w.tokenId? shown ≠ none)
    (hafter : (w.evolve settings changes).tokenId? shown = none) :
    .revoke (Text.trim shown) ∈ changes := by
  induction changes generalizing w with
  | nil => exact absurd hafter hbefore
  | cons change changes ih =>
      by_cases hnext : (w.change settings change).tokenId? shown = none
      · cases change with
        | move move => exact absurd ((w.tokenId?_next move shown).symm.trans hnext) hbefore
        | grant token id =>
            by_cases htoken : Text.trim shown = token
            · subst htoken
              exact absurd ((Table.get?_put_self _ _ _).symm.trans hnext) (Option.some_ne_none id)
            · exact absurd ((Table.get?_put_of_ne _ _ htoken).symm.trans hnext) hbefore
        | revoke token =>
            by_cases htoken : Text.trim shown = token
            · rw [htoken]
              exact List.mem_cons_self
            · exact absurd ((Table.get?_erase_of_ne _ htoken).symm.trans hnext) hbefore
      · exact List.mem_cons_of_mem change (ih hnext hafter)

/-! ### Lookups -/

/-- A token that was found to be valid identifies somebody then. -/
theorem Occurs.valid (h : w.Occurs me c ⟨.validate shown, some true⟩)
    (hpositive : AllPositive w.system.shared.store) :
    ∃ id, 0 < id ∧ w.tokenId? shown = some id := by
  obtain ⟨next, seat, -, hreply⟩ := h
  have hvalid : w.system.shared.store.valid shown = true := by
    simp only [perform] at hreply
    split at hreply
    · exact (Option.some.inj hreply).symm
    · cases hreply
  obtain ⟨id, hid⟩ := Option.isSome_iff_exists.mp hvalid
  exact ⟨id, hpositive _ id hid, hid⟩

/-- What is found of a token is whom the store identifies by it then. -/
theorem Occurs.found {found : Option TokenId} (h : w.Occurs me c ⟨.identify shown, some found⟩) :
    found = w.tokenId? shown := by
  obtain ⟨next, seat, -, hreply⟩ := h
  simp only [perform] at hreply
  split at hreply
  · exact Option.some.inj hreply
  · cases hreply

/-! ### What an admission goes back to -/

section

variable {store : Store} {rates : RateLimiter Float} {changes : List (Change σ)}

/-- What a session was told at some point it was told at every later one. -/
theorem past_subset_evolve (settings : Settings) (w : Course σ) (part rest : List (Change σ))
    (me : σ) :
    (standing me (w.evolve settings part).trace).past ⊆
      (standing me (w.evolve settings (part ++ rest)).trace).past := by
  intro e he
  rw [evolve_append]
  exact mem_past_iff.mpr (trace_subset_evolve _ rest (mem_past_iff.mp he))

/-- A request is spent under the key under which the slot was taken, and that is whom the token of
the request identifies. -/
theorem paid_as_identified {key : TokenId} {limit : Int}
    (h : (me, ⟨.create key limit, true⟩) ∈ ((start store rates).evolve settings changes).trace) :
    let told := (standing me ((start store rates).evolve settings changes).trace).past
    limit = settings.maxCreations ∧ ⟨.acquire key settings.maxTunnels, true⟩ ∈ told ∧
      ∃ raw token, ⟨.receive, .request raw⟩ ∈ told ∧ Identified settings raw told token ∧
        key = token.getD 0 := by
  intro told
  obtain ⟨part, c, rest, rfl, -, hlimit, hslot⟩ := told_before h
  have hpart := past_subset_evolve settings (start store rates) part
    (.move (.step me c) :: rest) me
  obtain ⟨part', c', rest', rfl, -, -, raw, token, hreceived, htoken, hkey⟩ :=
    told_before (mem_past_iff.mp hslot)
  have hpart' := List.Subset.trans (past_subset_evolve settings (start store rates) part'
    (.move (.step me c') :: rest') me) hpart
  exact ⟨hlimit, hpart hslot, raw, token, hpart' hreceived, htoken.mono hpart', hkey⟩

/-- Whoever asks whom a token identifies was told before that it is valid. -/
theorem identified_as_valid (hvalidates : settings.validates = true) {found : Option TokenId}
    (h : (me, ⟨.identify shown, some found⟩) ∈
      ((start store rates).evolve settings changes).trace) :
    ∃ earlier c between c' later,
      changes = earlier ++ .move (.step me c) :: (between ++ .move (.step me c') :: later) ∧
      ((start store rates).evolve settings earlier).Occurs me c ⟨.validate shown, some true⟩ ∧
      ((start store rates).evolve settings (earlier ++ .move (.step me c) :: between)).Occurs me c'
        ⟨.identify shown, some found⟩ := by
  obtain ⟨part, c', later, rfl, hidentified, hvalid⟩ := told_before h
  obtain ⟨earlier, c, between, rfl, hvalidated, -⟩ :=
    told_before (mem_past_iff.mp (hvalid hvalidates))
  exact ⟨earlier, c, between, c', later, by simp, hvalidated, hidentified⟩

end

end Course

/-! ### To whom a session is charged -/

section

variable {σ : Type} [DecidableEq σ]

/-- **A session is charged to whom its token identified when it asked.** Where tokens are looked up
and identify somebody, they may be added and revoked at any time. A session that is admitted has
asked twice about the token of its request. The first time the token identified somebody. The
session took its slot and spent its request under one and the same identity: the one that the token
had the second time or, if it had none then, nobody's. In the latter case that very token was
revoked between the two times. -/
theorem charged_unless_revoked (settings : Settings) (hvalidates : settings.validates = true)
    (hidentifies : settings.identifies = true) (store : Store) (hstore : AllPositive store)
    (rates : RateLimiter Float) (changes : List (Change σ))
    (hgrants : ∀ token id, .grant token id ∈ changes → 0 < id) (me : σ) (key : TokenId)
    (limit : Int) (hadmitted : (me, ⟨.create key limit, true⟩) ∈
      ((Course.start store rates).evolve settings changes).trace) :
    let trace := ((Course.start store rates).evolve settings changes).trace
    limit = settings.maxCreations ∧ (me, ⟨.acquire key settings.maxTunnels, true⟩) ∈ trace ∧
    ∃ raw earlier c between c' later, (me, ⟨.receive, .request raw⟩) ∈ trace ∧
      changes = earlier ++ .move (.step me c) :: (between ++ .move (.step me c') :: later) ∧
      let first := (Course.start store rates).evolve settings earlier
      let second := (Course.start store rates).evolve settings
        (earlier ++ .move (.step me c) :: between)
      first.Occurs me c ⟨.validate raw.authtoken, some true⟩ ∧
      (∃ id, 0 < id ∧ first.tokenId? raw.authtoken = some id) ∧
      second.Occurs me c' ⟨.identify raw.authtoken, some (second.tokenId? raw.authtoken)⟩ ∧
      (second.tokenId? raw.authtoken = some key ∧ 0 < key ∨
        second.tokenId? raw.authtoken = none ∧ key = 0 ∧
          .revoke (Text.trim raw.authtoken) ∈ between) := by
  intro trace
  have hpositive (part rest : List (Change σ)) (hsplit : changes = part ++ rest) :
      AllPositive ((Course.start store rates).evolve settings part).system.shared.store :=
    Course.allPositive_evolve hstore fun token id hmem =>
      hgrants token id (hsplit ▸ List.mem_append_left rest hmem)
  obtain ⟨hlimit, hslot, raw, token, hreceived, htoken, hkey⟩ :=
    Course.paid_as_identified hadmitted
  obtain ⟨found, hfound, rfl⟩ : ∃ found : Option TokenId,
      (me, ⟨.identify raw.authtoken, some found⟩) ∈ trace ∧
        token = found.filter fun id => 0 < id := by
    cases htoken with
    | told _ h => exact ⟨_, mem_past_iff.mp h, rfl⟩
    | unasked h => exact absurd (hidentifies.symm.trans h) Bool.true_eq_false.mp
  obtain ⟨earlier, c, between, c', later, hsplit, hvalidated, hidentified⟩ :=
    Course.identified_as_valid hvalidates hfound
  obtain ⟨id, hid, hknown⟩ := hvalidated.valid (hpositive _ _ hsplit)
  obtain rfl := hidentified.found
  refine ⟨hlimit, mem_past_iff.mp hslot, raw, earlier, c, between, c', later,
    mem_past_iff.mp hreceived, hsplit, hvalidated, ⟨id, hid, hknown⟩, hidentified, ?_⟩
  -- The token identified somebody the first time, so if it identifies nobody the second time it was
  -- revoked in between; and whoever it identifies then has a positive number.
  rcases hsecond : ((Course.start store rates).evolve settings
    (earlier ++ .move (.step me c) :: between)).tokenId? raw.authtoken with _ | now
  · rw [hsecond] at hkey
    have hgone : ((((Course.start store rates).evolve settings earlier).next settings
        (.step me c)).evolve settings between).tokenId? raw.authtoken = none := by
      rwa [Course.evolve_append] at hsecond
    refine .inr ⟨rfl, hkey, Course.revoke_mem ?_ hgone⟩
    rw [Course.tokenId?_next, hknown]
    exact Option.some_ne_none id
  · have hnow : 0 < now := by
      refine hpositive (earlier ++ .move (.step me c) :: between)
        (.move (.step me c') :: later) ?_ _ now hsecond
      rw [hsplit, List.append_assoc, List.cons_append]
    rw [hsecond, Option.filter_some, if_pos (decide_eq_true hnow), Option.getD_some] at hkey
    exact .inl ⟨congrArg some hkey.symm, hkey ▸ hnow⟩

end

/-! ### A token that is revoked too late -/

/-- A server that looks tokens up, and lets each have one tunnel at once and some in a minute. -/
def strictServer (maxCreations : Int) : Settings :=
  { tunnelDomain := "t", maxTunnels := 1, maxCreations, ports := ⟨1, 2⟩, validates := true,
    identifies := true }

/-- A client that shows the token `a` and asks for a name. -/
def showsToken : Circumstances := { arrives := .request ⟨"http", " a ", []⟩ }

/-- The client is told that its token is valid, and before it goes on some token is revoked. -/
def interrupted (revoked : String) : List (Change Unit) :=
  .move (.enter ()) :: List.replicate 3 (.move (.step () showsToken)) ++
    .revoke revoked :: List.replicate 3 (.move (.step () showsToken))

/-- Both tokens of the example identify somebody. -/
theorem allPositive_twoTokens : AllPositive twoTokens := by
  have hempty : AllPositive {} := fun token id h => by cases h
  exact (hempty.addToken (by decide)).addToken (by decide)

/-- No token is granted on the way. -/
theorem grant_not_mem_interrupted {revoked token : String} {id : TokenId} :
    .grant token id ∉ interrupted revoked := by
  simp [interrupted]

/-- Where the token of somebody else is revoked, the client is charged to whom its own token
identifies. -/
theorem interrupted_charged :
    AllPositive twoTokens ∧ (∀ token id, .grant token id ∈ interrupted "b" → 0 < id) ∧
    ((), ⟨.create 1 0, true⟩) ∈
      ((Course.start twoTokens {}).evolve (strictServer 0) (interrupted "b")).trace ∧
    ((), ⟨.acquire 1 1, true⟩) ∈
      ((Course.start twoTokens {}).evolve (strictServer 0) (interrupted "b")).trace := by
  have hgrants : ∀ token id, .grant token id ∈ interrupted "b" → 0 < id := fun _ _ h =>
    absurd h grant_not_mem_interrupted
  have hadmitted : ((), ⟨.create 1 0, true⟩) ∈
      ((Course.start twoTokens {}).evolve (strictServer 0) (interrupted "b")).trace :=
    List.mem_cons_self
  have hcharged := charged_unless_revoked (strictServer 0) rfl rfl twoTokens allPositive_twoTokens
    {} (interrupted "b") hgrants () 1 0 hadmitted
  exact ⟨allPositive_twoTokens, hgrants, hadmitted, hcharged.2.1⟩

/-- Whether every client that is admitted is charged to somebody, however tokens come and go. -/
def Settings.ChargesSomebody (s : Settings) : Prop :=
  ∀ (store : Store) (rates : RateLimiter Float) (changes : List (Change Unit)),
    AllPositive store → (∀ token id, .grant token id ∈ changes → 0 < id) →
    ∀ key limit, ((), ⟨.create key limit, true⟩) ∈
      ((Course.start store rates).evolve s changes).trace → 0 < key

/-- A client whose own token is revoked is admitted as nobody, where a token may open one tunnel in
a minute. -/
theorem not_chargesSomebody : ¬ (strictServer 1).ChargesSomebody := by
  intro h
  have hadmitted : ((), ⟨.create 0 1, true⟩) ∈
      ((Course.start twoTokens {}).evolve (strictServer 1) (interrupted "a")).trace :=
    List.mem_cons_self
  have hsomebody := h twoTokens {} (interrupted "a") allPositive_twoTokens
    (fun _ _ hgrant => absurd hgrant grant_not_mem_interrupted) 0 1 hadmitted
  exact absurd hsomebody (by decide)

end ReverseTunnel.Server
