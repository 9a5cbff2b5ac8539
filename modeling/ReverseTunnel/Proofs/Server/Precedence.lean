import ReverseTunnel.Proofs.Control.Receive
import ReverseTunnel.Proofs.Server.Candor
import ReverseTunnel.Proofs.Server.Slots
import ReverseTunnel.Proofs.Server.World

/-!
# What is looked at first, and what it costs

A request can be wrong in more ways than one, and it may cost its token something before it is
turned down. So it matters what is looked at first. Here the things that are looked at stand in a
list (`Check.order`), each with what it finds wrong by itself (`World.fault`), and a session is
followed to its end in any world. It is told of the first fault in the list, and it has paid for
what was looked at before.

## Main results

* `screened`: how far a request comes before it is served, and what it leaves behind.
* `said_play_serve`: what a request is told that is served.
* `first_fault_is_answered`: the first fault decides over the answer, and over what it costs.
-/

namespace ReverseTunnel.Server

/-! ### Checks -/

/-- What a request is looked at for. -/
inductive Check where
  /-- Whether it is a message at all. -/
  | message
  /-- Whether its token is accepted. -/
  | authentication
  /-- Whether it can be said whom the token identifies. -/
  | identity
  /-- Whether its fields are those of its kind. -/
  | payload
  /-- Whether the token may have one more tunnel. -/
  | slots
  /-- Whether the token may make one more request now. -/
  | rate
  /-- Whether its kind is known. -/
  | kind
  /-- Whether it can have what it asks for. -/
  | allocation
  deriving DecidableEq, Repr

/-- What is looked at, in this order. -/
def Check.order : List Check :=
  [.message, .authentication, .identity, .payload, .slots, .rate, .kind, .allocation]

/-- The reason why something came to nothing, if it did. -/
def failure? {α : Type} : Except Rejection α → Option Rejection
  | .ok _ => none
  | .error r => some r

/-- Makes what a request asks for its own: a port, or a name that is registered. -/
def allocate (s : Settings) (token : Option TokenId) : TunnelRequest → Trial Answer
  | .tcp request => do
    let port ← choosePort s token request.remotePort
    pure (.grantedPort port)
  | .http request => do
    let (id, policy) ← prepare s token request
    unless ← ask (.register id policy) do throw (.plain .registrationFailed)
    pure (.grantedName id (s.publicUrl id))

namespace World

variable {σ T R : Type} (w : World σ T R)

/-! ### Each check by itself -/

/-- What is wrong with a token that is shown, and the services after they were asked. -/
def vet (shown : String) (tokens : T) : Option Rejection × T :=
  if w.settings.validates then
    let done := w.services.validate shown tokens
    (match done.1 with
      | some true => none
      | some false => some (.plain .unauthorized)
      | none => some (.plain .authError), done.2)
  else
    (w.settings.authToken.bind fun expected =>
      if expected = "" ∨ Text.trim shown = expected then none else some (.plain .unauthorized),
      tokens)

/-- Whom a token identifies, unless this cannot be said, and the services after they were asked.
Only positive numbers identify. -/
def identity (shown : String) (tokens : T) : Option (Option TokenId) × T :=
  if w.settings.identifies then
    let done := w.services.identify shown tokens
    (done.1.map fun id => id.filter fun n => 0 < n, done.2)
  else (some none, tokens)

variable (now : Scene σ T R) (raw : RawRequest)

/-- Whom the token of a request identifies, asked after it was validated. -/
def identified : Option (Option TokenId) × T :=
  w.identity raw.authtoken (w.vet raw.authtoken now.tokens).2

/-- The scene after the services were asked about the token of a request. -/
def known : Scene σ T R := { now with tokens := (w.identified now raw).2 }

/-- The token that a request is counted for, or 0. -/
def counted : TokenId := (w.identified now raw).1.join.getD 0

/-- Whether one more request may be made now, and the rates after it was asked for. -/
def spent : Bool × RateLimiter Float :=
  now.shared.rates.allow (w.circumstances (.create (w.counted now raw) w.settings.maxCreations)).now
    (w.counted now raw) w.settings.maxCreations

/-- The scene in which a request is served. What it asks for is looked at in this scene even if
there is no slot for it. -/
def admitted : Scene σ T R :=
  let taken := (now.shared.limiter.acquire? (w.counted now raw) w.settings.maxTunnels).getD
    (.free, now.shared.limiter)
  (w.known now raw).charged taken.1 taken.2 (w.spent now raw).2

/-- What comes of the allocation, if the request is one for a tunnel. -/
def allocated? : Option (Except Rejection Answer) :=
  raw.decode.toOption.map fun request =>
    ((allocate w.settings (w.identified now raw).1.join request).run.play w.reply
      (w.admitted now raw)).1

/-- What a check finds wrong, whatever the others find. Without a message there is nothing else to
look at. -/
def fault : Option RawRequest → Check → Option Rejection
  | none, .message => some (.plain .protocol)
  | none, _ => none
  | some _, .message => none
  | some raw, .authentication => (w.vet raw.authtoken now.tokens).1
  | some raw, .identity =>
    if (w.identified now raw).1 = none then some (.plain .authError) else none
  | some raw, .payload => raw.kind?.bind fun _ => failure? raw.decode
  | some raw, .slots =>
    if 0 < w.counted now raw ∧ 0 < w.settings.maxTunnels ∧
        w.settings.maxTunnels ≤ now.shared.limiter.count (w.counted now raw) then
      some (.plain .tooManyTunnels)
    else none
  | some raw, .rate => if (w.spent now raw).1 then none else some (.plain .rateLimited)
  | some raw, .kind => if raw.kind? = none then some (.plain .unsupportedType) else none
  | some raw, .allocation => (w.allocated? now raw).bind failure?

/-- The first check that finds something wrong, and what it finds. -/
def firstFault (first : Option RawRequest) : Option (Check × Rejection) :=
  Check.order.findSome? fun check => (w.fault now first check).map fun r => (check, r)

/-! ### How a session ends -/

/-- What a request has cost when the session ends in which a check turned it down. -/
def Costs (first : Option RawRequest) (later : Scene σ T R) : Check → Prop
  -- Up to the limits it costs nothing, whichever services were asked.
  | .message | .authentication | .identity | .payload | .slots =>
    later.shared = now.shared ∧ later.places = now.places
  -- It is a request like any other for the rates, and the slot that it had is free again.
  | .rate | .kind =>
    (∀ raw, first = some raw → later.shared.rates = (w.spent now raw).2) ∧
      (∀ token, later.shared.limiter.count token = now.shared.limiter.count token) ∧
      later.shared.registry = now.shared.registry ∧
      later.shared.listeners = now.shared.listeners ∧
      later.shared.store = now.shared.store ∧ later.places = now.places
  | .allocation => True

/-- How a session ends that received a message, by what is wrong with the message. -/
structure Orderly (first : Option RawRequest) (later : Scene σ T R) : Prop where
  /-- It is told of the first fault, at the cost of the checks before. -/
  refused : ∀ {check r}, w.firstFault now first = some (check, r) →
    later.said = now.said ++ [.rejected (first.bind RawRequest.kind?) r] ∧
      w.Costs now first later check
  /-- It gets what it asks for if there is none. -/
  granted : w.firstFault now first = none →
    ∃ answer, first.bind (w.allocated? now) = some (.ok answer) ∧ later.said = now.said ++ [answer]
  /-- The answer is in the words of the kind that the request names. -/
  words : ∃ answer, later.said = now.said ++ [answer] ∧
    (answer.schema = .http ↔ first.bind RawRequest.kind? = some .http)

end World

/-! ### Following a session -/

section

variable {σ T R : Type} (w : World σ T R) (now : Scene σ T R) (raw : RawRequest)

/-- A token passes the first check exactly if nothing is found wrong with it, and the services are
asked once at most. -/
theorem play_authenticate (shown : String) :
    (authenticate w.settings shown).run.play w.reply now =
      ((w.vet shown now.tokens).1.elim (.ok ()) .error,
        { now with tokens := (w.vet shown now.tokens).2 }) := by
  rw [authenticate, World.vet]
  rcases w.settings.validates with _ | _
  · rcases w.settings.authToken with _ | expected
    · rfl
    · have haccepted : (expected.isEmpty || Text.trim shown == expected) = true ↔
          expected = "" ∨ Text.trim shown = expected := by
        simp
      rw [if_neg (by simp), if_neg (by simp), Option.bind_some]
      dsimp only
      by_cases h : expected = "" ∨ Text.trim shown = expected
      · rw [if_pos h, if_pos (haccepted.mpr h)]
        rfl
      · rw [if_neg h, if_neg (mt haccepted.mp h)]
        rfl
  · rcases hdone : w.services.validate shown now.tokens with ⟨told, tokens⟩
    have hreply : w.reply (.validate shown) now = (told, { now with tokens }) := by
      simp only [World.reply, hdone]
    refine (play_run_ask_bind hreply).trans ?_
    rcases told with _ | _ | _
    · rfl
    · rfl
    · rfl

/-- Whom a token identifies is asked once at most, and the session goes on unless this cannot be
said. -/
theorem play_identify (shown : String) :
    (identify w.settings shown).run.play w.reply now =
      ((w.identity shown now.tokens).1.elim (.error (.plain .authError)) .ok,
        { now with tokens := (w.identity shown now.tokens).2 }) := by
  rw [identify, World.identity]
  rcases w.settings.identifies with _ | _
  · rfl
  · rcases hdone : w.services.identify shown now.tokens with ⟨told, tokens⟩
    have hreply : w.reply (.identify shown) now = (told, { now with tokens }) := by
      simp only [World.reply, hdone]
    refine (play_run_ask_bind hreply).trans ?_
    rcases told with _ | id
    · rfl
    · rfl

section

variable {w} {token : Option TokenId} {counted : TokenId}

/-- Where as many tunnels are out as may be, nothing is charged. -/
theorem play_charge_of_full (hcounted : token.getD 0 = counted)
    (hslot : now.shared.limiter.acquire? counted w.settings.maxTunnels = none) :
    (charge w.settings token).run.play w.reply now =
      (.error (.plain .tooManyTunnels), now) := by
  have hreply : w.reply (.acquire counted w.settings.maxTunnels) now = (false, now) := by
    simp only [World.reply, perform, hslot]
  rw [charge, hcounted]
  exact (play_run_ask_bind hreply).trans rfl

/-- Where there is a slot, a request is spent; the slot is kept if it was not too soon. -/
theorem play_charge {slot : Slot} {limiter : Limiter} {spent : Bool × RateLimiter Float}
    (hcounted : token.getD 0 = counted)
    (hslot : now.shared.limiter.acquire? counted w.settings.maxTunnels = some (slot, limiter))
    (hspent : now.shared.rates.allow
      (w.circumstances (.create counted w.settings.maxCreations)).now counted
      w.settings.maxCreations = spent) :
    (charge w.settings token).run.play w.reply now =
      if spent.1 then (.ok (), now.charged slot limiter spent.2)
      else (.error (.plain .rateLimited),
        now.charged (limiter.release slot).1 (limiter.release slot).2 spent.2) := by
  have htaken : w.reply (.acquire counted w.settings.maxTunnels) now =
      (true, now.charged slot limiter now.shared.rates) := by
    simp only [World.reply, perform, hslot, Scene.charged]
  have hcreated : w.reply (.create counted w.settings.maxCreations)
      (now.charged slot limiter now.shared.rates) =
        (spent.1, now.charged slot limiter spent.2) := by
    simp only [World.reply, perform, Scene.charged, hspent]
  rw [charge, hcounted]
  refine (play_run_ask_bind htaken).trans ((play_run_ask_bind hcreated).trans ?_)
  rcases spent with ⟨_ | _, rates⟩
  · rfl
  · rfl

end

/-- How the screening of a request ends. -/
inductive World.Screened : Except Rejection Admission × Scene σ T R → Prop
  /-- It is turned down before anything was charged. -/
  | declined {check : Check} {r : Rejection} {tokens : T}
      (hfault : w.firstFault now (some raw) = some (check, r))
      (hcosts : ∀ later, later.shared = now.shared → later.places = now.places →
        w.Costs now (some raw) later check) :
      Screened (.error r, { now with tokens })
  /-- It comes too soon, and gives its slot back. -/
  | slowed {slot : Slot} {limiter : Limiter}
      (hfault : w.firstFault now (some raw) = some (.rate, .plain .rateLimited))
      (hslot : now.shared.limiter.acquire? (w.counted now raw) w.settings.maxTunnels =
        some (slot, limiter)) :
      Screened (.error (.plain .rateLimited),
        (w.known now raw).charged (limiter.release slot).1 (limiter.release slot).2
          (w.spent now raw).2)
  /-- It is admitted. -/
  | admitted {token : Option TokenId} {slot : Slot} {limiter : Limiter}
      (hfault : w.firstFault now (some raw) = [.kind, .allocation].findSome? fun check =>
        (w.fault now (some raw) check).map fun r => (check, r))
      (hpayload : w.fault now (some raw) .payload = none)
      (htoken : (w.identified now raw).1 = some token)
      (hslot : now.shared.limiter.acquire? (w.counted now raw) w.settings.maxTunnels =
        some (slot, limiter)) :
      Screened (.ok ⟨token, raw.decode.toOption⟩,
        (w.known now raw).charged slot limiter (w.spent now raw).2)

variable {w now} in
/-- What is found by a check is the first fault if the checks before it find nothing. -/
theorem firstFault_of_passed {first : Option RawRequest} {check : Check} {r : Rejection}
    (before after : List Check) (horder : Check.order = before ++ check :: after)
    (hpassed : ∀ passed ∈ before, w.fault now first passed = none)
    (hfault : w.fault now first check = some r) : w.firstFault now first = some (check, r) := by
  have hnone : before.findSome? (fun check =>
      (w.fault now first check).map fun r => (check, r)) = none :=
    List.findSome?_eq_none_iff.mpr fun passed hmem => by rw [hpassed passed hmem, Option.map_none]
  rw [World.firstFault, horder, List.findSome?_append, hnone, Option.none_or,
    List.findSome?_cons, hfault, Option.map_some]

variable {w now raw} in

/-- There is nothing wrong about the identity of a token if it can be said whom it identifies. -/
theorem fault_identity {token : Option TokenId} (h : (w.identified now raw).1 = some token) :
    w.fault now (some raw) .identity = none :=
  if_neg (h ▸ Option.some_ne_none token)

variable {w now raw} in
/-- What is looked at once the fields of a request are known: the limits. -/
theorem screened_charge {token : Option TokenId}
    (hvetted : w.fault now (some raw) .authentication = none)
    (hidentified : (w.identified now raw).1 = some token)
    (hpayload : w.fault now (some raw) .payload = none) :
    w.Screened now raw
      ((charge w.settings token >>= fun _ => pure ⟨token, raw.decode.toOption⟩ :
        Trial Admission).run.play w.reply (w.known now raw)) := by
  have hcounted : token.getD 0 = w.counted now raw := by
    simp [World.counted, hidentified]
  have hidentity := fault_identity hidentified
  have hfirst : w.firstFault now (some raw) =
      [.slots, .rate, .kind, .allocation].findSome? fun check =>
        (w.fault now (some raw) check).map fun r => (check, r) := by
    have hmessage : w.fault now (some raw) .message = none := rfl
    simp only [World.firstFault, Check.order, List.findSome?_cons, hmessage, hvetted, hidentity,
      hpayload, Option.map_none]
  rw [play_run_bind]
  rcases hslot : now.shared.limiter.acquire? (w.counted now raw) w.settings.maxTunnels with
    _ | ⟨slot, limiter⟩
  · rw [play_charge_of_full (w.known now raw) hcounted hslot]
    have hslots : w.fault now (some raw) .slots = some (.plain .tooManyTunnels) :=
      if_pos (Limiter.acquire?_eq_none_iff.mp hslot)
    have hfault : w.firstFault now (some raw) = some (.slots, .plain .tooManyTunnels) := by
      simp only [hfirst, List.findSome?_cons, hslots, Option.map_some]
    exact .declined hfault fun _ hshared hplaces => ⟨hshared, hplaces⟩
  · have hroom : now.shared.limiter.acquire? (w.counted now raw) w.settings.maxTunnels ≠ none :=
      hslot ▸ Option.some_ne_none _
    have hslots : w.fault now (some raw) .slots = none :=
      if_neg (mt Limiter.acquire?_eq_none_iff.mpr hroom)
    have hspent : now.shared.rates.allow _ _ _ = w.spent now raw := rfl
    rw [play_charge (w.known now raw) hcounted hslot hspent]
    rcases hallowed : (w.spent now raw).1 with _ | _
    · have hrate : w.fault now (some raw) .rate = some (.plain .rateLimited) := by
        simp [World.fault, hallowed]
      refine .slowed ?_ hslot
      simp only [hfirst, List.findSome?_cons, hslots, hrate, Option.map_none, Option.map_some]
    · have hrate : w.fault now (some raw) .rate = none := by
        simp [World.fault, hallowed]
      refine .admitted ?_ hpayload hidentified hslot
      simp only [hfirst, List.findSome?_cons, hslots, hrate, Option.map_none]

/-- Whatever request is screened, it ends in one of these ways. -/
theorem screened : w.Screened now raw ((screen w.settings raw).run.play w.reply now) := by
  have hmessage : w.fault now (some raw) .message = none := rfl
  rw [screen, play_run_bind, play_authenticate]
  rcases hvetted : (w.vet raw.authtoken now.tokens).1 with _ | r
  case some =>
    have hrejected : w.fault now (some raw) .authentication = some r := hvetted
    have hfault : w.firstFault now (some raw) = some (.authentication, r) :=
      firstFault_of_passed [.message] _ rfl (by simp [hmessage]) hrejected
    exact .declined hfault fun _ hshared hplaces => ⟨hshared, hplaces⟩
  have haccepted : w.fault now (some raw) .authentication = none := hvetted
  simp only [Option.elim_none]
  rw [play_run_bind, play_identify, ← World.identified.eq_def]
  rcases hidentified : (w.identified now raw).1 with _ | token
  case none =>
    have hnobody : w.fault now (some raw) .identity = some (.plain .authError) :=
      if_pos hidentified
    have hfault : w.firstFault now (some raw) = some (.identity, .plain .authError) :=
      firstFault_of_passed [.message, .authentication] _ rfl (by simp [hmessage, haccepted]) hnobody
    exact .declined hfault fun _ hshared hplaces => ⟨hshared, hplaces⟩
  have hidentity := fault_identity hidentified
  simp only [Option.elim_some]
  -- The fields are looked at only where the kind is known; all else goes on to the limits at once.
  rcases hkind : raw.kind? with _ | kind
  · have hpayload : w.fault now (some raw) .payload = none := by
      rw [World.fault, hkind, Option.bind_none]
    have hcharged := screened_charge haccepted hidentified hpayload
    rw [decode_of_kind?_eq_none hkind] at hcharged
    exact hcharged
  · have hpayload : w.fault now (some raw) .payload = failure? raw.decode := by
      rw [World.fault, hkind, Option.bind_some]
    rcases hdecode : raw.decode with r | request
    · rw [hdecode, failure?] at hpayload
      have hfault : w.firstFault now (some raw) = some (.payload, r) :=
        firstFault_of_passed [.message, .authentication, .identity] _ rfl
          (by simp [hmessage, haccepted, hidentity]) hpayload
      exact .declined hfault fun _ hshared hplaces => ⟨hshared, hplaces⟩
    · rw [hdecode, failure?] at hpayload
      have hcharged := screened_charge haccepted hidentified hpayload
      rw [hdecode] at hcharged
      exact hcharged

end

/-! ### Requests that are served -/

/-- What a request is told, given what came of it. -/
def Answer.ofResult (kind : TunnelKind) : Except Rejection Answer → Answer
  | .ok answer => answer
  | .error r => .rejected (some kind) r

section

variable {σ T R : Type} {w : World σ T R} {now : Scene σ T R} {raw : RawRequest}

/-- Only an answer that is sent adds to what was said. -/
theorem Dialogue.said_note (d : Dialogue) {call : Call} (reply : call.Reply)
    (h : ∀ answer, call ≠ .send answer) : (d.note call reply).said = d.said := by
  cases call with
  | send answer => exact absurd rfl (h answer)
  | receive => rcases reply with raw | _ | _ <;> rfl
  | reserve token place => rcases reply with _ | _ <;> rfl
  | _ => rfl

/-- A candid plan that has said nothing at its end has said nothing on the way. -/
theorem said_play_of_candid {α : Type} {p : Plan α} {post : Dialogue → α → Prop} {d : Dialogue}
    (h : p.Obeys (candor w.settings) post d) (hsaid : d.said = [])
    (hpost : ∀ d' a, post d' a → d'.said = []) : (p.play w.reply now).2.said = now.said := by
  have hreply : ∀ (d : Dialogue) (later : Scene σ T R) (call : Call),
      later.said = now.said ++ d.said.reverse → (w.reply call later).2.said =
        now.said ++ (d.after ⟨call, (w.reply call later).1⟩).said.reverse := by
    intro d later call hlater
    by_cases hsend : ∃ answer, call = .send answer
    · obtain ⟨answer, rfl⟩ := hsend
      change later.said ++ [answer] = now.said ++ (answer :: d.said).reverse
      rw [hlater, List.reverse_cons, List.append_assoc]
    · have hnot : ∀ answer, call ≠ .send answer := not_exists.mp hsend
      rw [World.said_reply hnot, hlater]
      exact congrArg _ (congrArg _ (d.said_note _ hnot).symm)
  have hnow : now.said = now.said ++ d.said.reverse := by
    rw [hsaid, List.reverse_nil, List.append_nil]
  obtain ⟨d', hend, hlater⟩ := h.play (P := fun d (later : Scene σ T R) =>
    later.said = now.said ++ d.said.reverse) hnow hreply
  rw [hlater, hpost d' _ hend, List.reverse_nil, List.append_nil]

/-- Whom a token was found to identify is whom it identifies by what the session was told. -/
theorem World.exists_told {token : Option TokenId} (h : (w.identified now raw).1 = some token) :
    ∃ told, Identified w.settings raw told token := by
  rw [World.identified, World.identity] at h
  rcases hasks : w.settings.identifies with _ | _
  · obtain rfl : none = token := by simpa [hasks] using h
    exact ⟨[], .unasked hasks⟩
  · simp only [hasks, if_true, Option.map_eq_some_iff] at h
    obtain ⟨id, -, rfl⟩ := h
    exact ⟨[⟨.identify raw.authtoken, some id⟩], .told hasks List.mem_cons_self⟩

/-- Nothing is said while a port is chosen. -/
theorem said_play_choosePort {token : Option TokenId} {request : TcpTunnelRequest}
    {scene : Scene σ T R} (hidentified : (w.identified now raw).1 = some token)
    (hdecode : raw.decode = .ok (.tcp request)) :
    ((choosePort w.settings token request.remotePort).run.play w.reply scene).2.said =
      scene.said := by
  obtain ⟨told, htold⟩ := World.exists_told hidentified
  exact said_play_of_candid (choosePort_candid (d := { raw := some raw, told }) rfl rfl rfl hdecode
    htold) rfl fun d' _ h => h.1.1.said

/-- Nothing is said while an HTTP tunnel is prepared. -/
theorem said_play_prepare {token : Option TokenId} {request : HttpTunnelRequest}
    {scene : Scene σ T R} (hidentified : (w.identified now raw).1 = some token)
    (hdecode : raw.decode = .ok (.http request)) :
    ((prepare w.settings token request).run.play w.reply scene).2.said = scene.said := by
  obtain ⟨told, htold⟩ := World.exists_told hidentified
  exact said_play_of_candid (prepare_candid (d := { raw := some raw, told }) rfl rfl rfl hdecode
    htold) rfl fun d' _ h => h.1.1.said

variable (w) in
/-- To turn a request down changes nothing but what was said. -/
theorem play_refuse (now : Scene σ T R) (kind : Option TunnelKind) (r : Rejection) :
    ∃ seat, seat.slot = now.seat.slot ∧ ((refuse kind r).play w.reply now).2 =
      { now with seat, said := now.said ++ [.rejected kind r] } := by
  obtain ⟨seat, hslot, hsent⟩ := w.reply_send now (.rejected kind r)
  refine ⟨{ seat with closed := true }, hslot, ?_⟩
  change (w.reply .close (w.reply .linger (w.reply (.send (.rejected kind r)) now).2).2).2 = _
  rw [hsent]
  simp only [World.reply, perform]

/-- Nothing is said after an answer if the rest says nothing. -/
theorem said_play_send_bind {answer : Answer} {f : Bool → Plan Unit}
    (h : ∀ sent later, ((f sent).play w.reply later).2.said = later.said) :
    ((call (.send answer) >>= f).play w.reply now).2.said = now.said ++ [answer] := by
  obtain ⟨seat, -, hsent⟩ := w.reply_send now answer
  rw [Plan.play_bind]
  refine (h _ _).trans ?_
  exact congrArg Scene.said hsent

/-- A session for a port says what comes of the allocation, once, whether or not the client still
listens. -/
theorem said_play_serveTcp {token : Option TokenId} {request : TcpTunnelRequest}
    (hsilent : ((choosePort w.settings token request.remotePort).run.play w.reply now).2.said =
      now.said) :
    ((serveTcp w.settings token request).play w.reply now).2.said =
      now.said ++ [.ofResult .tcp
        ((allocate w.settings token (.tcp request)).run.play w.reply now).1] := by
  rw [serveTcp, Plan.play_bind, allocate, play_run_bind]
  rcases hchosen : (choosePort w.settings token request.remotePort).run.play w.reply now with
    ⟨r | port, later⟩
  · rw [hchosen] at hsilent
    obtain ⟨seat, -, hrefused⟩ := play_refuse w later (some .tcp) r
    rw [← hsilent]
    exact congrArg Scene.said hrefused
  · rw [hchosen] at hsilent
    dsimp only at hsilent ⊢
    rw [← hsilent, said_play_send_bind, play_run_pure, Answer.ofResult]
    intro sent after
    rcases sent with _ | _
    · rw [if_neg (by simp)]
      change (w.reply (.unbind port) (w.reply .close after).2).2.said = _
      simp only [World.reply]
    · rw [if_pos rfl]
      change (w.reply .close (w.reply (.unbind port) (w.reply .await after).2).2).2.said = _
      simp only [World.reply]

/-- A session for an HTTP tunnel says what comes of the allocation, once, whether or not the client
still listens. -/
theorem said_play_serveHttp {token : Option TokenId} {request : HttpTunnelRequest}
    (hsilent : ((prepare w.settings token request).run.play w.reply now).2.said = now.said) :
    ((serveHttp w.settings token request).play w.reply now).2.said =
      now.said ++ [.ofResult .http
        ((allocate w.settings token (.http request)).run.play w.reply now).1] := by
  rw [serveHttp, Plan.play_bind, allocate, play_run_bind]
  rcases hprepared : (prepare w.settings token request).run.play w.reply now with
    ⟨r | ⟨id, policy⟩, later⟩
  · rw [hprepared] at hsilent
    obtain ⟨seat, -, hrefused⟩ := play_refuse w later (some .http) r
    rw [← hsilent]
    exact congrArg Scene.said hrefused
  · rw [hprepared] at hsilent
    have hlisted : (w.reply (.register id policy) later).2.said = now.said :=
      (World.said_reply (by simp)).trans hsilent
    rcases hreply : w.reply (.register id policy) later with ⟨registered, listed⟩
    rw [hreply] at hlisted
    dsimp only at hlisted ⊢
    rw [Plan.play_bind, Plan.play_call, play_run_ask_bind hreply, hreply, ← hlisted]
    rcases registered with _ | _
    · obtain ⟨seat, -, hrefused⟩ :=
        play_refuse w listed (some .http) (.plain .registrationFailed)
      exact congrArg Scene.said hrefused
    · rw [if_pos rfl, if_pos rfl, play_run_pure, said_play_send_bind, Answer.ofResult]
      intro sent after
      rcases sent with _ | _
      · change (w.reply .close (w.reply (.unregister id) after).2).2.said = _
        simp only [World.reply]
      · change (w.reply .close (w.reply (.unregister id) (w.reply .await after).2).2).2.said = _
        simp only [World.reply]

/-- A session that is admitted says what comes of the allocation, in the words of the kind that it
asks for. -/
theorem said_play_serve {token : Option TokenId} {request : TunnelRequest}
    (hidentified : (w.identified now raw).1 = some token) (hdecode : raw.decode = .ok request)
    (scene : Scene σ T R) :
    ((serve w.settings ⟨token, some request⟩).play w.reply scene).2.said =
      scene.said ++ [.ofResult request.kind
        ((allocate w.settings token request).run.play w.reply scene).1] := by
  rw [serve]
  rcases request with request | request
  · rw [Plan.play_bind]
    exact (World.said_reply (by simp)).trans
      (said_play_serveHttp (said_play_prepare hidentified hdecode))
  · rw [Plan.play_bind]
    exact (World.said_reply (by simp)).trans
      (said_play_serveTcp (said_play_choosePort hidentified hdecode))

variable (w) in
/-- A request of an unknown kind is served by saying so, and gives its slot back. -/
theorem play_serve_none (now : Scene σ T R) (token : Option TokenId) :
    ∃ seat, ((serve w.settings ⟨token, none⟩).play w.reply now).2 = { now with
      shared := { now.shared with limiter := (now.shared.limiter.release now.seat.slot).2 }
      seat
      said := now.said ++ [.rejected none (.plain .unsupportedType)] } := by
  obtain ⟨seat, hslot, hrefused⟩ := play_refuse w now none (.plain .unsupportedType)
  refine ⟨{ seat with slot := (now.shared.limiter.release seat.slot).1 }, ?_⟩
  rw [serve, Plan.play_bind]
  change (w.reply .release ((refuse none (.plain .unsupportedType)).play w.reply now).2).2 = _
  rw [hrefused, ← hslot]
  simp only [World.reply, perform]

/-! ### Whole sessions -/

/-- A session that receives a message replies to it. -/
theorem play_session {first : Option RawRequest} (hopens : (w.circumstances .accept).opens = true)
    (hfirst : Rehearsal.reception? w.script = some (first.elim .malformed .request)) :
    (session w.settings).play w.reply now =
      (first.elim (refuse none (.plain .protocol)) (respond w.settings)).play w.reply now := by
  have haccept : w.reply .accept now = (true, now) := by
    simp only [World.reply, perform, hopens]
  have hreceive : w.reply .receive now = (first.elim .malformed .request, now) := by
    simp only [World.reply, hfirst, Option.getD_some]
  rw [session, Plan.play_bind, Plan.play_call, haccept, if_pos rfl, Plan.play_bind,
    Plan.play_call, hreceive]
  rcases first with _ | raw
  · rfl
  · rfl

end

section

variable {σ T R : Type} {w : World σ T R} {now later : Scene σ T R} {first : Option RawRequest}

/-- A rejection is in the words of HTTP exactly if the request names that kind. -/
theorem schema_rejected (kind : Option TunnelKind) (r : Rejection) :
    (Answer.rejected kind r).schema = .http ↔ kind = some .http := by
  rcases kind with _ | _ | _ <;> simp [Answer.rejected, Answer.schema]

/-- What a request is granted is of the kind that it asks for. -/
theorem schema_of_allocated {token : Option TokenId} {request : TunnelRequest} {answer : Answer}
    (h : ((allocate w.settings token request).run.play w.reply now).1 = .ok answer) :
    answer.schema = request.kind := by
  rcases request with request | request
  · rw [allocate, play_run_bind] at h
    rcases hprepared : (prepare w.settings token request).run.play w.reply now with
      ⟨r | ⟨id, policy⟩, scene⟩
    · rw [hprepared] at h
      cases h
    · rcases hreply : w.reply (.register id policy) scene with ⟨registered, listed⟩
      rw [hprepared] at h
      dsimp only at h
      rw [play_run_ask_bind hreply] at h
      rcases registered with _ | _
      · cases h
      · rw [if_pos rfl, play_run_pure] at h
        cases h
        rfl
  · rw [allocate, play_run_bind] at h
    rcases hchosen : (choosePort w.settings token request.remotePort).run.play w.reply now with
      ⟨r | port, scene⟩
    · rw [hchosen] at h
      cases h
    · rw [hchosen] at h
      cases h
      rfl

/-- A session that is told of the first fault, at its cost, ends as it should. -/
theorem World.Orderly.of_fault {check : Check} {r : Rejection}
    (hfault : w.firstFault now first = some (check, r))
    (hsaid : later.said = now.said ++ [.rejected (first.bind RawRequest.kind?) r])
    (hcosts : w.Costs now first later check) : w.Orderly now first later where
  refused h := by
    obtain ⟨rfl, rfl⟩ := Prod.mk.inj (Option.some.inj (hfault.symm.trans h))
    exact ⟨hsaid, hcosts⟩
  granted h := by
    rw [hfault] at h
    cases h
  words := ⟨_, hsaid, schema_rejected _ r⟩

/-- A slot that was taken and is given back is as if it had never been taken. -/
theorem World.costs_of_returned {raw : RawRequest} {slot : Slot} {limiter : Limiter} {check : Check}
    (hcheck : check = .rate ∨ check = .kind)
    (hslot : now.shared.limiter.acquire? (w.counted now raw) w.settings.maxTunnels =
      some (slot, limiter))
    (hshared : later.shared = { now.shared with
      limiter := (limiter.release slot).2
      rates := (w.spent now raw).2 })
    (hplaces : later.places = now.places) : w.Costs now (some raw) later check := by
  have hcount : ∀ token, (limiter.release slot).2.count token = now.shared.limiter.count token := by
    intro token
    calc (limiter.release slot).2.count token
        = limiter.count token - slot.weight token := Limiter.count_release limiter slot token
      _ = now.shared.limiter.count token := by
          rw [Limiter.count_acquire? hslot, Nat.add_sub_cancel]
  have hspent : ∀ other, some raw = some other → later.shared.rates = (w.spent now other).2 := by
    rintro _ ⟨⟩
    rw [hshared]
  have hcosts : w.Costs now (some raw) later .rate :=
    ⟨hspent, by simpa only [hshared] using hcount, by rw [hshared], by rw [hshared],
      by rw [hshared], hplaces⟩
  rcases hcheck with rfl | rfl
  · exact hcosts
  · exact hcosts

/-- What is left of a request that was admitted: to serve it, or to say that it cannot be. -/
theorem orderly_serve {raw : RawRequest} {token : Option TokenId} {slot : Slot} {limiter : Limiter}
    (hfault : w.firstFault now (some raw) = [.kind, .allocation].findSome? fun check =>
      (w.fault now (some raw) check).map fun r => (check, r))
    (hpayload : w.fault now (some raw) .payload = none)
    (htoken : (w.identified now raw).1 = some token)
    (hslot : now.shared.limiter.acquire? (w.counted now raw) w.settings.maxTunnels =
      some (slot, limiter)) :
    w.Orderly now (some raw) ((serve w.settings ⟨token, raw.decode.toOption⟩).play w.reply
      ((w.known now raw).charged slot limiter (w.spent now raw).2)).2 := by
  have hadmitted : w.admitted now raw =
      (w.known now raw).charged slot limiter (w.spent now raw).2 := by
    simp only [World.admitted, hslot, Option.getD_some]
  have hsaid : (w.admitted now raw).said = now.said := rfl
  rw [← hadmitted]
  -- Whatever is of no known kind was not decoded either: it is charged, and turned down only now.
  rcases hkind : raw.kind? with _ | kind
  · have hunknown : w.fault now (some raw) .kind = some (.plain .unsupportedType) := by
      simp only [World.fault, hkind, if_true]
    obtain ⟨seat, hserved⟩ := play_serve_none w (w.admitted now raw) token
    rw [decode_of_kind?_eq_none hkind, hserved]
    have hfirst : w.firstFault now (some raw) = some (.kind, .plain .unsupportedType) := by
      simp only [hfault, List.findSome?_cons, hunknown, Option.map_some]
    refine .of_fault hfirst ?_ ?_
    · rw [hsaid, Option.bind_some, hkind]
    · rw [hadmitted]
      exact World.costs_of_returned (.inr rfl) hslot rfl rfl
  -- That the fields fit was found before the limits, so the request is decoded by now.
  rcases hdecode : raw.decode with r | request
  · simp only [World.fault, hkind, hdecode, Option.bind_some, failure?, reduceCtorEq] at hpayload
  have hasked : raw.kind? = some request.kind := kind?_of_decode hdecode
  have hknown : w.fault now (some raw) .kind = none := by
    simp only [World.fault, hkind, reduceCtorEq, if_false]
  have hsays := said_play_serve htoken hdecode (w.admitted now raw)
  have hallocated : w.allocated? now raw =
      some ((allocate w.settings token request).run.play w.reply (w.admitted now raw)).1 := by
    simp [World.allocated?, hdecode, htoken, Except.toOption]
  rcases hresult : ((allocate w.settings token request).run.play w.reply
    (w.admitted now raw)).1 with r | answer
  · have hdenied : w.fault now (some raw) .allocation = some r := by
      simp only [World.fault, hallocated, hresult, Option.bind_some, failure?]
    have hfirst : w.firstFault now (some raw) = some (.allocation, r) := by
      simp only [hfault, List.findSome?_cons, hknown, hdenied, Option.map_none, Option.map_some]
    refine .of_fault hfirst ?_ trivial
    rw [Option.bind_some, hasked, ← hsaid]
    rw [hresult] at hsays
    exact hsays
  · have hgranted : w.fault now (some raw) .allocation = none := by
      simp only [World.fault, hallocated, hresult, Option.bind_some, failure?]
    have hnone : w.firstFault now (some raw) = none := by
      simp only [hfault, List.findSome?_cons, hknown, hgranted, Option.map_none,
        List.findSome?_nil]
    rw [hresult, hsaid] at hsays
    refine ⟨fun h => ?_, fun _ => ⟨answer, ?_, hsays⟩, answer, hsays, ?_⟩
    · rw [hnone] at h
      cases h
    · rw [Option.bind_some, hallocated, hresult]
    · rw [schema_of_allocated hresult, Option.bind_some, hasked, Option.some_inj]

/-- **The first fault decides.** Whatever the services reply, whatever the limits have counted and
whatever message comes first, a session is told of the first thing that is wrong, in the words of
the kind that the message names. What is found before the limits costs nothing, a request over the
limit spends no creation, and one that comes too soon keeps no slot. The client hears what the
session is told, if it listens and if it is not too long. -/
theorem first_fault_is_answered {σ T R : Type} (w : World σ T R) (now : Scene σ T R)
    {first : Option RawRequest} (hopens : (w.circumstances .accept).opens = true)
    (hfirst : Rehearsal.reception? w.script = some (first.elim .malformed .request)) :
    w.Orderly now first ((session w.settings).play w.reply now).2 ∧
      ∀ answer, ((session w.settings).play w.reply now).2.said = now.said ++ [answer] →
        ((session w.settings).play w.reply now).2.seat.answer =
          w.heard now.seat.answer answer := by
  have hheard : ∀ answer, ((session w.settings).play w.reply now).2.said = now.said ++ [answer] →
      ((session w.settings).play w.reply now).2.seat.answer = w.heard now.seat.answer answer := by
    intro answer hsaid
    obtain ⟨more, hmore, hheard⟩ := w.exists_said now (session w.settings)
    obtain rfl : more = [answer] := List.append_cancel_left (hmore.symm.trans hsaid)
    exact hheard
  refine ⟨?_, hheard⟩
  rw [play_session hopens hfirst]
  rcases first with _ | raw
  · obtain ⟨seat, -, hrefused⟩ := play_refuse w now none (.plain .protocol)
    rw [Option.elim_none, hrefused]
    have hfault : w.firstFault now none = some (.message, .plain .protocol) := rfl
    exact .of_fault hfault rfl ⟨rfl, rfl⟩
  rw [Option.elim_some, respond, Plan.play_bind]
  have hscreened := screened w now raw
  rcases hend : (screen w.settings raw).run.play w.reply now with ⟨result, scene⟩
  rw [hend] at hscreened
  cases hscreened with
  | @declined check r tokens hfault hcosts =>
      obtain ⟨seat, -, hrefused⟩ := play_refuse w { now with tokens } raw.kind? r
      dsimp only
      rw [hrefused]
      exact .of_fault hfault (by rw [Option.bind_some]) (hcosts _ rfl rfl)
  | @slowed slot limiter hfault hslot =>
      obtain ⟨seat, -, hrefused⟩ := play_refuse w
        ((w.known now raw).charged (limiter.release slot).1 (limiter.release slot).2
          (w.spent now raw).2) raw.kind? (.plain .rateLimited)
      dsimp only
      rw [hrefused]
      exact .of_fault hfault (by rw [Option.bind_some]; rfl)
        (World.costs_of_returned (.inl rfl) hslot rfl rfl)
  | @admitted token slot limiter hfault hpayload htoken hslot =>
      exact orderly_serve hfault hpayload htoken hslot

/-- A request for a port that is not one of the public ones. -/
def outsideRequest : TunnelRequest := .tcp { authtoken := "s3cret", remotePort := 22 }

/-- A server on which every token is the seventh one, which may have one tunnel. Its services count
how often they were asked. -/
def narrowWorld : World Unit Nat Nat where
  settings := {
    tunnelDomain := "tunnel.test", maxTunnels := 1, ports := ⟨20000, 20010⟩
    validates := true, identifies := true, reserves := true }
  services := {
    validate := fun _ asked => (some true, asked + 1)
    identify := fun _ asked => (some (some 7), asked + 1)
    owner := fun _ asked => (none, asked + 1)
    reserve := fun _ _ asked => (false, asked + 1) }
  me := ()
  circumstances := fun _ => {}
  script := { input := outsideRequest.toJson.print ++ [Bytes.newline] }

/-- The seventh token has a tunnel. -/
def narrowScene : Scene Unit Nat Nat where
  shared := { limiter := ⟨Table.put {} 7 1⟩ }
  seat := {}
  tokens := 0
  places := 0

/-- The token has its tunnel and the port is none of the public ones: it is told of the former. -/
theorem narrowWorld_answered :
    (narrowWorld.circumstances .accept).opens = true ∧
      Rehearsal.reception? narrowWorld.script = some (.request outsideRequest.raw) ∧
      narrowWorld.fault narrowScene (some outsideRequest.raw) .allocation =
        some ⟨.invalidRequest, "requested port out of range"⟩ ∧
      narrowWorld.Orderly narrowScene (some outsideRequest.raw)
        ((session narrowWorld.settings).play narrowWorld.reply narrowScene).2 ∧
      ((session narrowWorld.settings).play narrowWorld.reply narrowScene).2.seat.answer =
        some (.rejected (some .tcp) (.plain .tooManyTunnels)) := by
  have hopens : (narrowWorld.circumstances .accept).opens = true := rfl
  have hfits : outsideRequest.toJson.print.length ≤ maxMessageLength := by decide +kernel
  have hinput : narrowWorld.script.input = outsideRequest.toJson.print ++ [Bytes.newline] := rfl
  have hreceived : Rehearsal.reception? narrowWorld.script =
      some ((some outsideRequest.raw).elim .malformed .request) := by
    rw [Rehearsal.reception?, hinput, Received.ofStream_of_spoken outsideRequest.spoken hfits,
      Option.elim_some]
  have hkind : outsideRequest.raw.kind? = some .tcp := kind?_of_decode outsideRequest.decode_raw
  have hpayload : narrowWorld.fault narrowScene (some outsideRequest.raw) .payload = none := by
    simp only [World.fault, hkind, outsideRequest.decode_raw, Option.bind_some, failure?]
  have hslots : narrowWorld.fault narrowScene (some outsideRequest.raw) .slots =
      some (.plain .tooManyTunnels) := rfl
  have hfault : narrowWorld.firstFault narrowScene (some outsideRequest.raw) =
      some (.slots, .plain .tooManyTunnels) := by
    rw [World.firstFault, Check.order]
    simp only [List.findSome?_cons, hpayload, hslots]
    rfl
  have hallocation : narrowWorld.fault narrowScene (some outsideRequest.raw) .allocation =
      some ⟨.invalidRequest, "requested port out of range"⟩ := by
    simp only [World.fault, World.allocated?, outsideRequest.decode_raw]
    rfl
  have hshort : (Answer.rejected (some .tcp) (.plain .tooManyTunnels)).size ≤ maxMessageLength := by
    decide +kernel
  obtain ⟨horderly, hheard⟩ :=
    first_fault_is_answered narrowWorld narrowScene hopens hreceived
  have hsaid := (horderly.refused hfault).1
  rw [Option.bind_some, hkind] at hsaid
  refine ⟨hopens, hreceived, hallocation, horderly, (hheard _ hsaid).trans ?_⟩
  exact if_pos ⟨hshort, rfl⟩

end

end ReverseTunnel.Server
