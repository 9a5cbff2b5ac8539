import ReverseTunnel.Proofs.Server.History

/-!
# A session that nobody interrupts

What a session says when it has the server to itself is decided by the state that it finds. Here
its plan is followed from the first call to the answer, one lemma for each part of it, in a state
in which nothing stands in its way. The result is about a course too: whoever moves on before or
after, there are moves of the session alone that lead to the answer.

## Main results

* `session_leads`: what leads a session to an answer.
* `Course.says_of_leads`: where a session is led alone, a course leads it.
-/

namespace ReverseTunnel.Server

/-! ### Following a plan -/

section

variable {α β S : Type} {reply? : (call : Call) → S → Option (call.Reply × S)} {now now' : S}

/-- Once the first plan is done, the second one goes on from where it ended. -/
theorem Plan.drive_bind_of_done {p : Plan α} {f : α → Plan β} {a : α}
    (h : p.drive reply? now = (.done a, now')) :
    (p >>= f).drive reply? now = (f a).drive reply? now' := by
  induction p generalizing now with
  | done b =>
      obtain ⟨hb, rfl⟩ := Prod.mk.inj h
      cases hb
      rfl
  | ask call next ih =>
      change (Plan.ask call fun reply => (next reply).bind f).drive reply? now = _
      rw [Plan.drive] at h ⊢
      rcases hreply : reply? call now with _ | ⟨reply, now₁⟩
      · rw [hreply] at h
        cases h
      · simp only [hreply] at h ⊢
        exact ih reply h

/-- A call that is replied to takes its plan one call further. -/
theorem Plan.drive_call {call : Call} {next : call.Reply → Plan α} {reply : call.Reply}
    (h : reply? call now = some (reply, now')) :
    (Plan.ask call next).drive reply? now = (next reply).drive reply? now' := by
  rw [Plan.drive, h]

/-- A plan that stops before it is done stops there whatever comes after it. -/
theorem Plan.drive_bind_of_ask {p : Plan α} {f : α → Plan β} {call : Call}
    {next : call.Reply → Plan α} (h : p.drive reply? now = (.ask call next, now')) :
    (p >>= f).drive reply? now = (.ask call fun reply => next reply >>= f, now') := by
  induction p generalizing now with
  | done b => cases h
  | ask call' next' ih =>
      change (Plan.ask call' fun reply => (next' reply).bind f).drive reply? now = _
      rw [Plan.drive] at h ⊢
      rcases hreply : reply? call' now with _ | ⟨reply, now₁⟩
      · simp only [hreply] at h ⊢
        cases h
        rfl
      · simp only [hreply] at h ⊢
        exact ih reply h

/-- Once the first trial is passed, the second one goes on from where it ended. -/
theorem drive_run_bind_of_ok {x : Trial α} {f : α → Trial β} {a : α}
    (h : x.run.drive reply? now = (.done (.ok a), now')) :
    (x >>= f).run.drive reply? now = (f a).run.drive reply? now' :=
  Plan.drive_bind_of_done (p := x.run) h

/-- A call of a trial that is replied to takes the trial on with the reply. -/
theorem drive_run_ask_bind {call : Call} {f : call.Reply → Trial β} {reply : call.Reply}
    (h : reply? call now = some (reply, now')) :
    (ask call >>= f).run.drive reply? now = (f reply).run.drive reply? now' :=
  Plan.drive_call h

end

section

variable {σ : Type} (me : σ) (c : Circumstances)

/-- Replies to every call of a session at once, until it has something to say. -/
def alone (call : Call) (now : Shared σ × Seat) : Option (call.Reply × Shared σ × Seat) :=
  match call with
  | .send _ => none
  | call => some (perform me c now.1 now.2 call)

end

/-! ### What a request needs -/

/-- Whether a token is accepted. -/
def Accepts (s : Settings) (store : Store) (token : String) : Prop :=
  if s.validates then store.valid token = true
  else ∀ expected, s.authToken = some expected →
    expected.isEmpty = true ∨ Text.trim token = expected

/-- Whom a token identifies. -/
def identity (s : Settings) (store : Store) (token : String) : Option TokenId :=
  if s.identifies then (store.tokenId? token).filter fun id => 0 < id else none

/-- Whether whoever shows a token may have a place: it is nobody's or its own. -/
def MayHave (s : Settings) (store : Store) (token : String) (place : Place) : Prop :=
  s.ownsPlaces = true → ∃ id, identity s store token = some id ∧
    ∀ owner, store.owner? place = some owner → owner = id

/-- Whether the limits leave room for one more tunnel of a token. -/
structure Permits (s : Settings) {σ : Type} (shared : Shared σ) (now : Int) (token : String) :
    Prop where
  slot : (shared.limiter.acquire? ((identity s shared.store token).getD 0) s.maxTunnels).isSome
  rate : (shared.rates.allow now ((identity s shared.store token).getD 0) s.maxCreations).1 = true

section

variable {σ : Type} {me : σ} {c : Circumstances} {s : Settings} {shared : Shared σ} {seat : Seat}
  {token : String}

/-- An accepted token passes the first trial, which changes nothing. -/
theorem authenticate_alone (hworks : c.works = true) (h : Accepts s shared.store token) :
    (authenticate s token).run.drive (alone me c) (shared, seat) =
      (.done (.ok ()), shared, seat) := by
  rw [Accepts] at h
  rw [authenticate]
  rcases hlooked : s.validates with _ | _
  · rw [hlooked] at h
    rcases hshared : s.authToken with _ | expected
    · rfl
    · have haccepted := h expected hshared
      rw [if_neg (by simp)]
      dsimp only
      rw [if_pos (by simpa using haccepted)]
      rfl
  · rw [if_pos (by simpa using hlooked)] at h
    have hreply : alone me c (.validate token) (shared, seat) = some (some true, shared, seat) := by
      simp only [alone, perform, hworks, if_true, h]
    exact drive_run_ask_bind hreply

/-- A token is told its identity, and nothing changes, as long as the store works. -/
theorem identify_alone (hworks : c.works = true) :
    (identify s token).run.drive (alone me c) (shared, seat) =
      (.done (.ok (identity s shared.store token)), shared, seat) := by
  rw [identify, identity]
  rcases s.identifies with _ | _
  · rfl
  · have hreply : alone me c (.identify token) (shared, seat) =
        some (some (shared.store.tokenId? token), shared, seat) := by
      simp only [alone, perform, hworks, if_true]
    exact drive_run_ask_bind hreply

variable (me seat) in
/-- A slot is taken and a request is spent; the rest stays as it is. -/
theorem charge_alone {id : Option TokenId}
    (hslot : (shared.limiter.acquire? (id.getD 0) s.maxTunnels).isSome)
    (hrate : (shared.rates.allow c.now (id.getD 0) s.maxCreations).1 = true) :
    ∃ limiter rates slot, (charge s id).run.drive (alone me c) (shared, seat) =
      (.done (.ok ()), { shared with limiter, rates }, { seat with slot }) := by
  obtain ⟨⟨slot, limiter⟩, hslot⟩ := Option.isSome_iff_exists.mp hslot
  refine ⟨limiter, (shared.rates.allow c.now (id.getD 0) s.maxCreations).2, slot, ?_⟩
  have htaken : alone me c (.acquire (id.getD 0) s.maxTunnels) (shared, seat) =
      some (true, { shared with limiter }, { seat with slot }) := by
    simp only [alone, perform, hslot]
  have hspent : alone me c (.create (id.getD 0) s.maxCreations)
      ({ shared with limiter }, { seat with slot }) =
        some (true, { shared with limiter, rates := (shared.rates.allow c.now (id.getD 0)
          s.maxCreations).2 }, { seat with slot }) := by
    simp only [alone, perform, hrate]
  rw [charge]
  refine (drive_run_ask_bind htaken).trans ?_
  exact drive_run_ask_bind hspent

variable (me seat) in
/-- A request that decodes is admitted, with what its token identifies. -/
theorem screen_alone {raw : RawRequest} {request : TunnelRequest} (hworks : c.works = true)
    (hdecode : raw.decode = .ok request) (haccepted : Accepts s shared.store raw.authtoken)
    (hpermits : Permits s shared c.now raw.authtoken) :
    ∃ limiter rates slot, (screen s raw).run.drive (alone me c) (shared, seat) =
      (.done (.ok ⟨identity s shared.store raw.authtoken, some request⟩),
        { shared with limiter, rates }, { seat with slot }) := by
  obtain ⟨limiter, rates, slot, hcharged⟩ :=
    charge_alone me seat hpermits.slot hpermits.rate
  refine ⟨limiter, rates, slot, ?_⟩
  rw [screen, drive_run_bind_of_ok (authenticate_alone hworks haccepted),
    drive_run_bind_of_ok (identify_alone hworks), kind?_of_decode hdecode]
  simp only [hdecode]
  exact drive_run_bind_of_ok hcharged

variable (me seat) in
/-- A place that is nobody's or the token's own is claimed. -/
theorem claim_alone {id : Option TokenId} {place : Place} (hworks : c.works = true)
    (h : s.ownsPlaces = true → ∃ token, id = some token ∧
      ∀ owner, shared.store.owner? place = some owner → owner = token) :
    ∃ store, (claim s place id).run.drive (alone me c) (shared, seat) =
      (.done (.ok ()), { shared with store }, seat) := by
  rcases howns : s.ownsPlaces with _ | _
  · exact ⟨shared.store, by rw [run_claim_of_not_ownsPlaces howns]; rfl⟩
  obtain ⟨token, rfl, hown⟩ := h howns
  rw [run_claim howns]
  have hlook : alone me c (.owner place) (shared, seat) =
      some (some (shared.store.owner? place), shared, seat) := by
    simp only [alone, perform, hworks, if_true]
  rw [Plan.drive_call hlook]
  rcases howner : shared.store.owner? place with _ | owner
  · have hreserved : alone me c (.reserve token place) (shared, seat) =
        some (true, { shared with store := shared.store.assign token place }, seat) := by
      simp only [alone, perform, hworks, if_true, Store.reserve?, howner]
    exact ⟨_, Plan.drive_call hreserved⟩
  · obtain rfl := hown owner howner
    refine ⟨shared.store, ?_⟩
    simp only [judge, if_true]
    rfl

/-- A port of the range that can be bound is bound. -/
theorem choosePort_alone {id : Option TokenId} {port : UInt16} (hworks : c.works = true)
    (hport : port ≠ 0) (hchecked : s.ports.checkPort port = .ok ())
    (hmay : s.ownsPlaces = true → ∃ token, id = some token ∧
      ∀ owner, shared.store.owner? (.port port) = some owner → owner = token)
    (hbindable : c.bindable = true) (hfree : shared.listeners.contains port = false) :
    ∃ now, (choosePort s id port).run.drive (alone me c) (shared, seat) =
      (.done (.ok port), now) := by
  obtain ⟨store, hclaimed⟩ := claim_alone me seat hworks hmay
  have hbound : alone me c (.bind port) ({ shared with store }, seat) =
      some (true, { shared with store, listeners := shared.listeners.put port me }, seat) := by
    simp [alone, perform, hbindable, hfree]
  refine ⟨({ shared with store, listeners := shared.listeners.put port me }, seat), ?_⟩
  rw [choosePort, if_neg hport, hchecked]
  refine (Plan.drive_bind_of_done (a := .ok ()) rfl).trans ?_
  exact (drive_run_bind_of_ok hclaimed).trans (drive_run_ask_bind hbound)

variable (me seat) in
/-- An id that the request names is prepared with the policy of the request. -/
theorem prepare_alone {token : Option TokenId} {request : HttpTunnelRequest} {id : String}
    {policy : Policy} (hworks : c.works = true)
    (hnamed : namedId s.tunnelDomain request = .ok (some id))
    (hpolicy : Policy.ofRequest request = .ok policy)
    (hmay : s.ownsPlaces = true → ∃ owner, token = some owner ∧
      ∀ other, shared.store.owner? (.subdomain id) = some other → other = owner) :
    ∃ store, (prepare s token request).run.drive (alone me c) (shared, seat) =
      (.done (.ok (id, policy)), { shared with store }, seat) := by
  obtain ⟨store, hclaimed⟩ := claim_alone me seat hworks hmay
  have hchosen : (chooseId s token request).run.drive (alone me c) (shared, seat) =
      (.done (.ok id), { shared with store }, seat) := by
    rw [chooseId, hnamed]
    refine (Plan.drive_bind_of_done (a := .ok (some id)) rfl).trans ?_
    exact drive_run_bind_of_ok hclaimed
  refine ⟨store, ?_⟩
  rw [prepare, drive_run_bind_of_ok hchosen, hpolicy]
  rfl

variable (me seat) in
/-- A policy that is refused is refused after an id was drawn, if the request names none. -/
theorem prepare_alone_of_policy {token : Option TokenId} {request : HttpTunnelRequest} {id : String}
    {e : FieldError} (hnamed : namedId s.tunnelDomain request = .ok none)
    (hdrawn : (shared.registry.allocate c.draws).toOption = some id)
    (hpolicy : Policy.ofRequest request = .error e) :
    (prepare s token request).run.drive (alone me c) (shared, seat) =
      (.done (.error e.toRejection), shared, seat) := by
  have hdraw : alone me c .draw (shared, seat) = some (some id, shared, seat) := by
    simp only [alone, perform, hdrawn]
  have hchosen : (chooseId s token request).run.drive (alone me c) (shared, seat) =
      (.done (.ok id), shared, seat) := by
    rw [chooseId, hnamed]
    refine (Plan.drive_bind_of_done (a := .ok none) rfl).trans ?_
    exact drive_run_ask_bind hdraw
  rw [prepare, drive_run_bind_of_ok hchosen, hpolicy]
  rfl

/-! ### Whole sessions -/

/-- Whether a plan leads to an answer. -/
def Leads (me : σ) (c : Circumstances) (p : Plan Unit) (now : Shared σ × Seat) (answer : Answer) :
    Prop :=
  ∃ next now', p.drive (alone me c) now = (.ask (.send answer) next, now')

section

variable {α : Type} {p : Plan α} {f : α → Plan Unit} {now now' : Shared σ × Seat} {a : α}
  {answer : Answer}

/-- If the first plan is done and the second leads to an answer from there, both together do. -/
theorem leads_bind_of_done (h : p.drive (alone me c) now = (.done a, now'))
    (hf : Leads me c (f a) now' answer) : Leads me c (p >>= f) now answer := by
  obtain ⟨next, now'', hnext⟩ := hf
  exact ⟨next, now'', (Plan.drive_bind_of_done h).trans hnext⟩

/-- A call that is replied to leads where the reply leads. -/
theorem leads_call_bind {call : Call} {f : call.Reply → Plan Unit} {reply : call.Reply}
    (h : alone me c call now = some (reply, now')) (hf : Leads me c (f reply) now' answer) :
    Leads me c (Server.call call >>= f) now answer :=
  leads_bind_of_done (p := Server.call call) (Plan.drive_call h) hf

/-- Sending an answer leads to that answer, whatever is planned after it. -/
theorem leads_send (now : Shared σ × Seat) (answer : Answer) (f : Bool → Plan Unit) :
    Leads me c (Server.call (.send answer) >>= f) now answer :=
  ⟨_, now, rfl⟩

/-- A plan that leads to an answer does so whatever is planned after it. -/
theorem Leads.bind {p : Plan Unit} {f : Unit → Plan Unit} (h : Leads me c p now answer) :
    Leads me c (p >>= f) now answer := by
  obtain ⟨next, now', h⟩ := h
  exact ⟨_, now', Plan.drive_bind_of_ask h⟩

end

/-- A refusal leads to the answer that says why. -/
theorem refuse_leads (now : Shared σ × Seat) (kind : Option TunnelKind) (r : Rejection) :
    Leads me c (refuse kind r) now (.rejected kind r) :=
  leads_send now _ _

/-- A free port of one's own is granted. -/
theorem serveTcp_leads {token : Option TokenId} {request : TcpTunnelRequest}
    (hworks : c.works = true) (hport : request.remotePort ≠ 0)
    (hchecked : s.ports.checkPort request.remotePort = .ok ())
    (hmay : s.ownsPlaces = true → ∃ id, token = some id ∧
      ∀ owner, shared.store.owner? (.port request.remotePort) = some owner → owner = id)
    (hbindable : c.bindable = true)
    (hfree : shared.listeners.contains request.remotePort = false) :
    Leads me c (serveTcp s token request) (shared, seat) (.grantedPort request.remotePort) := by
  obtain ⟨now, hchosen⟩ := choosePort_alone hworks hport hchecked hmay hbindable hfree
  exact leads_bind_of_done hchosen (leads_send now _ _)

/-- A free id of one's own is granted, with its address. -/
theorem serveHttp_leads {token : Option TokenId} {request : HttpTunnelRequest} {id : String}
    {policy : Policy} (hworks : c.works = true)
    (hnamed : namedId s.tunnelDomain request = .ok (some id))
    (hpolicy : Policy.ofRequest request = .ok policy)
    (hmay : s.ownsPlaces = true → ∃ owner, token = some owner ∧
      ∀ other, shared.store.owner? (.subdomain id) = some other → other = owner)
    (hid : (Registry.normalId? id).isSome) (hfree : shared.registry.contains id = false) :
    Leads me c (serveHttp s token request) (shared, seat) (.grantedName id (s.publicUrl id)) := by
  obtain ⟨store, hprepared⟩ := prepare_alone me seat hworks hnamed hpolicy hmay
  obtain ⟨shown, hshown⟩ := Option.isSome_iff_exists.mp hid
  have hnone : shared.registry.tunnels.contains shown = false := by
    simpa [Registry.contains, Registry.get?, hshown, Table.contains] using hfree
  have hlisted : alone me c (.register id policy) ({ shared with store }, seat) =
      some (true, { shared with store, registry := ⟨shared.registry.tunnels.put shown
        ⟨shown, me, policy⟩⟩ }, seat) := by
    simp [alone, perform, Registry.register, hshown, hnone]
  exact leads_bind_of_done hprepared (leads_call_bind hlisted (leads_send _ _ _))

/-- A policy that is refused is a reason to turn the request down. -/
theorem serveHttp_leads_of_policy {token : Option TokenId} {request : HttpTunnelRequest}
    {id : String} {e : FieldError} (hnamed : namedId s.tunnelDomain request = .ok none)
    (hdrawn : (shared.registry.allocate c.draws).toOption = some id)
    (hpolicy : Policy.ofRequest request = .error e) :
    Leads me c (serveHttp s token request) (shared, seat)
      (.rejected (some .http) e.toRejection) :=
  leads_bind_of_done (prepare_alone_of_policy me seat hnamed hdrawn hpolicy)
    (refuse_leads _ _ _)

/-- A session in whose way nothing stands leads to where its service leads. -/
theorem session_leads {raw : RawRequest} {request : TunnelRequest} {answer : Answer}
    (hopens : c.opens = true) (harrives : c.arrives = .request raw) (hworks : c.works = true)
    (hdecode : raw.decode = .ok request) (haccepted : Accepts s shared.store raw.authtoken)
    (hpermits : Permits s shared c.now raw.authtoken)
    (hserved : ∀ limiter rates slot, Leads me c
      (serve s ⟨identity s shared.store raw.authtoken, some request⟩)
      ({ shared with limiter, rates }, { slot }) answer) :
    Leads me c (session s) (shared, {}) answer := by
  obtain ⟨limiter, rates, slot, hscreened⟩ :=
    screen_alone me {} hworks hdecode haccepted hpermits
  have haccept : alone me c .accept (shared, {}) = some (true, shared, {}) := by
    simp only [alone, perform, hopens]
  have hreceive : alone me c .receive (shared, {}) = some (.request raw, shared, {}) := by
    simp only [alone, perform, harrives]
  refine leads_call_bind haccept (leads_call_bind hreceive ?_)
  exact leads_bind_of_done hscreened (hserved limiter rates slot)

end

/-! ### Courses -/

namespace Course

variable {σ : Type} [DecidableEq σ] {settings : Settings} {me : σ} {c : Circumstances}

omit [DecidableEq σ] in
/-- A call that is replied to at once is replied to as the server does it. -/
theorem eq_perform_of_alone {call : Call} {shared : Shared σ} {seat : Seat}
    {done : call.Reply × Shared σ × Seat} (h : alone me c call (shared, seat) = some done) :
    done = perform me c shared seat call := by
  cases call with
  | send answer => cases h
  | _ => exact (Option.some.inj h).symm

/-- **Where a plan leads, a course leads**, by moves of its session alone. -/
theorem reaches_of_drive {plan plan' : Plan Unit} {w : Course σ} {seat : Seat}
    {now' : Shared σ × Seat} (hme : w.system.sessions.get? me = some ⟨plan, seat⟩)
    (h : plan.drive (alone me c) (w.system.shared, seat) = (plan', now')) :
    ∃ n, (w.run settings (List.replicate n (.step me c))).system.sessions.get? me =
      some ⟨plan', now'.2⟩ := by
  induction plan generalizing w seat with
  | done a =>
      cases h
      exact ⟨0, hme⟩
  | ask call next ih =>
      rw [Plan.drive] at h
      rcases hreply : alone me c call (w.system.shared, seat) with _ | done
      · rw [hreply] at h
        cases h
        exact ⟨0, hme⟩
      · obtain rfl := eq_perform_of_alone hreply
        simp only [hreply] at h
        have hnext : w.next settings (.step me c) = w.reply me c call next seat :=
          next_step_of_ask hme c
        obtain ⟨n, hn⟩ := ih _ (w := w.reply me c call next seat) (by simp [Course.reply]) h
        refine ⟨n + 1, ?_⟩
        rw [List.replicate_succ, run, List.foldl_cons, hnext]
        exact hn

/-- A session that leads to an answer sends it, if the answer fits and the client listens. -/
theorem says_of_leads {w : Course σ} {answer : Answer}
    (hme : w.system.sessions.get? me = none)
    (h : Leads me c (session settings) (w.system.shared, {}) answer) :
    ∃ n sent, (me, ⟨.send answer, sent⟩) ∈
        (w.run settings (.enter me :: List.replicate n (.step me c))).trace ∧
      (c.connected = true → answer.size ≤ maxMessageLength →
        (w.run settings (.enter me :: List.replicate n (.step me c))).heard? me = some answer) := by
  obtain ⟨next, now, h⟩ := h
  have hentered : w.next settings (.enter me) =
      { w with system := w.system.enter settings me } := by
    simp [Course.next, Table.contains, hme]
  have hsession : (w.next settings (.enter me)).system.sessions.get? me =
      some ⟨session settings, {}⟩ := by
    rw [hentered]
    simp [System.enter]
  have hshared : (w.next settings (.enter me)).system.shared = w.system.shared := by
    rw [hentered]
    rfl
  obtain ⟨n, hn⟩ := reaches_of_drive hsession (hshared ▸ h)
  have hmoves : w.run settings (.enter me :: List.replicate (n + 1) (.step me c)) =
      (w.run settings (.enter me :: List.replicate n (.step me c))).reply me c (.send answer) next
        now.2 := by
    rw [List.replicate_succ', ← List.cons_append, run_concat]
    exact next_step_of_ask hn c
  refine ⟨n + 1, _, by rw [hmoves]; exact List.mem_cons_self, fun hconnected hfits => ?_⟩
  have hline : encodeLine maxMessageLength answer.toJson =
      .ok (answer.toJson.print ++ [Bytes.newline]) := if_neg (Nat.not_lt.mpr hfits)
  rw [hmoves]
  simp [heard?, Course.reply, perform, hline, hconnected]

end Course

end ReverseTunnel.Server
