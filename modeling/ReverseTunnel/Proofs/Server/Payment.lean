import ReverseTunnel.Proofs.Server.Candor

/-!
# What a session pays with

A session looks its token up twice: it asks whether the token is valid, and then whom it identifies.
What it was told the second time is what it takes its slot with, and what it spends its request
with; both are asked for once, and in this order. After that a session neither identifies anybody
nor pays again, whatever it is told.

## Main definitions

* `payment`: the conduct of a session as far as paying goes.
* `Plan.Aside`: a plan that has nothing to do with it.

## Main results

* `serve_aside`: nobody pays while being served.
* `session_pays`: every session keeps the conduct.
-/

namespace ReverseTunnel.Server

/-! ### What is due -/

/-- What a session has to be told before it asks whom its token identifies, before it takes a slot
and before it spends a request. -/
def PaymentDue (s : Settings) (told : List Event) : Call → Prop
  | .identify shown => s.validates = true → ⟨.validate shown, some true⟩ ∈ told
  | .acquire key limit => limit = s.maxTunnels ∧
    ∃ raw token, ⟨.receive, .request raw⟩ ∈ told ∧ Identified s raw told token ∧ key = token.getD 0
  | .create key limit => limit = s.maxCreations ∧ ⟨.acquire key s.maxTunnels, true⟩ ∈ told
  | _ => True

/-- The conduct of a session as far as paying goes. It remembers all that it was told. -/
def payment (s : Settings) : Conduct (List Event) := ⟨fun told e => e :: told, PaymentDue s⟩

/-! ### Plans that have nothing to do with it -/

/-- A call that neither identifies nor pays. -/
def Call.IsAside : Call → Prop
  | .identify _ | .acquire _ _ | .create _ _ => False
  | _ => True

/-- The conduct of who neither identifies nor pays. There is nothing to remember. -/
def aside : Conduct Unit := ⟨fun _ _ => (), fun _ => Call.IsAside⟩

namespace Plan

variable {α β : Type} {s : Settings}

/-- Whatever it is told, the plan neither identifies nor pays. -/
def Aside (p : Plan α) : Prop := p.Obeys aside (fun _ _ => True) ()

/-- A plan that is done neither identifies nor pays. -/
theorem aside_done (a : α) : (Plan.done a).Aside := .done trivial

/-- A plan neither identifies nor pays if its first call does not, and what comes after every reply
does not. -/
theorem aside_ask {call : Call} {next : call.Reply → Plan α} (hcall : call.IsAside)
    (hnext : ∀ reply, (next reply).Aside) : (Plan.ask call next).Aside := .ask hcall hnext

/-- Two plans that neither identify nor pay do not do so one after the other. -/
theorem Aside.bind {p : Plan α} {f : α → Plan β} (h : p.Aside) (hf : ∀ a, (f a).Aside) :
    (p >>= f).Aside :=
  Obeys.bind h fun _ a _ => hf a

/-- Two trials that neither identify nor pay do not do so one after the other, whether or not the
first one is passed. -/
theorem aside_run_bind {x : Trial α} {f : α → Trial β} (h : x.run.Aside)
    (hf : ∀ a, (f a).run.Aside) : (x >>= f).run.Aside :=
  obeys_run_bind h (fun _ a _ => hf a) fun _ _ _ => trivial

/-- A trial that has its result already goes on with it. -/
theorem aside_run_mk_bind {a : α} {f : α → Trial β} (h : (f a).run.Aside) :
    (ExceptT.mk (pure (.ok a)) >>= f : Trial β).run.Aside :=
  h

/-- Who neither identifies nor pays keeps the conduct. -/
theorem Obeys.pays {p : Plan α} {here : Unit} (h : p.Obeys aside (fun _ _ => True) here)
    (told : List Event) : p.Obeys (payment s) (fun _ _ => True) told := by
  induction h generalizing told with
  | done _ => exact .done trivial
  | @ask call next _ hcall _ ih =>
      refine .ask ?_ fun reply => ih reply _
      cases call with
      | identify | acquire | create => exact absurd hcall not_false
      | _ => trivial

end Plan

open Plan

section

variable {s : Settings} {token : Option TokenId}

/-- A claim of a place neither identifies nor pays, whoever owns the place. -/
theorem claim_aside (place : Place) : (claim s place token).run.Aside := by
  rcases howns : s.ownsPlaces with _ | _
  · rw [run_claim_of_not_ownsPlaces howns]
    exact aside_done _
  rcases token with _ | id
  · rw [run_claim_none howns]
    exact aside_done _
  rw [run_claim howns]
  refine aside_ask trivial fun told => ?_
  rcases told with _ | _ | owner
  · exact aside_done _
  · refine aside_ask trivial fun reserved => ?_
    rcases reserved with _ | _
    · refine aside_ask trivial fun told => ?_
      rcases told with _ | _ | owner
      · exact aside_done _
      · exact aside_done _
      · exact aside_done _
    · exact aside_done _
  · exact aside_done _

/-- Asking whether a port belongs to somebody else neither identifies nor pays. -/
theorem reservedForOther_aside (port : UInt16) : (reservedForOther s port token).run.Aside := by
  rw [reservedForOther]
  rcases s.ownsPlaces with _ | _
  · exact aside_done _
  · refine aside_ask trivial fun told => ?_
    rcases told with _ | _ | owner
    · exact aside_done _
    · exact aside_done _
    · exact aside_done _

/-- Trying one port after another neither identifies nor pays, however many there are. -/
theorem bindFirst_aside (ports : List UInt16) : (bindFirst s token ports).run.Aside := by
  induction ports with
  | nil => exact aside_done _
  | cons port rest ih =>
      refine aside_run_bind (reservedForOther_aside port) fun taken => ?_
      rcases taken with _ | _
      · refine aside_ask trivial fun bound => ?_
        rcases bound with _ | _
        · exact ih
        · exact aside_done _
      · exact ih

/-- The choice of a port neither identifies nor pays, whether the request names one or not. -/
theorem choosePort_aside (wanted : UInt16) : (choosePort s token wanted).run.Aside := by
  rw [choosePort]
  split
  · rcases s.ports.check with r | range
    · exact aside_done _
    · exact bindFirst_aside range.ports
  · rcases s.ports.checkPort wanted with r | _
    · exact aside_done _
    · refine aside_run_mk_bind (aside_run_bind (claim_aside (.port wanted)) fun _ => ?_)
      refine aside_ask trivial fun bound => ?_
      rcases bound with _ | _
      · exact aside_done _
      · exact aside_done _

/-- The choice of an id neither identifies nor pays, whether the request names one or not. -/
theorem chooseId_aside (request : HttpTunnelRequest) : (chooseId s token request).run.Aside := by
  rw [chooseId]
  rcases namedId s.tunnelDomain request with r | _ | id
  · exact aside_done _
  · refine aside_ask trivial fun drawn => ?_
    rcases drawn with _ | id
    · exact aside_done _
    · exact aside_done _
  · exact aside_run_mk_bind (aside_run_bind (claim_aside (.subdomain id)) fun _ => aside_done _)

/-- The preparation of an HTTP tunnel neither identifies nor pays. -/
theorem prepare_aside (request : HttpTunnelRequest) : (prepare s token request).run.Aside := by
  rw [prepare]
  refine aside_run_bind (chooseId_aside request) fun id => ?_
  rcases Policy.ofRequest request with e | policy
  · exact aside_done _
  · exact aside_done _

/-- A refusal neither identifies nor pays. -/
theorem refuse_aside (kind : Option TunnelKind) (r : Rejection) : (refuse kind r).Aside :=
  aside_ask trivial fun _ => aside_ask trivial fun _ => aside_ask trivial fun _ => aside_done _

/-- Nobody pays while a port is served. -/
theorem serveTcp_aside (request : TcpTunnelRequest) : (serveTcp s token request).Aside := by
  rw [serveTcp]
  refine (choosePort_aside request.remotePort).bind fun result => ?_
  rcases result with r | port
  · exact refuse_aside _ r
  · refine aside_ask trivial fun sent => ?_
    rcases sent with _ | _
    · exact aside_ask trivial fun _ => aside_ask trivial fun _ => aside_done _
    · exact aside_ask trivial fun _ => aside_ask trivial fun _ => aside_ask trivial fun _ =>
        aside_done _

/-- Nobody pays while an HTTP tunnel is served. -/
theorem serveHttp_aside (request : HttpTunnelRequest) : (serveHttp s token request).Aside := by
  rw [serveHttp]
  refine (prepare_aside request).bind fun result => ?_
  rcases result with r | ⟨id, policy⟩
  · exact refuse_aside _ r
  · refine aside_ask trivial fun registered => ?_
    rcases registered with _ | _
    · exact refuse_aside _ _
    · refine aside_ask trivial fun sent => ?_
      rcases sent with _ | _
      · exact aside_ask trivial fun _ => aside_ask trivial fun _ => aside_done _
      · exact aside_ask trivial fun _ => aside_ask trivial fun _ => aside_ask trivial fun _ =>
          aside_done _

/-- Nobody pays while being served. -/
theorem serve_aside (admission : Admission) : (serve s admission).Aside := by
  have last : ∀ _ : Unit, (call .release).Aside := fun _ =>
    aside_ask trivial fun _ => aside_done _
  rw [serve]
  rcases admission.request with _ | request | request
  · exact (refuse_aside none _).bind last
  · exact (serveHttp_aside request).bind last
  · exact (serveTcp_aside request).bind last

end

/-! ### Sessions that pay -/

section

variable {s : Settings} {raw : RawRequest} {told : List Event}

/-- Looking at a token keeps the conduct, and whoever passes was told that the token is valid, where
tokens are looked up. -/
theorem authenticate_pays (shown : String) :
    (authenticate s shown).run.Obeys (payment s)
      (fun told' result => told ⊆ told' ∧
        ∀ u, result = .ok u → s.validates = true → ⟨.validate shown, some true⟩ ∈ told') told := by
  rw [authenticate]
  rcases s.validates with _ | _
  · rcases s.authToken with _ | expected
    · exact .done ⟨List.Subset.refl told, fun _ _ hlooked => absurd hlooked Bool.false_ne_true⟩
    · rw [if_neg (by simp)]
      dsimp only
      split
      · exact .done ⟨List.Subset.refl told, fun _ _ hlooked => absurd hlooked Bool.false_ne_true⟩
      · exact .done ⟨List.Subset.refl told, fun u hu => by cases hu⟩
  · refine .ask trivial fun reply => ?_
    have hmore : told ⊆ ⟨.validate shown, reply⟩ :: told := List.subset_cons_self _ _
    rcases reply with _ | _ | _
    · exact .done ⟨hmore, fun u hu => by cases hu⟩
    · exact .done ⟨hmore, fun u hu => by cases hu⟩
    · exact .done ⟨hmore, fun _ _ _ => List.mem_cons_self⟩

/-- Only a token that was told to be valid is identified, and whoever goes on is known by what it
identifies. -/
theorem identify_pays (hvalid : s.validates = true → ⟨.validate raw.authtoken, some true⟩ ∈ told) :
    (identify s raw.authtoken).run.Obeys (payment s)
      (fun told' result => told ⊆ told' ∧
        ∀ token, result = .ok token → Identified s raw told' token) told := by
  rw [identify]
  rcases hasked : s.identifies with _ | _
  · refine .done ⟨List.Subset.refl told, fun token htoken => ?_⟩
    obtain rfl := Except.ok.inj htoken
    exact .unasked hasked
  · refine .ask hvalid fun reply => ?_
    have hmore : told ⊆ ⟨.identify raw.authtoken, reply⟩ :: told := List.subset_cons_self _ _
    rcases reply with _ | id
    · exact .done ⟨hmore, fun token htoken => by cases htoken⟩
    · refine .done ⟨hmore, fun token htoken => ?_⟩
      obtain rfl := Except.ok.inj htoken
      exact .told hasked List.mem_cons_self

/-- Whoever pays does so with what its token was told to identify. -/
theorem charge_pays {token : Option TokenId} (hreceived : ⟨.receive, .request raw⟩ ∈ told)
    (htoken : Identified s raw told token) :
    (charge s token).run.Obeys (payment s) (fun _ _ => True) told := by
  rw [charge]
  refine .ask ⟨rfl, raw, token, hreceived, htoken, rfl⟩ fun reply => ?_
  rcases reply with _ | _
  · exact .done trivial
  refine .ask ⟨rfl, List.mem_cons_self⟩ fun reply => ?_
  rcases reply with _ | _
  · exact .ask trivial fun _ => .done trivial
  · exact .done trivial

/-- The screening of a request that was received pays for it as it should. -/
theorem screen_pays (hreceived : ⟨.receive, .request raw⟩ ∈ told) :
    (screen s raw).run.Obeys (payment s) (fun _ _ => True) told := by
  rw [screen]
  refine obeys_run_bind (authenticate_pays raw.authtoken) (fun told₁ u h₁ => ?_)
    fun _ _ _ => trivial
  refine obeys_run_bind (identify_pays (h₁.2 u rfl)) (fun told₂ token h₂ => ?_)
    fun _ _ _ => trivial
  have charged : ∀ request : Option TunnelRequest,
      (charge s token >>= fun _ => pure ⟨token, request⟩ : Trial Admission).run.Obeys
        (payment s) (fun _ _ => True) told₂ := fun request =>
    obeys_run_bind (charge_pays (h₂.1 (h₁.1 hreceived)) (h₂.2 token rfl))
      (fun _ _ _ => .done trivial) fun _ _ _ => trivial
  rcases raw.kind? with _ | kind
  · exact charged none
  · rcases raw.decode with r | request
    · exact .done trivial
    · exact charged (some request)

/-- The reply to a request that was received pays for it once, while it is screened, and not again
while it is served. -/
theorem respond_pays (hreceived : ⟨.receive, .request raw⟩ ∈ told) :
    (respond s raw).Obeys (payment s) (fun _ _ => True) told := by
  rw [respond]
  refine (screen_pays hreceived).bind fun told₁ result _ => ?_
  rcases result with r | admission
  · exact (refuse_aside _ r).pays told₁
  · exact (serve_aside admission).pays told₁

end

/-- **Every session pays with what its token was told to identify**, whatever it is told, and
identifies only a token that it was told is valid. -/
theorem session_pays (s : Settings) :
    (session s).Obeys (payment s) (fun _ _ => True) [] := by
  refine .ask trivial fun opened => ?_
  rcases opened with _ | _
  · exact .ask trivial fun _ => .done trivial
  refine .ask trivial fun reception => ?_
  rcases reception with raw | _ | _
  · exact respond_pays List.mem_cons_self
  · exact (refuse_aside none _).pays _
  · exact .ask trivial fun _ => .done trivial

end ReverseTunnel.Server
