import ReverseTunnel.Proofs.Server.Claim
import ReverseTunnel.Proofs.Server.Conduct

/-!
# The discipline of sessions

What a session of the server can be relied on to do, whatever it is told. It takes a slot
before it has a tunnel, and gives it back only when it has none; it has one tunnel at most; it
unregisters the id that it registered and unbinds the port that it bound; and where it appears
is a place that it was entitled to when it got there. At its end it holds nothing.

## Main results

* `session_obeys`: every session keeps the discipline from its first call to its last.
* `Standing.Proper.after`: what is due keeps a standing proper.
-/

namespace ReverseTunnel.Server

/-! ### What is due -/

/-- The place that a request names, if it names one. -/
def namedPlace? (s : Settings) : TunnelRequest → Option Place
  | .http request =>
    match namedId s.tunnelDomain request with
    | .ok (some id) => some (.subdomain id)
    | _ => none
  | .tcp request => if request.remotePort = 0 then none else some (.port request.remotePort)

namespace Standing

/-- The session was told that this is the owner of the place, or made it so. -/
def Knows (st : Standing) (place : Place) (owner : TokenId) : Prop :=
  ⟨.owner place, some (some owner)⟩ ∈ st.past ∨ ⟨.reserve owner place, true⟩ ∈ st.past

/-- The session looked the place up, and was told that it is nobody's or its own. -/
def Spared (st : Standing) (place : Place) : Prop :=
  ∃ owner, ⟨.owner place, some owner⟩ ∈ st.past ∧ (owner = none ∨ owner = st.token)

/-- What a session has to know before it may appear at a place. Where places belong to tokens,
one that the request names has to be the token's own, and a port that it does not name must not
be somebody else's. A random id is nobody's business. -/
def Entitled (s : Settings) (st : Standing) (place : Place) : Prop :=
  ∃ request, st.asked = some request ∧
    match namedPlace? s request with
    | some named => place = named ∧
      (s.ownsPlaces = true → ∃ token, st.token = some token ∧ st.Knows place token)
    | none => s.ownsPlaces = true → ∀ port, place = .port port → st.Spared place

/-- Whether the session has the slot that its token needs for a tunnel. -/
def Charged (s : Settings) (st : Standing) : Prop :=
  ∀ token, st.token = some token → 0 < token ∧ (0 < s.maxTunnels → st.slot = .held token)

/-- Whether the session was asked for this policy. -/
def AskedFor (st : Standing) (policy : Policy) : Prop :=
  ∃ request, st.asked = some (.http request) ∧ Policy.ofRequest request = .ok policy

/-- The calls that a session may make. -/
def Due (s : Settings) (st : Standing) : Call → Prop
  | .receive | .identify _ => st.AtRest
  | .acquire token limit => st.AtRest ∧ token = st.token.getD 0 ∧ limit = s.maxTunnels
  | .release => st.Unseen
  | .register id policy =>
    st.Unseen ∧ st.Charged s ∧ st.Entitled s (.subdomain id) ∧ st.AskedFor policy
  | .unregister id => ∃ policy, st.listing = some (id, policy)
  | .bind port => st.Unseen ∧ st.Charged s ∧ st.Entitled s (.port port)
  | .unbind port => st.port = some port
  | _ => True

end Standing

/-- The discipline of sessions. -/
def discipline (s : Settings) : Conduct Standing := ⟨Standing.after, Standing.Due s⟩

/-! ### What is kept -/

namespace Standing

/-- What can be said of a session at all times: it has one tunnel at most, and for the one that
it has it was charged and entitled. -/
structure Proper (s : Settings) (st : Standing) : Prop where
  one : st.listing = none ∨ st.port = none
  charged : ¬ st.Unseen → st.Charged s
  listing : ∀ id policy, st.listing = some (id, policy) →
    st.Entitled s (.subdomain id) ∧ st.AskedFor policy
  port : ∀ port, st.port = some port → st.Entitled s (.port port)

/-- Hearing more changes nothing that a session is entitled to. -/
theorem Entitled.of_past {s : Settings} {st st' : Standing} {place : Place}
    (h : st.Entitled s place) (hasked : st'.asked = st.asked) (htoken : st'.token = st.token)
    (hpast : ∀ e ∈ st.past, e ∈ st'.past) : st'.Entitled s place := by
  obtain ⟨request, hr, h⟩ := h
  refine ⟨request, hasked.trans hr, ?_⟩
  rcases hn : namedPlace? s request with _ | named
  · simp only [hn] at h ⊢
    intro hs port hport
    obtain ⟨owner, howner, hown⟩ := h hs port hport
    exact ⟨owner, hpast _ howner, htoken ▸ hown⟩
  · simp only [hn] at h ⊢
    refine ⟨h.1, fun hs => ?_⟩
    obtain ⟨token, ht, hk⟩ := h.2 hs
    exact ⟨token, htoken.trans ht, hk.imp (hpast _) (hpast _)⟩

/-- The standing after hearing what changes nothing else. -/
def hear (st : Standing) (more : List Event) : Standing := { st with past := more ++ st.past }

/-- Hearing one thing and then another is hearing both. -/
theorem hear_hear (st : Standing) (first second : List Event) :
    (st.hear first).hear second = st.hear (second ++ first) := by
  simp [hear]

/-- A session that is entitled to a place is so whatever else it hears. -/
theorem Entitled.hear {s : Settings} {st : Standing} {place : Place} (h : st.Entitled s place)
    (more : List Event) : (st.hear more).Entitled s place :=
  h.of_past rfl rfl fun _ he => List.mem_append_right more he

namespace Proper

variable {s : Settings} {st : Standing}

/-- A session without a tunnel is proper, since there is nothing to be entitled to. -/
theorem of_unseen (h : st.Unseen) : st.Proper s where
  one := .inl h.1
  charged hn := absurd h hn
  listing id policy hl := by simp [h.1] at hl
  port port hp := by simp [h.2] at hp

/-- No session is found under an id and behind a port. -/
theorem not_both (h : st.Proper s) {listing : String × Policy} {port : UInt16}
    (hl : st.listing = some listing) (hp : st.port = some port) : False := by
  rcases h.one with hnone | hnone
  · rw [hnone] at hl
    cases hl
  · rw [hnone] at hp
    cases hp

/-- A standing that is proper is so whatever else is heard. -/
theorem hear (h : st.Proper s) (more : List Event) : (st.hear more).Proper s where
  one := h.one
  charged := h.charged
  listing id policy hl := ⟨(h.listing id policy hl).1.hear more, (h.listing id policy hl).2⟩
  port port hp := (h.port port hp).hear more

/-- What is due keeps a standing proper, whatever the reply. -/
theorem after (h : st.Proper s) {call : Call} (hdue : st.Due s call) (reply : call.Reply) :
    (st.after ⟨call, reply⟩).Proper s := by
  cases call with
  | receive =>
      refine of_unseen ?_
      rcases reply with raw | _ | _ <;>
        simpa [Standing.after, note, Unseen] using hdue.2
  | identify token => exact of_unseen hdue.2
  | acquire token limit =>
      refine of_unseen ?_
      rcases reply with _ | _ <;> exact hdue.1.2
  | release => exact of_unseen hdue
  | register id policy =>
      obtain ⟨hunseen, hcharged, hentitled, hasked⟩ := hdue
      rcases reply with _ | _
      · exact of_unseen hunseen
      · refine ⟨.inr hunseen.2, fun _ => hcharged, fun id' policy' hl => ?_, fun port hp => ?_⟩
        · obtain ⟨rfl, rfl⟩ := Prod.mk.inj (Option.some.inj hl)
          exact ⟨hentitled.of_past rfl rfl fun _ he => List.mem_cons_of_mem _ he, hasked⟩
        · exact absurd (hunseen.2.symm.trans hp) (by simp)
  | unregister id =>
      obtain ⟨policy, hl⟩ := hdue
      refine of_unseen ⟨rfl, h.one.resolve_left ?_⟩
      simp [hl]
  | bind port =>
      obtain ⟨hunseen, hcharged, hentitled⟩ := hdue
      rcases reply with _ | _
      · exact of_unseen hunseen
      · refine ⟨.inl hunseen.1, fun _ => hcharged, fun id policy hl => ?_, fun port' hp => ?_⟩
        · exact absurd (hunseen.1.symm.trans hl) (by simp)
        · obtain rfl := Option.some.inj hp
          exact hentitled.of_past rfl rfl fun _ he => List.mem_cons_of_mem _ he
  | unbind port =>
      have hport : st.port = some port := hdue
      refine of_unseen ⟨h.one.resolve_right ?_, rfl⟩
      simp [hport]
  | _ => exact h.hear [⟨_, reply⟩]

end Proper

end Standing

/-! ### Reservations -/

namespace Standing

/-- The later standing differs from the earlier one in what was heard, and in nothing else. -/
def Hears (st st' : Standing) : Prop := ∃ more, st' = st.hear more

namespace Hears

/-- Without a reply, nothing more is heard. -/
theorem refl (st : Standing) : st.Hears st := ⟨[], rfl⟩

/-- What is heard over two parts is heard over both of them. -/
theorem trans {a b c : Standing} (hab : a.Hears b) (hbc : b.Hears c) : a.Hears c := by
  obtain ⟨first, rfl⟩ := hab
  obtain ⟨second, rfl⟩ := hbc
  exact ⟨second ++ first, hear_hear a first second⟩

end Hears

/-- Most replies change nothing. -/
theorem hears_after (st : Standing) (call : Call) (reply : call.Reply)
    (h : st.note call reply = st) : st.Hears (st.after ⟨call, reply⟩) :=
  ⟨[⟨call, reply⟩], by rw [after, h]; rfl⟩

namespace Hears

variable {st st' : Standing}

/-- One more reply that is noted nowhere else leaves a difference only in what was heard. -/
theorem step (h : st.Hears st') (call : Call) (reply : call.Reply)
    (hnote : st'.note call reply = st') : st.Hears (st'.after ⟨call, reply⟩) :=
  h.trans (st'.hears_after call reply hnote)

/-- What is heard changes nothing about whether a session has a tunnel. -/
theorem unseen (h : st.Hears st') (hunseen : st.Unseen) : st'.Unseen := by
  obtain ⟨more, rfl⟩ := h
  exact hunseen

/-- What is heard changes nothing about whether a session is at rest. -/
theorem atRest (h : st.Hears st') (hrest : st.AtRest) : st'.AtRest := by
  obtain ⟨more, rfl⟩ := h
  exact hrest

end Hears

end Standing

section

variable {s : Settings} {st : Standing}

/-- How a claim ends: nothing was changed, and a session whose claim was granted knows that the
place is its token's own. -/
def EndsClaimed (s : Settings) (place : Place) (token : Option TokenId) (st st' : Standing)
    (result : Except Rejection Unit) : Prop :=
  st.Hears st' ∧ (result = .ok () → s.ownsPlaces = true →
    ∃ owner, token = some owner ∧ st'.Knows place owner)

/-- A claim that was refused ends as it should, if nothing was changed. -/
theorem endsClaimed_error {place : Place} {token : Option TokenId} {st' : Standing}
    (h : st.Hears st') (r : Rejection) : EndsClaimed s place token st st' (.error r) :=
  ⟨h, fun hr => by cases hr⟩

/-- Whoever was told the owner and is judged to be it knows the owner. -/
theorem endsClaimed_judge {place : Place} {token owner : TokenId} {st' : Standing}
    (h : st.Hears st') (howner : ⟨.owner place, some (some owner)⟩ ∈ st'.past) :
    EndsClaimed s place (some token) st st' (judge token owner) := by
  refine ⟨h, fun hj _ => ⟨token, rfl, .inl ?_⟩⟩
  rw [judge] at hj
  split at hj
  · rename_i heq
    exact heq ▸ howner
  · cases hj

/-- A claim asks, and learns that the place is the token's own unless it is turned down. -/
theorem claim_obeys {token : Option TokenId} (place : Place) :
    (claim s place token).run.Obeys (discipline s) (EndsClaimed s place token st) st := by
  rcases hs : s.ownsPlaces with _ | _
  · rw [run_claim_of_not_ownsPlaces hs]
    exact .done ⟨.refl st, fun _ h => absurd (hs.symm.trans h) (by simp)⟩
  rcases token with _ | token
  · rw [run_claim_none hs]
    exact .done (endsClaimed_error (.refl st) _)
  rw [run_claim hs]
  refine .ask trivial fun reply₁ => ?_
  have h₁ := st.hears_after (.owner place) reply₁ rfl
  rcases reply₁ with _ | _ | owner
  · exact .done (endsClaimed_error h₁ _)
  · refine .ask trivial fun reply₂ => ?_
    have h₂ := h₁.step (.reserve token place) reply₂ rfl
    rcases reply₂ with _ | _
    · refine .ask trivial fun reply₃ => ?_
      have h₃ := h₂.step (.owner place) reply₃ rfl
      rcases reply₃ with _ | _ | owner
      · exact .done (endsClaimed_error h₃ _)
      · exact .done (endsClaimed_error h₃ _)
      · exact .done (endsClaimed_judge h₃ List.mem_cons_self)
    · exact .done ⟨h₂, fun _ _ => ⟨token, rfl, .inr List.mem_cons_self⟩⟩
  · exact .done (endsClaimed_judge h₁ List.mem_cons_self)

/-- A port that is found not to be reserved for somebody else was looked up before. -/
theorem reservedForOther_obeys (port : UInt16) {token : Option TokenId}
    (htoken : st.token = token) :
    (reservedForOther s port token).run.Obeys (discipline s)
      (fun st' result => st.Hears st' ∧
        (result = .ok false → s.ownsPlaces = true → st'.Spared (.port port))) st := by
  rw [reservedForOther]
  rcases hs : s.ownsPlaces with _ | _
  · exact .done ⟨.refl st, fun _ h => by simp at h⟩
  refine .ask trivial fun reply => ?_
  have hears := st.hears_after (.owner (.port port)) reply rfl
  rcases reply with _ | _ | owner
  · exact .done ⟨hears, fun h => by simp at h⟩
  · exact .done ⟨hears, fun _ _ => ⟨none, List.mem_cons_self, .inl rfl⟩⟩
  · refine .done ⟨hears, fun h _ => ⟨some owner, List.mem_cons_self, .inr ?_⟩⟩
    have : some owner = token := by simpa using h
    exact this.trans htoken.symm

/-! ### Places -/

/-- How the choice of a port ends: the port was bound last, or nothing was changed. -/
def EndsBound (st st' : Standing) : Except Rejection UInt16 → Prop
  | .ok port => ∃ mid, st.Hears mid ∧ st' = mid.after ⟨.bind port, true⟩
  | .error _ => st.Hears st'

/-- What was only heard before the choice of a port does not change how the choice ends. -/
theorem EndsBound.of_hears {st mid st' : Standing} {result : Except Rejection UInt16}
    (h : st.Hears mid) (hend : EndsBound mid st' result) : EndsBound st st' result := by
  rcases result with r | port
  · exact h.trans hend
  · obtain ⟨mid', hmid, rfl⟩ := hend
    exact ⟨mid', h.trans hmid, rfl⟩

/-- The scan of a range binds nothing but a port that it was entitled to. -/
theorem bindFirst_obeys {token : Option TokenId} {request : TunnelRequest}
    (hnamed : namedPlace? s request = none) (ports : List UInt16) (hunseen : st.Unseen)
    (hcharged : st.Charged s) (htoken : st.token = token) (hasked : st.asked = some request) :
    (bindFirst s token ports).run.Obeys (discipline s) (EndsBound st) st := by
  -- Between two tries the session has heard something, and nothing else has changed; so the
  -- claim is carried over to the standing after each try.
  induction ports generalizing st with
  | nil => exact .done (.refl st)
  | cons port rest ih =>
      refine obeys_run_bind (reservedForOther_obeys port htoken) (fun st' taken h => ?_)
        fun st' r h => h.1
      obtain ⟨⟨more, rfl⟩, hspared⟩ := h
      rcases taken with _ | _
      · refine .ask ⟨hunseen, hcharged, request, hasked, ?_⟩ fun reply => ?_
        · simp only [hnamed]
          intro hs port' hport
          exact hport ▸ hspared rfl hs
        · rcases reply with _ | _
          · have next := @ih ((st.hear more).hear [⟨.bind port, false⟩]) hunseen hcharged htoken
              hasked
            refine next.mono fun st'' result hend => hend.of_hears ?_
            exact .trans ⟨more, rfl⟩ ⟨_, rfl⟩
          · exact .done ⟨st.hear more, ⟨more, rfl⟩, rfl⟩
      · have next := @ih (st.hear more) hunseen hcharged htoken hasked
        exact next.mono fun st'' result hend => hend.of_hears ⟨more, rfl⟩

/-- Whichever way a port is chosen, it is one that the session was entitled to. -/
theorem choosePort_obeys {token : Option TokenId} {request : TcpTunnelRequest}
    (hunseen : st.Unseen) (hcharged : st.Charged s) (htoken : st.token = token)
    (hasked : st.asked = some (.tcp request)) :
    (choosePort s token request.remotePort).run.Obeys (discipline s) (EndsBound st) st := by
  rw [choosePort]
  by_cases hzero : request.remotePort = 0
  · rw [if_pos hzero]
    have hnamed : namedPlace? s (.tcp request) = none := if_pos hzero
    rcases s.ports.check with r | range
    · exact .done (.refl st)
    · exact bindFirst_obeys hnamed range.ports hunseen hcharged htoken hasked
  · rw [if_neg hzero]
    have hnamed : namedPlace? s (.tcp request) = some (.port request.remotePort) := if_neg hzero
    rcases s.ports.checkPort request.remotePort with r | _
    · exact .done (.refl st)
    refine obeys_run_mk_bind ?_
    refine obeys_run_bind (claim_obeys (.port request.remotePort)) (fun st' _ h => ?_)
      fun st' r h => h.1
    obtain ⟨⟨more, rfl⟩, hknows⟩ := h
    refine .ask ⟨hunseen, hcharged, .tcp request, hasked, ?_⟩ fun reply => ?_
    · simp only [hnamed]
      refine ⟨trivial, fun hs => ?_⟩
      obtain ⟨owner, howner, hk⟩ := hknows rfl hs
      exact ⟨owner, htoken.trans howner, hk⟩
    · rcases reply with _ | _
      · exact .done (.trans ⟨more, rfl⟩ (Standing.hears_after _ _ _ rfl))
      · exact .done ⟨st.hear more, ⟨more, rfl⟩, rfl⟩

/-- Whichever way an id is chosen, it is one that the session is entitled to. -/
theorem chooseId_obeys {token : Option TokenId} {request : HttpTunnelRequest}
    (htoken : st.token = token) (hasked : st.asked = some (.http request)) :
    (chooseId s token request).run.Obeys (discipline s)
      (fun st' result => st.Hears st' ∧
        ∀ id, result = .ok id → st'.Entitled s (.subdomain id)) st := by
  rw [chooseId]
  rcases hnamed : namedId s.tunnelDomain request with r | _ | id
  · exact .done ⟨.refl st, fun id hid => by simp at hid⟩
  · refine .ask trivial fun reply => ?_
    have hears := st.hears_after .draw reply rfl
    rcases reply with _ | id
    · exact .done ⟨hears, fun id hid => by simp at hid⟩
    · refine .done ⟨hears, fun id' _ => ⟨.http request, hasked, ?_⟩⟩
      simp only [namedPlace?, hnamed]
      exact fun _ port hport => by simp at hport
  · refine obeys_run_mk_bind ?_
    refine obeys_run_bind (claim_obeys (.subdomain id)) (fun st' _ h => ?_)
      fun st' r h => ⟨h.1, fun id hid => by simp at hid⟩
    obtain ⟨⟨more, rfl⟩, hknows⟩ := h
    refine .done ⟨⟨more, rfl⟩, fun id' hid => ⟨.http request, hasked, ?_⟩⟩
    obtain rfl := Except.ok.inj hid
    simp only [namedPlace?, hnamed]
    refine ⟨trivial, fun hs => ?_⟩
    obtain ⟨owner, howner, hk⟩ := hknows rfl hs
    exact ⟨owner, htoken.trans howner, hk⟩

/-- The id is one that the session is entitled to, and the policy the one that was asked for. -/
theorem prepare_obeys {token : Option TokenId} {request : HttpTunnelRequest}
    (htoken : st.token = token) (hasked : st.asked = some (.http request)) :
    (prepare s token request).run.Obeys (discipline s)
      (fun st' result => st.Hears st' ∧ ∀ id policy, result = .ok (id, policy) →
        st'.Entitled s (.subdomain id) ∧ Policy.ofRequest request = .ok policy) st := by
  rw [prepare]
  refine obeys_run_bind (chooseId_obeys htoken hasked) (fun st' id h => ?_) fun st' r h =>
    ⟨h.1, fun id policy hid => by simp at hid⟩
  rcases hpolicy : Policy.ofRequest request with e | policy
  · exact .done ⟨h.1, fun id policy hid => by simp at hid⟩
  · refine .done ⟨h.1, fun id' policy' hid => ?_⟩
    obtain ⟨rfl, rfl⟩ := Prod.mk.inj (Except.ok.inj hid)
    exact ⟨h.2 id rfl, rfl⟩

/-! ### Admission -/

/-- To look at a token changes nothing. -/
theorem authenticate_obeys (token : String) :
    (authenticate s token).run.Obeys (discipline s) (fun st' _ => st.Hears st') st := by
  rw [authenticate]
  rcases s.validates with _ | _
  · rcases s.authToken with _ | expected
    · exact .done (Standing.Hears.refl st)
    · rw [if_neg (by simp)]
      dsimp only
      split
      · exact .done (Standing.Hears.refl st)
      · exact .done (Standing.Hears.refl st)
  · refine .ask trivial fun reply => ?_
    have hears := st.hears_after (.validate token) reply rfl
    rcases reply with _ | _ | _
    · exact .done hears
    · exact .done hears
    · exact .done hears

/-- The identity of a session is the positive number that it was told, or none. -/
theorem identify_obeys (shown : String) (hrest : st.AtRest) (hnone : st.token = none) :
    (identify s shown).run.Obeys (discipline s)
      (fun st' result => st'.AtRest ∧ st'.asked = st.asked ∧ ∀ token, result = .ok token →
        st'.token = token ∧ ∀ id, token = some id → 0 < id) st := by
  rw [identify]
  rcases s.identifies with _ | _
  · refine .done ⟨hrest, rfl, fun token h => ?_⟩
    obtain rfl := Except.ok.inj h
    exact ⟨hnone, fun id hid => by simp at hid⟩
  · refine .ask hrest fun reply => ?_
    rcases reply with _ | known
    · exact .done ⟨hrest, rfl, fun token h => by simp at h⟩
    · refine .done ⟨hrest, rfl, fun token h => ?_⟩
      obtain rfl := Except.ok.inj h
      exact ⟨rfl, fun id hid => by simpa using (Option.filter_eq_some_iff.mp hid).2⟩

/-- A session that may go on has its slot; one that may not has none. -/
theorem charge_obeys {token : Option TokenId} (hrest : st.AtRest) (htoken : st.token = token)
    (hpos : ∀ id, token = some id → 0 < id) :
    (charge s token).run.Obeys (discipline s)
      (fun st' result => match result with
        | .ok _ => st'.Unseen ∧ st'.Charged s ∧ st'.token = token ∧ st'.asked = st.asked
        | .error _ => st'.AtRest) st := by
  rw [charge]
  refine .ask ⟨hrest, by rw [htoken], rfl⟩ fun reply => ?_
  rcases reply with _ | _
  · exact .done hrest
  refine .ask trivial fun reply => ?_
  rcases reply with _ | _
  · exact .ask hrest.2 fun _ => .done ⟨rfl, hrest.2⟩
  · refine .done ⟨hrest.2, fun id hid => ?_, htoken, rfl⟩
    have hid : token = some id := htoken.symm.trans hid
    refine ⟨hpos id hid, fun hmax => ?_⟩
    subst hid
    exact if_neg (not_or.mpr ⟨by omega, by simpa using hpos id rfl⟩)

/-- An unknown kind of request has no fields to read. -/
theorem decode_of_kind?_eq_none {raw : RawRequest} (h : raw.kind? = none) :
    raw.decode.toOption = none := by
  simp [RawRequest.decode, h, Except.toOption]

/-- How the screening ends: the session was charged and what it asks for is known, or it holds
nothing. -/
def EndsScreened (s : Settings) (st : Standing) : Except Rejection Admission → Prop
  | .ok admission => st.Unseen ∧ st.Charged s ∧ st.token = admission.token ∧
      st.asked = admission.request
  | .error _ => st.AtRest

/-- Whoever is admitted was charged. -/
theorem screen_obeys {raw : RawRequest} (hrest : st.AtRest) (hnone : st.token = none)
    (hasked : st.asked = raw.decode.toOption) :
    (screen s raw).run.Obeys (discipline s) (EndsScreened s) st := by
  rw [screen]
  refine obeys_run_bind (authenticate_obeys raw.authtoken) (fun st' _ h => ?_) fun st' r h => ?_
  · obtain ⟨more, rfl⟩ := h
    have hrest : (st.hear more).AtRest := hrest
    refine obeys_run_bind (identify_obeys raw.authtoken hrest hnone) (fun st' token h => ?_)
      fun st' r h => h.1
    obtain ⟨hrest', hasked', htoken⟩ := h
    obtain ⟨htoken, hpos⟩ := htoken token rfl
    have charged : ∀ request, st'.asked = request →
        (charge s token >>= fun _ => pure ⟨token, request⟩ : Trial Admission).run.Obeys
          (discipline s) (EndsScreened s) st' := fun request hrequest =>
      obeys_run_bind (charge_obeys hrest' htoken hpos)
        (fun st'' _ h => .done ⟨h.1, h.2.1, h.2.2.1, h.2.2.2.trans hrequest⟩) fun st'' r h => h
    rcases hkind : raw.kind? with _ | kind
    · exact charged none (hasked'.trans (hasked.trans (decode_of_kind?_eq_none hkind)))
    · rcases hdecode : raw.decode with r | request
      · exact .done hrest'
      · exact charged (some request) (hasked'.trans (hasked.trans (by rw [hdecode]; rfl)))
  · exact h.atRest hrest

/-! ### Whole sessions -/

/-- To turn a request down changes nothing. -/
theorem refuse_obeys (kind : Option TunnelKind) (r : Rejection) {post : Standing → Prop}
    (hpost : ∀ st', st.Hears st' → post st') :
    (refuse kind r).Obeys (discipline s) (fun st' _ => post st') st := by
  refine .ask trivial fun sent => .ask trivial fun _ => .ask trivial fun _ => .done (hpost _ ?_)
  have hsent := st.hears_after (.send (.rejected kind r)) sent rfl
  exact (hsent.step .linger () rfl).step .close () rfl

/-- Once the port is unbound there is no tunnel, also after the connection was closed. -/
theorem unseen_after_unbind {port : UInt16} (h : st.listing = none) (reply : Unit) :
    (st.after ⟨.unbind port, reply⟩).Unseen :=
  ⟨h, rfl⟩

/-- Once the id is unregistered there is no tunnel, also after the connection was closed. -/
theorem unseen_after_unregister {id : String} (h : st.port = none) (reply : Unit) :
    (st.after ⟨.unregister id, reply⟩).Unseen :=
  ⟨rfl, h⟩

/-- A session that serves a port unbinds it at the end, whether or not it could say so. -/
theorem serveTcp_obeys {token : Option TokenId} {request : TcpTunnelRequest}
    (hunseen : st.Unseen) (hcharged : st.Charged s) (htoken : st.token = token)
    (hasked : st.asked = some (.tcp request)) :
    (serveTcp s token request).Obeys (discipline s) (fun st' _ => st'.Unseen) st := by
  rw [serveTcp]
  refine (choosePort_obeys hunseen hcharged htoken hasked).bind fun st' result hend => ?_
  rcases result with r | port
  · exact refuse_obeys _ r fun st'' h => (Standing.Hears.trans hend h).unseen hunseen
  · obtain ⟨mid, hmid, hend⟩ := hend
    have bound : ∀ st'', st'.Hears st'' → st''.listing = none ∧ st''.port = some port := by
      rintro _ ⟨more, rfl⟩
      subst hend
      exact ⟨(hmid.unseen hunseen).1, rfl⟩
    refine .ask trivial fun sent => ?_
    have hsent := st'.hears_after (.send (.grantedPort port)) sent rfl
    rcases sent with _ | _
    · have hclosed := hsent.step .close () rfl
      refine .ask trivial fun _ => .ask (bound _ hclosed).2 fun _ => .done ?_
      exact unseen_after_unbind (bound _ hclosed).1 ()
    · have hwaited := hsent.step .await () rfl
      refine .ask trivial fun _ => .ask (bound _ hwaited).2 fun _ => .ask trivial fun _ => .done ?_
      exact (Standing.hears_after _ .close () rfl).unseen
        (unseen_after_unbind (bound _ hwaited).1 ())

/-- A session that serves a name unregisters the id that it registered, and no other. -/
theorem serveHttp_obeys {token : Option TokenId} {request : HttpTunnelRequest}
    (hunseen : st.Unseen) (hcharged : st.Charged s) (htoken : st.token = token)
    (hasked : st.asked = some (.http request)) :
    (serveHttp s token request).Obeys (discipline s) (fun st' _ => st'.Unseen) st := by
  rw [serveHttp]
  refine (prepare_obeys htoken hasked).bind fun st' result h => ?_
  obtain ⟨⟨more, rfl⟩, hplace⟩ := h
  have hunseen' : (st.hear more).Unseen := hunseen
  rcases result with r | ⟨id, policy⟩
  · exact refuse_obeys _ r fun st'' h => h.unseen hunseen'
  obtain ⟨hentitled, hpolicy⟩ := hplace id policy rfl
  refine .ask ⟨hunseen, hcharged, hentitled, request, hasked, hpolicy⟩ fun registered => ?_
  rcases registered with _ | _
  · have hfailed := Standing.hears_after (st.hear more) (.register id policy) false rfl
    exact refuse_obeys _ _ fun st'' h => h.unseen (hfailed.unseen hunseen')
  · let listed := (st.hear more).after ⟨.register id policy, true⟩
    have found : ∀ st'', listed.Hears st'' →
        st''.listing = some (id, policy) ∧ st''.port = none := by
      rintro _ ⟨more', rfl⟩
      exact ⟨rfl, hunseen.2⟩
    have leave : ∀ st'', listed.Hears st'' →
        (call (.unregister id) >>= fun _ => call .close).Obeys (discipline s)
          (fun left _ => left.Unseen) st'' := by
      intro st'' h
      refine .ask ⟨policy, (found st'' h).1⟩ fun _ => .ask trivial fun _ => .done ?_
      exact (Standing.hears_after _ .close () rfl).unseen
        (unseen_after_unregister (found st'' h).2 ())
    refine .ask trivial fun sent => ?_
    have hsent := listed.hears_after (.send (.grantedName id (s.publicUrl id))) sent rfl
    rcases sent with _ | _
    · exact leave _ hsent
    · exact .ask trivial fun _ => leave _ (hsent.step .await () rfl)

/-- A session that was admitted gives its slot back last. -/
theorem serve_obeys {admission : Admission} (h : EndsScreened s st (.ok admission)) :
    (serve s admission).Obeys (discipline s) (fun st' _ => st'.AtRest) st := by
  obtain ⟨hunseen, hcharged, htoken, hasked⟩ := h
  have last : ∀ (st' : Standing) (_ : Unit), st'.Unseen →
      (call .release).Obeys (discipline s) (fun st'' _ => st''.AtRest) st' :=
    fun st' _ h => .ask h fun _ => .done ⟨rfl, h⟩
  rw [serve]
  rcases hrequest : admission.request with _ | request | request
  · exact (refuse_obeys none _ fun st' h => h.unseen hunseen).bind last
  · exact (serveHttp_obeys hunseen hcharged htoken (hasked.trans hrequest)).bind last
  · exact (serveTcp_obeys hunseen hcharged htoken (hasked.trans hrequest)).bind last

/-- A session that knows nothing but its request, and holds nothing, keeps the discipline. -/
theorem respond_obeys {raw : RawRequest} (hrest : st.AtRest) (hnone : st.token = none)
    (hasked : st.asked = raw.decode.toOption) :
    (respond s raw).Obeys (discipline s) (fun st' _ => st'.AtRest) st := by
  rw [respond]
  refine (screen_obeys hrest hnone hasked).bind fun st' result h => ?_
  rcases result with r | admission
  · exact refuse_obeys _ r fun st'' hears => hears.atRest h
  · exact serve_obeys h

end

/-- **Every session keeps the discipline**, whatever it is told, and holds nothing when it
ends. -/
theorem session_obeys (s : Settings) :
    (session s).Obeys (discipline s) (fun st _ => st.AtRest) {} := by
  have hrest : ∀ past, Standing.AtRest { past := past } := fun _ => ⟨rfl, rfl, rfl⟩
  refine .ask trivial fun opened => ?_
  rcases opened with _ | _
  · exact .ask trivial fun _ => .done (hrest _)
  refine .ask (hrest _) fun reception => ?_
  rcases reception with raw | _ | _
  · refine respond_obeys ?_ ?_ ?_ <;>
      simp only [discipline, Standing.after, Standing.note, Standing.AtRest, Standing.Unseen,
        and_self]
  · exact refuse_obeys none _ fun st' h => h.atRest (hrest _)
  · exact .ask trivial fun _ => .done (hrest _)

end ReverseTunnel.Server
