import ReverseTunnel.Proofs.Server.Discipline

/-!
# Grounds of answers

A session answers its client once. What it says rests on the request and on what it was told
since. A grant names an id that was asked for or drawn, or a port of the range. A rejection has a
ground: something that the request says (`Refused`), a reply that the session got (`Cause`), or an
owner who is somebody else. A place is reserved before the policy is read, the id registered or
the port bound; so three rejections can come after a reservation (`Late`), and no other.

## Main results

* `Dialogue.Sound.after`: what is due keeps a dialogue sound.
-/

namespace ReverseTunnel.Server

/-! ### Dialogues -/

/-- What a session heard and said. -/
structure Dialogue where
  /-- The request that it received. -/
  raw : Option RawRequest := none
  /-- What it has said, the latest first. -/
  said : List Answer := []
  /-- What it has reserved and for whom, the latest first. -/
  reserved : List (TokenId × Place) := []
  /-- All that it was told, the latest first. -/
  told : List Event := []

namespace Dialogue

/-- What a reply changes. -/
def note (d : Dialogue) : (call : Call) → call.Reply → Dialogue
  | .receive, .request raw => { d with raw := some raw }
  | .send answer, _ => { d with said := answer :: d.said }
  | .reserve token place, true => { d with reserved := (token, place) :: d.reserved }
  | _, _ => d

/-- The dialogue after one more reply. -/
def after (d : Dialogue) (e : Event) : Dialogue :=
  { d.note e.call e.reply with told := e :: d.told }

end Dialogue

/-! ### Why a request is turned down -/

section

variable (s : Settings) (raw : RawRequest)

/-- Whether a request names a place. -/
def Names (place : Place) : Prop :=
  ∃ request, raw.decode = .ok request ∧ namedPlace? s request = some place

/-- Whom the token of a request identifies, by what was told. -/
inductive Identified (told : List Event) : Option TokenId → Prop
  | told {id : Option TokenId} (hlooked : s.identifies = true)
      (h : ⟨.identify raw.authtoken, some id⟩ ∈ told) : Identified told (id.filter fun n => 0 < n)
  | unasked (h : s.identifies = false) : Identified told none

/-- Where an id comes from: the request names it, or it was drawn because none is named. -/
def ChosenId (told : List Event) (request : HttpTunnelRequest) (id : String) : Prop :=
  namedId s.tunnelDomain request = .ok (some id) ∨
    (namedId s.tunnelDomain request = .ok none ∧ ⟨.draw, some id⟩ ∈ told)

/-- Where a port comes from: the request names one of the range, or it is one of the range
because none is named. -/
def ChosenPort (request : TcpTunnelRequest) (port : UInt16) : Prop :=
  (request.remotePort = port ∧ port ≠ 0 ∧ s.ports.checkPort port = .ok ()) ∨
    (request.remotePort = 0 ∧ ∃ range, s.ports.check = .ok range ∧ port ∈ range.ports)

/-- What a request can be turned down for by itself. -/
inductive Refused : Rejection → Prop
  /-- It shows another token than the one that every client shows. -/
  | token {expected : String} (hlooked : s.validates = false)
      (hshared : s.authToken = some expected) (hsome : expected.isEmpty = false)
      (h : Text.trim raw.authtoken ≠ expected) : Refused (.plain .unauthorized)
  | kind (h : raw.kind? = none) : Refused (.plain .unsupportedType)
  | fields {kind : TunnelKind} {r : Rejection} (hkind : raw.kind? = some kind)
      (h : raw.decode = .error r) : Refused r
  | name {request : HttpTunnelRequest} {r : Rejection} (hasked : raw.decode = .ok (.http request))
      (h : namedId s.tunnelDomain request = .error r) : Refused r
  | policy {request : HttpTunnelRequest} {e : FieldError}
      (hasked : raw.decode = .ok (.http request)) (h : Policy.ofRequest request = .error e) :
      Refused e.toRejection
  | port {request : TcpTunnelRequest} {r : Rejection} (hasked : raw.decode = .ok (.tcp request))
      (hport : request.remotePort ≠ 0) (h : s.ports.checkPort request.remotePort = .error r) :
      Refused r
  | range {request : TcpTunnelRequest} {r : Rejection} (hasked : raw.decode = .ok (.tcp request))
      (hport : request.remotePort = 0) (h : s.ports.check = .error r) : Refused r
  /-- It leaves the choice of a port to the server, which finds none. -/
  | ports {request : TcpTunnelRequest} (hasked : raw.decode = .ok (.tcp request))
      (hport : request.remotePort = 0) : Refused (.plain .noPortsAvailable)

/-- The replies for which a request is turned down. -/
inductive Cause : Event → Rejection → Prop
  | invalid (hlooked : s.validates = true) :
      Cause ⟨.validate raw.authtoken, some false⟩ (.plain .unauthorized)
  | unvalidated : Cause ⟨.validate raw.authtoken, none⟩ (.plain .authError)
  | unidentified : Cause ⟨.identify raw.authtoken, none⟩ (.plain .authError)
  | slots (token : TokenId) : Cause ⟨.acquire token s.maxTunnels, false⟩ (.plain .tooManyTunnels)
  | rate (token : TokenId) : Cause ⟨.create token s.maxCreations, false⟩ (.plain .rateLimited)
  /-- A place is named, and the token identifies nobody. -/
  | anonymous {place : Place} {id : Option TokenId} (howns : s.ownsPlaces = true)
      (hnames : Names s raw place) (h : (id.filter fun n => 0 < n) = none) :
      Cause ⟨.identify raw.authtoken, some id⟩ (.plain .unauthorized)
  | lookup {place : Place} (hnames : Names s raw place) :
      Cause ⟨.owner place, none⟩ (lookupFailed place)
  | draw {request : HttpTunnelRequest} (hasked : raw.decode = .ok (.http request))
      (h : namedId s.tunnelDomain request = .ok none) :
      Cause ⟨.draw, none⟩ (.plain .allocationFailed)
  | bind {request : TcpTunnelRequest} (hasked : raw.decode = .ok (.tcp request))
      (hport : request.remotePort ≠ 0) :
      Cause ⟨.bind request.remotePort, false⟩ (.plain .portUnavailable)

/-- Why a request is turned down. -/
inductive Grounds (told : List Event) : Rejection → Prop
  | refused {r : Rejection} (h : Refused s raw r) : Grounds told r
  | cause {e : Event} {r : Rejection} (he : e ∈ told) (h : Cause s raw e r) : Grounds told r
  /-- The place that it names is somebody else's. -/
  | owned {place : Place} {owner token : TokenId} (howns : s.ownsPlaces = true)
      (hnames : Names s raw place) (htoken : Identified s raw told (some token))
      (howner : ⟨.owner place, some (some owner)⟩ ∈ told) (hne : owner ≠ token) :
      Grounds told (.plain .unauthorized)
  /-- The place could not be reserved, and nobody was found to own it. -/
  | claim {place : Place} {token : TokenId} (howns : s.ownsPlaces = true)
      (hnames : Names s raw place) (htoken : Identified s raw told (some token))
      (h : ⟨.reserve token place, false⟩ ∈ told) : Grounds told (claimFailed place)
  | register {request : HttpTunnelRequest} {id : String} {policy : Policy}
      (hasked : raw.decode = .ok (.http request)) (hid : ChosenId s told request id)
      (h : ⟨.register id policy, false⟩ ∈ told) : Grounds told (.plain .registrationFailed)

/-- What a request can be turned down for when its place was reserved already. -/
inductive Late : Rejection → Prop
  | policy {request : HttpTunnelRequest} {e : FieldError}
      (hasked : raw.decode = .ok (.http request)) (h : Policy.ofRequest request = .error e) :
      Late e.toRejection
  | register {request : HttpTunnelRequest} (hasked : raw.decode = .ok (.http request)) :
      Late (.plain .registrationFailed)
  | bind {request : TcpTunnelRequest} (hasked : raw.decode = .ok (.tcp request))
      (hport : request.remotePort ≠ 0) : Late (.plain .portUnavailable)

end

/-- What an answer rests on. -/
inductive Founded (s : Settings) (d : Dialogue) : Answer → Prop
  /-- No request was received. -/
  | malformed (h : d.raw = none) : Founded s d (.rejected none (.plain .protocol))
  | rejected {raw : RawRequest} {r : Rejection} (h : d.raw = some raw)
      (hgrounds : Grounds s raw d.told r) (hlate : d.reserved = [] ∨ Late raw r) :
      Founded s d (.rejected raw.kind? r)
  | name {raw : RawRequest} {request : HttpTunnelRequest} {policy : Policy} {id : String}
      (h : d.raw = some raw) (hasked : raw.decode = .ok (.http request))
      (hid : ChosenId s d.told request id) (hpolicy : Policy.ofRequest request = .ok policy) :
      Founded s d (.grantedName id (s.publicUrl id))
  | port {raw : RawRequest} {request : TcpTunnelRequest} {port : UInt16} (h : d.raw = some raw)
      (hasked : raw.decode = .ok (.tcp request)) (hport : ChosenPort s request port) :
      Founded s d (.grantedPort port)

section

variable {s : Settings} {raw : RawRequest} {told told' : List Event}

/-- A token that was identified stays so when more is heard. -/
theorem Identified.mono (hsub : told ⊆ told') {token : Option TokenId}
    (h : Identified s raw told token) : Identified s raw told' token := by
  cases h with
  | told hlooked h => exact .told hlooked (hsub h)
  | unasked h => exact .unasked h

/-- An id that was chosen, by the request or by chance, stays so when more is heard. -/
theorem ChosenId.mono (hsub : told ⊆ told') {request : HttpTunnelRequest} {id : String}
    (h : ChosenId s told request id) : ChosenId s told' request id :=
  h.imp_right fun ⟨hnone, hdrawn⟩ => ⟨hnone, hsub hdrawn⟩

/-- Good grounds for a rejection stay good when more is heard. -/
theorem Grounds.mono (hsub : told ⊆ told') {r : Rejection} (h : Grounds s raw told r) :
    Grounds s raw told' r := by
  cases h with
  | refused h => exact .refused h
  | cause he h => exact .cause (hsub he) h
  | owned howns hnames htoken howner hne =>
      exact .owned howns hnames (htoken.mono hsub) (hsub howner) hne
  | claim howns hnames htoken h => exact .claim howns hnames (htoken.mono hsub) (hsub h)
  | register hasked hid h => exact .register hasked (hid.mono hsub) (hsub h)

/-- What an answer rests on stays when more is heard. -/
theorem Founded.mono {d : Dialogue} {a : Answer} (h : Founded s d a) (d' : Dialogue)
    (hraw : d'.raw = d.raw) (hreserved : d'.reserved = d.reserved) (htold : d.told ⊆ d'.told) :
    Founded s d' a := by
  cases h with
  | malformed h => exact .malformed (hraw.trans h)
  | rejected h hgrounds hlate =>
      exact .rejected (hraw.trans h) (hgrounds.mono htold) (hreserved ▸ hlate)
  | name h hasked hid hpolicy => exact .name (hraw.trans h) hasked (hid.mono htold) hpolicy
  | port h hasked hport => exact .port (hraw.trans h) hasked hport

/-- The kind of tunnel in whose words an answer is given. -/
def Answer.schema : Answer → TunnelKind
  | .http _ => .http
  | .tcp _ => .tcp

/-- The message of the error in an answer, and its kind. -/
def errorParts : Answer → Option String × Option Rejection.Kind
  | .http answer => (answer.error, answer.errorKind)
  | .tcp answer => (answer.error, answer.errorKind)

/-- A rejection is answered with its own message and kind, in the words of either kind of tunnel. -/
@[simp] theorem errorParts_rejected (kind : Option TunnelKind) (r : Rejection) :
    errorParts (.rejected kind r) = (some r.message, some r.kind) := by
  rcases kind with _ | _ | _ <;> rfl

/-- Answers that reject are alike only if they give the same reason. -/
theorem rejected_inj {kind kind' : Option TunnelKind} {r r' : Rejection}
    (h : Answer.rejected kind r = .rejected kind' r') : r = r' := by
  have hparts := congrArg errorParts h
  simp only [errorParts_rejected, Prod.mk.injEq, Option.some.injEq] at hparts
  rcases r with ⟨kind, message⟩
  rcases r' with ⟨kind', message'⟩
  exact (Rejection.mk.injEq ..).mpr hparts.symm

/-- No answer rejects and grants. -/
theorem rejected_ne_of_errorParts {kind : Option TunnelKind} {r : Rejection} {a : Answer}
    (h : errorParts a = (none, none)) : Answer.rejected kind r ≠ a := by
  rintro rfl
  rw [errorParts_rejected] at h
  cases h

/-- What a rejection rests on. -/
theorem Founded.of_rejected {d : Dialogue} {kind : Option TunnelKind} {r : Rejection}
    (h : Founded s d (.rejected kind r)) :
    d.raw = none ∧ r = .plain .protocol ∨
      ∃ raw, d.raw = some raw ∧ Answer.rejected kind r = .rejected raw.kind? r ∧
        Grounds s raw d.told r ∧ (d.reserved = [] ∨ Late raw r) := by
  generalize ha : Answer.rejected kind r = a at h
  cases h with
  | malformed h => exact .inl ⟨h, rejected_inj ha⟩
  | rejected h hgrounds hlate =>
      obtain rfl := rejected_inj ha
      exact .inr ⟨_, h, rfl, hgrounds, hlate⟩
  | name => exact absurd ha (rejected_ne_of_errorParts rfl)
  | port => exact absurd ha (rejected_ne_of_errorParts rfl)

end

/-! ### What is due -/

/-- A list of one element at most has none but the one that is in it. -/
theorem eq_singleton_of_mem {α : Type} {l : List α} (h : l.length ≤ 1) {a : α} (ha : a ∈ l) :
    l = [a] := by
  rcases l with _ | ⟨b, _ | ⟨b', rest⟩⟩
  · exact absurd ha List.not_mem_nil
  · rw [List.mem_singleton.mp ha]
  · simp at h

namespace Dialogue

/-- Whether a place may be reserved: the request names it, and its token identifies whom it is
reserved for. -/
def Reservable (s : Settings) (d : Dialogue) (token : TokenId) (place : Place) : Prop :=
  s.ownsPlaces = true ∧
    ∃ raw, d.raw = some raw ∧ Names s raw place ∧ Identified s raw d.told (some token)

/-- The calls that a session may make, as far as its dialogue goes. -/
def Due (s : Settings) (d : Dialogue) : Call → Prop
  | .receive => d.raw = none ∧ d.said = []
  | .reserve token place => d.said = [] ∧ d.reserved = [] ∧ d.Reservable s token place
  | .send answer => d.said = [] ∧ Founded s d answer
  | _ => True

/-- What can be said of a dialogue at all times: one request was received at most; one answer was
given at most, and it is founded; one place was reserved at most. -/
structure Sound (s : Settings) (d : Dialogue) : Prop where
  received : ∀ raw, ⟨.receive, .request raw⟩ ∈ d.told → d.raw = some raw
  once : d.said.length ≤ 1
  founded : ∀ a ∈ d.said, Founded s d a
  single : d.reserved.length ≤ 1
  reservable : ∀ claim ∈ d.reserved, d.Reservable s claim.1 claim.2

/-- What is told without an effect leaves everything else as it is. -/
def hear (d : Dialogue) (more : List Event) : Dialogue := { d with told := more ++ d.told }

namespace Sound

variable {s : Settings} {d : Dialogue}

/-- A dialogue in which nothing was told is sound. -/
theorem start : Sound s {} where
  received _ h := absurd h List.not_mem_nil
  once := Nat.zero_le 1
  founded _ h := absurd h List.not_mem_nil
  single := Nat.zero_le 1
  reservable _ h := absurd h List.not_mem_nil

/-- What is heard is no request. -/
theorem hear (h : d.Sound s) (more : List Event)
    (hmore : ∀ raw, ⟨.receive, .request raw⟩ ∉ more) : (d.hear more).Sound s where
  received raw hraw := h.received raw ((List.mem_append.mp hraw).resolve_left (hmore raw))
  once := h.once
  founded a ha := (h.founded a ha).mono _ rfl rfl (List.subset_append_right more d.told)
  single := h.single
  reservable claim hclaim := by
    obtain ⟨howns, raw, hraw, hnames, htoken⟩ := h.reservable claim hclaim
    exact ⟨howns, raw, hraw, hnames, htoken.mono (List.subset_append_right more d.told)⟩

/-- What is due keeps a dialogue sound, whatever the reply. -/
theorem after (h : d.Sound s) {call : Call} (hdue : d.Due s call) (reply : call.Reply) :
    (d.after ⟨call, reply⟩).Sound s := by
  cases call with
  | receive =>
      obtain ⟨hraw, hsaid⟩ := hdue
      rcases reply with raw | _ | _
      · -- Without a request nothing was said, and nothing was reserved.
        refine ⟨fun other hother => ?_, h.once, fun a ha => ?_, h.single, fun claim hclaim => ?_⟩
        · rcases List.mem_cons.mp hother with heq | hother
          · cases heq
            rfl
          · exact absurd (hraw.symm.trans (h.received other hother)) (by simp)
        · have ha : a ∈ d.said := ha
          rw [hsaid] at ha
          exact absurd ha List.not_mem_nil
        · obtain ⟨-, earlier, hearlier, -⟩ := h.reservable claim hclaim
          exact absurd (hraw.symm.trans hearlier) (by simp)
      · exact h.hear [⟨.receive, .malformed⟩] (by simp)
      · exact h.hear [⟨.receive, .ended⟩] (by simp)
  | reserve token place =>
      obtain ⟨hsaid, hreserved, hplace⟩ := hdue
      rcases reply with _ | _
      · exact h.hear [⟨.reserve token place, false⟩] (by simp)
      · have hmore := h.hear [⟨.reserve token place, true⟩] (by simp)
        refine ⟨hmore.received, h.once, fun a ha => ?_, ?_, fun claim hclaim => ?_⟩
        · have ha : a ∈ d.said := ha
          rw [hsaid] at ha
          exact absurd ha List.not_mem_nil
        · exact Nat.le_of_eq (congrArg (fun claims => claims.length + 1) hreserved)
        · have hclaim : claim ∈ (token, place) :: d.reserved := hclaim
          rw [hreserved, List.mem_singleton] at hclaim
          subst hclaim
          obtain ⟨howns, raw, hraw, hnames, htoken⟩ := hplace
          exact ⟨howns, raw, hraw, hnames, htoken.mono (List.subset_cons_self _ _)⟩
  | send answer =>
      obtain ⟨hsaid, hfounded⟩ := hdue
      have hmore := h.hear [⟨.send answer, reply⟩] (by simp)
      refine ⟨hmore.received, ?_, fun a ha => ?_, hmore.single, hmore.reservable⟩
      · exact Nat.le_of_eq (congrArg (fun answers => answers.length + 1) hsaid)
      · have ha : a ∈ answer :: d.said := ha
        rw [hsaid, List.mem_singleton] at ha
        subst ha
        exact hfounded.mono _ rfl rfl (List.subset_cons_self _ _)
  | _ => exact h.hear [⟨_, reply⟩] (by simp)

/-- What was said is all that was said. -/
theorem said_eq (h : d.Sound s) {a : Answer} (ha : a ∈ d.said) : d.said = [a] :=
  eq_singleton_of_mem h.once ha

/-- What was reserved is all that was reserved. -/
theorem reserved_eq (h : d.Sound s) {claim : TokenId × Place} (hclaim : claim ∈ d.reserved) :
    d.reserved = [claim] :=
  eq_singleton_of_mem h.single hclaim

end Sound

end Dialogue

/-- The candor of sessions. -/
def candor (s : Settings) : Conduct Dialogue := ⟨Dialogue.after, Dialogue.Due s⟩

end ReverseTunnel.Server
