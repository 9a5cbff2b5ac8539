import ReverseTunnel.Proofs.Policy.Changes
import ReverseTunnel.Proofs.Server.Forwarding

/-!
# What does not cross a tunnel

A request and its response travel over two connections, and what either says about its own
connection ends there. This is settled in three steps. Whether a visitor asks to go on with
another protocol is looked up first, then all fields that concern one connection are removed, and
then the question is put anew, in the server's own words. The changes of the tunnel come last: they
may bring back a field that the visitor listed, but none of those that always concern one
connection, for these are protected.

## Main definitions

* `Shed`: nothing is left of what concerned one connection.

## Main results

* `Shed.transform`: the changes of a tunnel bring nothing back.
* `shed_stripHop`: what is removed from a response.
* `shed_passedHeaders_but_upgrade`, `shed_passedHeaders_of_not_asksFor`: what is removed from a
  request.
* `nothing_hops_across`: what crosses a tunnel, in both directions.
-/

namespace ReverseTunnel.Gateway

open Http

variable {σ : Type} {s : Settings} {policy : Policy} {peer : Ip} {address : Option Ip}
  {host name : String} {headers arrived added : Headers} {kept : List String}

/-! ### What is left behind -/

/-- The two fields by which a neighbour is asked to go on with another protocol. -/
def upgradeNames : List String := ["connection", "upgrade"]

/-- Of the fields that arrived, nothing is sent that concerned one connection: neither what always
does nor what the `Connection` fields list. Apart from that are the names that are kept and, among
the listed ones, those that the tunnel adds by itself. -/
structure Shed (kept : List String) (arrived added sent : Headers) : Prop where
  hop : ∀ name ∈ hopByHop, name ∉ kept → sent.values name = []
  listed : ∀ name, arrived.Lists name → name ∉ kept → name ∉ added.map Prod.fst →
    sent.values name = []

/-- No field that always concerns one connection can be added or removed by a tunnel. -/
theorem hopByHop_protected : ∀ name ∈ hopByHop, name ∈ Policy.protectedHeaders := by decide

/-- The changes of a tunnel bring nothing back. -/
theorem Shed.transform (h : Shed kept arrived added headers) (remove : List String)
    (hadded : ∀ name ∈ hopByHop, name ∉ added.map Prod.fst) :
    Shed kept arrived added (Policy.transform remove added headers) where
  hop name hname hkept := by
    rw [Policy.values_transform_of_not_mem (hadded name hname), h.hop name hname hkept, ite_self]
  listed name hlists hkept hname := by
    rw [Policy.values_transform_of_not_mem hname, h.listed name hlists hkept hname, ite_self]

/-- Removing what concerns one connection leaves nothing of it. -/
theorem shed_stripHop : Shed [] headers added (headers.stripHop false) := by
  have hhop : ∀ name ∈ hopByHop, (headers.stripHop false).values name = [] := fun name hname =>
    Headers.values_stripHop_of_mem hname fun hkeeps => absurd hkeeps Bool.false_ne_true
  refine ⟨fun name hname _ => hhop name hname, fun name hlists _ _ => ?_⟩
  obtain ⟨hname, hwords⟩ := Headers.lists_iff.mp hlists
  by_cases hmem : name ∈ hopByHop
  · exact hhop name hmem
  · rw [Headers.values_stripHop hmem hname, if_pos hwords]

/-! ### What a client is sent -/

/-- The fields of a request as they are before those that concern one connection are removed: the
forwarding fields are the proxy's if there is one, and the server's own otherwise. -/
def writtenHeaders (s : Settings) (policy : Policy) (peer : Ip) (address : Option Ip)
    (host : String) (headers : Headers) : Headers :=
  if s.trustsProxy then dropCredential policy headers
  else setForwarding (dropCredential policy headers) (address.getD peer) host s.tls

/-- The earlier edits do not touch the two fields in which another protocol is asked for. -/
theorem values_writtenHeaders_upgradeNames (hname : name ∈ upgradeNames) :
    (writtenHeaders s policy peer address host headers).values name = headers.values name := by
  have hother : ∀ name ∈ upgradeNames,
      name ∉ ownNames ∧ name ∉ forwardingFields ∧ name ≠ "authorization" := by decide
  obtain ⟨hown, hforwarding, hauthorization⟩ := hother name hname
  rw [writtenHeaders]
  split
  · exact values_dropCredential hauthorization
  · rw [values_setForwarding_of_not_own hown, if_neg hforwarding,
      values_dropCredential hauthorization]

/-- What the visitor asks for is not touched by the earlier edits. -/
theorem passedHeaders_eq :
    passedHeaders s policy peer address host headers =
      setUpgrade ((writtenHeaders s policy peer address host headers).stripHop
        headers.upgrade?.isSome) headers.upgrade? := by
  have hupgrade : (dropCredential policy headers).upgrade? = headers.upgrade? := by
    rw [Headers.upgrade?, Headers.connectionWords_congr (values_dropCredential (by decide)),
      Headers.get?, values_dropCredential (by decide), ← Headers.get?, ← Headers.upgrade?]
  rw [passedHeaders, hupgrade, writtenHeaders]

/-- The earlier edits do not change which names are listed in `Connection` fields. -/
theorem lists_writtenHeaders :
    (writtenHeaders s policy peer address host headers).Lists name ↔ headers.Lists name := by
  rw [Headers.lists_iff, Headers.lists_iff,
    Headers.connectionWords_congr (values_writtenHeaders_upgradeNames (by decide))]

/-- A request keeps at most the question for another protocol. -/
theorem shed_passedHeaders_but_upgrade :
    Shed upgradeNames headers added (passedHeaders s policy peer address host headers) := by
  have hhop : ∀ name ∈ hopByHop, name ∉ upgradeNames →
      (passedHeaders s policy peer address host headers).values name = [] := by
    intro name hname hkept
    simp only [upgradeNames, List.mem_cons, List.not_mem_nil, or_false, not_or] at hkept
    rw [passedHeaders_eq, values_setUpgrade hkept.1 hkept.2,
      Headers.values_stripHop_of_mem hname fun _ => hkept]
  refine ⟨hhop, fun name hlists hkept _ => ?_⟩
  by_cases hmem : name ∈ hopByHop
  · exact hhop name hmem hkept
  · simp only [upgradeNames, List.mem_cons, List.not_mem_nil, or_false, not_or] at hkept
    obtain ⟨hname, hwords⟩ := Headers.lists_iff.mp (lists_writtenHeaders.mpr hlists)
    rw [passedHeaders_eq, values_setUpgrade hkept.1 hkept.2,
      Headers.values_stripHop hmem hname, if_pos hwords]

/-- The question is put once, in the server's own words. -/
theorem values_passedHeaders_of_asksFor {protocol : Bytes} (h : headers.AsksFor protocol) :
    (passedHeaders s policy peer address host headers).values "connection" =
        [Text.Utf8.encode "upgrade"] ∧
      (passedHeaders s policy peer address host headers).values "upgrade" = [protocol] := by
  rw [passedHeaders_eq, Headers.upgrade?_eq_some_iff.mpr h, setUpgrade]
  refine ⟨?_, Headers.values_set_self _ _ _⟩
  rw [Headers.values_set_of_ne _ _ (by decide), Headers.values_set_self]

/-- A request that does not ask keeps nothing. -/
theorem shed_passedHeaders_of_not_asksFor (h : ∀ protocol, ¬ headers.AsksFor protocol) :
    Shed [] headers added (passedHeaders s policy peer address host headers) := by
  have hnone : headers.upgrade? = none :=
    Option.eq_none_iff_forall_ne_some.mpr fun protocol hsome =>
      h protocol (Headers.upgrade?_eq_some_iff.mp hsome)
  rw [passedHeaders_eq, hnone]
  have hshed : Shed [] (writtenHeaders s policy peer address host headers) added
      ((writtenHeaders s policy peer address host headers).stripHop false) := shed_stripHop
  exact ⟨hshed.hop, fun name hlists => hshed.listed name (lists_writtenHeaders.mpr hlists)⟩

/-! ### The server's own answers -/

/-- What the server answers by itself. -/
def ownAnswers : List Response := [notFound, forbidden, unauthorized, badGateway]

/-- The server's own answers have no field that concerns one connection. -/
theorem shed_of_mem_ownAnswers {response : Response} (h : response ∈ ownAnswers) :
    Shed [] response.headers [] response.headers := by
  have hvalues : ∀ response ∈ ownAnswers, ∀ name ∈ hopByHop, response.headers.values name = [] := by
    decide
  refine ⟨fun name hname _ => hvalues response h name hname, ?_⟩
  rintro name ⟨-, value, hvalue, -⟩
  rw [hvalues response h "connection" (by decide)] at hvalue
  cases hvalue

/-- Whoever does not pass the check gets one of the server's own answers. -/
theorem mem_ownAnswers_of_check {request : Request} {response : Response}
    (h : check policy address request = .error response) : response ∈ ownAnswers := by
  by_cases haddress : AddressAdmitted policy address
  · by_cases hvisible : Visible policy request
    · obtain ⟨hok, herror⟩ := check_of_visible haddress hvisible
      by_cases hshown : CredentialShown policy request.headers
      · cases (hok hshown).symm.trans h
      · cases (herror hshown).symm.trans h
        simp [ownAnswers]
    · cases (check_of_not_visible haddress hvisible).symm.trans h
      simp [ownAnswers]
  · cases (check_of_not_addressAdmitted haddress).symm.trans h
    simp [ownAnswers]

section

variable {registry : Registry σ} {tunnel : Tunnel σ} {request : Request}

/-- A request that is answered without a tunnel gets one of the server's own answers. -/
theorem mem_ownAnswers_of_route {response : Response}
    (h : route s registry peer request = .answered response) : response ∈ ownAnswers := by
  rcases route_cases s registry peer request with hcontrol | hunknown | ⟨host, reached, hvisit⟩
  · cases hcontrol.symm.trans h
  · cases hunknown.symm.trans h
    simp [ownAnswers]
  · rcases hcheck : check reached.policy (Visitor.address? s.trustsProxy request.headers peer)
      request with answer | _
    · rw [hvisit, visit_of_error hcheck] at h
      cases h
      exact mem_ownAnswers_of_check hcheck
    · rw [hvisit, visit_of_ok hcheck] at h
      cases h

/-! ### What crosses -/

/-- What is sent is the request as the tunnel's policy prepares it. -/
theorem of_route_eq_forwarded {sent : Request} {upgrades : Bool}
    (h : route s registry peer request = .forwarded tunnel sent upgrades) :
    ∃ host address, sent.headers = tunnel.policy.transformRequest
        (passedHeaders s tunnel.policy peer address host request.headers) ∧
      upgrades = request.headers.upgrade?.isSome := by
  rcases route_cases s registry peer request with hcontrol | hunknown | ⟨host, reached, hvisit⟩
  · cases hcontrol.symm.trans h
  · cases hunknown.symm.trans h
  · rcases hcheck : check reached.policy (Visitor.address? s.trustsProxy request.headers peer)
      request with answer | _
    · rw [hvisit, visit_of_error hcheck] at h
      cases h
    · rw [hvisit, visit_of_ok hcheck] at h
      cases h
      exact ⟨host, _, rfl, rfl⟩

/-- **Nothing hops across a tunnel.** A client is sent no field of the visitor's that concerned the
visitor's connection, and a visitor gets none of the client's: neither those that always concern one
connection nor, unless the tunnel adds them, those that a `Connection` field lists. The one
exception is a request that asks to go on with another protocol. Its question is put to the client
in exactly one `Connection` field that says `upgrade` and exactly one `Upgrade` field, the visitor's
first; a response that agrees is not looked at. The server's own answers to visitors have no such
field. -/
theorem nothing_hops_across (s : Settings) (registry : Registry σ) (tunnel : Tunnel σ)
    (wanted : HttpTunnelRequest) (hpolicy : Policy.ofRequest wanted = .ok tunnel.policy)
    (peer : Ip) (request : Request) :
    (∀ sent upgrades, route s registry peer request = .forwarded tunnel sent upgrades →
      (∀ protocol, request.headers.AsksFor protocol →
        Shed upgradeNames request.headers tunnel.policy.requestAdd sent.headers ∧
          sent.headers.values "connection" = [Text.Utf8.encode "upgrade"] ∧
          sent.headers.values "upgrade" = [protocol]) ∧
      ((∀ protocol, ¬ request.headers.AsksFor protocol) →
        Shed [] request.headers tunnel.policy.requestAdd sent.headers) ∧
      (∀ reply : Response,
        ¬ (reply.status = 101 ∧ ∃ protocol, request.headers.AsksFor protocol) →
          Shed [] reply.headers tunnel.policy.responseAdd
            (finish tunnel.policy upgrades (some reply)).headers) ∧
      Shed [] (finish tunnel.policy upgrades none).headers []
        (finish tunnel.policy upgrades none).headers) ∧
    ∀ answer, route s registry peer request = .answered answer →
      Shed [] answer.headers [] answer.headers := by
  have hread := Policy.ofRequest_inv hpolicy
  have hrequestAdd : ∀ name ∈ hopByHop, name ∉ tunnel.policy.requestAdd.map Prod.fst :=
    fun name hname =>
      Policy.not_mem_of_readHeaders hread.requestAdd (hopByHop_protected name hname)
  have hresponseAdd : ∀ name ∈ hopByHop, name ∉ tunnel.policy.responseAdd.map Prod.fst :=
    fun name hname =>
      Policy.not_mem_of_readHeaders hread.responseAdd (hopByHop_protected name hname)
  refine ⟨fun sent upgrades hsent => ?_, fun answer hanswer =>
    shed_of_mem_ownAnswers (mem_ownAnswers_of_route hanswer)⟩
  obtain ⟨host, address, hheaders, rfl⟩ := of_route_eq_forwarded hsent
  rw [hheaders]
  refine ⟨fun protocol hasks => ?_, fun hasks => ?_, fun reply hreply => ?_, ?_⟩
  · have hprotected : ∀ name ∈ upgradeNames, name ∈ Policy.protectedHeaders := by decide
    rw [(Policy.values_transform_of_protected hread (hprotected _ (by decide))).1,
      (Policy.values_transform_of_protected hread (hprotected _ (by decide))).1]
    exact ⟨shed_passedHeaders_but_upgrade.transform _ hrequestAdd,
      values_passedHeaders_of_asksFor hasks⟩
  · exact (shed_passedHeaders_of_not_asksFor hasks).transform _ hrequestAdd
  · -- The response is only left alone where both sides agree to go on with another protocol.
    have hstrips : ¬ (reply.status = 101 ∧ request.headers.upgrade?.isSome = true) := by
      rintro ⟨hstatus, hsome⟩
      obtain ⟨protocol, hprotocol⟩ := Option.isSome_iff_exists.mp hsome
      exact hreply ⟨hstatus, protocol, Headers.upgrade?_eq_some_iff.mp hprotocol⟩
    rw [finish, if_neg hstrips]
    exact shed_stripHop.transform _ hresponseAdd
  · exact shed_of_mem_ownAnswers (by simp [ownAnswers, finish])

end

/-- A tunnel that adds a field of its own. -/
def markingRequest : HttpTunnelRequest where
  requestHeaderAdd := [⟨"X-Marked", "yes"⟩]

/-- That tunnel under its name. -/
def markingTunnel : Tunnel Unit :=
  ⟨"demo", (), { requestAdd := [("x-marked", Text.Utf8.encode "yes")] }⟩

/-- A server with that tunnel alone. -/
def markingRegistry : Registry Unit := ⟨⟨[("demo", markingTunnel)]⟩⟩

/-- A visitor that asks for another protocol in the last of its `Connection` fields, and lists a
field of its own in the first. -/
def askingVisit : Request where
  method := "GET"
  uri := ⟨none, none, "/", none⟩
  headers := [("host", Text.Utf8.encode "demo.tunnel.test"),
    ("connection", Text.Utf8.encode "keep-alive, X-Secret"),
    ("connection", Text.Utf8.encode "close , UpGrade"),
    ("upgrade", Text.Utf8.encode "websocket"),
    ("upgrade", Text.Utf8.encode "h2c"),
    ("keep-alive", Text.Utf8.encode "timeout=5"),
    ("x-secret", Text.Utf8.encode "1"),
    ("x-marked", Text.Utf8.encode "no")]

/-- The client is asked for the first protocol, and learns nothing of the field. -/
theorem askingVisit_sheds :
    Policy.ofRequest markingRequest = .ok markingTunnel.policy ∧
      ∃ sent, route bareSettings markingRegistry loopback askingVisit =
          .forwarded markingTunnel sent true ∧
        sent.headers.values "connection" = [Text.Utf8.encode "upgrade"] ∧
        sent.headers.values "upgrade" = [Text.Utf8.encode "websocket"] ∧
        sent.headers.values "keep-alive" = [] ∧ sent.headers.values "x-secret" = [] := by
  have hpolicy : Policy.ofRequest markingRequest = .ok markingTunnel.policy := rfl
  have hreaches : Reaches bareSettings markingRegistry askingVisit "demo.tunnel.test"
      markingTunnel := ⟨by decide +kernel, by decide +kernel, rfl⟩
  have hupgrade : askingVisit.headers.upgrade? = some (Text.Utf8.encode "websocket") := by
    decide +kernel
  have hsent := (route_of_reaches hreaches loopback).trans (visit_of_ok rfl)
  rw [hupgrade] at hsent
  have hasks := Headers.upgrade?_eq_some_iff.mp hupgrade
  have hlists : askingVisit.headers.Lists "x-secret" :=
    Headers.lists_iff.mpr ⟨by decide, by decide +kernel⟩
  have ⟨hrequest, _⟩ := nothing_hops_across bareSettings markingRegistry markingTunnel
    markingRequest hpolicy loopback askingVisit
  obtain ⟨hshed, hconnection, hprotocol⟩ := (hrequest _ _ hsent).1 _ hasks
  exact ⟨hpolicy, _, hsent, hconnection, hprotocol,
    hshed.hop "keep-alive" (by decide) (by decide),
    hshed.listed "x-secret" hlists (by decide) (by decide)⟩

end ReverseTunnel.Gateway
