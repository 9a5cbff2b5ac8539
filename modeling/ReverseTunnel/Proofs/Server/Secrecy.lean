import ReverseTunnel.Proofs.Policy.Credential
import ReverseTunnel.Proofs.Server.HopByHop

/-!
# What becomes of a credential

Whoever visits a tunnel with a credential has to show it, and that is all it is good for. The field
in which it is shown is removed before anything else is done about the request, whatever values it
has, so the client never sees it. What the client gets in that field, if anything, is what it asked
for itself when it opened the tunnel.

## Main results

* `values_passedHeaders_authorization`: no value of the field passes.
* `credential_opens_and_stays`: who is let in by a credential, and what the client sees of it.
-/

namespace ReverseTunnel.Gateway

open Http

variable {σ : Type} {s : Settings} {policy : Policy} {peer : Ip} {address : Option Ip}
  {host : String} {headers : Headers}

/-- Where the tunnel has a credential, none that the visitor shows is left. -/
theorem values_dropCredential_self (h : policy.credential.isSome = true) :
    (dropCredential policy headers).values "authorization" = [] := by
  rw [dropCredential, if_pos h, Headers.values_remove_self]

/-- No later edit brings the field back. -/
theorem values_passedHeaders_authorization (h : policy.credential.isSome = true) :
    (passedHeaders s policy peer address host headers).values "authorization" = [] := by
  have hwritten : (writtenHeaders s policy peer address host headers).values "authorization" =
      [] := by
    rw [writtenHeaders]
    split
    · exact values_dropCredential_self h
    · rw [values_setForwarding_of_not_own (by decide), values_dropCredential_self h, ite_self]
  rw [passedHeaders_eq, values_setUpgrade (by decide) (by decide),
    Headers.values_stripHop (by decide) (by decide), hwritten, ite_self]

/-- **A credential opens its tunnel and goes no further.** It is shown by the values that are
written for it and by no others: plain text with the word `basic` in any case, a space, and the base
64 of the user, a colon and the password. Of such a request the client gets no `Authorization` field
but the one that its own tunnel adds, however many the visitor sent. -/
theorem credential_opens_and_stays (raw : String) (credential : Credential)
    (h : Credential.parse raw = .ok (some credential)) :
    ':' ∉ credential.user.toList ∧
    (∀ value, credential.verify (some value) = true ↔ credential.ShownBy value) ∧
    ∀ (s : Settings) (registry : Registry σ) (tunnel : Tunnel σ) (wanted : HttpTunnelRequest),
      wanted.basicAuth = raw → Policy.ofRequest wanted = .ok tunnel.policy →
      ∀ (peer : Ip) (request sent : Request) (upgrades : Bool),
        route s registry peer request = .forwarded tunnel sent upgrades →
          sent.headers.values "authorization" =
            (tunnel.policy.requestAdd.values "authorization").getLast?.toList := by
  refine ⟨Credential.not_mem_user_of_parse h, fun value => Credential.verify_iff h, ?_⟩
  intro s registry tunnel wanted hraw hpolicy peer request sent upgrades hsent
  have hcredential : tunnel.policy.credential = some credential := by
    have hread := (Policy.ofRequest_inv hpolicy).credential
    rw [hraw, h] at hread
    exact (Except.ok.inj hread).symm
  obtain ⟨host, address, hheaders, -⟩ := of_route_eq_forwarded hsent
  have hpassed : (passedHeaders s tunnel.policy peer address host request.headers).values
      "authorization" = [] :=
    values_passedHeaders_authorization (by rw [hcredential]; rfl)
  rw [hheaders, Policy.transformRequest, Policy.values_transform, hpassed, ite_self]
  cases (tunnel.policy.requestAdd.values "authorization").getLast? <;> rfl

/-- A tunnel with a credential whose password has a colon in it, and more than ASCII. -/
def lockedRequest : HttpTunnelRequest where
  basicAuth := " bob : p:ä "

/-- That credential: blanks in front of the password are its own. -/
def bob : Credential := ⟨"bob", " p:ä"⟩

/-- That tunnel under its name. -/
def lockedTunnel : Tunnel Unit := ⟨"demo", (), { credential := some bob }⟩

/-- A server with that tunnel alone. -/
def lockedRegistry : Registry Unit := ⟨⟨[("demo", lockedTunnel)]⟩⟩

/-- The value that a visitor shows. -/
def shownValue : Bytes := Text.Utf8.encode " bAsIc  Ym9iOiBwOsOk"

/-- A visitor that shows the credential, and something else behind it. -/
def knowingVisit : Request where
  method := "GET"
  uri := ⟨none, none, "/", none⟩
  headers := [("host", Text.Utf8.encode "demo.tunnel.test"), ("authorization", shownValue),
    ("authorization", Text.Utf8.encode "Bearer token")]

/-- The visitor is let in, and the client sees neither. -/
theorem knowingVisit_stays :
    Credential.parse lockedRequest.basicAuth = .ok (some bob) ∧
      bob.verify (some shownValue) = true ∧
      ∃ sent, route bareSettings lockedRegistry loopback knowingVisit =
          .forwarded lockedTunnel sent false ∧
        sent.headers.values "authorization" = [] := by
  have hparse : Credential.parse lockedRequest.basicAuth = .ok (some bob) := by rfl
  have hpolicy : Policy.ofRequest lockedRequest = .ok lockedTunnel.policy := by rfl
  have ⟨_, hshown, hstays⟩ := credential_opens_and_stays (σ := Unit) _ bob hparse
  have htext : Text.trim " bAsIc  Ym9iOiBwOsOk" = "bAsIc" ++ " " ++ " Ym9iOiBwOsOk" := by decide
  have hvalue : bob.ShownBy shownValue := .basic (by decide) htext (by decide) (by decide)
  have hreaches : Reaches bareSettings lockedRegistry knowingVisit "demo.tunnel.test"
      lockedTunnel := ⟨by decide, by decide +kernel, rfl⟩
  have hcheck : check lockedTunnel.policy (Visitor.address? bareSettings.trustsProxy
      knowingVisit.headers loopback) knowingVisit = .ok () :=
    check_eq_ok_iff.mpr ⟨.inl ⟨rfl, rfl⟩, ⟨by decide, by decide⟩,
      .inr ⟨bob, rfl, (hshown shownValue).mpr hvalue⟩⟩
  have hsent := (route_of_reaches hreaches loopback).trans (visit_of_ok hcheck)
  exact ⟨hparse, (hshown shownValue).mpr hvalue, _, hsent,
    hstays bareSettings lockedRegistry lockedTunnel lockedRequest rfl hpolicy loopback knowingVisit
      _ _ hsent⟩

end ReverseTunnel.Gateway
