import ReverseTunnel.Capture.Exchange
import ReverseTunnel.Client.HostLine
import ReverseTunnel.Client.Service
import ReverseTunnel.Stream.Bridge
import ReverseTunnel.Tls.Name
import ReverseTunnel.TunnelError

/-!
# One visit to the local service

The client passes what a visitor sends to the local service, with the host that it was told to
show, and what the service sends back to the visitor. If somebody watches, the first bytes of
both are kept as they came.
-/

namespace ReverseTunnel.Client

/-- How visits are passed on. -/
structure RelaySettings where
  /-- The host to show to the service, if it is not the visitor's. -/
  host : Option String := none
  /-- How many bytes of each side are kept, if somebody watches. -/
  previewLimit : Option Nat := none
  deriving DecidableEq, Repr

/-- A visit that is over. -/
structure Visit where
  /-- What went to the service. -/
  forward : CopyRun
  /-- What went to the visitor. -/
  backward : CopyRun

/-- What is kept of one side at its beginning. -/
def RelaySettings.preview? (s : RelaySettings) : Option Preview :=
  s.previewLimit.map fun limit => { limit }

/-- Something to read that is watched as the settings say. -/
def RelaySettings.watch (s : RelaySettings) (source : Source) : Tap := ⟨source, s.preview?⟩

/-- Copies a stream, the first of its requests with another host if there is one to show. -/
def copyAs (host : Option String) (tap : Tap) (sink : Sink) : CopyRun :=
  match host with
  | some host => copyWithHost tap sink host
  | none => copy tap sink

/-- Passes a visit from its beginning to the end of both sides. -/
def relay (s : RelaySettings) (visitor service : Source) : Visit where
  forward := copyAs s.host (s.watch visitor) {}
  backward := copyAs none (s.watch service) {}

/-- The bridge between a visitor and the local service, before anything was passed. The visitor is
ahead in every tie. -/
def RelaySettings.bridge (s : RelaySettings) : Bridge where
  forward := .start s.host s.preview?
  backward := .start none s.preview?

/-- Whether the client can speak to a service: one that is encrypted needs a name that a
certificate can prove. -/
def checkService (tls : Bool) (address : String) : Except TunnelError Unit :=
  if tls && !Tls.isServerName (Service.hostOfAddress address) then
    .error (.tls "Invalid upstream name: invalid dns name")
  else .ok ()

end ReverseTunnel.Client
