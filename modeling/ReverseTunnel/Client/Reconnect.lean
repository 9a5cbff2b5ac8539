import ReverseTunnel.TunnelError

/-!
# Tunnels that reconnect

A tunnel runs on one connection at a time. When it loses the connection it pauses, connects
again and asks for what it had. As long as the server says that asking again may help, it does
so, after ever longer pauses. It never goes on under another identity.

Whoever holds the tunnel may close it at any time. That is noted at once, and the run takes
notice of it where it waits.

## Main definitions

* `Tunnel`: a run, with what it holds and a record of what it did.
* `Event`, `Tunnel.step`: what can happen, and what the run does.
* `Tunnel.result?`: how it ended.
* `opening`: how it begins.
-/

namespace ReverseTunnel.Client

/-- The first pause, in milliseconds. -/
def firstPause : Nat := 250

/-- The longest pause, in milliseconds. -/
def longestPause : Nat := 5000

/-- The pause after another one. -/
def nextPause (pause : Nat) : Nat := min (pause * 2) longestPause

/-- What a run does. Connections are numbered in the order in which it gets them. -/
inductive Act where
  /-- It goes on with a stream that the server opened. -/
  | serve
  | pause (milliseconds : Nat)
  | dial
  /-- It asks on a new connection for what it had. -/
  | ask (connection : Nat)
  /-- It goes on with a connection. -/
  | install (connection : Nat)
  | close (connection : Nat)
  deriving DecidableEq, Repr

/-- Where a run stands. -/
inductive Stage where
  /-- It waits for streams. -/
  | serving
  /-- It pauses before it connects. -/
  | pausing (pause : Nat)
  /-- It connects; `retry` is the pause that follows if it cannot. -/
  | dialing (pause retry : Nat)
  /-- It pauses because it could not connect. -/
  | waiting (pause retry : Nat)
  /-- It has asked and waits for the answer. -/
  | asking (pause connection : Nat)
  /-- It is over but for its last act. -/
  | leaving (outcome : Except TunnelError Unit)
  | ended (result : Except TunnelError Unit)

/-- What can happen. Only some of it matters at each stage. -/
inductive Event (ι : Type) where
  /-- The server opens a stream. -/
  | opened
  /-- The connection is lost. -/
  | lost (error : TunnelError)
  /-- A pause is over. -/
  | rested
  /-- A new connection stands. -/
  | connected
  /-- No connection could be made. -/
  | unconnected (error : TunnelError)
  | answered (answer : Except TunnelError ι)
  /-- The holder closes the tunnel, and with it the connection that it runs on. -/
  | close
  /-- The holder cancels all that it runs. -/
  | cancel
  /-- The run takes notice that it was closed. -/
  | noticed
  /-- The run does its last act. -/
  | finished

/-- A run. -/
structure Tunnel (ι : Type) where
  /-- Whether it connects again when it loses the connection. -/
  reconnects : Bool
  /-- What it is known by. -/
  identity : ι
  /-- The connection that it runs on. -/
  current : Nat := 0
  /-- How many connections it has had. -/
  connections : Nat := 1
  /-- Whether its holder has closed it. -/
  closing : Bool := false
  stage : Stage := .serving
  /-- What it did, in order. -/
  acts : List Act := [.install 0]

namespace Tunnel

variable {ι : Type}

/-- The run with one more act done. -/
def act (t : Tunnel ι) (a : Act) : Tunnel ι := { t with acts := t.acts ++ [a] }

/-- The run at another stage. -/
def enter (t : Tunnel ι) (stage : Stage) : Tunnel ι := { t with stage }

/-- The run on its way out. -/
def leave (t : Tunnel ι) (outcome : Except TunnelError Unit) : Tunnel ι :=
  t.enter (.leaving outcome)

/-- The run pauses. -/
def rest (t : Tunnel ι) (pause : Nat) (stage : Stage) : Tunnel ι :=
  (t.act (.pause pause)).enter stage

/-- The run connects. -/
def dial (t : Tunnel ι) (pause retry : Nat) : Tunnel ι :=
  (t.act .dial).enter (.dialing pause retry)

/-- The run gets a connection and asks on it for what it had. -/
def ask (t : Tunnel ι) (pause : Nat) : Tunnel ι :=
  let t := { t with connections := t.connections + 1 }
  (t.act (.ask (t.connections - 1))).enter (.asking pause (t.connections - 1))

/-- The run goes on with a new connection, and only then closes the one before. -/
def install (t : Tunnel ι) (connection : Nat) : Tunnel ι :=
  let previous := t.current
  (({ t with current := connection }.act (.install connection)).act (.close previous)).enter
    .serving

/-- What the run does with the answer to its request. -/
def judge [DecidableEq ι] (shown : ι → String) (t : Tunnel ι) (pause connection : Nat) :
    Except TunnelError ι → Tunnel ι
  | .ok identity =>
    if identity = t.identity then t.install connection
    else
      (t.act (.close connection)).leave
        (.error (.resumeMismatch s!"expected {shown t.identity}, got {shown identity}"))
  | .error e =>
    let t := t.act (.close connection)
    if e.retryable then t.rest (nextPause pause) (.pausing (nextPause pause))
    else t.leave (.error e)

/-- How the run ends after its loop: closing it, by whatever way it is then noticed, is no
failure. -/
def finalResult (t : Tunnel ι) : Except TunnelError Unit → Except TunnelError Unit
  | .ok () => .ok ()
  | .error e => if t.closing ∨ e = .cancelled then .ok () else .error e

/-- What the run does while it waits for streams. That it was closed matters more than all
else. -/
def serve (t : Tunnel ι) : Event ι → Tunnel ι
  | .opened => if t.closing then t.leave (.ok ()) else t.act .serve
  | .lost e =>
    if t.closing then t.leave (.ok ())
    else if t.reconnects then t.rest firstPause (.pausing firstPause)
    else t.leave (.error e)
  | .noticed => if t.closing then t.leave (.ok ()) else t
  | _ => t

/-- One event. -/
def step [DecidableEq ι] (shown : ι → String) (t : Tunnel ι) (event : Event ι) : Tunnel ι :=
  match event with
  | .close =>
    match t.stage with
    | .ended _ => { t with closing := true }
    | _ => { t with closing := true }.act (.close t.current)
  | .cancel => { t with closing := true }
  | event =>
    match t.stage, event with
    | .serving, event => t.serve event
    | .pausing pause, .rested => t.dial pause firstPause
    | .dialing pause _, .connected => t.ask pause
    | .dialing pause retry, .unconnected _ => t.rest retry (.waiting pause retry)
    | .waiting pause retry, .rested => t.dial pause (nextPause retry)
    | .asking pause connection, .answered answer => t.judge shown pause connection answer
    | .asking _ connection, .noticed =>
      if t.closing then (t.act (.close connection)).leave (.error .cancelled) else t
    | .pausing _, .noticed | .dialing _ _, .noticed | .waiting _ _, .noticed =>
      if t.closing then t.leave (.error .cancelled) else t
    | .leaving outcome, .finished =>
      let t := t.act (.close t.current)
      t.enter (.ended (t.finalResult outcome))
    | _, _ => t

/-- The run after some events. -/
def run [DecidableEq ι] (shown : ι → String) (t : Tunnel ι) (events : List (Event ι)) :
    Tunnel ι :=
  events.foldl (step shown) t

/-- How the run ended, if it has. -/
def result? (t : Tunnel ι) : Option (Except TunnelError Unit) :=
  match t.stage with
  | .ended result => some result
  | _ => none

/-- What its holder is told when it waits for the end; `none` if it has to wait on. How the run
ended is told once. Whoever waits again only learns that nothing is left to wait for. -/
def wait (t : Tunnel ι) (waited : Bool) : Option (Except TunnelError Unit) :=
  if waited then some (.ok ()) else t.result?

/-- Whether a connection was closed. -/
def closed (t : Tunnel ι) (connection : Nat) : Bool := t.acts.contains (.close connection)

end Tunnel

/-- What is done to open a tunnel, and what comes of it: one connection, and one request on it.
Nothing is tried again. A connection on which nothing was granted is closed. -/
def opening {ι : Type} (reconnects cancelled : Bool) (connected : Except TunnelError Unit)
    (answered : Except TunnelError ι) : List Act × Except TunnelError (Tunnel ι) :=
  if cancelled then ([], .error .cancelled)
  else
    match connected, answered with
    | .error e, _ => ([.dial], .error e)
    | .ok (), .error e => ([.dial, .ask 0, .close 0], .error e)
    | .ok (), .ok identity => ([.dial, .ask 0], .ok { reconnects, identity })

/-- Opens a tunnel. -/
def openTunnel {ι : Type} (reconnects cancelled : Bool) (connected : Except TunnelError Unit)
    (answered : Except TunnelError ι) : Except TunnelError (Tunnel ι) :=
  (opening reconnects cancelled connected answered).2

end ReverseTunnel.Client
