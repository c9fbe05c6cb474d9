import AgentGateway.Pool.H2Pool

/-! The methods of `HostPool` and `Pool` that run under the host's lock, each on the whole state. -/

namespace AgentGateway.Pool

open H2Pool

namespace World

/-- The queue and the loads after a call on `host.active_h2`. -/
@[simps] def setH2 (w : World) (loads : Nat → H2Load) (activeH2 : List Nat) : World :=
  { w with loads, host := { w.host with activeH2 } }

/-- A `Pooled` handle sent down a waiter's channel. -/
@[simps] def sendPooled (w : World) (tx : Nat) (conn : HttpConnection) : World :=
  { w with pooled := w.pooled ++ [conn], delivered := w.delivered ++ [(tx, .pooled conn)] }

@[simps] def setWaiters (w : World) (waiters : List Nat) : World :=
  { w with host := { w.host with waiters } }

@[simps] def setIdle (w : World) (idle : List Idle) : World :=
  { w with host := { w.host with idle } }

/-- The counters of connections on their way. -/
@[simps] def setConnecting (w : World) (connecting expectedConnectingCapacity : Nat) : World :=
  { w with host := { w.host with connecting, expectedConnectingCapacity } }

@[simp] lemma setH2_self (w : World) : w.setH2 w.loads w.host.activeH2 = w := rfl

/-! The setters leave the functions they do not set alone, as functions. -/

@[simp] lemma setH2_loads' (w : World) (loads : Nat → H2Load) (activeH2 : List Nat) :
    (w.setH2 loads activeH2).loads = loads := rfl

@[simp] lemma setH2_ready' (w : World) (loads : Nat → H2Load) (activeH2 : List Nat) :
    (w.setH2 loads activeH2).ready = w.ready := rfl

@[simp] lemma setH2_canceled' (w : World) (loads : Nat → H2Load) (activeH2 : List Nat) :
    (w.setH2 loads activeH2).canceled = w.canceled := rfl

@[simp] lemma sendPooled_loads' (w : World) (tx : Nat) (conn : HttpConnection) :
    (w.sendPooled tx conn).loads = w.loads := rfl

@[simp] lemma sendPooled_ready' (w : World) (tx : Nat) (conn : HttpConnection) :
    (w.sendPooled tx conn).ready = w.ready := rfl

@[simp] lemma sendPooled_canceled' (w : World) (tx : Nat) (conn : HttpConnection) :
    (w.sendPooled tx conn).canceled = w.canceled := rfl

@[simp] lemma setWaiters_loads' (w : World) (waiters : List Nat) : (w.setWaiters waiters).loads = w.loads := rfl

@[simp] lemma setWaiters_ready' (w : World) (waiters : List Nat) : (w.setWaiters waiters).ready = w.ready := rfl

@[simp] lemma setWaiters_canceled' (w : World) (waiters : List Nat) :
    (w.setWaiters waiters).canceled = w.canceled := rfl

@[simp] lemma setIdle_loads' (w : World) (idle : List Idle) : (w.setIdle idle).loads = w.loads := rfl

@[simp] lemma setIdle_ready' (w : World) (idle : List Idle) : (w.setIdle idle).ready = w.ready := rfl

@[simp] lemma setIdle_canceled' (w : World) (idle : List Idle) : (w.setIdle idle).canceled = w.canceled := rfl

@[simp] lemma setConnecting_loads' (w : World) (n e : Nat) : (w.setConnecting n e).loads = w.loads := rfl

@[simp] lemma setConnecting_ready' (w : World) (n e : Nat) : (w.setConnecting n e).ready = w.ready := rfl

@[simp] lemma setConnecting_canceled' (w : World) (n e : Nat) :
    (w.setConnecting n e).canceled = w.canceled := rfl

end World

def pushIdleWithCap (maxIdlePerHost : Nat) (idle : List Idle) (value : HttpConnection) (idleAt : Nat) :
    List Idle :=
  if maxIdlePerHost = 0 then idle
  else (if idle.length ≥ maxIdlePerHost then idle.tail else idle) ++ [⟨idleAt, value⟩]

def releaseH2StreamWithoutReturningToIdle (w : World) : HttpConnection → Option World
  | .http1 _ => some w
  | .http2 h2 =>
    match (w.loads h2).releaseStreamSlot with
    | none => none
    | some (load, remaining, wasAtMax) =>
      let w := w.setH2 (Function.update w.loads h2 load) w.host.activeH2
      -- at zero the connection stays where it is: the caller decides
      if remaining = 0 then some w
      else if wasAtMax then some (w.setH2 w.loads (markActiveByLoad w.host.activeH2 h2))
      else some w

structure SendState where
  world : World
  capacity : Nat
  nextConn : Option HttpConnection
  sent : Nat

def sendLoop (race : Nat → Bool) : List Nat → SendState → Option (List Nat × SendState)
  | [], st => some ([], st)
  | tx :: waiters, st =>
    if st.capacity = 0 then some (tx :: waiters, st)
    else if st.world.canceled tx then sendLoop race waiters st
    else match st.nextConn with
      | none => some (waiters, st)
      | some thisConn =>
        let nextConn := thisConn.maybeClone
        let r := incrementLoad st.world.loads st.world.host.activeH2 thisConn
        let w := st.world.setH2 r.1 r.2.1
        if r.2.2 = some .noCapacity then some (waiters, { st with world := w, nextConn })
        else if race tx then
          -- the `Pooled` comes back in the error: its slot is given back
          match releaseH2StreamWithoutReturningToIdle w thisConn with
          | none => none
          | some w => sendLoop race waiters { st with world := w, nextConn := some thisConn }
        else
          let w := w.sendPooled tx thisConn
          let w := match nextConn with
            | some (.http2 h2) => w.setH2 w.loads (ensureTracked w.loads w.host.activeH2 h2)
            | _ => w
          sendLoop race waiters { world := w, capacity := st.capacity - 1, nextConn, sent := st.sent + 1 }

def sendConnection (settings : PoolSettings) (race : Nat → Bool) (capacity : Nat) (w : World)
    (conn : HttpConnection) : Option World :=
  match sendLoop race w.host.waiters ⟨w, capacity, some conn, 0⟩ with
  | none => none
  | some (waiters, st) =>
    let w := st.world.setWaiters waiters
    if st.sent = 0 then
      match st.nextConn with
      | some c =>
        let w := match c with
          | .http2 h2 => w.setH2 w.loads (remove w.host.activeH2 h2).2
          | .http1 _ => w
        some (w.setIdle (pushIdleWithCap settings.maxIdlePerHost w.host.idle c w.now))
      | none => some w
    else some w

def returnIdle (settings : PoolSettings) (race : Nat → Bool) (w : World) (conn : HttpConnection) :
    Option World :=
  sendConnection settings race 1 w conn

def returnH2Stream (settings : PoolSettings) (race : Nat → Bool) (w : World) (load : Nat) : Option World :=
  match (w.loads load).releaseStreamSlot with
  | none => none
  | some (l, remaining, wasAtMax) =>
    let w := w.setH2 (Function.update w.loads load l) w.host.activeH2
    if remaining = 0 then
      match removeByLoad w.host.activeH2 load with
      | (some v, activeH2) =>
        let w := w.setH2 w.loads activeH2
        if w.ready v then returnIdle settings race w (.http2 v) else some w
      | (none, _) => some w
    else if wasAtMax then some (w.setH2 w.loads (markActiveByLoad w.host.activeH2 load))
    else some w

def returnConnection (settings : PoolSettings) (race : Nat → Bool) (w : World) : HttpConnection → Option World
  | .http1 h => returnIdle settings race w (.http1 h)
  | .http2 h =>
    match (w.loads h).releaseStreamSlot with
    | none => none
    | some (l, remaining, wasAtMax) =>
      let w := w.setH2 (Function.update w.loads h l) w.host.activeH2
      if remaining = 0 then
        returnIdle settings race (w.setH2 w.loads (remove w.host.activeH2 h).2) (.http2 h)
      else if wasAtMax then some (w.setH2 w.loads (markActive w.host.activeH2 h))
      else some w

def returnDeadConnection (w : World) : HttpConnection → World
  | .http1 _ => w
  | .http2 h => w.setH2 w.loads (remove w.host.activeH2 h).2

def deliver (w : World) (tx : Nat) (d : Delivery) : World :=
  { w with delivered := w.delivered ++ [(tx, d)] }

/-- The first loop of `forget_pending_connection`: the first waiter still there gets the connect
error, or a retry error once that error is spent; a receiver gone in between hands the connect
error back for the next one. -/
def notifyFirst (race : Nat → Bool) : List Nat → Bool → World → List Nat × World
  | [], _, w => ([], w)
  | tx :: waiters, err, w =>
    if w.canceled tx then notifyFirst race waiters err w
    else if race tx then
      if err then notifyFirst race waiters true w else (waiters, w)
    else
      (waiters, deliver w tx (.err (if err then .normal else .checkoutIsClosed .connectionDroppedWithoutCompletion)))

def notifyRest (race : Nat → Bool) (e : Error) : List Nat → Nat → World → List Nat × World
  | [], _, w => ([], w)
  | tx :: waiters, toNotify, w =>
    if toNotify = 0 then (tx :: waiters, w)
    else if w.canceled tx then notifyRest race e waiters toNotify w
    else notifyRest race e waiters (toNotify - 1)
      (if race tx then w else deliver w tx (.err (.checkoutIsClosed e)))

def forgetPendingConnection (race : Nat → Bool) (w : World) (capacity : Nat) (err : Bool)
    (forUnderCapacityNewConnection : Bool) : Option World :=
  let connecting := if forUnderCapacityNewConnection then some w.host.connecting else w.host.connecting.psub 1
  match connecting, w.host.expectedConnectingCapacity.psub capacity with
  | some connecting, some expectedConnectingCapacity =>
    let w := w.setConnecting connecting expectedConnectingCapacity
    let first := if forUnderCapacityNewConnection then (w.host.waiters, w)
      else notifyFirst race w.host.waiters err w
    let toNotify := if forUnderCapacityNewConnection then capacity else capacity - 1
    let e := if forUnderCapacityNewConnection then Error.connectionLowCapacity
      else .waitingOnSharedFailedConnection
    let rest := notifyRest race e first.1 toNotify first.2
    some (rest.2.setWaiters rest.1)
  | _, _ => none

def Expiration.expires (timeout : Option Nat) (instant now : Nat) : Bool :=
  match timeout with
  | some timeout => decide (now - instant > timeout)
  | none => false

def popIdle (ready : Nat → Bool) (timeout : Option Nat) (now : Nat) : List Idle → List Idle × Option Idle
  | [] => ([], none)
  | entry :: rest =>
    if !entry.value.isOpen ready then popIdle ready timeout now rest
    else if Expiration.expires timeout entry.idleAt now then popIdle ready timeout now rest
    else (rest, some entry)

def IdlePopper.pop (ready : Nat → Bool) (timeout : Option Nat) (now : Nat) (list : List Idle) :
    List Idle × Option Idle :=
  let r := popIdle ready timeout now list.reverse
  (r.1.reverse, r.2)

inductive CheckoutResult where
  | checkout (conn : HttpConnection)
  | wait (waiter : Nat) (shouldConnect : Option Nat)
  deriving DecidableEq, Repr

/-- A free HTTP/2 stream, else an idle connection, else a place in the queue of waiters, with a
token to connect when the connections on their way cannot serve every waiter. -/
def checkoutOrRegisterWaker (settings : PoolSettings) (w : World) (tx : Nat) : World × CheckoutResult :=
  let r := reserve w.ready w.loads w.host.activeH2
  let w := w.setH2 r.1 r.2.1
  match r.2.2 with
  | some reserved => ({ w with pooled := w.pooled ++ [.http2 reserved] }, .checkout (.http2 reserved))
  | none =>
    let popped := IdlePopper.pop w.ready settings.timeout w.now w.host.idle
    let w := w.setIdle popped.1
    match popped.2 with
    | some got =>
      let m := maybeInsertNew w.loads w.host.activeH2 got.value true
      ({ w.setH2 m.1 m.2.1 with pooled := w.pooled ++ [m.2.2] }, .checkout m.2.2)
    | none =>
      let pending := w.host.expectedConnectingCapacity
      let waiters := w.host.waiters.filter fun t => !w.canceled t
      if pending ≤ waiters.length then
        let expected := w.host.perConnectionCapacityCache.expectedCapacity settings.expectedHttp2Capacity
        ({ w with
            host := { w.host with
              connecting := w.host.connecting + 1,
              expectedConnectingCapacity := w.host.expectedConnectingCapacity + expected,
              waiters := waiters ++ [tx] },
            tokens := w.tokens ++ [expected] },
          .wait tx (some expected))
      else ({ w with host := { w.host with waiters := waiters ++ [tx] } }, .wait tx none)

/-- The token is spent; the new connection serves waiters up to the smaller of its capacity and the
expected one, and waiters expected beyond its capacity are told to retry. -/
def insertNewConnection (settings : PoolSettings) (race : Nat → Bool) (w : World) (expectedCapacity : Nat)
    (conn : HttpConnection) : Option World :=
  let w := { w with tokens := w.tokens.erase expectedCapacity }
  let capacity := conn.capacity w.loads
  match w.host.connecting.psub 1, w.host.expectedConnectingCapacity.psub (min capacity expectedCapacity) with
  | some connecting, some ecc =>
    let w := w.setConnecting connecting ecc
    let m := maybeInsertNew w.loads w.host.activeH2 conn false
    let w := w.setH2 m.1 m.2.1
    match sendConnection settings race capacity w m.2.2 with
    | none => none
    | some w =>
      if capacity < expectedCapacity then
        forgetPendingConnection race { w with host := { w.host with perConnectionCapacityCache := .cached capacity } }
          (expectedCapacity - capacity) false true
      else some w
  | _, _ => none

def insertNewConnectionError (race : Nat → Bool) (w : World) (expectedCapacity : Nat) : Option World :=
  forgetPendingConnection race { w with tokens := w.tokens.erase expectedCapacity } expectedCapacity true false

def dropShouldConnect (race : Nat → Bool) (w : World) (expectedCapacity : Nat) : Option World :=
  forgetPendingConnection race { w with tokens := w.tokens.erase expectedCapacity } expectedCapacity false false

def dropPooled (settings : PoolSettings) (race : Nat → Bool) (w : World) (value : HttpConnection) :
    Option World :=
  let w := { w with pooled := w.pooled.erase value }
  if value.isOpen w.ready then returnConnection settings race w value
  else some (returnDeadConnection w value)

def dropGuard (settings : PoolSettings) (race : Nat → Bool) (w : World) (load : Nat) : Option World :=
  returnH2Stream settings race { w with guards := w.guards.erase load } load

def intoH2Parts (w : World) (load : Nat) : World :=
  { w with pooled := w.pooled.erase (.http2 load), guards := w.guards ++ [load] }

def clearExpired (capacity : ExpectedCapacity) (dur : Nat) (w : World) : World :=
  let idle := w.host.idle.filter fun entry => entry.value.isOpen w.ready && !decide (w.now - entry.idleAt > dur)
  let host := { w.host with idle }
  if idle.isEmpty && host.activeH2.isEmpty && host.connecting == 0 && host.waiters.isEmpty then
    { w with host := HostPool.new capacity }
  else { w with host }

end AgentGateway.Pool
