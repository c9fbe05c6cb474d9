import AgentGateway.Pool.HostPool

/-! Runs of one host's pool: calls under the host's lock and changes in the world outside it. -/

namespace AgentGateway.Pool

inductive Event where
  | checkout (tx : Nat)
  | connected (expectedCapacity : Nat) (conn : HttpConnection) (maxStreams : Nat) (isOpen : Bool)
  | connectFailed (expectedCapacity : Nat)
  | abandon (expectedCapacity : Nat)
  | dropPooled (conn : HttpConnection)
  | intoH2Parts (load : Nat)
  | dropGuard (load : Nat)
  | cancel (tx : Nat)
  | close (conn : Nat)
  | clearExpired
  | tick (d : Nat)
  deriving DecidableEq, Repr

def HttpConnection.id : HttpConnection → Nat
  | .http1 c => c
  | .http2 c => c

def World.Fresh (w : World) (c : Nat) : Prop :=
  c ∉ w.host.activeH2 ∧ (∀ e ∈ w.host.idle, e.value.id ≠ c) ∧ (∀ v ∈ w.pooled, v.id ≠ c) ∧ c ∉ w.guards

def World.connect (w : World) (conn : HttpConnection) (maxStreams : Nat) (isOpen : Bool) : World :=
  { w with loads := Function.update w.loads conn.id (H2Load.new maxStreams),
           ready := Function.update w.ready conn.id isOpen }

def Event.Enabled (settings : PoolSettings) (w : World) : Event → Prop
  | .connected e conn _ _ => e ∈ w.tokens ∧ w.Fresh conn.id
  | .connectFailed e => e ∈ w.tokens
  | .abandon e => e ∈ w.tokens
  | .dropPooled conn => conn ∈ w.pooled
  | .intoH2Parts load => .http2 load ∈ w.pooled
  | .dropGuard load => load ∈ w.guards
  | .clearExpired => settings.timeout.isSome
  | _ => True

def step (settings : PoolSettings) (capacity : ExpectedCapacity) (race : Nat → Bool) (w : World) :
    Event → Option World
  | .checkout tx => some (checkoutOrRegisterWaker settings w tx).1
  | .connected e conn m isOpen => insertNewConnection settings race (w.connect conn m isOpen) e conn
  | .connectFailed e => insertNewConnectionError race w e
  | .abandon e => dropShouldConnect race w e
  | .dropPooled conn => dropPooled settings race w conn
  | .intoH2Parts load => some (intoH2Parts w load)
  | .dropGuard load => dropGuard settings race w load
  | .cancel tx => some { w with canceled := Function.update w.canceled tx true }
  | .close c => some { w with ready := Function.update w.ready c false }
  | .clearExpired => some (match settings.timeout with
    | some dur => clearExpired capacity dur w
    | none => w)
  | .tick d => some { w with now := w.now + d }

inductive Reachable (settings : PoolSettings) (capacity : ExpectedCapacity) : World → Prop
  | init : Reachable settings capacity (World.init capacity)
  | step {w w' : World} (e : Event) (race : Nat → Bool) :
      Reachable settings capacity w → e.Enabled settings w → step settings capacity race w e = some w' →
      Reachable settings capacity w'

end AgentGateway.Pool
