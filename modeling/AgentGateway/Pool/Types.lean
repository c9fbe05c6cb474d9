import Mathlib.Data.Nat.PSub
import Mathlib.Logic.Function.Basic

/-! The connection pool of `crates/pool/src/pool.rs` for one host; underflows and a stream
released at zero are `none`. -/

namespace AgentGateway.Pool

inductive ExpectedCapacity where
  | http1
  | http2
  | auto
  deriving DecidableEq, Repr

inductive CapacityCache where
  | guess (capacity : ExpectedCapacity)
  | cached (exact : Nat)
  deriving DecidableEq, Repr

def CapacityCache.expectedCapacity (expectedHttp2Capacity : Nat) : CapacityCache → Nat
  | .guess .http1 => 1
  | .guess .http2 => expectedHttp2Capacity
  | .guess .auto => expectedHttp2Capacity
  | .cached exact => exact

inductive CapacityReservationResult where
  | noCapacity
  | reservedAndFilled
  | reservedButNotFilled
  deriving DecidableEq, Repr

structure H2Load where
  activeStreams : Nat
  maxStreams : Nat
  deriving DecidableEq, Repr

namespace H2Load

def new (maxStreams : Nat) : H2Load := ⟨0, max maxStreams 1⟩

def remainingCapacity (l : H2Load) : Nat := l.maxStreams - l.activeStreams

def tryReserveStreamSlot (l : H2Load) : H2Load × CapacityReservationResult :=
  if l.activeStreams < l.maxStreams then
    ({ l with activeStreams := l.activeStreams + 1 },
      if l.activeStreams + 1 ≥ l.maxStreams then .reservedAndFilled else .reservedButNotFilled)
  else (l, .noCapacity)

def releaseStreamSlot (l : H2Load) : Option (H2Load × Nat × Bool) :=
  if l.activeStreams = 0 then none
  else some ({ l with activeStreams := l.activeStreams - 1 }, l.activeStreams - 1,
    decide (l.activeStreams = l.maxStreams))

lemma tryReserveStreamSlot_of_lt {l : H2Load} (h : l.activeStreams < l.maxStreams) :
    l.tryReserveStreamSlot = ({ l with activeStreams := l.activeStreams + 1 },
      if l.activeStreams + 1 ≥ l.maxStreams then .reservedAndFilled else .reservedButNotFilled) :=
  if_pos h

lemma tryReserveStreamSlot_of_le {l : H2Load} (h : l.maxStreams ≤ l.activeStreams) :
    l.tryReserveStreamSlot = (l, .noCapacity) :=
  if_neg (Nat.not_lt.2 h)

@[simp] lemma tryReserveStreamSlot_maxStreams (l : H2Load) :
    l.tryReserveStreamSlot.1.maxStreams = l.maxStreams := by
  unfold tryReserveStreamSlot; split <;> rfl

lemma releaseStreamSlot_of_pos {l : H2Load} (h : 0 < l.activeStreams) :
    l.releaseStreamSlot = some ({ l with activeStreams := l.activeStreams - 1 }, l.activeStreams - 1,
      decide (l.activeStreams = l.maxStreams)) :=
  if_neg (by omega)

end H2Load

inductive HttpConnection where
  | http1 (conn : Nat)
  | http2 (load : Nat)
  deriving DecidableEq, Repr

namespace HttpConnection

def maybeClone : HttpConnection → Option HttpConnection
  | .http1 _ => none
  | .http2 h => some (.http2 h)

def capacity (loads : Nat → H2Load) : HttpConnection → Nat
  | .http1 _ => 1
  | .http2 h => (loads h).remainingCapacity

def isOpen (ready : Nat → Bool) : HttpConnection → Bool
  | .http1 h => ready h
  | .http2 h => ready h

end HttpConnection

structure Idle where
  idleAt : Nat
  value : HttpConnection
  deriving DecidableEq, Repr

inductive Error where
  | connectionDroppedWithoutCompletion
  | waitingOnSharedFailedConnection
  | connectionLowCapacity
  deriving DecidableEq, Repr

inductive ClientConnectError where
  | normal
  | checkoutIsClosed (e : Error)
  deriving DecidableEq, Repr

inductive Delivery where
  | pooled (conn : HttpConnection)
  | err (e : ClientConnectError)
  deriving DecidableEq, Repr

structure HostPool where
  connecting : Nat
  expectedConnectingCapacity : Nat
  perConnectionCapacityCache : CapacityCache
  idle : List Idle
  activeH2 : List Nat
  waiters : List Nat
  deriving DecidableEq, Repr

def HostPool.new (capacity : ExpectedCapacity) : HostPool :=
  ⟨0, 0, .guess capacity, [], [], []⟩

structure PoolSettings where
  maxIdlePerHost : Nat
  timeout : Option Nat
  expectedHttp2Capacity : Nat
  deriving DecidableEq, Repr

structure World where
  host : HostPool
  loads : Nat → H2Load
  ready : Nat → Bool
  canceled : Nat → Bool
  pooled : List HttpConnection
  guards : List Nat
  tokens : List Nat
  delivered : List (Nat × Delivery)
  now : Nat

def World.init (capacity : ExpectedCapacity) : World :=
  ⟨HostPool.new capacity, fun _ => H2Load.new 0, fun _ => false, fun _ => false, [], [], [], [], 0⟩

def World.reservations (w : World) (c : Nat) : Nat :=
  w.pooled.count (.http2 c) + w.guards.count c

def liveWaiters (canceled : Nat → Bool) (waiters : List Nat) : Nat :=
  waiters.countP fun tx => !canceled tx

end AgentGateway.Pool
