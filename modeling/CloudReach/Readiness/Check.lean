import CloudReach.Readiness.Poll

/-!
# Checks of instances and sockets

An instance is ready when it is in the state that is waited for, a socket when a probe finds it
open.
-/

namespace CloudReach

inductive InstanceState
  | pending
  | running
  | shuttingDown
  | terminated
  | stopping
  | stopped
deriving DecidableEq

namespace InstanceState

def all : List InstanceState :=
  [pending, running, shuttingDown, terminated, stopping, stopped]

def text : InstanceState → String
  | pending => "pending"
  | running => "running"
  | shuttingDown => "shutting-down"
  | terminated => "terminated"
  | stopping => "stopping"
  | stopped => "stopped"

end InstanceState

structure Instance where
  id : String
  region : Region
deriving DecidableEq

structure IpSocket where
  address : String
  port : UInt16
deriving DecidableEq

def IpSocket.text (s : IpSocket) : String :=
  if s.address.toList.contains ':' then s!"[{s.address}]:{s.port}" else s!"{s.address}:{s.port}"

namespace Check

variable {σ ε : Type}

def instanceState (describe : Instance → Act σ (Except ProviderError InstanceState))
    (target : InstanceState) : Check σ ProviderError Instance := fun i => do
  match ← describe i with
  | .error e => return .error e
  | .ok state => return .ok (state = target)

def socketOpen (probe : IpSocket → Act σ (Except ε Bool)) : Check σ ε IpSocket :=
  probe

end Check

end CloudReach
