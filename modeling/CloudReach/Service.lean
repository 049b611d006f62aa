import CloudReach.World

/-!
# Services

Something that answers requests, once it is ready. A transport is one that talks to the world
directly: its answers may depend on everything that has happened in it.
-/

namespace CloudReach

structure Service (σ : Type) where
  ready : Act σ (Except ProviderError Unit)
  call : Request → Act σ (Except ProviderError Response)

structure Transport (σ : Type) where
  ready : σ → Except ProviderError Unit × σ
  reply : Request → σ → Except ProviderError Response × σ

variable {σ : Type}

def Service.send (s : Service σ) (request : Request) : Act σ (Except ProviderError Response) := do
  match ← s.ready with
  | .error e => return .error e
  | .ok () => s.call request

def Transport.service (t : Transport σ) : Service σ where
  ready := Act.step t.ready
  call request := do
    Act.note (.sent request)
    Act.step (t.reply request)

end CloudReach
