import CloudReach.Duration

/-!
# Records of waits

The waits that were asked for, in order, for those who do not want to wait but to know.
-/

namespace CloudReach

structure WaitRecord where
  calls : List Duration
deriving DecidableEq

namespace WaitRecord

def empty : WaitRecord := ⟨[]⟩

def push (r : WaitRecord) (d : Duration) : WaitRecord :=
  ⟨r.calls ++ [d]⟩

def count (r : WaitRecord) : Nat :=
  r.calls.length

def total (r : WaitRecord) : Duration :=
  Duration.total r.calls

end WaitRecord

end CloudReach
