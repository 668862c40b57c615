namespace SecureSockets

/-!
Locks.  A lock is poisoned when somebody panics who holds it, and taking it is a failure
from then on; the failure carries what is behind the lock all the same.
-/

structure Lock (β : Type) where
  inner : β
  poisoned : Bool := false

namespace Lock

variable {β : Type}

/-- What taking the lock gives.  Whoever finds it poisoned is told so, but gets what is
behind it all the same. -/
def take (lock : Lock β) : Except β β :=
  if lock.poisoned then .error lock.inner else .ok lock.inner

def recover (lock : Lock β) : β :=
  match lock.take with
  | .ok inner => inner
  | .error inner => inner

def poison (lock : Lock β) : Lock β :=
  { lock with poisoned := true }

@[simp] theorem recover_eq (lock : Lock β) : lock.recover = lock.inner := by
  unfold recover take
  cases lock.poisoned <;> rfl

end Lock

end SecureSockets
