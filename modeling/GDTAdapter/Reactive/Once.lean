import Mathlib.Data.Option.Basic

namespace Reactive

universe u

/-! # One-time blocks

`dispatch_once` runs its block once for each token.  A caller that finds the
block finished returns at once; a caller that re-enters the token from inside the
running block waits for itself and never returns, which is `none` here.
-/

inductive Once where
  | fresh
  | running
  | done
deriving DecidableEq, Repr

namespace Once

variable {State : Type u}

/-- `dispatch_once(&token, block)`; the token is a field of the state. -/
def dispatch (token : State → Once) (setToken : Once → State → State)
    (block : State → Option State) (state : State) : Option State :=
  match token state with
  | .fresh => (block (setToken .running state)).map (setToken .done)
  | .running => none
  | .done => some state

variable {token : State → Once} {setToken : Once → State → State}
  {block : State → Option State} {state : State}

theorem dispatch_fresh (unused : token state = .fresh) :
    dispatch token setToken block state =
      (block (setToken .running state)).map (setToken .done) := by
  rw [dispatch, unused]

theorem dispatch_running (busy : token state = .running) :
    dispatch token setToken block state = none := by
  rw [dispatch, busy]

theorem dispatch_done (used : token state = .done) :
    dispatch token setToken block state = some state := by
  rw [dispatch, used]

end Once

end Reactive
