/-!
# The state-machine engine

`framework/common/state_machine.c`. A machine record `M` embeds a `StateMachine S` (the
current state and the one before it); its states are the constructors of `S`, and the
`enter`/`exit` callbacks of the `state_t` tables are two functions of the state. The C
constructor stores a NULL state and transitions to the initial one at once, so `current`
is a plain `S` and `hsmCtor` enters the initial state with no previous one.
-/

namespace BtFramework

structure StateMachine (S : Type) where
  current : S
  previous : Option S
deriving DecidableEq

structure HsmOps (S M : Type) where
  sm : M → StateMachine S
  setSm : M → StateMachine S → M
  enter : S → M → M
  exit : S → M → M

def hsmCtor {S M : Type} (ops : HsmOps S M) (m : M) (initial : S) : M :=
  ops.enter initial (ops.setSm m { current := initial, previous := none })

def hsmTransitionTo {S M : Type} (ops : HsmOps S M) (m : M) (state : S) : M :=
  let cur := (ops.sm m).current
  let m := ops.exit cur m
  ops.enter state (ops.setSm m { current := state, previous := some cur })

end BtFramework
