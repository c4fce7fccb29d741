import BtFramework.Keyed
import BtFramework.Runs

/-!
# The service manager

A service reports by a callback, while it is being asked or later, and on every callback the
manager goes through its table again.

Starting and stopping are written twice in the source; here they are one definition with the
phase as a parameter. `log` records the calls and notifications, each with the table at that
moment.
-/

namespace BtFramework.Services

inductive ProfileState where
  | turnOff | turningOn | turnOn | turningOff
  deriving DecidableEq

/-- `profile_service_t`; `getState` is what the service answers. -/
structure ProfileService where
  transport : UInt8
  autoStart : Bool
  startup : Bool
  shutdown : Bool
  getState : Option Int

structure Slot where
  id : Nat
  service : ProfileService
  state : ProfileState

inductive Phase where
  | startup | shutdown
  deriving DecidableEq

structure Pending where
  phase : Phase
  transport : UInt8
  id : Nat
  deriving DecidableEq

inductive LogEntry where
  | called (ph : Phase) (t : UInt8)
  | notified (ph : Phase) (t : UInt8) (slots : List Slot)

/-- The table, and the callbacks not made yet. -/
structure Manager where
  slots : List Slot
  pending : List Pending
  log : List LogEntry
  /-- An assertion has failed. -/
  failed : Bool

/-! ## The two phases -/

def Phase.target : Phase → ProfileState
  | .startup => .turnOn
  | .shutdown => .turnOff

def Phase.covers (ph : Phase) (t : UInt8) (p : ProfileService) : Bool :=
  p.transport == t && match ph with
    | .startup => p.autoStart
    | .shutdown => true

def Phase.supported (ph : Phase) (p : ProfileService) : Bool :=
  match ph with
    | .startup => p.startup
    | .shutdown => p.shutdown

def checkIsAll (ph : Phase) (t : UInt8) (slots : List Slot) : Bool :=
  slots.all fun s =>
    !(ph.covers t s.service && s.state != ph.target && s.service.getState.getD 1 != 0)

def checkIsAllStartup := checkIsAll .startup

def checkIsAllShutdown := checkIsAll .shutdown

def setState (id : Nat) (st : ProfileState) (m : Manager) : Manager :=
  { m with slots := Keyed.update Slot.id id (fun s => { s with state := st }) m.slots }

def notify (ph : Phase) (t : UInt8) (m : Manager) : Manager :=
  { m with log := m.log ++ [.notified ph t m.slots] }

def serviceOn (ph : Phase) (id : Nat) (ret : Bool) (m : Manager) : Manager :=
  match m.slots.find? (fun s => s.id = id) with
  | none => { m with failed := true }
  | some slot =>
    if ret then
      let m := setState id ph.target m
      if checkIsAll ph slot.service.transport m.slots then
        notify ph slot.service.transport m
      else m
    else { m with failed := true }

def serviceOnStartup := serviceOn .startup

def serviceOnShutdown := serviceOn .shutdown

def beginPhase (ph : Phase) (id : Nat) (m : Manager) : Manager :=
  match ph with
  | .startup => setState id .turningOn m
  | .shutdown => m

def askService (ph : Phase) (t : UInt8) (now : List Nat) (m : Manager) (slot : Slot) : Manager :=
  if ph.supported slot.service && ph.covers t slot.service then
    let m := beginPhase ph slot.id m
    if slot.id ∈ now then serviceOn ph slot.id true m
    else { m with pending := m.pending ++ [{ phase := ph, transport := t, id := slot.id }] }
  else m

def serviceManagerCall (ph : Phase) (t : UInt8) (now : List Nat) (m : Manager) : Manager :=
  let m := { m with log := m.log ++ [.called ph t] }
  if checkIsAll ph t m.slots then notify ph t m
  else m.slots.foldl (askService ph t now) m

def serviceManagerStartup := serviceManagerCall .startup

def serviceManagerShutdown := serviceManagerCall .shutdown

/-! ## Runs -/

/-- A call for a transport, in which the services `now` call back at once, or a callback. -/
inductive Event where
  | startup (t : UInt8) (now : List Nat)
  | shutdown (t : UInt8) (now : List Nat)
  | callback (p : Pending)

def callBack (p : Pending) (m : Manager) : Manager :=
  if p ∈ m.pending then
    let m := { m with pending := m.pending.erase p }
    match p.phase with
    | .startup => serviceOnStartup p.id true m
    | .shutdown => serviceOnShutdown p.id true m
  else m

def step (m : Manager) : Event → Manager
  | .startup t now => serviceManagerStartup t now m
  | .shutdown t now => serviceManagerShutdown t now m
  | .callback p => callBack p m

def registered (services : List (Nat × ProfileService)) : Manager :=
  { slots := services.map fun p => { id := p.1, service := p.2, state := .turnOff }
    pending := []
    log := []
    failed := false }

end BtFramework.Services
