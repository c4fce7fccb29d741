import BtFramework.BtUuid
import BtFramework.Slots
import Mathlib.Data.List.Chain

/-!
# GATT client discovery

The discovery chain of `sal_gatt_client_interface.c`. `bt_gatt_discover` calls the callback of
its parameters once for each matching attribute and once more without an attribute, and that
last call issues the next request: the services first, then for each of them its includes, its
characteristics and, one by one, their descriptors.

One connection is modelled. Handles are `uint16_t`, and the two places that compute with them
wrap. The arrays keep the contents of earlier runs: `gatt_discover_cleanup` resets the counters
only.
-/

namespace BtFramework.Gattc

/-! ## The peer's database -/

structure Descriptor where
  handle : Nat
  uuid : Uuid
  perm : Nat

structure Characteristic where
  declHandle : Nat
  valueHandle : Nat
  properties : Nat
  uuid : Uuid
  descriptors : List Descriptor

structure Include where
  handle : Nat
  uuid : Uuid

structure PrimaryService where
  handle : Nat
  endHandle : Nat
  uuid : Uuid
  includes : List Include
  characteristics : List Characteristic

def Characteristic.handles (c : Characteristic) : List Nat :=
  c.declHandle :: c.valueHandle :: c.descriptors.map Descriptor.handle

def PrimaryService.handles (s : PrimaryService) : List Nat :=
  s.handle :: s.includes.map Include.handle ++ s.characteristics.flatMap Characteristic.handles

/-- What the peer has, in handle order. -/
structure Database where
  services : List PrimaryService
  increasing : ∀ s ∈ services, s.handles.Pairwise (· < ·)
  within : ∀ s ∈ services, ∀ h ∈ s.handles, h ≤ s.endHandle
  apart : services.Pairwise fun s t => s.endHandle < t.handle
  first : ∀ s ∈ services, 0 < s.handle
  last : ∀ s ∈ services, s.endHandle ≤ 65535

namespace Database

/-- The declarations that a discovery of their kind from `lo` to `hi` finds. -/
def primariesIn (db : Database) (lo hi : Nat) : List PrimaryService :=
  db.services.filter fun s => lo ≤ s.handle ∧ s.handle ≤ hi

@[inherit_doc primariesIn]
def includesIn (db : Database) (lo hi : Nat) : List Include :=
  (db.services.flatMap PrimaryService.includes).filter fun i => lo ≤ i.handle ∧ i.handle ≤ hi

@[inherit_doc primariesIn]
def characteristicsIn (db : Database) (lo hi : Nat) : List Characteristic :=
  (db.services.flatMap PrimaryService.characteristics).filter
    fun c => lo ≤ c.declHandle ∧ c.declHandle ≤ hi

def descriptors (db : Database) : List Descriptor :=
  (db.services.flatMap PrimaryService.characteristics).flatMap Characteristic.descriptors

@[inherit_doc primariesIn]
def descriptorsIn (db : Database) (lo hi : Nat) : List Descriptor :=
  db.descriptors.filter fun d => lo ≤ d.handle ∧ d.handle ≤ hi

end Database

/-! ## The client's state -/

inductive DiscoverType where
  | primary
  | included
  | characteristic
  | descriptor
  deriving DecidableEq

structure Attribute where
  type : DiscoverType
  handle : Nat
  uuid : Uuid
  properties : Nat
  deriving DecidableEq

/-- `gatt_element_t`. -/
structure Element extends Attribute where
  permissions : Nat
  deriving DecidableEq

/-- `gatt_service_t`. -/
structure Service where
  startHandle : Nat
  endHandle : Nat
  uuid : Uuid

structure ElementChar where
  declHandle : Nat
  valueHandle : Nat
  properties : Nat
  uuid : Uuid

structure Instance where
  serviceIdx : Nat
  elementCharIdx : Nat
  currentElementBaseIdx : Nat
  service : Slots Service
  element : Slots Element
  elementChar : Slots ElementChar

/-- The array sizes of the build; the counters are `uint8_t`. -/
structure Config where
  serviceMax : Nat
  elementMax : Nat
  charPerServiceMax : Nat
  service_lt : serviceMax < 256
  element_lt : elementMax < 256
  char_lt : charPerServiceMax < 256

def defaultConfig : Config where
  serviceMax := 20
  elementMax := 200
  charPerServiceMax := 100
  service_lt := by decide
  element_lt := by decide
  char_lt := by decide

inductive Notice (α : Type) where
  | serviceDiscovered (elements : List α)
  | discoverCompleted
  | disconnect
  deriving DecidableEq

def Notice.map {α β : Type} (f : α → β) : Notice α → Notice β
  | .serviceDiscovered elements => .serviceDiscovered (elements.map f)
  | .discoverCompleted => .discoverCompleted
  | .disconnect => .disconnect

structure DiscoverParams where
  type : DiscoverType
  startHandle : Nat
  endHandle : Nat

structure State where
  inst : Instance
  request : Option DiscoverParams
  out : List (Notice Element)

inductive Iter where
  | stop
  | cont

/-! ## Requests and allocation -/

def discoverIncludeService (startHandle endHandle : Nat) (st : State) : State :=
  { st with request := some ⟨.included, startHandle, endHandle⟩ }

def discoverChrc (startHandle endHandle : Nat) (st : State) : State :=
  { st with request := some ⟨.characteristic, startHandle, endHandle⟩ }

def discoverDescriptor (startHandle endHandle : Nat) (st : State) : State :=
  { st with request := some ⟨.descriptor, startHandle, endHandle⟩ }

def disconnect (st : State) : State :=
  { st with out := st.out ++ [.disconnect] }

def State.currentService (st : State) : Service :=
  st.inst.service.cell st.inst.serviceIdx

def gattAllocService (cfg : Config) (fill : Service → Service) (st : State) : Option State :=
  if st.inst.service.size ≥ cfg.serviceMax then none
  else some { st with inst.service := st.inst.service.push fill }

def gattAllocElement (cfg : Config) (fill : Element → Element) (st : State) : Option State :=
  if st.inst.element.size ≥ cfg.elementMax then none
  else some { st with inst.element := st.inst.element.push fill }

def Service.declaration (s : Service) : Element where
  type := .primary
  handle := s.startHandle
  uuid := s.uuid
  properties := 0
  permissions := 0

def saveServiceDeclaration (cfg : Config) (st : State) : Option State :=
  gattAllocElement cfg (fun _ => st.currentService.declaration) st

def gattIsServiceDiscoveryComplete (st : State) : Bool :=
  st.inst.elementCharIdx = 0 ∧ st.inst.elementChar.size = 0

def gattDiscoverCleanup (st : State) : State :=
  { st with
    inst := { st.inst with
      serviceIdx := 0
      elementCharIdx := 0
      currentElementBaseIdx := 0
      service := st.inst.service.clear
      element := st.inst.element.clear
      elementChar := st.inst.elementChar.clear } }

def State.elementDb (st : State) : List Element :=
  st.inst.element.live.drop st.inst.currentElementBaseIdx

def onServiceDiscovered (st : State) : State :=
  { st with out := st.out ++ [.serviceDiscovered st.elementDb] }

def finishDiscovery (st : State) : State :=
  let st := onServiceDiscovered st
  gattDiscoverCleanup { st with out := st.out ++ [.discoverCompleted] }

def reportService (st : State) : State :=
  let st := onServiceDiscovered st
  { st with inst.currentElementBaseIdx := st.inst.element.size }

def closeService (next : State → State) (st : State) : State :=
  if st.inst.serviceIdx < st.inst.service.size then next (reportService st)
  else finishDiscovery st

/-! ## The next service, from each of the three places that go on to it -/

def descNextService (cfg : Config) (st : State) : State :=
  let service := st.currentService
  discoverIncludeService service.startHandle service.endHandle
    ((saveServiceDeclaration cfg st).getD st)

def descIterNextService (cfg : Config) (st : State) : State :=
  let service := st.currentService
  discoverChrc service.startHandle service.endHandle ((saveServiceDeclaration cfg st).getD st)

def chrcIterNextService (cfg : Config) (st : State) : State :=
  let service := st.currentService
  match saveServiceDeclaration cfg st with
  | some st => discoverIncludeService service.startHandle service.endHandle st
  | none => st

/-! ## The loop over the characteristics -/

/-- The rest of a turn, once the characteristic's element is written: the descriptors behind the
value are asked for; where there is no handle for them, the loop goes on (`again`) or the service
is done. -/
def iterAdvance (next again : State → State) (service : Service) (char : ElementChar)
    (st : State) : State :=
  let startHdl := (char.valueHandle + 1) % 65536
  let st := { st with inst.elementCharIdx := st.inst.elementCharIdx + 1 }
  let (endHdl, st) :=
    if st.inst.elementCharIdx < st.inst.elementChar.size then
      (((st.inst.elementChar.cell st.inst.elementCharIdx).declHandle + 65535) % 65536, st)
    else
      (service.endHandle,
        { st with
          inst.elementCharIdx := 0
          inst.elementChar := st.inst.elementChar.clear
          inst.serviceIdx := st.inst.serviceIdx + 1 })
  if startHdl ≤ endHdl then discoverDescriptor startHdl endHdl st
  else if gattIsServiceDiscoveryComplete st then closeService next st
  else again st

def iterBody (cfg : Config) (full next again : State → State) (st : State) : State :=
  let service := st.currentService
  let char := st.inst.elementChar.cell st.inst.elementCharIdx
  match gattAllocElement cfg
      (fun e => { e with type := .characteristic, handle := char.valueHandle,
                         properties := char.properties, uuid := char.uuid }) st with
  | none => full st
  | some st => iterAdvance next again service char st

def iterLoop (cfg : Config) (full next : State → State) : Nat → State → State
  | 0, st => st
  | n + 1, st => iterBody cfg full next (iterLoop cfg full next n) st

def iterTurns (st : State) : Nat :=
  st.inst.elementChar.size - st.inst.elementCharIdx + 1

def chrcIter (cfg : Config) (st : State) : State :=
  iterLoop cfg disconnect (chrcIterNextService cfg) (iterTurns st) st

def descIter (cfg : Config) (st : State) : State :=
  iterLoop cfg id (descIterNextService cfg) (iterTurns st) st

/-! ## The callbacks -/

def discServiceCallback (cfg : Config) : Option PrimaryService → State → Iter × State
  | none, st =>
    let service := st.currentService
    (.stop, discoverIncludeService service.startHandle service.endHandle
      ((saveServiceDeclaration cfg st).getD st))
  | some attr, st =>
    match gattAllocService cfg (fun _ => ⟨attr.handle, attr.endHandle, attr.uuid⟩) st with
    | none => (.stop, disconnect st)
    | some st => (.cont, st)

def discIncludeCallback (cfg : Config) : Option Include → State → Iter × State
  | none, st =>
    let service := st.currentService
    (.stop, discoverChrc service.startHandle service.endHandle st)
  | some attr, st =>
    (.cont, (gattAllocElement cfg (fun _ =>
      { type := .included, handle := attr.handle, uuid := attr.uuid, properties := 0,
        permissions := 0 }) st).getD st)

def discChrcCallback (cfg : Config) : Option Characteristic → State → Iter × State
  | none, st => (.stop, chrcIter cfg st)
  | some attr, st =>
    if st.inst.elementChar.size ≥ cfg.charPerServiceMax then (.stop, disconnect st)
    else (.cont, { st with
      inst.elementChar := st.inst.elementChar.push fun _ =>
        ⟨attr.declHandle, attr.valueHandle, attr.properties, attr.uuid⟩ })

def discDescCallback (cfg : Config) : Option Descriptor → State → Iter × State
  | none, st =>
    if gattIsServiceDiscoveryComplete st then (.stop, closeService (descNextService cfg) st)
    else (.stop, descIter cfg st)
  | some attr, st =>
    match gattAllocElement cfg (fun _ =>
      { type := .descriptor, handle := attr.handle, uuid := attr.uuid, properties := 0,
        permissions := attr.perm }) st with
    | none => (.stop, st)
    | some st => (.cont, st)

/-! ## The stack -/

def btGattDiscover {α : Type} (callback : Option α → State → Iter × State) :
    List α → State → State
  | [], st => (callback none st).2
  | attr :: attrs, st =>
    match callback (some attr) st with
    | (.stop, st) => st
    | (.cont, st) => btGattDiscover callback attrs st

def step (cfg : Config) (db : Database) (st : State) : State :=
  match st.request with
  | none => st
  | some ⟨type, lo, hi⟩ =>
    let st := { st with request := none }
    match type with
    | .primary => btGattDiscover (discServiceCallback cfg) (db.primariesIn lo hi) st
    | .included => btGattDiscover (discIncludeCallback cfg) (db.includesIn lo hi) st
    | .characteristic => btGattDiscover (discChrcCallback cfg) (db.characteristicsIn lo hi) st
    | .descriptor => btGattDiscover (discDescCallback cfg) (db.descriptorsIn lo hi) st

def discoverAllServices (services : Nat → Service) (elements : Nat → Element)
    (chars : Nat → ElementChar) : State where
  inst :=
    { serviceIdx := 0
      elementCharIdx := 0
      currentElementBaseIdx := 0
      service := ⟨services, 0⟩
      element := ⟨elements, 0⟩
      elementChar := ⟨chars, 0⟩ }
  request := some ⟨.primary, 1, 65535⟩
  out := []

end BtFramework.Gattc
