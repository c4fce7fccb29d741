import BtFramework.Keyed
import Mathlib.Data.Nat.Bitwise

/-!
# The GATT server profile: services, attribute tables, element ids

`gatts_service.c`. A registered service has an id, a multiple of 0x100. The stack knows an
attribute by its element id, the sum of the service's id and the application's handle in 16
bits.

A table leaves its service's list when the stack reports that its elements are removed. Services
and tables are heap objects, named by `tag`. Values are not modelled.
-/

namespace BtFramework.GattsProfile

/-! ## Types -/

inductive AttrRsp where
  | autoRsp
  | rspByApp
  | autoRspCccRead
  deriving DecidableEq

structure AttrDb where
  handle : Nat
  rspType : AttrRsp
  readCb : Bool
  writeCb : Bool
  handle_lt : handle < 65536
  deriving DecidableEq

structure Element where
  handle : Nat
  rspType : AttrRsp
  readCb : Bool
  writeCb : Bool
  deriving DecidableEq

structure Table where
  tag : Nat
  startHandle : Nat
  endHandle : Nat
  elements : List Element
  deriving DecidableEq

structure Service where
  tag : Nat
  srvId : Nat
  tables : List Table
  deriving DecidableEq

structure Accepted where
  srv : Nat
  srvId : Nat
  table : Table
  db : List AttrDb
  deriving DecidableEq

/-- The services, the reports under way, and the tables an application relies on. -/
structure State where
  services : List Service
  removed : List Nat
  next : Nat
  accepted : List Accepted
  deriving DecidableEq

def State.init : State := ⟨[], [], 0, []⟩

/-! ## Lookups -/

def gattElementGroupMask : Nat := 0xFF00
def gattElementGroupMax : Nat := 0xFF00

def gattElementGroupId (elementId : Nat) : Nat :=
  elementId &&& gattElementGroupMask

def elementId (srvId handle : Nat) : Nat :=
  (srvId + handle) % 65536

def Table.covers (id : Nat) (t : Table) : Bool :=
  t.startHandle ≤ id && id ≤ t.endHandle

def findServiceTableById (service : Service) (id : Nat) : Option Table :=
  service.tables.find? (Table.covers id)

def findServiceElementById (service : Service) (id : Nat) : Option (Table × Nat × Element) :=
  (findServiceTableById service id).bind fun t =>
    (t.elements.findIdx? fun e => e.handle = id).bind fun i =>
      t.elements[i]?.map fun e => (t, i, e)

def findGattsServiceById (services : List Service) (id : Nat) : Option Service :=
  services.find? fun s => s.srvId = gattElementGroupId id

def findService (st : State) (srv : Nat) : Option Service :=
  st.services.find? fun s => s.tag = srv

/-! ## Requests -/

structure Target where
  srv : Nat
  table : Nat
  index : Nat
  element : Element
  attrHandle : Nat
  deriving DecidableEq

def target (st : State) (id : Nat) : Option Target :=
  (findGattsServiceById st.services id).bind fun service =>
    (findServiceElementById service id).map fun (t, i, e) =>
      ⟨service.tag, t.tag, i, e, id ^^^ service.srvId⟩

inductive Action where
  | respondValue (t : Target)
  | respond (t : Target)
  | storeValue (t : Target)
  | readCb (t : Target)
  | writeCb (t : Target)

def Action.target : Action → Target
  | .respondValue t | .respond t | .storeValue t | .readCb t | .writeCb t => t

def onReadRequest (st : State) (id : Nat) : List Action :=
  match target st id with
  | none => []
  | some t =>
    if t.element.rspType = .autoRsp ∨ t.element.rspType = .autoRspCccRead then
      [.respondValue t]
    else if t.element.readCb then [.readCb t]
    else []

def onWriteRequest (st : State) (id : Nat) : List Action :=
  match target st id with
  | none => []
  | some t =>
    .respond t ::
      if t.element.rspType = .autoRsp then [.storeValue t]
      else if t.element.writeCb then [.writeCb t]
      else []

/-! ## Registration -/

def serviceIds : List Nat :=
  (List.range 254).map fun i => 0x100 * (i + 1)

def generateServiceId (services : List Service) : Option Nat :=
  serviceIds.find? fun i => (findGattsServiceById services i).isNone

def ifGattsRegisterService (st : State) : State :=
  match generateServiceId st.services with
  | none => st
  | some id =>
    { st with services := st.services ++ [⟨st.next, id, []⟩], next := st.next + 1 }

def ifGattsUnregisterService (srv : Nat) (st : State) : State :=
  match findService st srv with
  | none => st
  | some service =>
    { st with
      services := Keyed.remove Service.tag srv st.services
      removed := st.removed ++ service.tables.map Table.startHandle
      accepted := st.accepted.filter fun a => a.srv ≠ srv }

/-! ## Tables -/

def AttrDb.toElement (srvId : Nat) (attr : AttrDb) : Element :=
  ⟨elementId srvId attr.handle, attr.rspType, attr.readCb, attr.writeCb⟩

def newTable (tag srvId : Nat) (first last : AttrDb) (db : List AttrDb) : Table where
  tag := tag
  startHandle := elementId srvId first.handle
  endHandle := elementId srvId last.handle
  elements := db.map (AttrDb.toElement srvId)

/-- The two checks on a new table: the first id is in no table's range, and
`bt_sal_gatt_server_add_elements`, which takes the length as a `uint16_t`, accepts it. -/
def accepts (service : Service) (first : AttrDb) (db : List AttrDb) (sal : Bool) : Bool :=
  (findServiceTableById service (elementId service.srvId first.handle)).isNone &&
    db.length % 65536 ≠ 0 && sal

def ifGattsAddAttrTable (srv : Nat) (db : List AttrDb) (sal : Bool) (st : State) : State :=
  match findService st srv, db.head?, db.getLast? with
  | some service, some first, some last =>
    if accepts service first db sal then
      let t := newTable st.next service.srvId first last db
      { st with
        services := Keyed.update Service.tag srv
          (fun s => { s with tables := s.tables ++ [t] }) st.services
        next := st.next + 1
        accepted := st.accepted ++ [⟨srv, service.srvId, t, db⟩] }
    else st
  | _, _, _ => st

def ifGattsRemoveAttrTable (srv attrHandle : Nat) (st : State) : State :=
  match findService st srv with
  | none => st
  | some service =>
    match findServiceTableById service (elementId service.srvId attrHandle) with
    | none => st
    | some t =>
      { st with
        removed := st.removed ++ [t.startHandle]
        accepted := st.accepted.filter fun a => a.table.tag ≠ t.tag }

def reportedTable (st : State) (id : Nat) : Option (Service × Table) :=
  (findGattsServiceById st.services id).bind fun service =>
    (findServiceTableById service id).map fun t => (service, t)

def onAttrTableRemoved (st : State) : State :=
  match st.removed with
  | [] => st
  | id :: removed =>
    let st := { st with removed := removed }
    match reportedTable st id with
    | none => st
    | some (service, t) =>
      { st with
        services := Keyed.update Service.tag service.tag
          (fun s => { s with tables := Keyed.remove Table.tag t.tag s.tables }) st.services }

/-! ## Runs -/

/-- Requests, and the next report of the stack. -/
inductive Event where
  | register
  | unregister (srv : Nat)
  | addTable (srv : Nat) (db : List AttrDb) (sal : Bool)
  | removeTable (srv attrHandle : Nat)
  | tableRemoved

def step (st : State) : Event → State
  | .register => ifGattsRegisterService st
  | .unregister srv => ifGattsUnregisterService srv st
  | .addTable srv db sal => ifGattsAddAttrTable srv db sal st
  | .removeTable srv attrHandle => ifGattsRemoveAttrTable srv attrHandle st
  | .tableRemoved => onAttrTableRemoved st

end BtFramework.GattsProfile
