import BtFramework.BtUuid
import BtFramework.SliceTable

/-!
# The GATT server's attribute database

The functions of `sal_gatt_server_interface.c` that change `server_db` and `server_svcs`. The
handles that the stack assigns and the SDP records are not modelled. `malloc` succeeds.
-/

namespace BtFramework.Gatts

/-! ## Elements and attributes -/

inductive ElementType where
  | primaryService
  | secondaryService
  | includedService
  | characteristic
  | descriptor
  deriving DecidableEq

/-- `gatt_element_t`. -/
structure Element where
  type : ElementType
  uuid : Uuid
  properties : UInt16
  permissions : UInt16
  deriving DecidableEq

/-- The address of an element: its table and its place there. -/
structure ElementRef where
  table : Nat
  index : Nat
  deriving DecidableEq

inductive UserData where
  | service (uuid : Uuid)
  | chrc (properties : UInt8) (uuid : Option Uuid)
  | element (element : ElementRef)
  | userData (element : ElementRef)
  | ccc (element : ElementRef)
  deriving DecidableEq

/-- The value of a characteristic points to its element, inside the block of the table. -/
def UserData.interior : UserData → Bool
  | .element _ => true
  | _ => false

inductive AttrRead where
  | service
  | chrc
  | value
  | ccc
  deriving DecidableEq

inductive AttrWrite where
  | value
  | ccc
  deriving DecidableEq

/-- `struct bt_gatt_attr`. -/
structure Attr where
  uuid : Uuid
  perm : UInt16
  read : AttrRead
  write : Option AttrWrite
  userData : UserData
  deriving DecidableEq

def btUuidGattPrimary : Uuid := .uuid16 0x2800
def btUuidGattSecondary : Uuid := .uuid16 0x2801
def btUuidGattChrc : Uuid := .uuid16 0x2803
def btUuidGattCcc : Uuid := .uuid16 0x2902

def btGattPermRead : UInt16 := 0x001
def btGattPermWrite : UInt16 := 0x002
def btGattPermReadEncrypt : UInt16 := 0x004
def btGattPermWriteEncrypt : UInt16 := 0x008
def btGattPermReadAuthen : UInt16 := 0x010
def btGattPermWriteAuthen : UInt16 := 0x020
def btGattPermPrepareWrite : UInt16 := 0x040
def btGattPermReadLesc : UInt16 := 0x080
def btGattPermWriteLesc : UInt16 := 0x100

def gattPermMask : UInt16 :=
  btGattPermRead ||| btGattPermReadAuthen ||| btGattPermReadEncrypt ||| btGattPermReadLesc
    ||| btGattPermWrite ||| btGattPermWriteAuthen ||| btGattPermWriteEncrypt
    ||| btGattPermWriteLesc ||| btGattPermPrepareWrite

def gattPermRead : UInt16 := 0x01
def gattPermWrite : UInt16 := 0x02
def gattPermEncryptRequired : UInt16 := 0x04
def gattPermAuthenRequired : UInt16 := 0x08
def gattPermMitmRequired : UInt16 := 0x10

def permIf (flags flag perm : UInt16) : UInt16 :=
  if flags &&& flag ≠ 0 then perm else 0

def covertGattPermission (elemPerm : UInt16) : UInt16 :=
  permIf elemPerm gattPermRead
      (btGattPermRead ||| permIf elemPerm gattPermAuthenRequired btGattPermReadAuthen
        ||| permIf elemPerm gattPermEncryptRequired btGattPermReadEncrypt
        ||| permIf elemPerm gattPermMitmRequired btGattPermReadLesc)
    ||| permIf elemPerm gattPermWrite
      (btGattPermWrite ||| permIf elemPerm gattPermAuthenRequired btGattPermWriteAuthen
        ||| permIf elemPerm gattPermEncryptRequired btGattPermWriteEncrypt
        ||| permIf elemPerm gattPermMitmRequired btGattPermWriteLesc)

/-! ## The server -/

structure BtGattService where
  attrs : Option Nat
  attrCount : Nat

/-- Pointers into `server_db` are indices. -/
structure Server where
  db : List Attr
  svcAttrCount : Nat
  svcs : List BtGattService

/-- The capacities, and what `chrc->properties` reads where `user_data` is not a
`bt_gatt_chrc`: a value or a descriptor may carry the UUID of a declaration. -/
structure Config where
  maxServices : Nat
  maxAttributes : Nat
  misread : UserData → UInt8

def Server.init (cfg : Config) : Server where
  db := []
  svcAttrCount := 0
  svcs := List.replicate cfg.maxServices ⟨none, 0⟩

def gattDbAdd (cfg : Config) (pattern : Attr) (st : Server) : Option Server :=
  if st.db.length ≥ cfg.maxAttributes then none
  else some { st with db := st.db ++ [pattern], svcAttrCount := st.svcAttrCount + 1 }

/-! ## Adding elements -/

def serviceAttr (type service : Uuid) : Attr :=
  ⟨type, btGattPermRead, .service, none, .service service⟩

def addService (cfg : Config) (element : Element) (st : Server) : Server :=
  match element.type with
  | .primaryService =>
    (gattDbAdd cfg (serviceAttr btUuidGattPrimary element.uuid) st).getD st
  | .secondaryService =>
    (gattDbAdd cfg (serviceAttr btUuidGattSecondary element.uuid) st).getD st
  | _ => st

def chrcAttr (properties : UInt8) (uuid : Option Uuid) : Attr :=
  ⟨btUuidGattChrc, btGattPermRead, .chrc, none, .chrc properties uuid⟩

def valueAttr (ref : ElementRef) (element : Element) : Attr :=
  ⟨element.uuid, covertGattPermission element.permissions &&& gattPermMask, .value,
    some .value, .element ref⟩

def addCharacteristic (cfg : Config) (ref : ElementRef) (element : Element) (st : Server) :
    Server :=
  match gattDbAdd cfg (chrcAttr 0 none) st with
  | none => st
  | some st₁ =>
    match gattDbAdd cfg (valueAttr ref element) st₁ with
    | none => st₁
    | some st₂ =>
      { st₂ with
        db := st₂.db.set st.db.length (chrcAttr element.properties.toUInt8 (some element.uuid)) }

def scanBaseChrc : List Attr → Option Attr
  | [] => none
  | attr :: attrs =>
    if attr.uuid.same btUuidGattPrimary || attr.uuid.same btUuidGattSecondary then none
    else if attr.uuid.same btUuidGattChrc then some attr
    else scanBaseChrc attrs

def getBaseChrc (db : List Attr) : Option Attr :=
  scanBaseChrc db.tail.reverse

def chrcProperties (cfg : Config) (chrc : Attr) : UInt8 :=
  match chrc.userData with
  | .chrc properties _ => properties
  | other => cfg.misread other

def descriptorAttr (cfg : Config) (chrc : Attr) (ref : ElementRef) (element : Element) :
    Option Attr :=
  let permissions := (covertGattPermission element.permissions).toUInt8.toUInt16
  if element.uuid.same btUuidGattCcc then
    if chrcProperties cfg chrc &&& 0x30 = 0 then none
    else some ⟨btUuidGattCcc, permissions &&& gattPermMask, .ccc, some .ccc, .ccc ref⟩
  else
    some ⟨element.uuid, permissions &&& gattPermMask, .value, some .value, .userData ref⟩

def addDescriptor (cfg : Config) (ref : ElementRef) (element : Element) (st : Server) :
    Server :=
  match getBaseChrc st.db with
  | none => st
  | some chrc =>
    match descriptorAttr cfg chrc ref element with
    | none => st
    | some attr => (gattDbAdd cfg attr st).getD st

def addElement (cfg : Config) (ref : ElementRef) (element : Element) (st : Server) : Server :=
  match element.type with
  | .primaryService => addService cfg element st
  | .secondaryService => addService cfg element st
  | .characteristic => addCharacteristic cfg ref element st
  | .descriptor => addDescriptor cfg ref element st
  | .includedService => st

def addElementsFrom (cfg : Config) (table : Nat) : Nat → List Element → Server → Server
  | _, [], st => st
  | i, element :: elements, st =>
    addElementsFrom cfg table (i + 1) elements (addElement cfg ⟨table, i⟩ element st)

def findFreeServiceIndex (st : Server) : Option Nat :=
  st.svcs.findIdx? fun svc => svc.attrs.isNone && svc.attrCount == 0

/-- Each attribute's `user_data` is freed, so nothing can be said when one of them points into
another block. -/
def removeFromServerDb (start count : Nat) (st : Server) : Option Server :=
  if count = 0 then some st
  else if start ≥ st.db.length then some st
  else if count > st.db.length ∨ start + count > st.db.length then some st
  else if ((st.db.drop start).take count).any (·.userData.interior) then none
  else some { st with db := SliceTable.compact start count st.db }

def registerService (err : Bool) (st : Server) : Bool × Server :=
  let (status, st) :=
    match findFreeServiceIndex st with
    | none => (false, st)
    | some i =>
      if err then (false, { st with svcs := st.svcs.set i ⟨none, 0⟩ })
      else
        (true, { st with
          svcs := st.svcs.set i ⟨some (st.db.length - st.svcAttrCount), st.svcAttrCount⟩ })
  let st := { st with svcAttrCount := 0 }
  if status then (true, st)
  -- The count is 0 by now: nothing is removed or freed.
  else (false, (removeFromServerDb (st.db.length - st.svcAttrCount) st.svcAttrCount st).getD st)

structure Table where
  id : Nat
  service : Element
  items : List Element
  primary : service.type = .primaryService
  rest : ∀ e ∈ items, e.type = .characteristic ∨ e.type = .descriptor
  deriving DecidableEq

def Table.elements (t : Table) : List Element :=
  t.service :: t.items

def btSalGattServerAddElements (cfg : Config) (t : Table) (err : Bool) (st : Server) :
    Bool × Server :=
  registerService err (addElementsFrom cfg t.id 0 t.elements st)

/-! ## Removing elements -/

def isServiceWith (uuid : Uuid) (attr : Attr) : Bool :=
  attr.uuid.same btUuidGattPrimary &&
    match attr.userData with
    | .service svcUuid => svcUuid.same uuid
    | _ => false

def getPrimaryServiceFromElement (element : Element) (st : Server) : Option Nat :=
  if element.type ≠ .primaryService then none
  else
    st.svcs.findIdx? fun svc =>
      (svc.attrs.bind fun start => st.db[start]?).any (isServiceWith element.uuid)

def BtGattService.patch (start count : Nat) (svc : BtGattService) : BtGattService :=
  match svc.attrs with
  | none => svc
  | some a => if a > start then { svc with attrs := some (a - count) } else svc

def removeService (element : Element) (st : Server) : Option Server :=
  match getPrimaryServiceFromElement element st with
  | none => some st
  | some i =>
    match st.svcs[i]? with
    | some ⟨some start, count⟩ =>
      (removeFromServerDb start count st).map fun st =>
        { st with svcs := (st.svcs.map (BtGattService.patch start count)).set i ⟨none, 0⟩ }
    | _ => some st

def removeElement (element : Element) (st : Server) : Option Server :=
  match element.type with
  | .primaryService => removeService element st
  | _ => some st

def btSalGattServerRemoveElements (t : Table) (st : Server) : Option Server :=
  t.elements.foldlM (fun st element => removeElement element st) st

/-! ## Runs -/

/-- `err`: the registration fails. -/
inductive Call where
  | add (t : Table) (err : Bool)
  | remove (t : Table)

/-- `registered` is what the callers know: the tables added and not removed since, each with the
entry of `server_svcs` it was given. -/
structure World where
  server : Server
  registered : List (Table × Nat)

def World.init (cfg : Config) : World :=
  ⟨Server.init cfg, []⟩

def World.step (cfg : Config) (w : World) : Call → Option World
  | .add t err =>
    let (ok, server) := btSalGattServerAddElements cfg t err w.server
    match ok, findFreeServiceIndex w.server with
    | true, some i => some ⟨server, w.registered ++ [(t, i)]⟩
    | _, _ => some ⟨server, w.registered⟩
  | .remove t =>
    (btSalGattServerRemoveElements t w.server).map fun server =>
      ⟨server, w.registered.filter fun r => r.1 ≠ t⟩

/-- `none` is the state after a call whose behaviour C leaves undefined. -/
def step (cfg : Config) (w : Option World) (c : Call) : Option World :=
  w.bind fun w => w.step cfg c

end BtFramework.Gatts
