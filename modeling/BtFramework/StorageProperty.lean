import Mathlib.Data.List.AList
import BtFramework.BtAddr
import BtFramework.FlatBuffer

/-!
# The property store

`storage_property.c`. A record is stored under a name made of the prefix of its set and the text
of its address; the value is the rest of the record. To load a set, the names with its prefix
are counted, a block is allocated, the addresses are read from the names into it, and the rest
is fetched by name.

A block that was just allocated holds `heap`. A failed assertion and a write out of a block have
no result.
-/

namespace BtFramework.Storage

/-! ## The database -/

abbrev PropName := List Char

abbrev Kvdb := AList fun _ : PropName => List UInt8

/-- The database lists its names in any order. -/
structure PropertyApi where
  propNameMax : Nat
  namesFit : 50 ≤ propNameMax
  order : List PropName → List PropName
  order_perm : ∀ names, (order names).Perm names

def propertyList (api : PropertyApi) (db : Kvdb) : List PropName := api.order db.keys

def propertySetBinary (db : Kvdb) (name : PropName) (value : List UInt8) : Kvdb :=
  db.insert name value

def propertyGetBinary (db : Kvdb) (name : PropName) : Option (List UInt8) := db.lookup name

def propertyDelete (db : Kvdb) (name : PropName) : Kvdb := db.erase name

/-! ## The four sets -/

/-- The four sets of records. -/
inductive Store where
  | btBond | bleBond | bleWhitelist | bleGattDbHash
  deriving DecidableEq

def Store.key : Store → PropName
  | .btBond => "persist.bluetooth.btbonded.".toList
  | .bleBond => "persist.bluetooth.blebonded.".toList
  | .bleWhitelist => "persist.bluetooth.whitelist.".toList
  | .bleGattDbHash => "persist.bluetooth.blegattDBhash.".toList

structure Layout where
  size : Nat
  tail : Nat
  addr_before : 6 ≤ tail
  tail_within : tail ≤ size

structure BuildConfig where
  remNameMaxLen : Nat
  savedUuidsLen : Nat
  shortEnums : Bool

def defaultConfig : BuildConfig :=
  { remNameMaxLen := 64, savedUuidsLen := 80, shortEnums := false }

def alignUp4 (n : Nat) : Nat := (n + 3) / 4 * 4

theorem le_alignUp4 (n : Nat) : n ≤ alignUp4 n := by
  unfold alignUp4
  omega

def btLayout (cfg : BuildConfig) : Layout where
  size := alignUp4 (alignUp4 (7 + 2 * (cfg.remNameMaxLen + 1) + 3 + 16) + 4 + cfg.savedUuidsLen)
  tail := 6
  addr_before := le_refl 6
  tail_within := by
    have hinner := le_alignUp4 (7 + 2 * (cfg.remNameMaxLen + 1) + 3 + 16)
    have houter := le_alignUp4
      (alignUp4 (7 + 2 * (cfg.remNameMaxLen + 1) + 3 + 16) + 4 + cfg.savedUuidsLen)
    omega

def leLayout : Layout where
  size := 104
  tail := 6
  addr_before := le_refl 6
  tail_within := by decide

def gattLayout (cfg : BuildConfig) : Layout where
  size := if cfg.shortEnums then 24 else 28
  tail := if cfg.shortEnums then 6 else 8
  addr_before := by split <;> decide
  tail_within := by split <;> decide

def Store.layout (cfg : BuildConfig) : Store → Layout
  | .btBond => btLayout cfg
  | .bleBond => leLayout
  | .bleWhitelist => leLayout
  | .bleGattDbHash => gattLayout cfg

/-- The address, and the rest. -/
structure DeviceRecord where
  addr : AddrBytes
  tail : List UInt8
  deriving DecidableEq

/-- The record has the sizes of the layout. -/
structure DeviceRecord.Of (lay : Layout) (r : DeviceRecord) : Prop where
  addr : r.addr.length = 6
  tail : r.tail.length = lay.size - lay.tail

/-! ## Names -/

def genPropKey (api : PropertyApi) (key : PropName) (addr : AddrBytes) : PropName :=
  (key ++ btAddrBa2str addr).take (api.propNameMax - 1)

def parsePropKey (name : PropName) (nameKeyLen : Nat) : AddrBytes :=
  btAddrStr2ba ((name.drop nameKeyLen).take 17)

def callbackCount (key : PropName) (count : Nat) (name : PropName) : Nat :=
  if key.isPrefixOf name then (count + 1) % 65536 else count

def countItems (api : PropertyApi) (db : Kvdb) (key : PropName) : Nat :=
  (propertyList api db).foldl (callbackCount key) 0

structure PropertyValue where
  offset : Nat
  value : List UInt8

def callbackLoadAddr (stride : Nat) (key : PropName) (items : Nat) (p : PropertyValue)
    (name : PropName) : Option PropertyValue :=
  if ¬ key.isPrefixOf name then some p
  else if p.offset < items then
    (FlatBuffer.write p.value (p.offset * stride) (parsePropKey name key.length)).map
      fun value => { offset := p.offset + 1, value }
  else none

def malloc (heap : Nat → UInt8) (size : Nat) : List UInt8 := (List.range size).map heap

/-! ## Saving -/

def btStorageDelete (api : PropertyApi) (heap : Nat → UInt8) (db : Kvdb) (key : PropName)
    (items : Nat) : Option Kvdb :=
  ((propertyList api db).foldlM (callbackLoadAddr 6 key items)
      { offset := 0, value := malloc heap (items * 6) }).map fun p =>
    (List.range items).foldl
      (fun db i => propertyDelete db (genPropKey api key (FlatBuffer.read p.value (i * 6) 6))) db

def btStorageSaveRemoteDevice (api : PropertyApi) (db : Kvdb) (key : PropName)
    (records : List DeviceRecord) : Kvdb :=
  records.foldl (fun db r => propertySetBinary db (genPropKey api key r.addr) r.tail) db

def saveStore (st : Store) (api : PropertyApi) (heap : Nat → UInt8) (db : Kvdb)
    (records : List DeviceRecord) : Option Kvdb :=
  (btStorageDelete api heap db st.key (countItems api db st.key)).map fun db =>
    btStorageSaveRemoteDevice api db st.key (records.take (records.length % 65536))

def btStorageSaveBondedDevice := saveStore .btBond

def btStorageSaveLeBondedDevice := saveStore .bleBond

def btStorageSaveWhitelist := saveStore .bleWhitelist

def btStorageSaveGattCacheDevice := saveStore .bleGattDbHash

def Store.save : Store → PropertyApi → (Nat → UInt8) → Kvdb → List DeviceRecord → Option Kvdb
  | .btBond => btStorageSaveBondedDevice
  | .bleBond => btStorageSaveLeBondedDevice
  | .bleWhitelist => btStorageSaveWhitelist
  | .bleGattDbHash => btStorageSaveGattCacheDevice

/-! ## Loading -/

def fetchFrom (api : PropertyApi) (db : Kvdb) (key : PropName) (lay : Layout) :
    Nat → Nat → List UInt8 → Option (List UInt8)
  | _, 0, value => some value
  | i, n + 1, value =>
    let addr := FlatBuffer.read value (i * lay.size) 6
    let found := propertyGetBinary db (genPropKey api key addr)
    ((found.elim (some value) fun v =>
        FlatBuffer.write value (i * lay.size + lay.tail) (v.take (lay.size - lay.tail)))).bind
      (fetchFrom api db key lay (i + 1) n)

def recordsIn (lay : Layout) (items : Nat) (value : List UInt8) : List DeviceRecord :=
  (List.range items).map fun i =>
    { addr := FlatBuffer.read value (i * lay.size) 6
      tail := FlatBuffer.read value (i * lay.size + lay.tail) (lay.size - lay.tail) }

def strideLayout (cfg : BuildConfig) : Store → Layout
  | .btBond => btLayout cfg
  | _ => leLayout

def storageGetKey (api : PropertyApi) (db : Kvdb) (key : PropName) (stride : Layout)
    (items : Nat) (value : List UInt8) : Option (List UInt8) :=
  ((propertyList api db).foldlM (callbackLoadAddr stride.size key items)
    { offset := 0, value }).bind fun p => fetchFrom api db key stride 0 items p.value

def loadStore (st : Store) (cfg : BuildConfig) (api : PropertyApi) (heap : Nat → UInt8)
    (db : Kvdb) : Option (List DeviceRecord) :=
  let items := countItems api db st.key
  let lay := st.layout cfg
  if items = 0 then some []
  else
    (storageGetKey api db st.key (strideLayout cfg st) items
      (malloc heap (items * lay.size))).map (recordsIn lay items)

def btStorageLoadBondedDevice := loadStore .btBond

def btStorageLoadLeBondedDevice := loadStore .bleBond

def btStorageLoadWhitelistDevice := loadStore .bleWhitelist

def btStorageLoadGattCacheDevice := loadStore .bleGattDbHash

def Store.load :
    Store → BuildConfig → PropertyApi → (Nat → UInt8) → Kvdb → Option (List DeviceRecord)
  | .btBond => btStorageLoadBondedDevice
  | .bleBond => btStorageLoadLeBondedDevice
  | .bleWhitelist => btStorageLoadWhitelistDevice
  | .bleGattDbHash => btStorageLoadGattCacheDevice

theorem Store.save_eq (st : Store) : st.save = saveStore st := by cases st <;> rfl

theorem Store.load_eq (st : Store) : st.load = loadStore st := by cases st <;> rfl

end BtFramework.Storage
