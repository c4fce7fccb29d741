import BtFramework.CStruct
import BtFramework.StorageProperty

/-!
# Upgrading the stored data

`storage_update.c` and `storage_version_5.c` convert what an older version stored: the adapter
information and lists of records, each a block of memory with the number of its records and its
length in bytes, both in 16 bits. There is one function for each version, and
`btStorageUpdateHandler` applies them one after the other. Integers are little endian. A list
without records has no block, and the functions fail on an adapter information that is missing.
-/

namespace BtFramework.Storage

open CStruct FlatBuffer

/-! ## The structures of the versions -/

inductive StorageVersion where
  | v4_0_0 | v5_0_0 | v5_0_1 | v5_0_2 | v5_0_3
  deriving DecidableEq

/-- The members of all records. -/
inductive Field where
  | addr | addrType | name | aliasName | classOfDevice | linkKey | linkKeyType | deviceType
  | pad | uuids | smpKey | localCsrk | ioCapability | scanMode | bondable | irk | hash
  deriving DecidableEq

def byteArray (x : Field) (n : Nat) : Member Field := { name := x, size := n, align := 1 }

def uint8 (x : Field) : Member Field := { name := x, size := 1, align := 1 }

def uint32 (x : Field) : Member Field := { name := x, size := 4, align := 4 }

def enumeration (cfg : BuildConfig) (x : Field) : Member Field :=
  if cfg.shortEnums then uint8 x else uint32 x

/-- The bonded device of each version. -/
def btDecl (cfg : BuildConfig) : StorageVersion → Decl Field
  | .v4_0_0 =>
    { members := [byteArray .addr 6, enumeration cfg .addrType, byteArray .name 64,
        byteArray .aliasName 64, uint32 .classOfDevice, byteArray .linkKey 16,
        enumeration cfg .linkKeyType, enumeration cfg .deviceType]
      align := 1 }
  | .v5_0_0 =>
    { members := [byteArray .addr 6, enumeration cfg .addrType, byteArray .name 65,
        byteArray .aliasName 65, uint32 .classOfDevice, byteArray .linkKey 16,
        enumeration cfg .linkKeyType, enumeration cfg .deviceType]
      align := 1 }
  | .v5_0_1 =>
    { members := [byteArray .addr 6, enumeration cfg .addrType, byteArray .name 65,
        byteArray .aliasName 65, uint32 .classOfDevice, byteArray .linkKey 16,
        enumeration cfg .linkKeyType, enumeration cfg .deviceType,
        byteArray .uuids cfg.savedUuidsLen]
      align := 1 }
  | .v5_0_2 | .v5_0_3 =>
    { members := [byteArray .addr 6, uint8 .addrType, byteArray .name (cfg.remNameMaxLen + 1),
        byteArray .aliasName (cfg.remNameMaxLen + 1), uint8 .linkKeyType, uint8 .deviceType,
        byteArray .pad 1, byteArray .linkKey 16, uint32 .classOfDevice,
        byteArray .uuids cfg.savedUuidsLen]
      align := 4 }

def leDecl (cfg : BuildConfig) : StorageVersion → Decl Field
  | .v4_0_0 | .v5_0_0 | .v5_0_1 =>
    { members := [byteArray .addr 6, enumeration cfg .addrType, byteArray .smpKey 80,
        enumeration cfg .deviceType]
      align := 1 }
  | .v5_0_2 =>
    { members := [byteArray .addr 6, uint8 .addrType, uint8 .deviceType,
        byteArray .smpKey 80]
      align := 4 }
  | .v5_0_3 =>
    { members := [byteArray .addr 6, uint8 .addrType, uint8 .deviceType,
        byteArray .smpKey 80, byteArray .localCsrk 16]
      align := 4 }

def adapterMembers : List (Member Field) :=
  [uint32 .classOfDevice, uint32 .ioCapability, uint32 .scanMode, uint32 .bondable]

def adapterDecl (cfg : BuildConfig) : StorageVersion → Decl Field
  | .v4_0_0 => { members := byteArray .name 64 :: adapterMembers, align := 1 }
  | .v5_0_0 | .v5_0_1 => { members := byteArray .name 65 :: adapterMembers, align := 1 }
  | .v5_0_2 =>
    { members := byteArray .name (cfg.remNameMaxLen + 1) :: byteArray .pad 3 :: adapterMembers
      align := 4 }
  | .v5_0_3 =>
    { members := byteArray .name (cfg.remNameMaxLen + 1) :: byteArray .pad 3
        :: (adapterMembers ++ [byteArray .irk 16])
      align := 4 }

def gattDecl (cfg : BuildConfig) : StorageVersion → Decl Field
  | .v5_0_3 =>
    { members := [byteArray .addr 6, enumeration cfg .addrType, byteArray .hash 16]
      align := 4 }
  | _ => { members := [], align := 1 }

/-! ## What is stored -/

structure StorageValue where
  items : UInt16
  valueLength : UInt16
  value : List UInt8

structure StorageInfo where
  adapter : StorageValue
  btbond : StorageValue
  blebond : StorageValue
  whitelist : StorageValue
  gattHash : StorageValue

def zeros (n : Nat) : List UInt8 := List.replicate n 0

def propertiesMalloc (d : Decl Field) (items : UInt16) (value : List UInt8) : StorageValue :=
  if items = 0 then { items := 0, valueLength := 0, value := [] }
  else { items, valueLength := UInt16.ofNat (items.toNat * d.sizeof), value }

/-! ## The ways a list is converted -/

def recordAtIndex (d : Decl Field) (old : StorageValue) (i : Nat) : List UInt8 :=
  read old.value (i * d.sizeof) d.sizeof

def convertList (d d' : Decl Field) (f : List UInt8 → List UInt8) (old : StorageValue) :
    StorageValue :=
  propertiesMalloc d' old.items
    ((List.range old.items.toNat).flatMap fun i => f (recordAtIndex d old i))

def copyList (d : Decl Field) (old : StorageValue) : StorageValue :=
  propertiesMalloc d old.items
    (old.value.take old.valueLength.toNat
      ++ zeros (old.items.toNat * d.sizeof - old.valueLength.toNat))

def convertFirst (d d' : Decl Field) (f : List UInt8 → List UInt8) (old : StorageValue) :
    StorageValue :=
  propertiesMalloc d' old.items
    (f (recordAtIndex d old 0) ++ zeros ((old.items.toNat - 1) * d'.sizeof))

def copyRecord (d d' : Decl Field) (old : List UInt8) : List UInt8 :=
  old ++ zeros (d'.sizeof - d.sizeof)

def newGattHash (cfg : BuildConfig) (v : StorageVersion) (old : StorageValue) : StorageValue :=
  propertiesMalloc (gattDecl cfg v) old.items (zeros (old.items.toNat * (gattDecl cfg v).sizeof))

/-! ## The functions of the versions -/

def adapterSteps : List (Field × Copy) :=
  [(.bondable, .int), (.classOfDevice, .int), (.ioCapability, .int), (.scanMode, .int),
   (.name, .str)]

def btSteps : List (Field × Copy) :=
  [(.addr, .bytes), (.addrType, .int), (.name, .str), (.aliasName, .str), (.classOfDevice, .int),
   (.linkKey, .bytes), (.linkKeyType, .int), (.deviceType, .int)]

def leSteps : List (Field × Copy) :=
  [(.addr, .bytes), (.addrType, .int), (.deviceType, .int), (.smpKey, .bytes)]

def btStorageUpdateV400ToV500 (cfg : BuildConfig) (s : StorageInfo) : Option StorageInfo :=
  if s.adapter.items = 0 then none
  else some
    { adapter := convertFirst (adapterDecl cfg .v4_0_0) (adapterDecl cfg .v5_0_0)
        (convert (adapterDecl cfg .v4_0_0) (adapterDecl cfg .v5_0_0) adapterSteps) s.adapter
      btbond := convertList (btDecl cfg .v4_0_0) (btDecl cfg .v5_0_0)
        (convert (btDecl cfg .v4_0_0) (btDecl cfg .v5_0_0) btSteps) s.btbond
      blebond := copyList (leDecl cfg .v5_0_0) s.blebond
      whitelist := copyList (leDecl cfg .v5_0_0) s.whitelist
      gattHash := newGattHash cfg .v5_0_0 s.gattHash }

def btStorageUpdateV500ToV501 (cfg : BuildConfig) (s : StorageInfo) : Option StorageInfo :=
  if s.adapter.items = 0 then none
  else some
    { adapter := convertFirst (adapterDecl cfg .v5_0_0) (adapterDecl cfg .v5_0_1)
        (copyRecord (adapterDecl cfg .v5_0_0) (adapterDecl cfg .v5_0_1)) s.adapter
      btbond := convertList (btDecl cfg .v5_0_0) (btDecl cfg .v5_0_1)
        (fun old => put (btDecl cfg .v5_0_1) .uuids (zeros cfg.savedUuidsLen)
          (copyRecord (btDecl cfg .v5_0_0) (btDecl cfg .v5_0_1) old)) s.btbond
      blebond := copyList (leDecl cfg .v5_0_1) s.blebond
      whitelist := copyList (leDecl cfg .v5_0_1) s.whitelist
      gattHash := newGattHash cfg .v5_0_1 s.gattHash }

def btStorageUpdateV501ToV502 (cfg : BuildConfig) (s : StorageInfo) : Option StorageInfo :=
  if s.adapter.items = 0 then none
  else some
    { adapter := convertFirst (adapterDecl cfg .v5_0_1) (adapterDecl cfg .v5_0_2)
        (convert (adapterDecl cfg .v5_0_1) (adapterDecl cfg .v5_0_2) adapterSteps) s.adapter
      btbond := convertList (btDecl cfg .v5_0_1) (btDecl cfg .v5_0_2)
        (convert (btDecl cfg .v5_0_1) (btDecl cfg .v5_0_2) (btSteps ++ [(.uuids, .bytes)])) s.btbond
      blebond := convertList (leDecl cfg .v5_0_1) (leDecl cfg .v5_0_2)
        (convert (leDecl cfg .v5_0_1) (leDecl cfg .v5_0_2) leSteps) s.blebond
      whitelist := convertList (leDecl cfg .v5_0_1) (leDecl cfg .v5_0_2)
        (convert (leDecl cfg .v5_0_1) (leDecl cfg .v5_0_2) leSteps) s.whitelist
      gattHash := newGattHash cfg .v5_0_2 s.gattHash }

def btStorageUpdateV502ToV503 (cfg : BuildConfig) (s : StorageInfo) : Option StorageInfo :=
  if s.adapter.items = 0 then none
  else some
    { adapter := convertFirst (adapterDecl cfg .v5_0_2) (adapterDecl cfg .v5_0_3)
        (copyRecord (adapterDecl cfg .v5_0_2) (adapterDecl cfg .v5_0_3)) s.adapter
      btbond := copyList (btDecl cfg .v5_0_3) s.btbond
      blebond := convertList (leDecl cfg .v5_0_2) (leDecl cfg .v5_0_3)
        (copyRecord (leDecl cfg .v5_0_2) (leDecl cfg .v5_0_3)) s.blebond
      whitelist := convertList (leDecl cfg .v5_0_2) (leDecl cfg .v5_0_3)
        (copyRecord (leDecl cfg .v5_0_2) (leDecl cfg .v5_0_3)) s.whitelist
      gattHash := newGattHash cfg .v5_0_3 s.gattHash }

/-! ## The handler -/

def versionMap (cfg : BuildConfig) :
    StorageVersion → List (StorageInfo → Option StorageInfo)
  | .v4_0_0 => [btStorageUpdateV400ToV500 cfg, btStorageUpdateV500ToV501 cfg,
      btStorageUpdateV501ToV502 cfg, btStorageUpdateV502ToV503 cfg]
  | .v5_0_0 => [btStorageUpdateV500ToV501 cfg, btStorageUpdateV501ToV502 cfg,
      btStorageUpdateV502ToV503 cfg]
  | .v5_0_1 => [btStorageUpdateV501ToV502 cfg, btStorageUpdateV502ToV503 cfg]
  | .v5_0_2 => [btStorageUpdateV502ToV503 cfg]
  | .v5_0_3 => []

def btStorageUpdateHandler (cfg : BuildConfig) (s : StorageInfo) (v : StorageVersion) :
    Option StorageInfo :=
  if v = .v5_0_3 then none else (versionMap cfg v).foldlM (fun s f => f s) s

end BtFramework.Storage
