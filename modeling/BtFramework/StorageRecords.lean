import BtFramework.StorageUpdate

/-!
# Stored records through an upgrade

The records of the versions are compared by what their members mean: the bytes of
an address or a key, the value of an integer, the characters of a name. Each way in
which a version converts a record keeps this meaning, but for names, which are cut
to the capacity of the new member.
-/

namespace BtFramework.Storage

open List

open CStruct FlatBuffer

variable {cfg : BuildConfig} {v : StorageVersion} {d d' : Decl Field} {r : List UInt8}

/-! ## What the records mean -/

structure BtBond where
  addr : List UInt8
  addrType : Nat
  name : List UInt8
  aliasName : List UInt8
  classOfDevice : Nat
  linkKey : List UInt8
  linkKeyType : Nat
  deviceType : Nat
  uuids : List UInt8

def btBond (cfg : BuildConfig) (v : StorageVersion) (r : List UInt8) : BtBond :=
  let d := btDecl cfg v
  { addr := get d .addr r
    addrType := natOf (get d .addrType r)
    name := strOf (get d .name r)
    aliasName := strOf (get d .aliasName r)
    classOfDevice := natOf (get d .classOfDevice r)
    linkKey := get d .linkKey r
    linkKeyType := natOf (get d .linkKeyType r)
    deviceType := natOf (get d .deviceType r)
    uuids := if .uuids ∈ d.names then get d .uuids r else zeros cfg.savedUuidsLen }

structure LeBond where
  addr : List UInt8
  addrType : Nat
  deviceType : Nat
  smpKey : List UInt8

def leBond (cfg : BuildConfig) (v : StorageVersion) (r : List UInt8) : LeBond :=
  let d := leDecl cfg v
  { addr := get d .addr r
    addrType := natOf (get d .addrType r)
    deviceType := natOf (get d .deviceType r)
    smpKey := get d .smpKey r }

structure AdapterInfo where
  name : List UInt8
  classOfDevice : Nat
  ioCapability : Nat
  scanMode : Nat
  bondable : Nat

def adapterInfo (cfg : BuildConfig) (v : StorageVersion) (r : List UInt8) : AdapterInfo :=
  let d := adapterDecl cfg v
  { name := strOf (get d .name r)
    classOfDevice := natOf (get d .classOfDevice r)
    ioCapability := natOf (get d .ioCapability r)
    scanMode := natOf (get d .scanMode r)
    bondable := natOf (get d .bondable r) }

def BtBond.cutNames (n : Nat) (b : BtBond) : BtBond :=
  { b with name := b.name.take n, aliasName := b.aliasName.take n }

def AdapterInfo.cutNames (n : Nat) (a : AdapterInfo) : AdapterInfo :=
  { a with name := a.name.take n }

/-! ## Well-formed records -/

structure BtOk (cfg : BuildConfig) (v : StorageVersion) (r : List UInt8) : Prop where
  length : r.length = (btDecl cfg v).sizeof
  name : 0 ∈ get (btDecl cfg v) .name r
  aliasName : 0 ∈ get (btDecl cfg v) .aliasName r
  enums : ∀ x ∈ [Field.addrType, .linkKeyType, .deviceType], natOf (get (btDecl cfg v) x r) < 256

structure LeOk (cfg : BuildConfig) (v : StorageVersion) (r : List UInt8) : Prop where
  length : r.length = (leDecl cfg v).sizeof
  enums : ∀ x ∈ [Field.addrType, .deviceType], natOf (get (leDecl cfg v) x r) < 256

structure AdapterOk (cfg : BuildConfig) (v : StorageVersion) (r : List UInt8) : Prop where
  length : r.length = (adapterDecl cfg v).sizeof
  name : 0 ∈ get (adapterDecl cfg v) .name r

/-! ## The members of the declarations -/

@[simp] theorem name_enumeration (x : Field) : (enumeration cfg x).name = x := by
  unfold enumeration
  split <;> rfl

variable (cfg v)

theorem names_btDecl : ∀ s ∈ btSteps, s.1 ∈ (btDecl cfg v).names := by
  cases v <;>
    simp [btSteps, btDecl, Decl.names, byteArray, uint8, uint32]

theorem names_leDecl : ∀ s ∈ leSteps, s.1 ∈ (leDecl cfg v).names := by
  cases v <;>
    simp [leSteps, leDecl, Decl.names, byteArray, uint8]

theorem names_adapterDecl : ∀ s ∈ adapterSteps, s.1 ∈ (adapterDecl cfg v).names := by
  cases v <;>
    simp [adapterSteps, adapterDecl, adapterMembers, Decl.names, byteArray, uint32]

def enumSize (cfg : BuildConfig) : Nat := if cfg.shortEnums then 1 else 4

theorem size_enumeration (x : Field) : (enumeration cfg x).size = enumSize cfg := by
  unfold enumeration enumSize
  split <;> rfl

def nameSize (cfg : BuildConfig) : StorageVersion → Nat
  | .v4_0_0 => 64
  | .v5_0_0 | .v5_0_1 => 65
  | .v5_0_2 | .v5_0_3 => cfg.remNameMaxLen + 1

def typeSize (cfg : BuildConfig) : StorageVersion → Nat
  | .v4_0_0 | .v5_0_0 | .v5_0_1 => enumSize cfg
  | .v5_0_2 | .v5_0_3 => 1

theorem width_btDecl :
    (btDecl cfg v).width .addr = 6 ∧ (btDecl cfg v).width .addrType = typeSize cfg v
      ∧ (btDecl cfg v).width .name = nameSize cfg v
      ∧ (btDecl cfg v).width .aliasName = nameSize cfg v
      ∧ (btDecl cfg v).width .classOfDevice = 4 ∧ (btDecl cfg v).width .linkKey = 16
      ∧ (btDecl cfg v).width .linkKeyType = typeSize cfg v
      ∧ (btDecl cfg v).width .deviceType = typeSize cfg v := by
  cases v <;>
    simp [btDecl, Decl.width, widthIn, byteArray, uint8, uint32, size_enumeration, typeSize,
      nameSize]

theorem width_leDecl :
    (leDecl cfg v).width .addr = 6 ∧ (leDecl cfg v).width .addrType = typeSize cfg v
      ∧ (leDecl cfg v).width .deviceType = typeSize cfg v
      ∧ (leDecl cfg v).width .smpKey = 80 := by
  cases v <;>
    simp [leDecl, Decl.width, widthIn, byteArray, uint8, size_enumeration, typeSize]

theorem width_adapterDecl :
    (adapterDecl cfg v).width .name = nameSize cfg v
      ∧ ∀ x ∈ [Field.classOfDevice, .ioCapability, .scanMode, .bondable],
        (adapterDecl cfg v).width x = 4 := by
  cases v <;>
    simp [adapterDecl, adapterMembers, Decl.width, widthIn, byteArray, uint32, nameSize]

/-! ## Copying records member by member -/

variable {steps : List (Field × Copy)} {v' : StorageVersion}

theorem typeSize_pos : 0 < typeSize cfg v := by
  have : 0 < enumSize cfg := by
    unfold enumSize
    split <;> decide
  cases v <;> simp [typeSize, this]

theorem nameSize_pos : 0 < nameSize cfg v := by
  cases v <;> simp [nameSize]

variable {cfg v}

theorem nameSize_400_le : nameSize cfg .v4_0_0 ≤ nameSize cfg .v5_0_0 := by
  simp only [nameSize]
  decide

theorem lt_pow_typeSize {n : Nat} (h : n < 256) (v : StorageVersion) : n < 256 ^ typeSize cfg v :=
  Nat.lt_of_lt_of_le h (Nat.le_self_pow (typeSize_pos cfg v).ne' 256)

theorem convertible_bt (v v' : StorageVersion) :
    Convertible (btDecl cfg v) (btDecl cfg v') btSteps where
  nodup := by decide
  source := names_btDecl cfg v
  target := names_btDecl cfg v'
  bytes := by
    simp [btSteps, (width_btDecl cfg v).1, (width_btDecl cfg v').1,
      (width_btDecl cfg v).2.2.2.2.2.1, (width_btDecl cfg v').2.2.2.2.2.1]
  str := by
    simp [btSteps, (width_btDecl cfg v').2.2.1, (width_btDecl cfg v').2.2.2.1, nameSize_pos]

theorem convertible_le (v v' : StorageVersion) :
    Convertible (leDecl cfg v) (leDecl cfg v') leSteps where
  nodup := by decide
  source := names_leDecl cfg v
  target := names_leDecl cfg v'
  bytes := by
    simp [leSteps, (width_leDecl cfg v).1, (width_leDecl cfg v').1,
      (width_leDecl cfg v).2.2.2, (width_leDecl cfg v').2.2.2]
  str := by simp [leSteps]

theorem convertible_adapter (v v' : StorageVersion) :
    Convertible (adapterDecl cfg v) (adapterDecl cfg v') adapterSteps where
  nodup := by decide
  source := names_adapterDecl cfg v
  target := names_adapterDecl cfg v'
  bytes := by simp [adapterSteps]
  str := by simp [adapterSteps, (width_adapterDecl cfg v').1, nameSize_pos]

variable {r' : List UInt8}

/-- The records made by `f` mean what those before did, but for `g`. -/
def RecordStep {β : Type} (P Q : List UInt8 → Prop) (view view' : List UInt8 → β) (g : β → β)
    (f : List UInt8 → List UInt8) : Prop := ∀ r, P r → Q (f r) ∧ view' (f r) = g (view r)

theorem BtOk.int_lt (h : BtOk cfg v r) (v' : StorageVersion) : ∀ s ∈ btSteps, s.2 = .int →
    natOf (get (btDecl cfg v) s.1 r) < 256 ^ (btDecl cfg v').width s.1 := by
  obtain ⟨-, htype, -, -, hcod, -, hktype, hdtype⟩ := width_btDecl cfg v'
  have hfour := natOf_lt (get (btDecl cfg v) .classOfDevice r)
  rw [length_get (names_btDecl cfg v (_, .int) (by decide)) h.length,
    (width_btDecl cfg v).2.2.2.2.1] at hfour
  have henums := h.enums
  simp [btSteps, htype, hcod, hktype, hdtype, lt_pow_typeSize, henums,
    show _ < 4294967296 from hfour]

theorem btBond_of_keeps (h : BtOk cfg v r) (hlen : r'.length = (btDecl cfg v').sizeof)
    (hkeeps : ∀ s ∈ btSteps, s.2.Keeps (btDecl cfg v) (btDecl cfg v') r r' s.1)
    (huuids : (btBond cfg v' r').uuids = (btBond cfg v r).uuids) :
    BtOk cfg v' r' ∧ btBond cfg v' r' = (btBond cfg v r).cutNames (nameSize cfg v' - 1) := by
  obtain ⟨-, -, hwname, hwalias, -⟩ := width_btDecl cfg v'
  simp only [btSteps, forall_mem_cons, Copy.Keeps, hwname, hwalias] at hkeeps
  obtain ⟨haddr, htype, hname, halias, hcod, hkey, hktype, hdtype, -⟩ := hkeeps
  refine ⟨⟨hlen, hname.2, halias.2, ?_⟩, ?_⟩
  · simpa [htype, hktype, hdtype] using h.enums
  · simp only [btBond, BtBond.cutNames] at huuids ⊢
    rw [haddr, htype, hname.1, halias.1, hcod, hkey, hktype, hdtype, huuids]

theorem leBond_of_keeps (h : LeOk cfg v r) (hlen : r'.length = (leDecl cfg v').sizeof)
    (hkeeps : ∀ s ∈ leSteps, s.2.Keeps (leDecl cfg v) (leDecl cfg v') r r' s.1) :
    LeOk cfg v' r' ∧ leBond cfg v' r' = leBond cfg v r := by
  simp only [leSteps, forall_mem_cons, Copy.Keeps] at hkeeps
  obtain ⟨haddr, htype, hdtype, hkey, -⟩ := hkeeps
  refine ⟨⟨hlen, ?_⟩, ?_⟩
  · simpa [htype, hdtype] using h.enums
  · rw [leBond, leBond, haddr, htype, hdtype, hkey]

theorem adapterInfo_of_keeps (hlen : r'.length = (adapterDecl cfg v').sizeof)
    (hkeeps : ∀ s ∈ adapterSteps, s.2.Keeps (adapterDecl cfg v) (adapterDecl cfg v') r r' s.1) :
    AdapterOk cfg v' r'
      ∧ adapterInfo cfg v' r' = (adapterInfo cfg v r).cutNames (nameSize cfg v' - 1) := by
  simp only [adapterSteps, forall_mem_cons, Copy.Keeps, (width_adapterDecl cfg v').1] at hkeeps
  obtain ⟨hbond, hcod, hio, hscan, hname, -⟩ := hkeeps
  refine ⟨⟨hlen, hname.2⟩, ?_⟩
  simp only [adapterInfo, AdapterInfo.cutNames]
  rw [hname.1, hcod, hio, hscan, hbond]

theorem leBond_convert : RecordStep (LeOk cfg v) (LeOk cfg v') (leBond cfg v) (leBond cfg v') id
    (convert (leDecl cfg v) (leDecl cfg v') leSteps) := by
  intro r h
  obtain ⟨-, htype, hdtype, -⟩ := width_leDecl cfg v'
  have hint : ∀ s ∈ leSteps, s.2 = .int →
      natOf (get (leDecl cfg v) s.1 r) < 256 ^ (leDecl cfg v').width s.1 := by
    have henums := h.enums
    simp [leSteps, htype, hdtype, lt_pow_typeSize, henums]
  exact leBond_of_keeps h length_convert fun s hs =>
    keeps_convert (convertible_le v v') h.length hs (hint s hs)

theorem adapterInfo_convert : RecordStep (AdapterOk cfg v) (AdapterOk cfg v') (adapterInfo cfg v)
    (adapterInfo cfg v') (.cutNames (nameSize cfg v' - 1))
    (convert (adapterDecl cfg v) (adapterDecl cfg v') adapterSteps) := by
  intro r h
  refine adapterInfo_of_keeps length_convert fun s hs =>
    keeps_convert (convertible_adapter v v') h.length hs fun hint => ?_
  have hfour : s.1 ∈ [Field.classOfDevice, .ioCapability, .scanMode, .bondable] := by
    revert s
    decide
  have hlt := natOf_lt (get (adapterDecl cfg v) s.1 r)
  rwa [length_get (names_adapterDecl cfg v s hs) h.length, (width_adapterDecl cfg v).2 _ hfour,
    ← (width_adapterDecl cfg v').2 _ hfour] at hlt

/-! ## Copying records as bytes -/

theorem get_copyRecord (hext : d.Extends d') {x : Field} (hx : x ∈ d.names)
    (hr : r.length = d.sizeof) : get d' x (copyRecord d d' r) = get d x r :=
  get_take_append hext hx hr _

theorem length_copyRecord (hle : d.sizeof ≤ d'.sizeof) (hr : r.length = d.sizeof) :
    (copyRecord d d' r).length = d'.sizeof := by
  rw [copyRecord, length_append, hr, zeros, length_replicate]
  omega

variable (cfg)

theorem sizeof_bt_500_le : (btDecl cfg .v5_0_0).sizeof ≤ (btDecl cfg .v5_0_1).sizeof := by
  cases henum : cfg.shortEnums <;>
    simp [btDecl, Decl.sizeof, endFrom, alignUp, enumeration, henum, byteArray, uint8, uint32] <;>
    omega

theorem sizeof_le_502_le : (leDecl cfg .v5_0_2).sizeof ≤ (leDecl cfg .v5_0_3).sizeof := by
  simp [leDecl, Decl.sizeof, endFrom, alignUp, byteArray, uint8]

theorem sizeof_adapter_502_le :
    (adapterDecl cfg .v5_0_2).sizeof ≤ (adapterDecl cfg .v5_0_3).sizeof := by
  simp [adapterDecl, adapterMembers, Decl.sizeof, endFrom, alignUp, byteArray, uint32]
  omega

theorem uuids_mem_names :
    (.uuids ∈ (btDecl cfg .v5_0_1).names ∧ .uuids ∈ (btDecl cfg .v5_0_2).names)
      ∧ .uuids ∉ (btDecl cfg .v4_0_0).names ∧ .uuids ∉ (btDecl cfg .v5_0_0).names := by
  simp [btDecl, Decl.names, byteArray, uint8, uint32]

theorem width_uuids :
    (btDecl cfg .v5_0_1).width .uuids = cfg.savedUuidsLen
      ∧ (btDecl cfg .v5_0_2).width .uuids = cfg.savedUuidsLen := by
  simp [btDecl, Decl.width, widthIn, byteArray, uint8, uint32]

/-! ## Bonded devices -/

variable {cfg}

theorem BtOk.length_names_lt (h : BtOk cfg v r) :
    (btBond cfg v r).name.length < nameSize cfg v
      ∧ (btBond cfg v r).aliasName.length < nameSize cfg v := by
  obtain ⟨-, -, hname, halias, -⟩ := width_btDecl cfg v
  have h₁ := length_strOf_lt h.name
  have h₂ := length_strOf_lt h.aliasName
  rw [length_get (names_btDecl cfg v (.name, .str) (by decide)) h.length, hname] at h₁
  rw [length_get (names_btDecl cfg v (.aliasName, .str) (by decide)) h.length, halias] at h₂
  exact ⟨h₁, h₂⟩

theorem BtOk.cutNames_eq_self (h : BtOk cfg v r) (v' : StorageVersion)
    (hle : nameSize cfg v ≤ nameSize cfg v') :
    (btBond cfg v r).cutNames (nameSize cfg v' - 1) = btBond cfg v r := by
  obtain ⟨hname, halias⟩ := h.length_names_lt
  rw [BtBond.cutNames, take_of_length_le (by omega), take_of_length_le (by omega)]

theorem btBond_400_500 : RecordStep (BtOk cfg .v4_0_0) (BtOk cfg .v5_0_0) (btBond cfg .v4_0_0)
    (btBond cfg .v5_0_0) (.cutNames (nameSize cfg .v5_0_0 - 1))
    (convert (btDecl cfg .v4_0_0) (btDecl cfg .v5_0_0) btSteps) := by
  intro r h
  obtain ⟨-, hnone, hnone'⟩ := uuids_mem_names cfg
  refine btBond_of_keeps h length_convert (fun s hs => keeps_convert (convertible_bt _ _) h.length
    hs (h.int_lt _ s hs)) ?_
  simp only [btBond, if_neg hnone, if_neg hnone']

theorem btBond_500_501 : RecordStep (BtOk cfg .v5_0_0) (BtOk cfg .v5_0_1) (btBond cfg .v5_0_0)
    (btBond cfg .v5_0_1) (.cutNames (nameSize cfg .v5_0_1 - 1)) fun r =>
      put (btDecl cfg .v5_0_1) .uuids (zeros cfg.savedUuidsLen)
        (copyRecord (btDecl cfg .v5_0_0) (btDecl cfg .v5_0_1) r) := by
  intro r h
  obtain ⟨⟨hsome, -⟩, -, hnone⟩ := uuids_mem_names cfg
  have hext : (btDecl cfg .v5_0_0).Extends (btDecl cfg .v5_0_1) :=
    ⟨⟨[byteArray .uuids cfg.savedUuidsLen], rfl⟩⟩
  have hcopy := length_copyRecord (sizeof_bt_500_le cfg) h.length
  have hfits : Fits (btDecl cfg .v5_0_1) .uuids (zeros cfg.savedUuidsLen)
      (copyRecord (btDecl cfg .v5_0_0) (btDecl cfg .v5_0_1) r) :=
    ⟨hsome, by rw [(width_uuids cfg).1, zeros, length_replicate], hcopy⟩
  refine btBond_of_keeps h (length_put.trans hcopy) (fun s hs => ?_) ?_
  · have hne : s.1 ≠ .uuids := by
      revert s
      decide
    have hx := names_btDecl cfg .v5_0_0 s hs
    refine keeps_of_get ?_ ?_ ?_
    · rw [get_put_of_ne hfits hne (names_btDecl cfg _ s hs), get_copyRecord hext hx h.length]
    · rw [length_get hx h.length, (hext.place hx).2]
    · revert s
      simp [btSteps, h.name, h.aliasName]
  · simp only [btBond, if_pos hsome, if_neg hnone]
    rw [get_put_self hfits, drop_of_length_le, append_nil]
    rw [length_get hsome hcopy, (width_uuids cfg).1, zeros, length_replicate]

theorem btBond_501_502 : RecordStep (BtOk cfg .v5_0_1) (BtOk cfg .v5_0_2) (btBond cfg .v5_0_1)
    (btBond cfg .v5_0_2) (.cutNames (nameSize cfg .v5_0_2 - 1))
    (convert (btDecl cfg .v5_0_1) (btDecl cfg .v5_0_2) (btSteps ++ [(.uuids, .bytes)])) := by
  intro r h
  obtain ⟨⟨hsome, hsome'⟩, -⟩ := uuids_mem_names cfg
  obtain ⟨hwidth, hwidth'⟩ := width_uuids cfg
  have hbase : Convertible (btDecl cfg .v5_0_1) (btDecl cfg .v5_0_2) btSteps := convertible_bt _ _
  have hc : Convertible (btDecl cfg .v5_0_1) (btDecl cfg .v5_0_2)
      (btSteps ++ [(.uuids, .bytes)]) :=
    ⟨by decide, forall_mem_append.mpr ⟨hbase.source, by simp [hsome]⟩,
      forall_mem_append.mpr ⟨hbase.target, by simp [hsome']⟩,
      forall_mem_append.mpr ⟨hbase.bytes, by simp [hwidth, hwidth']⟩,
      forall_mem_append.mpr ⟨hbase.str, by simp⟩⟩
  refine btBond_of_keeps h length_convert (fun s hs => keeps_convert hc h.length
    (mem_append_left _ hs) (h.int_lt _ s hs)) ?_
  simp only [btBond, if_pos hsome, if_pos hsome']
  exact keeps_convert hc h.length (s := (.uuids, .bytes)) (by decide) (by simp)

/-! ## LE devices and the adapter information -/

theorem leBond_502_503 : RecordStep (LeOk cfg .v5_0_2) (LeOk cfg .v5_0_3) (leBond cfg .v5_0_2)
    (leBond cfg .v5_0_3) id (copyRecord (leDecl cfg .v5_0_2) (leDecl cfg .v5_0_3)) := by
  intro r h
  have hext : (leDecl cfg .v5_0_2).Extends (leDecl cfg .v5_0_3) :=
    ⟨⟨[byteArray .localCsrk 16], rfl⟩⟩
  refine leBond_of_keeps h (length_copyRecord (sizeof_le_502_le cfg) h.length) fun s hs => ?_
  have hx := names_leDecl cfg .v5_0_2 s hs
  refine keeps_of_get (get_copyRecord hext hx h.length) ?_ (by revert s; simp [leSteps])
  rw [length_get hx h.length, (hext.place hx).2]

theorem adapterInfo_copyRecord
    (hext : (adapterDecl cfg v).Extends (adapterDecl cfg v'))
    (hle : (adapterDecl cfg v).sizeof ≤ (adapterDecl cfg v').sizeof) :
    RecordStep (AdapterOk cfg v) (AdapterOk cfg v') (adapterInfo cfg v) (adapterInfo cfg v')
      (.cutNames (nameSize cfg v' - 1)) (copyRecord (adapterDecl cfg v) (adapterDecl cfg v')) := by
  intro r h
  refine adapterInfo_of_keeps (length_copyRecord hle h.length) fun s hs => ?_
  have hx := names_adapterDecl cfg v s hs
  refine keeps_of_get (get_copyRecord hext hx h.length) ?_ ?_
  · rw [length_get hx h.length, (hext.place hx).2]
  · revert s
    simp [adapterSteps, h.name]

theorem AdapterOk.cutNames_eq_self (h : AdapterOk cfg v r) (v' : StorageVersion)
    (hle : nameSize cfg v ≤ nameSize cfg v') :
    (adapterInfo cfg v r).cutNames (nameSize cfg v' - 1) = adapterInfo cfg v r := by
  have hlen : (adapterInfo cfg v r).name.length < nameSize cfg v := by
    have h₁ := length_strOf_lt h.name
    rwa [length_get (names_adapterDecl cfg v (.name, .str) (by decide)) h.length,
      (width_adapterDecl cfg v).1] at h₁
  rw [AdapterInfo.cutNames, take_of_length_le (by omega)]

end BtFramework.Storage
