import BtFramework.StorageRoundTrip
import BtFramework.StorageUpgrade

/-!
# The update tool on the property store

The address of a record is put into its block with `(bt_address_t*)value + offset *
value_length`: the step from one record to the next is six records long, and the addresses
behind the first leave the block.
-/

namespace BtFramework.Storage

open List Nat Option

open CStruct FlatBuffer

/-! ## Layouts of a version -/

def Store.decl (cfg : BuildConfig) (v : StorageVersion) : Store → Decl Field
  | .btBond => btDecl cfg v
  | .bleBond => leDecl cfg v
  | .bleWhitelist => leDecl cfg v
  | .bleGattDbHash => gattDecl cfg v

def Store.itemSize (cfg : BuildConfig) (v : StorageVersion) (st : Store) : Nat :=
  (st.decl cfg v).sizeof

/-- Only the last version keeps the GATT cache. -/
def Store.InVersion (v : StorageVersion) (st : Store) : Prop :=
  st = .bleGattDbHash → v = .v5_0_3

def StorageInfo.list (s : StorageInfo) : Store → StorageValue
  | .btBond => s.btbond
  | .bleBond => s.blebond
  | .bleWhitelist => s.whitelist
  | .bleGattDbHash => s.gattHash

/-! ## Saving -/

def btStorageSaveStorageKvdb (api : PropertyApi) (db : Kvdb) (key : PropName)
    (data : List UInt8) (itemLen num : Nat) : Kvdb :=
  (List.range num).foldl
    (fun db i => propertySetBinary db (genPropKey api key (read data (i * itemLen) 6))
      (read data (i * itemLen + 6) (itemLen - 6))) db

def btStorageSaveItemKvdb (cfg : BuildConfig) (v : StorageVersion) (api : PropertyApi)
    (heap : Nat → UInt8) (db : Kvdb) (data : List UInt8) (items : Nat) (st : Store) :
    Option Kvdb :=
  (btStorageDelete api heap db st.key (countItems api db st.key)).map fun db =>
    btStorageSaveStorageKvdb api db st.key data (st.itemSize cfg v) items

/-! ## Loading -/

def fetchItems (api : PropertyApi) (db : Kvdb) (key : PropName) (itemLen : Nat) :
    Nat → Nat → List UInt8 → Option (List UInt8)
  | _, 0, value => some value
  | i, n + 1, value =>
    (propertyGetBinary db (genPropKey api key (read value (i * itemLen) 6))).bind fun found =>
      (write value (i * itemLen + 6) found).bind (fetchItems api db key itemLen (i + 1) n)

def btStorageLoadStorageKvdb (api : PropertyApi) (db : Kvdb) (key : PropName)
    (list : StorageValue) (itemLen : Nat) : Option StorageValue :=
  ((propertyList api db).foldlM (callbackLoadAddr (6 * itemLen) key list.items.toNat)
      { offset := 0, value := list.value }).bind fun p =>
    (fetchItems api db key itemLen 0 list.items.toNat p.value).map fun value =>
      { list with value }

def blankList (d : Decl Field) (items : Nat) : StorageValue :=
  propertiesMalloc d (UInt16.ofNat items) (zeros (items * d.sizeof))

def loadItem (cfg : BuildConfig) (v : StorageVersion) (api : PropertyApi) (db : Kvdb)
    (st : Store) : Option StorageValue :=
  let items := countItems api db st.key
  let list := blankList (st.decl cfg v) items
  if 0 < items then btStorageLoadStorageKvdb api db st.key list (st.itemSize cfg v)
  else some list

def btStorageLoadInfoKvdb (cfg : BuildConfig) (v : StorageVersion) (api : PropertyApi)
    (db : Kvdb) : Option StorageInfo :=
  (loadItem cfg v api db .btBond).bind fun btbond =>
  (loadItem cfg v api db .bleBond).bind fun blebond =>
  (loadItem cfg v api db .bleWhitelist).bind fun whitelist =>
  (loadItem cfg v api db .bleGattDbHash).bind fun gattHash =>
    some { adapter := blankList (adapterDecl cfg v) 1, btbond, blebond, whitelist, gattHash }

/-! ## Records in a block -/

section

variable {cfg : BuildConfig} {v : StorageVersion} {api : PropertyApi} {heap : Nat → UInt8}
  {db db' : Kvdb} {st : Store} {n size : Nat} {data : List UInt8}

/-- The records in a block. -/
def toolRecords (size n : Nat) (data : List UInt8) : List DeviceRecord :=
  (List.range n).map fun i =>
    { addr := read data (i * size) 6, tail := read data (i * size + 6) (size - 6) }

def packedLayout (size : Nat) (h : 6 ≤ size) : Layout where
  size := size
  tail := 6
  addr_before := Nat.le_refl 6
  tail_within := h

theorem six_le_sizeof {d : Decl Field} (hmem : .addr ∈ d.names) (hwidth : d.width .addr = 6) :
    6 ≤ d.sizeof := by
  have hle := Decl.offset_add_width_le hmem
  omega

theorem six_le_itemSize (cfg : BuildConfig) (h : st.InVersion v) : 6 ≤ st.itemSize cfg v := by
  cases st with
  | btBond =>
    cases v <;> exact six_le_sizeof (by simp [Store.decl, btDecl, Decl.names, byteArray]) rfl
  | bleBond | bleWhitelist =>
    cases v <;> exact six_le_sizeof (by simp [Store.decl, leDecl, Decl.names, byteArray]) rfl
  | bleGattDbHash =>
    rw [h rfl]
    exact six_le_sizeof (by simp [Store.decl, gattDecl, Decl.names, byteArray]) rfl

theorem toolRecords_of (h : 6 ≤ size) (hlen : data.length = n * size) :
    ∀ r ∈ toolRecords size n data, r.Of (packedLayout size h) := by
  intro r hr
  obtain ⟨i, hi, rfl⟩ := mem_map.mp hr
  have hroom := mul_le_mul_right size (succ_le_of_lt (mem_range.mp hi))
  rw [succ_mul] at hroom
  constructor
  · exact length_read (by omega)
  · exact length_read (by omega)

theorem exists_saveItem (h : StoresOk api db) (hsize : 6 ≤ st.itemSize cfg v)
    (heap : Nat → UInt8) (hlen : data.length = n * st.itemSize cfg v)
    (hnodup : ((toolRecords (st.itemSize cfg v) n data).map DeviceRecord.addr).Nodup) :
    ∃ db', btStorageSaveItemKvdb cfg v api heap db data n st = some db'
      ∧ SavedIn api st db (toolRecords (st.itemSize cfg v) n data) db' := by
  obtain ⟨cleared, hdel, hget⟩ := exists_btStorageDelete h st heap
  refine ⟨_, ?_, SavedIn.of_cleared (toolRecords_of hsize hlen) hnodup hget⟩
  rw [btStorageSaveItemKvdb, hdel, map_some, btStorageSaveStorageKvdb, btStorageSaveRemoteDevice,
    toolRecords, foldl_map]

/-! ## Loading one list -/

/-- The names are of sets of the version, with values of its size. -/
def WrittenFor (cfg : BuildConfig) (v : StorageVersion) (api : PropertyApi) (db : Kvdb) : Prop :=
  ∀ st : Store, ∀ name ∈ namesOf api db st.key,
    st.InVersion v ∧ (storedTail db name).length = st.itemSize cfg v - 6

theorem items_blankList (d : Decl Field) (h : n < 65536) : (blankList d n).items.toNat = n := by
  rw [blankList, items_propertiesMalloc, toNat_ofNat_of_lt h]

theorem length_blankList (d : Decl Field) (h : n < 65536) :
    (blankList d n).value.length = n * d.sizeof := by
  have hblock : (zeros (n * d.sizeof)).length = (UInt16.ofNat n).toNat * d.sizeof := by
    rw [zeros, length_replicate, toNat_ofNat_of_lt h]
  rw [blankList, propertiesMalloc_eq hblock, zeros, length_replicate]

theorem loadItem_of_nil (h : namesOf api db st.key = []) :
    loadItem cfg v api db st = some (blankList (st.decl cfg v) 0) := by
  have hcount : countItems api db st.key = 0 := by
    rw [countItems_eq, h]
    rfl
  rw [loadItem, hcount]
  rfl

theorem loadItem_of_one (h : StoresOk api db) {name : PropName}
    (hnames : namesOf api db st.key = [name]) (hsize : 6 ≤ st.itemSize cfg v)
    (htail : (storedTail db name).length = st.itemSize cfg v - 6) :
    ∃ list, loadItem cfg v api db st = some list ∧ list.items.toNat = 1
      ∧ toolRecords (st.itemSize cfg v) 1 list.value = [recordAt db st.key name] := by
  have hmem : name ∈ namesOf api db st.key := by
    rw [hnames]
    exact mem_singleton_self name
  obtain ⟨haddr, hgen⟩ := h.parse hmem
  have hcount : countItems api db st.key = 1 := by
    rw [h.countItems, hnames]
    rfl
  have hblock : (blankList (st.decl cfg v) 1).value.length = st.itemSize cfg v := by
    rw [length_blankList _ (by decide), one_mul]
    rfl
  -- the address, at the start of the block
  obtain ⟨addrs, haddrs⟩ := exists_write
    (show 0 + (parsePropKey name st.key.length).length
      ≤ (blankList (st.decl cfg v) 1).value.length by rw [haddr, hblock]; omega)
  have hread : read addrs 0 6 = parsePropKey name st.key.length := by
    have hself := read_write_self haddrs
    rwa [haddr] at hself
  -- the rest of the record, behind it
  obtain ⟨value, hvalue⟩ := exists_write
    (show 6 + (storedTail db name).length ≤ addrs.length by
      rw [length_write haddrs, hblock, htail]; omega)
  refine ⟨{ blankList (st.decl cfg v) 1 with value }, ?_, items_blankList _ (by decide), ?_⟩
  · rw [loadItem, hcount]
    rw [if_pos one_pos, btStorageLoadStorageKvdb, items_blankList _ (by decide),
      foldlM_propertyList (by rw [hnames]; rfl), hnames]
    simp only [map_cons, map_nil, writeFrom, zero_mul, zero_add, haddrs,
      bind_some, map_some, fetchItems, hread, hgen,
      propertyGetBinary_of_mem hmem, hvalue]
  · have hfront : read value 0 6 = parsePropKey name st.key.length := by
      rw [read_write_of_disjoint hvalue (Or.inl (le_refl 6)), hread]
    have hback : read value 6 (st.itemSize cfg v - 6) = storedTail db name := by
      have hself := read_write_self hvalue
      rwa [htail] at hself
    simp only [toolRecords, recordAt, range_one, map_cons, map_nil,
      zero_mul, zero_add, hfront, hback]

theorem loadItem_eq_none (h : StoresOk api db)
    (hmany : 2 ≤ (namesOf api db st.key).length) : loadItem cfg v api db st = none := by
  obtain ⟨n, hn⟩ := Nat.exists_eq_add_of_le' hmany
  have hlast : n + 1 < (namesOf api db st.key).length := by omega
  have hget : ((namesOf api db st.key).map fun name => parsePropKey name st.key.length)[n + 1]?
      = some (parsePropKey (namesOf api db st.key)[n + 1] st.key.length) := by
    rw [getElem?_map, getElem?_eq_getElem hlast]
    rfl
  have hlen := (h.parse (getElem_mem hlast)).1
  have hlt := h.counted st
  have hitems := items_blankList (st.decl cfg v) hlt
  have hblock := length_blankList (st.decl cfg v) hlt
  rw [loadItem, h.countItems, if_pos (by omega), btStorageLoadStorageKvdb, hitems,
    foldlM_propertyList rfl, writeFrom_eq_none hget]
  · rfl
  · rw [hblock, hlen, hn]
    change (n + 2) * st.itemSize cfg v < (0 + (n + 1)) * (6 * st.itemSize cfg v) + 0 + 6
    rw [zero_add]
    have hstep : (n + 2) * st.itemSize cfg v ≤ (6 * (n + 1)) * st.itemSize cfg v :=
      mul_le_mul_right _ (by omega)
    have hassoc : (n + 1) * (6 * st.itemSize cfg v) = (6 * (n + 1)) * st.itemSize cfg v := by
      ring
    omega

theorem loadItem_isSome_iff (h : StoresOk api db) (hw : WrittenFor cfg v api db) :
    (loadItem cfg v api db st).isSome ↔ (namesOf api db st.key).length ≤ 1 := by
  constructor
  · intro hsome
    by_contra hmany
    rw [loadItem_eq_none h (by omega)] at hsome
    cases hsome
  · intro hfew
    rcases hnames : namesOf api db st.key with _ | ⟨name, _ | ⟨other, rest⟩⟩
    · rw [loadItem_of_nil hnames]
      rfl
    · obtain ⟨hin, htail⟩ := hw st name (by rw [hnames]; exact mem_singleton_self name)
      obtain ⟨list, hlist, -, -⟩ := loadItem_of_one h hnames (six_le_itemSize cfg hin) htail
      rw [hlist]
      rfl
    · rw [hnames] at hfew
      simp only [length_cons] at hfew
      omega

/-! ## Loading everything -/

theorem btStorageLoadInfoKvdb_eq_some (info : StorageInfo)
    (hload : btStorageLoadInfoKvdb cfg v api db = some info) (st : Store) :
    loadItem cfg v api db st = some (info.list st) := by
  simp only [btStorageLoadInfoKvdb, bind_eq_some_iff] at hload
  obtain ⟨bt, hbt, le, hle, wl, hwl, gatt, hgatt, hinfo⟩ := hload
  cases hinfo
  cases st with
  | btBond => exact hbt
  | bleBond => exact hle
  | bleWhitelist => exact hwl
  | bleGattDbHash => exact hgatt

theorem exists_loadInfo (h : ∀ st, (loadItem cfg v api db st).isSome) :
    ∃ info, btStorageLoadInfoKvdb cfg v api db = some info := by
  obtain ⟨bt, hbt⟩ := isSome_iff_exists.mp (h .btBond)
  obtain ⟨le, hle⟩ := isSome_iff_exists.mp (h .bleBond)
  obtain ⟨wl, hwl⟩ := isSome_iff_exists.mp (h .bleWhitelist)
  obtain ⟨gatt, hgatt⟩ := isSome_iff_exists.mp (h .bleGattDbHash)
  exact ⟨_, by rw [btStorageLoadInfoKvdb, hbt, hle, hwl, hgatt]; rfl⟩

/-! ## Round trips -/

/-- Saving the `n` records of a block as one list and loading everything gives a
list of `n` records, the same ones, and no name of another list is touched. -/
def ToolRoundTrips (cfg : BuildConfig) (v : StorageVersion) (api : PropertyApi) (st : Store)
    (db : Kvdb) (n : Nat) (data : List UInt8) : Prop :=
  ∀ heap, ∃ db', btStorageSaveItemKvdb cfg v api heap db data n st = some db'
    ∧ (∃ info, btStorageLoadInfoKvdb cfg v api db' = some info
      ∧ (info.list st).items.toNat = n
      ∧ (toolRecords (st.itemSize cfg v) n (info.list st).value).Perm
          (toolRecords (st.itemSize cfg v) n data))
    ∧ ∀ st' : Store, st' ≠ st → ∀ name, st'.key.isPrefixOf name = true →
        propertyGetBinary db' name = propertyGetBinary db name

theorem length_toolRecords : (toolRecords size n data).length = n := by
  rw [toolRecords, length_map, length_range]

theorem SavedIn.namesOf_of_ne {rs : List DeviceRecord} (hsaved : SavedIn api st db rs db')
    {st' : Store} (hne : st' ≠ st) (name : PropName) :
    name ∈ namesOf api db' st'.key ↔ name ∈ namesOf api db st'.key := by
  rw [mem_namesOf, mem_namesOf]
  refine and_congr_right fun hpre => ?_
  rw [hsaved.others name (Bool.eq_false_iff.mpr fun hp => hne (Store.eq_of_isPrefixOf hpre hp))]

theorem SavedIn.length_namesOf_of_ne {rs : List DeviceRecord}
    (hsaved : SavedIn api st db rs db') {st' : Store} (hne : st' ≠ st) :
    (namesOf api db' st'.key).length = (namesOf api db st'.key).length :=
  ((perm_ext_iff_of_nodup nodup_namesOf nodup_namesOf).mpr
    (hsaved.namesOf_of_ne hne)).length_eq

theorem SavedIn.writtenFor (hsaved : SavedIn api st db (toolRecords (st.itemSize cfg v) n data) db')
    (hw : WrittenFor cfg v api db) (hin : st.InVersion v)
    (hlen : data.length = n * st.itemSize cfg v) : WrittenFor cfg v api db' := by
  intro st' name hname
  by_cases hst : st' = st
  · subst hst
    exact ⟨hin, hsaved.length_storedTail (toolRecords_of (six_le_itemSize cfg hin) hlen) hname⟩
  · have hpre := (mem_namesOf.mp hname).1
    have hsame := hsaved.others name
      (Bool.eq_false_iff.mpr fun hp => hst (Store.eq_of_isPrefixOf hpre hp))
    rw [storedTail, hsame]
    exact hw st' name ((hsaved.namesOf_of_ne hst name).mp hname)

theorem SavedIn.loads_iff (hok : StoresOk api db')
    (hsaved : SavedIn api st db (toolRecords (st.itemSize cfg v) n data) db')
    (hw : WrittenFor cfg v api db) (hin : st.InVersion v)
    (hlen : data.length = n * st.itemSize cfg v) :
    (∀ st', (loadItem cfg v api db' st').isSome = true) ↔
      n ≤ 1 ∧ ∀ st' : Store, st' ≠ st → (namesOf api db st'.key).length ≤ 1 := by
  simp only [loadItem_isSome_iff hok (hsaved.writtenFor hw hin hlen)]
  constructor
  · intro hfew
    constructor
    · have hself := hfew st
      rwa [hsaved.length_namesOf, length_toolRecords] at hself
    · intro st' hne
      rw [← hsaved.length_namesOf_of_ne hne]
      exact hfew st'
  · rintro ⟨hone, hothers⟩ st'
    by_cases hst : st' = st
    · rw [hst, hsaved.length_namesOf, length_toolRecords]
      exact hone
    · rw [hsaved.length_namesOf_of_ne hst]
      exact hothers st' hst

theorem toolRecords_perm_of_load (h : StoresOk api db')
    (hsaved : SavedIn api st db (toolRecords (st.itemSize cfg v) n data) db')
    (hin : st.InVersion v) (hlen : data.length = n * st.itemSize cfg v) (hone : n ≤ 1)
    {list : StorageValue} (hlist : loadItem cfg v api db' st = some list) :
    list.items.toNat = n
      ∧ (toolRecords (st.itemSize cfg v) n list.value).Perm
          (toolRecords (st.itemSize cfg v) n data) := by
  have hof := toolRecords_of (six_le_itemSize cfg hin) hlen
  have hcount : (namesOf api db' st.key).length = n := by
    rw [hsaved.length_namesOf, length_toolRecords]
  rcases hnames : namesOf api db' st.key with _ | ⟨name, _ | ⟨other, rest⟩⟩
  · rw [hnames] at hcount
    obtain rfl : 0 = n := hcount
    rw [loadItem_of_nil hnames] at hlist
    cases hlist
    exact ⟨items_blankList _ (by decide), List.Perm.refl _⟩
  · rw [hnames] at hcount
    obtain rfl : 1 = n := hcount
    have htail : (storedTail db' name).length = st.itemSize cfg v - 6 :=
      hsaved.length_storedTail hof (by rw [hnames]; exact mem_singleton_self name)
    obtain ⟨list', hlist', hitems, hrecords⟩ :=
      loadItem_of_one h hnames (six_le_itemSize cfg hin) htail
    rw [hlist'] at hlist
    cases hlist
    have hperm := hsaved.records_perm hof
    rw [hnames] at hperm
    rw [hrecords]
    exact ⟨hitems, hperm⟩
  · rw [hnames] at hcount
    simp only [length_cons] at hcount
    omega

/-- Saving with the tool and loading with the tool is a round trip exactly when no
list has more than one record afterwards. -/
theorem tool_round_trip_iff (h : StoresOk api db) (hw : WrittenFor cfg v api db)
    (hin : st.InVersion v) (hlen : data.length = n * st.itemSize cfg v)
    (hnodup : ((toolRecords (st.itemSize cfg v) n data).map DeviceRecord.addr).Nodup) :
    ToolRoundTrips cfg v api st db n data ↔
      n ≤ 1 ∧ ∀ st' : Store, st' ≠ st → (namesOf api db st'.key).length ≤ 1 := by
  have hsize := six_le_itemSize cfg hin
  constructor
  · intro htrip
    obtain ⟨db', hsave, ⟨info, hinfo, hitems, -⟩, -⟩ := htrip fun _ => 0
    obtain ⟨db'', hsave', hsaved⟩ := exists_saveItem h hsize (fun _ => 0) hlen hnodup
    rw [hsave'] at hsave
    cases hsave
    have hn : n < 65536 := by
      rw [← hitems]
      exact (info.list st).items.toNat_lt
    have hok := hsaved.storesOk h (toolRecords_of hsize hlen) (by rwa [length_toolRecords])
    refine (hsaved.loads_iff hok hw hin hlen).mp fun st' => ?_
    rw [btStorageLoadInfoKvdb_eq_some info hinfo st']
    rfl
  · intro hfew heap
    obtain ⟨db', hsave, hsaved⟩ := exists_saveItem h hsize heap hlen hnodup
    have hok := hsaved.storesOk h (toolRecords_of hsize hlen)
      (by rw [length_toolRecords]; exact lt_of_le_of_lt hfew.1 (by decide))
    obtain ⟨info, hinfo⟩ := exists_loadInfo ((hsaved.loads_iff hok hw hin hlen).mpr hfew)
    refine ⟨db', hsave, ⟨info, hinfo, ?_⟩, ?_⟩
    · exact toolRecords_perm_of_load hok hsaved hin hlen hfew.1
        (btStorageLoadInfoKvdb_eq_some info hinfo st)
    · intro st' hne name hpre
      exact hsaved.others name (Bool.eq_false_iff.mpr fun hp =>
        hne (Store.eq_of_isPrefixOf hpre hp))

end

def numberedBlock (n : Nat) : List UInt8 :=
  (List.range n).flatMap fun i => List.replicate 104 (UInt8.ofNat i)

theorem whitelist_of_one_round_trips :
    ToolRoundTrips defaultConfig .v5_0_3 sampleApi .bleWhitelist ∅ 1 (numberedBlock 1) :=
  (tool_round_trip_iff storesOk_empty (fun _ _ hname => by rw [namesOf_empty] at hname; cases hname)
    (fun _ => rfl) rfl (by decide)).mpr ⟨le_refl 1, fun st' _ => by rw [namesOf_empty]; decide⟩

/-- Two whitelist records with different addresses are saved into an empty store,
and loading them writes out of the block. -/
theorem whitelist_of_two_not_loaded :
    ((toolRecords 104 2 (numberedBlock 2)).map DeviceRecord.addr).Nodup
      ∧ ¬ ToolRoundTrips defaultConfig .v5_0_3 sampleApi .bleWhitelist ∅ 2 (numberedBlock 2) := by
  refine ⟨by decide, ?_⟩
  intro htrip
  obtain ⟨db', hsave, ⟨info, hinfo, -⟩, -⟩ := htrip fun _ => 0
  have hnone : (btStorageSaveItemKvdb defaultConfig .v5_0_3 sampleApi (fun _ => 0) ∅
      (numberedBlock 2) 2 .bleWhitelist).bind
      (btStorageLoadInfoKvdb defaultConfig .v5_0_3 sampleApi) = none := by
    decide +kernel
  have hsome := bind_eq_some_iff.mpr ⟨db', hsave, hinfo⟩
  cases hnone.symm.trans hsome

end BtFramework.Storage
