import BtFramework.StorageNames

/-!
# Saving and loading the property store

Saving a set first deletes the names with its prefix and then stores one name for each record
(`SavedIn`); loading finds these names again in the order of the listing. The block is divided
by the record type of the branch that `storage_get_key` takes, which for the GATT cache is not
the type of its own records.
-/

namespace BtFramework.Storage

open FlatBuffer List Nat

variable {api : PropertyApi} {cfg : BuildConfig} {heap : Nat → UInt8} {db db' : Kvdb}
  {st : Store} {lay stride : Layout} {rs : List DeviceRecord}

/-- The database as the save functions leave it: the names with the prefix of a
set come from addresses, and there are no more of them than can be counted. -/
structure StoresOk (api : PropertyApi) (db : Kvdb) : Prop where
  generated : ∀ (st : Store), ∀ name ∈ namesOf api db st.key,
    ∃ addr : AddrBytes, addr.length = 6 ∧ name = genPropKey api st.key addr
  counted : ∀ st : Store, (namesOf api db st.key).length < 65536

theorem StoresOk.countItems (h : StoresOk api db) :
    countItems api db st.key = (namesOf api db st.key).length := by
  rw [countItems_eq, mod_eq_of_lt (h.counted st)]

variable {name : PropName} {names : List PropName} {value : List UInt8} {r : DeviceRecord}
  {out : List DeviceRecord}

theorem StoresOk.parse (h : StoresOk api db) (hname : name ∈ namesOf api db st.key) :
    (parsePropKey name st.key.length).length = 6
      ∧ genPropKey api st.key (parsePropKey name st.key.length) = name := by
  obtain ⟨addr, hlen, rfl⟩ := h.generated st name hname
  rw [parsePropKey_genPropKey hlen]
  exact ⟨hlen, rfl⟩

/-! ## Addresses in a block -/

theorem exists_addrs (h : StoresOk api db) (st : Store) (width : Nat) (value : List UInt8)
    (hwidth : 6 ≤ width)
    (hroom : ∀ k < (namesOf api db st.key).length, k * width + 6 ≤ value.length) :
    ∃ value', (propertyList api db).foldlM
        (callbackLoadAddr width st.key (namesOf api db st.key).length) { offset := 0, value }
          = some { offset := (namesOf api db st.key).length, value := value' }
      ∧ value'.length = value.length
      ∧ ∀ k name, (namesOf api db st.key)[k]? = some name →
          FlatBuffer.read value' (k * width) 6 = parsePropKey name st.key.length := by
  obtain ⟨value', hwrite, hread⟩ := exists_writeFrom (i := 0)
    (fun name hname => (h.parse hname).1) hwidth 0 value (by simpa only [zero_add] using hroom)
  simp only [zero_add, add_zero] at hread
  refine ⟨value', ?_, length_writeFrom hwrite, hread⟩
  rw [foldlM_propertyList rfl, hwrite]
  rfl

/-! ## Deleting a set -/

theorem lookup_foldl_propertyDelete (names : List PropName) (name : PropName) :
    propertyGetBinary (names.foldl propertyDelete db) name
      = if name ∈ names then none else propertyGetBinary db name := by
  induction names generalizing db with
  | nil => rfl
  | cons other names ih =>
    rw [foldl_cons, ih]
    by_cases hmem : name ∈ names
    · rw [if_pos hmem, if_pos (mem_cons_of_mem _ hmem)]
    · rw [if_neg hmem]
      by_cases heq : name = other
      · rw [heq, if_pos mem_cons_self]
        exact AList.lookup_erase other db
      · rw [if_neg (not_mem_cons_of_ne_of_not_mem heq hmem)]
        exact AList.lookup_erase_ne heq

theorem exists_btStorageDelete (h : StoresOk api db) (st : Store) (heap : Nat → UInt8) :
    ∃ db', btStorageDelete api heap db st.key (countItems api db st.key) = some db'
      ∧ ∀ name, propertyGetBinary db' name
          = if st.key.isPrefixOf name then none else propertyGetBinary db name := by
  have hmalloc : (malloc heap ((namesOf api db st.key).length * 6)).length
      = (namesOf api db st.key).length * 6 := by
    rw [malloc, length_map, length_range]
  obtain ⟨value, hlist, -, hread⟩ := exists_addrs h st 6
    (malloc heap ((namesOf api db st.key).length * 6)) (le_refl 6) (by
      omega)
  have hnames : (List.range (namesOf api db st.key).length).map
      (fun i => genPropKey api st.key (read value (i * 6) 6))
        = namesOf api db st.key := by
    refine (map_range_eq_map (g := id) fun k name hk => ?_).trans (map_id _)
    rw [hread k name hk, (h.parse (List.mem_of_getElem? hk)).2]
    rfl
  refine ⟨(namesOf api db st.key).foldl propertyDelete db, ?_, ?_⟩
  · rw [btStorageDelete, h.countItems, hlist, Option.map_some]
    conv_rhs => rw [← hnames, foldl_map]
  · intro name
    rw [lookup_foldl_propertyDelete]
    by_cases hpre : st.key.isPrefixOf name = true
    · rw [if_pos hpre]
      by_cases hmem : name ∈ namesOf api db st.key
      · rw [if_pos hmem]
      · rw [if_neg hmem]
        exact Option.eq_none_iff_forall_ne_some.mpr fun v hv => hmem (mem_namesOf.mpr ⟨hpre, v, hv⟩)
    · rw [if_neg hpre, if_neg fun hmem => hpre (mem_namesOf.mp hmem).1]

/-! ## Saving a set -/

theorem genPropKey_inj {a b : AddrBytes} (ha : a.length = 6) (hb : b.length = 6)
    (h : genPropKey api st.key a = genPropKey api st.key b) : a = b := by
  have hparse := congrArg (parsePropKey · st.key.length) h
  simpa only [parsePropKey_genPropKey ha, parsePropKey_genPropKey hb] using hparse

def savedNames (api : PropertyApi) (st : Store) (rs : List DeviceRecord) : List PropName :=
  rs.map fun r => genPropKey api st.key r.addr

theorem nodup_savedNames (hof : ∀ r ∈ rs, r.Of lay) (hnodup : (rs.map DeviceRecord.addr).Nodup) :
    (savedNames api st rs).Nodup := by
  rw [savedNames, nodup_map_iff_inj_on hnodup.of_map]
  intro r hr s hs heq
  exact inj_on_of_nodup_map hnodup hr hs (genPropKey_inj (hof r hr).addr (hof s hs).addr heq)

theorem lookup_saveRemote_of_notMem (h : name ∉ savedNames api st rs) :
    propertyGetBinary (btStorageSaveRemoteDevice api db st.key rs) name
      = propertyGetBinary db name := by
  induction rs generalizing db with
  | nil => rfl
  | cons r rs ih =>
    rw [savedNames, map_cons, mem_cons, not_or] at h
    exact (ih h.2).trans (AList.lookup_insert_ne h.1)

theorem lookup_saveRemote_of_mem (hnodup : (savedNames api st rs).Nodup) (hr : r ∈ rs) :
    propertyGetBinary (btStorageSaveRemoteDevice api db st.key rs)
      (genPropKey api st.key r.addr) = some r.tail := by
  induction rs generalizing db with
  | nil => cases hr
  | cons s rs ih =>
    rw [savedNames, map_cons, nodup_cons] at hnodup
    rcases mem_cons.mp hr with rfl | hr
    · refine (lookup_saveRemote_of_notMem hnodup.1).trans ?_
      exact AList.lookup_insert db
    · exact ih hnodup.2 hr

def saved (rs : List DeviceRecord) : List DeviceRecord := rs.take (rs.length % 65536)

theorem saved_eq_self (h : rs.length < 65536) : saved rs = rs := by
  rw [saved, mod_eq_of_lt h, take_length]

structure SavedIn (api : PropertyApi) (st : Store) (db : Kvdb) (rs : List DeviceRecord)
    (db' : Kvdb) : Prop where
  names : (namesOf api db' st.key).Perm (savedNames api st rs)
  tails : ∀ r ∈ rs, propertyGetBinary db' (genPropKey api st.key r.addr) = some r.tail
  others : ∀ name, st.key.isPrefixOf name = false →
    propertyGetBinary db' name = propertyGetBinary db name

theorem SavedIn.of_cleared {cleared : Kvdb} (hof : ∀ r ∈ rs, r.Of lay)
    (hnodup : (rs.map DeviceRecord.addr).Nodup)
    (hget : ∀ name, propertyGetBinary cleared name
      = if st.key.isPrefixOf name then none else propertyGetBinary db name) :
    SavedIn api st db rs (btStorageSaveRemoteDevice api cleared st.key rs) := by
  have hn : (savedNames api st rs).Nodup := nodup_savedNames hof hnodup
  refine ⟨?_, ?_, ?_⟩
  · rw [perm_ext_iff_of_nodup nodup_namesOf hn]
    intro name
    rw [mem_namesOf]
    constructor
    · rintro ⟨hpre, v, hv⟩
      by_contra hmem
      rw [lookup_saveRemote_of_notMem hmem, hget, if_pos hpre] at hv
      cases hv
    · intro hmem
      obtain ⟨r, hr, rfl⟩ := mem_map.mp hmem
      exact ⟨isPrefixOf_genPropKey (hof r hr).addr, r.tail, lookup_saveRemote_of_mem hn hr⟩
  · intro r hr
    exact lookup_saveRemote_of_mem hn hr
  · intro name hpre
    rw [lookup_saveRemote_of_notMem, hget, if_neg (by rw [hpre]; decide)]
    intro hmem
    obtain ⟨r, hr, rfl⟩ := mem_map.mp hmem
    rw [isPrefixOf_genPropKey (hof r hr).addr] at hpre
    cases hpre

theorem exists_saveStore (st : Store) (h : StoresOk api db) (heap : Nat → UInt8)
    (hof : ∀ r ∈ rs, r.Of lay) (hnodup : (rs.map DeviceRecord.addr).Nodup) :
    ∃ db', saveStore st api heap db rs = some db' ∧ SavedIn api st db (saved rs) db' := by
  obtain ⟨cleared, hdel, hget⟩ := exists_btStorageDelete h st heap
  refine ⟨btStorageSaveRemoteDevice api cleared st.key (saved rs), ?_, ?_⟩
  · rw [saveStore, hdel]
    rfl
  · exact SavedIn.of_cleared (fun r hr => hof r (mem_of_mem_take hr))
      (hnodup.sublist ((take_sublist _ _).map _)) hget

theorem SavedIn.storesOk (hsaved : SavedIn api st db rs db') (h : StoresOk api db)
    (hof : ∀ r ∈ rs, r.Of lay) (hcount : rs.length < 65536) : StoresOk api db' := by
  have hother : ∀ st' : Store, st' ≠ st → ∀ name,
      name ∈ namesOf api db' st'.key ↔ name ∈ namesOf api db st'.key := by
    intro st' hne name
    rw [mem_namesOf, mem_namesOf]
    refine and_congr_right fun hpre => ?_
    rw [hsaved.others name (Bool.eq_false_iff.mpr fun hp => hne (Store.eq_of_isPrefixOf hpre hp))]
  constructor
  · intro st' name hname
    by_cases hst : st' = st
    · subst hst
      obtain ⟨r, hr, rfl⟩ := mem_map.mp (hsaved.names.mem_iff.mp hname)
      exact ⟨r.addr, (hof r hr).addr, rfl⟩
    · exact h.generated st' name ((hother st' hst name).mp hname)
  · intro st'
    by_cases hst : st' = st
    · subst hst
      rw [hsaved.names.length_eq, savedNames, length_map]
      exact hcount
    · have hperm : (namesOf api db' st'.key).Perm (namesOf api db st'.key) :=
        (perm_ext_iff_of_nodup nodup_namesOf nodup_namesOf).mpr (hother st' hst)
      rw [hperm.length_eq]
      exact h.counted st'

/-! ## Loading a set -/

def storedTail (db : Kvdb) (name : PropName) : List UInt8 := (propertyGetBinary db name).getD []

theorem propertyGetBinary_of_mem {key : PropName} (h : name ∈ namesOf api db key) :
    propertyGetBinary db name = some (storedTail db name) := by
  obtain ⟨-, v, hv⟩ := mem_namesOf.mp h
  rw [storedTail, hv]
  rfl

def recordAt (db : Kvdb) (key name : PropName) : DeviceRecord :=
  { addr := parsePropKey name key.length, tail := storedTail db name }

theorem fetchFrom_eq {key : PropName} {i : Nat}
    (haddr : ∀ k name, names[k]? = some name →
      genPropKey api key (FlatBuffer.read value ((i + k) * lay.size) 6) = name)
    (hget : ∀ name ∈ names, propertyGetBinary db name = some (storedTail db name)
      ∧ (storedTail db name).length ≤ lay.size - lay.tail) :
    fetchFrom api db key lay i names.length value
      = FlatBuffer.writeFrom lay.size lay.tail i (names.map (storedTail db)) value := by
  induction names generalizing i value with
  | nil => rfl
  | cons name names ih =>
    obtain ⟨hfound, hlen⟩ := hget name mem_cons_self
    have hname : genPropKey api key (read value (i * lay.size) 6) = name :=
      haddr 0 name rfl
    rw [length_cons, fetchFrom, map_cons, writeFrom, hname, hfound,
      Option.elim_some, take_of_length_le hlen]
    refine Option.bind_congr fun value' hwrite => ?_
    refine ih ?_ fun name hname => hget name (mem_cons_of_mem _ hname)
    intro k other hk
    rw [read_write_of_disjoint hwrite, add_assoc, add_comm 1 k]
    · exact haddr (k + 1) other hk
    · right
      have hwithin := lay.tail_within
      rw [add_assoc i 1 k, add_mul, add_mul]
      omega

theorem exists_storageGetKey (h : StoresOk api db) (st : Store)
    (hlen : ∀ name ∈ namesOf api db st.key, (storedTail db name).length = lay.size - lay.tail)
    (htail : stride.tail = lay.tail) (hsize : lay.size ≤ stride.size)
    (hroom : ∀ k < (namesOf api db st.key).length, k * stride.size + lay.size ≤ value.length) :
    ∃ value', storageGetKey api db st.key stride (namesOf api db st.key).length value
        = some value'
      ∧ ∀ k name, (namesOf api db st.key)[k]? = some name →
          FlatBuffer.read value' (k * stride.size) 6 = parsePropKey name st.key.length
          ∧ FlatBuffer.read value' (k * stride.size + lay.tail) (lay.size - lay.tail)
            = storedTail db name := by
  have hbefore := lay.addr_before
  have hwithin := lay.tail_within
  obtain ⟨addrs, hlist, haddrs, haddr⟩ := exists_addrs h st stride.size value (by omega) (by
    intro k hk
    have := hroom k hk
    omega)
  have hfetch : fetchFrom api db st.key stride 0 (namesOf api db st.key).length addrs
      = writeFrom stride.size stride.tail 0
          ((namesOf api db st.key).map (storedTail db)) addrs := by
    refine fetchFrom_eq ?_ ?_
    · intro k name hk
      rw [zero_add, haddr k name hk, (h.parse (List.mem_of_getElem? hk)).2]
    · intro name hname
      refine ⟨propertyGetBinary_of_mem hname, ?_⟩
      rw [hlen name hname, htail]
      omega
  obtain ⟨value', hwrite, hread⟩ := exists_writeFrom (i := 0) hlen
    (show lay.size - lay.tail ≤ stride.size by omega) lay.tail addrs (by
      intro k hk
      have := hroom k hk
      rw [haddrs, zero_add]
      omega)
  simp only [zero_add] at hread
  have hfit : ∀ xs ∈ (namesOf api db st.key).map (storedTail db),
      lay.tail + xs.length ≤ stride.size := by
    intro xs hxs
    obtain ⟨name, hname, rfl⟩ := mem_map.mp hxs
    rw [hlen name hname]
    omega
  refine ⟨value', ?_, ?_⟩
  · rw [storageGetKey, hlist, Option.bind_some, hfetch, htail]
    exact hwrite
  · intro k name hk
    constructor
    · rw [read_writeFrom_front hwrite hfit (by omega), haddr k name hk]
    · exact hread k name hk

theorem loadStore_eq (h : StoresOk api db)
    (hlen : ∀ name ∈ namesOf api db st.key,
      (storedTail db name).length = (st.layout cfg).size - (st.layout cfg).tail)
    (htail : (strideLayout cfg st).tail = (st.layout cfg).tail)
    (hsize : (st.layout cfg).size ≤ (strideLayout cfg st).size)
    (hslot : ∀ k < (namesOf api db st.key).length,
      k * (strideLayout cfg st).size = k * (st.layout cfg).size) :
    loadStore st cfg api heap db
      = some ((namesOf api db st.key).map (recordAt db st.key)) := by
  have hroom : ∀ k < (namesOf api db st.key).length,
      k * (strideLayout cfg st).size + (st.layout cfg).size
        ≤ (malloc heap ((namesOf api db st.key).length * (st.layout cfg).size)).length := by
    intro k hk
    have := mul_le_mul_right (st.layout cfg).size hk
    rw [succ_mul] at this
    rw [malloc, length_map, length_range, hslot k hk]
    exact this
  obtain ⟨value, hvalue, hread⟩ := exists_storageGetKey h st hlen htail hsize hroom
  unfold loadStore
  rw [h.countItems]
  dsimp only
  split
  next hzero => rw [eq_nil_of_length_eq_zero hzero, map_nil]
  · rw [hvalue, Option.map_some, Option.some_inj]
    refine map_range_eq_map fun k name hk => ?_
    obtain ⟨haddr, htails⟩ := hread k name hk
    rw [hslot k (List.getElem?_eq_some_iff.mp hk).1] at haddr htails
    rw [haddr, htails]
    rfl

theorem loadStore_of_namesOf_eq_nil (h : namesOf api db st.key = []) :
    loadStore st cfg api heap db = some [] := by
  have hcount : countItems api db st.key = 0 := by
    rw [countItems_eq, h]
    rfl
  rw [loadStore, hcount]
  rfl

theorem length_loadStore (h : loadStore st cfg api heap db = some out) :
    out.length = countItems api db st.key := by
  unfold loadStore at h
  dsimp only at h
  split at h
  next hzero =>
    cases h
    exact hzero.symm
  · obtain ⟨value, -, rfl⟩ := Option.map_eq_some_iff.mp h
    rw [recordsIn, length_map, length_range]

/-! ## The GATT cache -/

theorem loadStore_gatt_eq_none (h : StoresOk api db)
    (hmany : 2 ≤ (namesOf api db Store.bleGattDbHash.key).length) :
    loadStore .bleGattDbHash cfg api heap db = none := by
  obtain ⟨n, hn⟩ := Nat.exists_eq_add_of_le' hmany
  have hlast : n + 1 < (namesOf api db Store.bleGattDbHash.key).length := by omega
  have hsize : (Store.bleGattDbHash.layout cfg).size ≤ 28 := by
    change (if cfg.shortEnums then 24 else 28) ≤ 28
    split <;> decide
  have hget : ((namesOf api db Store.bleGattDbHash.key).map
      fun name => parsePropKey name Store.bleGattDbHash.key.length)[n + 1]?
        = some (parsePropKey (namesOf api db Store.bleGattDbHash.key)[n + 1]
            Store.bleGattDbHash.key.length) := by
    rw [getElem?_map, getElem?_eq_getElem hlast]
    rfl
  have hlen := (h.parse (getElem_mem hlast)).1
  unfold loadStore
  rw [h.countItems]
  rw [if_neg (by omega), storageGetKey, foldlM_propertyList rfl,
    writeFrom_eq_none hget]
  · rfl
  · have hblock := mul_le_mul_left (n + 2) hsize
    rw [malloc, length_map, length_range, hn, hlen]
    change _ < (0 + (n + 1)) * 104 + 0 + 6
    omega

theorem last_byte_of_loadStore_gatt (h : StoresOk api db)
    (hnames : namesOf api db Store.bleGattDbHash.key = [name])
    (hlen : (storedTail db name).length = 20) (henum : cfg.shortEnums = false)
    (hload : loadStore .bleGattDbHash cfg api heap db = some [r]) :
    r.tail[19]? = some (heap 27) := by
  have hmem : name ∈ namesOf api db Store.bleGattDbHash.key := by
    rw [hnames]
    exact mem_singleton_self name
  obtain ⟨haddr, hgen⟩ := h.parse hmem
  have hlay : Store.bleGattDbHash.layout cfg
      = { size := 28, tail := 8, addr_before := by decide, tail_within := by decide } := by
    simp only [Store.layout, gattLayout, henum]
    rfl
  have hstride : strideLayout cfg .bleGattDbHash = leLayout := rfl
  unfold loadStore at hload
  rw [h.countItems, hlay, hstride, hnames] at hload
  obtain ⟨value, hvalue, hrec⟩ := Option.map_eq_some_iff.mp hload
  obtain ⟨p, hlist, hfetch⟩ := Option.bind_eq_some_iff.mp hvalue
  rw [foldlM_propertyList (by rw [hnames]), hnames] at hlist
  obtain ⟨addrs, hpieces, rfl⟩ := Option.map_eq_some_iff.mp hlist
  obtain ⟨_, hwrite, hdone⟩ := Option.bind_eq_some_iff.mp hpieces
  cases hdone
  have hread : read addrs (0 * 104) 6
      = parsePropKey name Store.bleGattDbHash.key.length := by
    have hself := read_write_self hwrite
    rwa [haddr] at hself
  have htails : fetchFrom api db Store.bleGattDbHash.key leLayout 0 [name].length addrs
      = writeFrom 104 6 0 ([name].map (storedTail db)) addrs := by
    refine fetchFrom_eq ?_ ?_
    · rintro k other hk
      obtain ⟨rfl, rfl⟩ : k = 0 ∧ name = other := by
        cases k with
        | zero => exact ⟨rfl, Option.some.inj hk⟩
        | succ k => cases hk
      exact (congrArg _ hread).trans hgen
    · intro other hother
      obtain rfl := mem_singleton.mp hother
      refine ⟨propertyGetBinary_of_mem hmem, ?_⟩
      rw [hlen]
      decide
  obtain ⟨_, hwrite', hdone⟩ := Option.bind_eq_some_iff.mp (htails.symm.trans hfetch)
  cases hdone
  obtain rfl : _ = r := (List.cons.inj hrec).1
  rw [getElem?_read, if_pos (by decide), getElem?_write hwrite',
    if_neg (by rw [hlen]; decide), getElem?_write hwrite, if_neg (by rw [haddr]; decide)]
  rfl

/-! ## Round trips -/

/-- What is saved loads back, in any order, and the other sets stay. -/
def RoundTrips (cfg : BuildConfig) (api : PropertyApi) (st : Store) (db : Kvdb)
    (rs : List DeviceRecord) : Prop :=
  ∀ heap, ∃ db', st.save api heap db rs = some db'
    ∧ (∀ heap', ∃ out, st.load cfg api heap' db' = some out ∧ out.Perm rs)
    ∧ ∀ st' : Store, st' ≠ st → ∀ name, st'.key.isPrefixOf name = true →
        propertyGetBinary db' name = propertyGetBinary db name

section

variable (hsaved : SavedIn api st db rs db')
include hsaved

theorem SavedIn.recordAt (hof : ∀ r ∈ rs, r.Of lay) (hr : r ∈ rs) :
    recordAt db' st.key (genPropKey api st.key r.addr) = r := by
  rw [Storage.recordAt, parsePropKey_genPropKey (hof r hr).addr, storedTail, hsaved.tails r hr]
  rfl

theorem SavedIn.length_storedTail (hof : ∀ r ∈ rs, r.Of lay)
    (hname : name ∈ namesOf api db' st.key) :
    (storedTail db' name).length = lay.size - lay.tail := by
  obtain ⟨r, hr, rfl⟩ := mem_map.mp (hsaved.names.mem_iff.mp hname)
  rw [storedTail, hsaved.tails r hr]
  exact (hof r hr).tail

theorem SavedIn.length_namesOf :
    (namesOf api db' st.key).length = rs.length := by
  rw [hsaved.names.length_eq, savedNames, length_map]

theorem SavedIn.records_perm (hof : ∀ r ∈ rs, r.Of lay) :
    ((namesOf api db' st.key).map (Storage.recordAt db' st.key)).Perm rs := by
  have hself : (savedNames api st rs).map (Storage.recordAt db' st.key) = rs := by
    rw [savedNames, map_map]
    exact (map_congr_left fun r hr => hsaved.recordAt hof hr).trans (map_id rs)
  have hmap := hsaved.names.map (Storage.recordAt db' st.key)
  rwa [hself] at hmap

end

/-- There must be no more records than the counter holds, and the GATT cache, which is loaded in
the layout of the LE records, may hold one at most, and that only where enumerations are short. -/
def Loadable (cfg : BuildConfig) (st : Store) (rs : List DeviceRecord) : Prop :=
  rs.length < 65536
    ∧ (st = .bleGattDbHash → rs = [] ∨ (rs.length = 1 ∧ cfg.shortEnums = true))

theorem SavedIn.exists_load (hsaved : SavedIn api st db rs db') (hok : StoresOk api db')
    (hof : ∀ r ∈ rs, r.Of (st.layout cfg)) (hload : Loadable cfg st rs) :
    ∃ out, loadStore st cfg api heap db' = some out ∧ out.Perm rs := by
  have hlen : ∀ name ∈ namesOf api db' st.key, _ := fun _ => hsaved.length_storedTail hof
  by_cases hst : st = .bleGattDbHash
  · subst hst
    rcases hload.2 rfl with rfl | ⟨hone, henum⟩
    · refine ⟨[], loadStore_of_namesOf_eq_nil ?_, List.Perm.refl _⟩
      exact eq_nil_of_length_eq_zero hsaved.length_namesOf
    · refine ⟨_, loadStore_eq hok hlen ?_ ?_ ?_, hsaved.records_perm hof⟩
      · simp only [strideLayout, Store.layout, leLayout, gattLayout, henum, if_true]
      · simp only [strideLayout, Store.layout, leLayout, gattLayout, henum, if_true]
        decide
      · intro k hk
        rw [hsaved.length_namesOf, hone] at hk
        obtain rfl : k = 0 := by omega
        rw [zero_mul, zero_mul]
  · have hstride : strideLayout cfg st = st.layout cfg := by
      cases st with
      | bleGattDbHash => exact absurd rfl hst
      | _ => rfl
    refine ⟨_, loadStore_eq hok hlen ?_ ?_ ?_, hsaved.records_perm hof⟩
    · rw [hstride]
    · rw [hstride]
    · intro k _
      rw [hstride]

theorem SavedIn.loadable (hsaved : SavedIn api st db rs db') (hok : StoresOk api db')
    (hof : ∀ r ∈ rs, r.Of (st.layout cfg))
    (hload : ∀ heap, ∃ out', loadStore st cfg api heap db' = some out' ∧ out'.Perm out) :
    st = .bleGattDbHash → rs = [] ∨ (rs.length = 1 ∧ cfg.shortEnums = true) := by
  rintro rfl
  have hfew : rs.length < 2 := by
    by_contra hmany
    obtain ⟨out', hout, -⟩ := hload fun _ => 0
    rw [loadStore_gatt_eq_none hok (by rw [hsaved.length_namesOf]; omega)] at hout
    cases hout
  rcases rs with _ | ⟨r, _ | ⟨s, rs⟩⟩
  · exact Or.inl rfl
  · refine Or.inr ⟨rfl, ?_⟩
    by_contra henum
    rw [Bool.not_eq_true] at henum
    have hnames := perm_singleton.mp hsaved.names
    obtain ⟨loaded, hloaded, hperm⟩ := hload fun _ => 0
    obtain ⟨s, rfl⟩ : ∃ s, out = [s] := by
      rw [← length_eq_one_iff, ← hperm.length_eq, length_loadStore hloaded, hok.countItems,
        hsaved.length_namesOf]
      rfl
    have hlast : ∀ heap : Nat → UInt8, s.tail[19]? = some (heap 27) := by
      intro heap
      obtain ⟨out', hout, hperm⟩ := hload heap
      rw [perm_singleton.mp hperm] at hout
      refine last_byte_of_loadStore_gatt hok hnames ?_ henum hout
      rw [hsaved.length_storedTail hof (by rw [hnames]; exact mem_singleton_self _)]
      simp only [Store.layout, gattLayout, henum]
      rfl
    exact absurd ((hlast fun _ => 0).symm.trans (hlast fun _ => 1)) (by decide)
  · simp only [length_cons] at hfew
    omega

/-- For records of the set's type with distinct addresses, saving and loading is
a round trip exactly when the records are loadable. -/
theorem stored_records_load_back (cfg : BuildConfig) (h : StoresOk api db) (st : Store)
    (hof : ∀ r ∈ rs, r.Of (st.layout cfg)) (hnodup : (rs.map DeviceRecord.addr).Nodup) :
    RoundTrips cfg api st db rs ↔ Loadable cfg st rs := by
  constructor
  · intro htrip
    obtain ⟨db', hsave, hload, -⟩ := htrip fun _ => 0
    obtain ⟨db'', hsave', hsaved⟩ := exists_saveStore st h (fun _ => 0) hof hnodup
    rw [Store.save_eq, hsave'] at hsave
    cases hsave
    rw [Store.load_eq] at hload
    have hshort : rs.length < 65536 := by
      obtain ⟨out, hout, hperm⟩ := hload fun _ => 0
      rw [← hperm.length_eq, length_loadStore hout, countItems_eq]
      exact mod_lt _ (by decide)
    rw [saved_eq_self hshort] at hsaved
    exact ⟨hshort, hsaved.loadable (hsaved.storesOk h hof hshort) hof hload⟩
  · intro hload heap
    obtain ⟨db', hsave, hsaved⟩ := exists_saveStore st h heap hof hnodup
    rw [saved_eq_self hload.1] at hsaved
    refine ⟨db', by rw [Store.save_eq]; exact hsave, ?_, ?_⟩
    · intro heap'
      rw [Store.load_eq]
      exact hsaved.exists_load (hsaved.storesOk h hof hload.1) hof hload
    · intro st' hne name hpre
      refine hsaved.others name (Bool.eq_false_iff.mpr fun hp => ?_)
      exact hne (Store.eq_of_isPrefixOf hpre hp)

theorem namesOf_empty (key : PropName) : namesOf api ∅ key = [] := by
  refine eq_nil_iff_forall_not_mem.mpr fun name hname => ?_
  obtain ⟨-, v, hv⟩ := mem_namesOf.mp hname
  cases hv

theorem storesOk_empty : StoresOk api ∅ := by
  constructor
  · intro st name hname
    rw [namesOf_empty] at hname
    cases hname
  · intro st
    rw [namesOf_empty]
    decide

def sampleApi : PropertyApi where
  propNameMax := 64
  namesFit := by decide
  order := List.reverse
  order_perm := List.reverse_perm

def sampleRecords (len : Nat) : List DeviceRecord :=
  [{ addr := [1, 2, 3, 4, 5, 6], tail := List.replicate len 7 },
   { addr := [0xAB, 0xCD, 0, 0, 0, 0xFF], tail := List.replicate len 9 }]

theorem sampleRecords_of {len : Nat} (h : lay.size - lay.tail = len) :
    ∀ r ∈ sampleRecords len, r.Of lay := by
  intro r hr
  rcases mem_pair.mp hr with rfl | rfl
  · exact ⟨rfl, by rw [h, length_replicate]⟩
  · exact ⟨rfl, by rw [h, length_replicate]⟩

theorem whitelist_of_two_loads_back :
    RoundTrips defaultConfig sampleApi .bleWhitelist ∅ (sampleRecords 98) :=
  (stored_records_load_back defaultConfig storesOk_empty .bleWhitelist (sampleRecords_of rfl)
    (by decide)).mpr ⟨by decide, nofun⟩

/-- Two records of the GATT cache, well formed and with different addresses, are
saved, and loading them writes out of the block. -/
theorem gatt_cache_of_two_not_loaded :
    (∀ r ∈ sampleRecords 20, r.Of (Store.bleGattDbHash.layout defaultConfig))
      ∧ ((sampleRecords 20).map DeviceRecord.addr).Nodup
      ∧ ¬ RoundTrips defaultConfig sampleApi .bleGattDbHash ∅ (sampleRecords 20) := by
  refine ⟨sampleRecords_of rfl, by decide, ?_⟩
  intro htrip
  obtain ⟨db', hsave, hload, -⟩ := htrip fun _ => 0
  obtain ⟨out, hout, -⟩ := hload fun _ => 0
  have hnone : (btStorageSaveGattCacheDevice sampleApi (fun _ => 0) ∅ (sampleRecords 20)).bind
      (btStorageLoadGattCacheDevice defaultConfig sampleApi fun _ => 0) = none := by
    decide +kernel
  have hsome := Option.bind_eq_some_iff.mpr ⟨db', hsave, hout⟩
  cases hnone.symm.trans hsome

end BtFramework.Storage
