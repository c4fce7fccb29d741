import BtFramework.GattServer
import BtFramework.Runs

/-!
# The tables of the GATT server

Every run of additions and removals keeps `server_db` the concatenation of the registered
tables' attributes, each described by its entry of `server_svcs`, as long as a table is
removed only if no other of its UUID has a lower entry, and only if it has no
characteristic: `remove_from_server_db` frees a value's pointer into its own table.
-/

namespace BtFramework.Gatts

open BtGattService List Option Server SliceTable

/-! ## The attributes of a table -/

def elementAttributes (cfg : Config) (ref : ElementRef) (element : Element)
    (built : List Attr) : List Attr :=
  match element.type with
  | .primaryService => [serviceAttr btUuidGattPrimary element.uuid]
  | .secondaryService => [serviceAttr btUuidGattSecondary element.uuid]
  | .characteristic =>
    [chrcAttr element.properties.toUInt8 (some element.uuid), valueAttr ref element]
  | .descriptor =>
    ((getBaseChrc built).bind fun chrc => descriptorAttr cfg chrc ref element).toList
  | .includedService => []

def attributesFrom (cfg : Config) (table : Nat) : Nat → List Element → List Attr → List Attr
  | _, [], built => built
  | i, element :: elements, built =>
    attributesFrom cfg table (i + 1) elements
      (built ++ elementAttributes cfg ⟨table, i⟩ element built)

def Table.attributes (cfg : Config) (t : Table) : List Attr :=
  attributesFrom cfg t.id 0 t.elements []

def Table.hasValue (t : Table) : Bool :=
  t.items.any (·.type == .characteristic)

section Build

variable {cfg : Config}

theorem any_interior_elementAttributes (ref : ElementRef) (element : Element)
    (built : List Attr) :
    (elementAttributes cfg ref element built).any (·.userData.interior)
      = (element.type == .characteristic) := by
  cases htype : element.type with
  | primaryService | secondaryService | characteristic | includedService =>
    simp only [elementAttributes, htype]
    rfl
  | descriptor =>
    simp only [elementAttributes, htype]
    cases getBaseChrc built with
    | none => rfl
    | some chrc =>
      simp only [bind_some, descriptorAttr]
      repeat' split
      all_goals rfl

theorem any_interior_attributesFrom (table : Nat) (elements : List Element) :
    ∀ (i : Nat) (built : List Attr),
      (attributesFrom cfg table i elements built).any (·.userData.interior)
        = (built.any (·.userData.interior) || elements.any (·.type == .characteristic)) := by
  induction elements with
  | nil => simp [attributesFrom]
  | cons element elements ih =>
    intro i built
    rw [attributesFrom, ih, any_append, any_interior_elementAttributes, any_cons, Bool.or_assoc]

theorem prefix_attributesFrom (cfg : Config) (table : Nat) (elements : List Element) :
    ∀ (i : Nat) (built : List Attr), built <+: attributesFrom cfg table i elements built := by
  induction elements with
  | nil =>
    intro i built
    exact prefix_rfl
  | cons element elements ih =>
    intro i built
    exact (prefix_append _ _).trans (ih (i + 1) _)

theorem attributes_eq (cfg : Config) (t : Table) : t.attributes cfg
    = attributesFrom cfg t.id 1 t.items [serviceAttr btUuidGattPrimary t.service.uuid] := by
  simp [Table.attributes, Table.elements, attributesFrom, elementAttributes, t.primary]

theorem any_interior_attributes (cfg : Config) (t : Table) :
    (t.attributes cfg).any (·.userData.interior) = t.hasValue := by
  rw [attributes_eq, any_interior_attributesFrom]
  rfl

theorem head?_attributes (cfg : Config) (t : Table) :
    (t.attributes cfg).head? = some (serviceAttr btUuidGattPrimary t.service.uuid) := by
  obtain ⟨rest, hrest⟩ := prefix_attributesFrom cfg t.id t.items 1
    [serviceAttr btUuidGattPrimary t.service.uuid]
  rw [attributes_eq, ← hrest]
  rfl

theorem attributes_ne_nil (cfg : Config) (t : Table) : t.attributes cfg ≠ [] := by
  intro hnil
  have hhead := head?_attributes cfg t
  rw [hnil] at hhead
  cases hhead

theorem scanBaseChrc_append {s : Attr} (hs : s.uuid = btUuidGattPrimary)
    (attrs front : List Attr) :
    scanBaseChrc (attrs ++ s :: front) = scanBaseChrc attrs := by
  induction attrs with
  | nil => simp [scanBaseChrc, hs, Uuid.same_self]
  | cons attr attrs ih => simp only [cons_append, scanBaseChrc, ih]

theorem getBaseChrc_append {s : Attr} (hs : s.uuid = btUuidGattPrimary)
    (front built : List Attr) :
    getBaseChrc (front ++ s :: built) = getBaseChrc (s :: built) := by
  cases front with
  | nil => rfl
  | cons a front =>
    simp only [getBaseChrc, cons_append, tail_cons, reverse_append, reverse_cons, append_assoc]
    exact scanBaseChrc_append hs _ _

variable {st : Server}

theorem gattDbAdd_of_lt (attr : Attr) (h : st.db.length < cfg.maxAttributes) :
    gattDbAdd cfg attr st
      = some { st with db := st.db ++ [attr], svcAttrCount := st.svcAttrCount + 1 } :=
  if_neg (Nat.not_le.mpr h)

theorem addElement_of_room {ref : ElementRef} {element : Element} {front built : List Attr}
    {svcs : List BtGattService}
    (hbase : element.type = .descriptor → getBaseChrc (front ++ built) = getBaseChrc built)
    (hroom : front.length + (built ++ elementAttributes cfg ref element built).length
      ≤ cfg.maxAttributes) :
    addElement cfg ref element ⟨front ++ built, built.length, svcs⟩
      = ⟨front ++ (built ++ elementAttributes cfg ref element built),
        (built ++ elementAttributes cfg ref element built).length, svcs⟩ := by
  rw [length_append] at hroom
  cases htype : element.type with
  | primaryService | secondaryService =>
    simp only [elementAttributes, htype, length_singleton] at hroom ⊢
    simp only [addElement, addService, htype]
    rw [gattDbAdd_of_lt _ (by simp; omega)]
    simp
  | includedService => simp [addElement, elementAttributes, htype]
  | characteristic =>
    simp only [elementAttributes, htype, length_cons, length_nil] at hroom ⊢
    simp only [addElement, addCharacteristic, htype]
    rw [gattDbAdd_of_lt _ (by simp; omega)]
    simp only
    rw [gattDbAdd_of_lt _ (by simp; omega)]
    simp
  | descriptor =>
    simp only [addElement, addDescriptor, htype, hbase htype]
    simp only [elementAttributes, htype] at hroom ⊢
    cases hchrc : getBaseChrc built with
    | none => simp
    | some chrc =>
      rw [hchrc, bind_some] at hroom
      cases hattr : descriptorAttr cfg chrc ref element with
      | none => simp [hattr]
      | some attr =>
        rw [hattr, toList_some, length_singleton] at hroom
        simp only [bind_some, hattr, toList_some]
        rw [gattDbAdd_of_lt _ (by simp; omega)]
        simp

theorem addElementsFrom_of_room {table : Nat} {front : List Attr}
    {svcs : List BtGattService} {a : Attr} (ha : a.uuid = btUuidGattPrimary)
    (elements : List Element) : ∀ (i : Nat) (built : List Attr),
      front.length + (attributesFrom cfg table i elements (a :: built)).length ≤ cfg.maxAttributes →
      addElementsFrom cfg table i elements ⟨front ++ a :: built, (a :: built).length, svcs⟩
        = ⟨front ++ attributesFrom cfg table i elements (a :: built),
          (attributesFrom cfg table i elements (a :: built)).length, svcs⟩ := by
  induction elements with
  | nil =>
    intro i built _
    rfl
  | cons element elements ih =>
    intro i built hroom
    have hpre := prefix_attributesFrom cfg table elements (i + 1)
      (a :: built ++ elementAttributes cfg ⟨table, i⟩ element (a :: built))
    have hle := hpre.length_le
    rw [attributesFrom] at hroom
    rw [addElementsFrom, attributesFrom,
      addElement_of_room (fun _ => getBaseChrc_append ha front built) (by omega)]
    exact ih (i + 1) _ hroom

theorem addElementsFrom_table {t : Table} (hcount : st.svcAttrCount = 0)
    (hroom : st.db.length + (t.attributes cfg).length ≤ cfg.maxAttributes) :
    addElementsFrom cfg t.id 0 t.elements st
      = ⟨st.db ++ t.attributes cfg, (t.attributes cfg).length, st.svcs⟩ := by
  have hle := (prefix_attributesFrom cfg t.id t.items 1
    [serviceAttr btUuidGattPrimary t.service.uuid]).length_le
  rw [← attributes_eq, length_singleton] at hle
  have hfirst : addElement cfg ⟨t.id, 0⟩ t.service st
      = ⟨st.db ++ [serviceAttr btUuidGattPrimary t.service.uuid], 1, st.svcs⟩ := by
    simp only [addElement, addService, t.primary]
    rw [gattDbAdd_of_lt _ (by omega), getD_some, hcount]
  rw [attributes_eq] at hroom
  rw [Table.elements, addElementsFrom, hfirst, attributes_eq]
  exact addElementsFrom_of_room rfl t.items 1 [] hroom

end Build

/-! ## The layout of the database -/

/-- Where the attributes of entry `k` start, and how many there are. -/
def Server.slice (st : Server) (k : Nat) : Option (Nat × Nat) :=
  st.svcs[k]?.bind fun svc => svc.attrs.map fun start => (start, svc.attrCount)

/-- `server_db` is the tables registered, one after the other, each described by its entry. -/
def Partitioned (cfg : Config) (w : World) : Prop :=
  SliceTable.Lays (Table.attributes cfg) w.registered w.server.db w.server.slice

structure Inv (cfg : Config) (w : World) : Prop where
  partitioned : Partitioned cfg w
  counter : w.server.svcAttrCount = 0

/-- An addition finds an entry, enough attributes and a stack that takes it. -/
def Succeeds (cfg : Config) (w : World) : Call → Prop
  | .add t err => err = false ∧ (findFreeServiceIndex w.server).isSome ∧
      w.server.db.length + (t.attributes cfg).length ≤ cfg.maxAttributes
  | .remove _ => True

/-- No table of the UUID is registered, or the one to remove is, once and in a lower entry than any
other, and has no characteristic. -/
def RemovesOwn (w : World) : Call → Prop
  | .add _ _ => True
  | .remove t => (∀ r ∈ w.registered, r.1.service.uuid.same t.service.uuid = false) ∨
      t.hasValue = false ∧ ∃ r ∈ w.registered, r.1 = t ∧ ∀ r' ∈ w.registered,
        r'.1.service.uuid.same t.service.uuid = true → r' = r ∨ r'.1 ≠ t ∧ r.2 < r'.2

instance (cfg : Config) (w : World) (c : Call) : Decidable (Succeeds cfg w c) := by
  cases c <;> unfold Succeeds <;> infer_instance

instance (w : World) (c : Call) : Decidable (RemovesOwn w c) := by
  cases c <;> unfold RemovesOwn <;> infer_instance

section Layout

variable {cfg : Config} {w : World}

theorem inv_init (cfg : Config) : Inv cfg (World.init cfg) := by
  have hslice : (World.init cfg).server.slice = fun _ => none := by
    funext k
    simp only [slice, World.init, init, getElem?_replicate]
    split <;> rfl
  refine ⟨?_, rfl⟩
  rw [Partitioned, hslice]
  exact lays_nil _

variable {st : Server} {t : Table} {element : Element} {k : Nat}

theorem slice_set {i : Nat} (hi : i < st.svcs.length) (start count : Nat) (db : List Attr)
    (n : Nat) :
    (Server.mk db n (st.svcs.set i ⟨some start, count⟩)).slice
      = Function.update st.slice i (some (start, count)) := by
  funext k
  by_cases hk : k = i
  · subst hk
    simp [slice, hi]
  · rw [Function.update_of_ne hk]
    simp [slice, getElem?_set_ne (Ne.symm hk)]

theorem Inv.add {i : Nat} (h : Inv cfg w) (hfree : findFreeServiceIndex w.server = some i)
    (hroom : w.server.db.length + (t.attributes cfg).length ≤ cfg.maxAttributes) :
    ∃ w' ∈ w.step cfg (.add t false), Inv cfg w' := by
  obtain ⟨hi, hfind, _⟩ := findIdx?_eq_some_iff_getElem.mp hfree
  have hnone : w.server.slice i = none := by
    rw [Bool.and_eq_true, isNone_iff_eq_none] at hfind
    simp [slice, hi, hfind.1]
  have hstep : w.step cfg (.add t false)
      = some ⟨⟨w.server.db ++ t.attributes cfg, 0,
          w.server.svcs.set i ⟨some w.server.db.length, (t.attributes cfg).length⟩⟩,
        w.registered ++ [(t, i)]⟩ := by
    have hfree' : findFreeServiceIndex ⟨w.server.db ++ t.attributes cfg,
      (t.attributes cfg).length, w.server.svcs⟩ = some i := hfree
    simp [World.step, btSalGattServerAddElements, addElementsFrom_table h.counter hroom,
      registerService, hfree, hfree']
  refine ⟨_, hstep, ?_, rfl⟩
  rw [Partitioned, slice_set hi]
  exact SliceTable.Lays.append h.partitioned hnone

/-- The lookup meets, at every entry, the service of the table registered there. -/
theorem matches_iff {uuid : Uuid} (h : Partitioned cfg w) (hk : k < w.server.svcs.length) :
    (w.server.svcs[k].attrs.bind fun start => w.server.db[start]?).any (isServiceWith uuid) = true ↔
      ∃ t, (t, k) ∈ w.registered ∧ t.service.uuid.same uuid = true := by
  have hslice : w.server.slice k
      = w.server.svcs[k].attrs.map fun start => (start, w.server.svcs[k].attrCount) := by
    simp [slice, hk]
  -- What stands at the start of the entry's part.
  have hfirst : ∀ pre t post, w.registered = pre ++ (t, k) :: post →
      (w.server.svcs[k].attrs.bind fun start => w.server.db[start]?)
        = some (serviceAttr btUuidGattPrimary t.service.uuid) := by
    intro pre t post hsplit
    have hpos := length_pos_iff.mpr (attributes_ne_nil cfg t)
    rw [h.used pre t k post hsplit] at hslice
    obtain ⟨start, hstart, hext⟩ := map_eq_some_iff.mp hslice.symm
    rw [hstart, bind_some, (Prod.mk.inj hext).1, ← head?_drop, ← head?_attributes cfg,
      ← h.part_eq hsplit, head?_take, if_neg (by omega)]
  constructor
  · intro hany
    cases hattrs : w.server.svcs[k].attrs with
    | none => simp [hattrs] at hany
    | some start =>
      rw [hattrs, map_some] at hslice
      obtain ⟨pre, t, post, hsplit⟩ := h.exists_split hslice
      rw [hfirst pre t post hsplit] at hany
      exact ⟨t, by rw [hsplit]; simp,
        by simpa [isServiceWith, serviceAttr, Uuid.same_self] using hany⟩
  · rintro ⟨t, hmem, hsame⟩
    obtain ⟨pre, post, hsplit⟩ := append_of_mem hmem
    rw [hfirst pre t post hsplit]
    simp [isServiceWith, serviceAttr, Uuid.same_self, hsame]

theorem lt_length_of_mem (h : Partitioned cfg w) (hmem : (t, k) ∈ w.registered) :
    k < w.server.svcs.length := by
  by_contra hlt
  exact h.slice_ne_none hmem (by simp [slice, Nat.not_lt.mp hlt])

theorem found_none_iff (h : Partitioned cfg w) :
    getPrimaryServiceFromElement t.service w.server = none ↔
      ∀ r ∈ w.registered, r.1.service.uuid.same t.service.uuid = false := by
  rw [getPrimaryServiceFromElement, if_neg (by simp [t.primary]), findIdx?_eq_none_iff_findIdx_eq,
    findIdx_eq_length]
  constructor
  · rintro hnone ⟨t', k⟩ hmem
    have hk := lt_length_of_mem h hmem
    by_contra hsame
    have := (matches_iff h hk).mpr ⟨t', hmem, by simpa using hsame⟩
    rw [hnone _ (getElem_mem hk)] at this
    cases this
  · intro hnone svc hsvc
    obtain ⟨k, hk, rfl⟩ := mem_iff_getElem.mp hsvc
    by_contra hany
    obtain ⟨t', hmem, hsame⟩ := (matches_iff h hk).mp (by simpa using hany)
    rw [hnone _ hmem] at hsame
    cases hsame

theorem found_some (h : Partitioned cfg w)
    (hfound : getPrimaryServiceFromElement t.service w.server = some k) :
    ∃ t', (t', k) ∈ w.registered ∧ t'.service.uuid.same t.service.uuid = true ∧
      ∀ r ∈ w.registered, r.1.service.uuid.same t.service.uuid = true → k ≤ r.2 := by
  rw [getPrimaryServiceFromElement, if_neg (by simp [t.primary])] at hfound
  obtain ⟨hk, hfind, hfirst⟩ := findIdx?_eq_some_iff_getElem.mp hfound
  obtain ⟨t', hmem, hsame⟩ := (matches_iff h hk).mp hfind
  refine ⟨t', hmem, hsame, ?_⟩
  rintro ⟨t'', j⟩ hmem'' hsame''
  by_contra hlt
  exact hfirst j (by simpa using hlt)
    ((matches_iff h (lt_length_of_mem h hmem'')).mpr ⟨t'', hmem'', hsame''⟩)

theorem slice_patch (start count : Nat) (db : List Attr) (n : Nat) :
    (Server.mk db n
        ((st.svcs.map (BtGattService.patch start count)).set k ⟨none, 0⟩)).slice
      = fun j => if j = k then none
        else (st.slice j).map (SliceTable.lower start count) := by
  funext j
  by_cases hj : j = k
  · subst hj
    rw [if_pos rfl, slice, getElem?_set_self']
    cases (st.svcs.map (patch start count))[j]? <;> rfl
  · rw [if_neg hj, slice, getElem?_set_ne (Ne.symm hj), getElem?_map,
      slice]
    cases st.svcs[j]? with
    | none => rfl
    | some svc =>
      obtain ⟨attrs, attrCount⟩ := svc
      cases attrs with
      | none => rfl
      | some a =>
        simp only [map_some, bind_some, patch, lower]
        split <;> rfl

theorem getElem?_of_slice {start count : Nat} (h : st.slice k = some (start, count)) :
    st.svcs[k]? = some ⟨some start, count⟩ := by
  obtain ⟨⟨attrs, attrCount⟩, hget, hattrs⟩ := bind_eq_some_iff.mp h
  obtain ⟨a, rfl, ha⟩ := map_eq_some_iff.mp hattrs
  cases ha
  exact hget

theorem removeService_of_found {pre post : List (Table × Nat)} (h : Partitioned cfg w)
    (hfound : getPrimaryServiceFromElement element w.server = some k)
    (hsplit : w.registered = pre ++ (t, k) :: post) :
    removeService element w.server = if t.hasValue then none else
      some ⟨compact (extent (Table.attributes cfg) pre) (t.attributes cfg).length w.server.db,
        w.server.svcAttrCount,
        (w.server.svcs.map (patch (extent (Table.attributes cfg) pre)
          (t.attributes cfg).length)).set k ⟨none, 0⟩⟩ := by
  have hget := getElem?_of_slice (h.used pre t k post hsplit)
  have hlen := h.length_cells
  rw [hsplit, extent_append, extent_cons] at hlen
  have hpos := length_pos_iff.mpr (attributes_ne_nil cfg t)
  simp only [removeService, hfound, hget]
  rw [removeFromServerDb, if_neg (by omega), if_neg (by omega), if_neg (by omega),
    h.part_eq hsplit, any_interior_attributes]
  cases t.hasValue <;> rfl

theorem removeElements_eq (t : Table) (st : Server) :
    btSalGattServerRemoveElements t st = removeService t.service st := by
  have hitems : ∀ (items : List Element) (st : Server),
      (∀ e ∈ items, e.type = .characteristic ∨ e.type = .descriptor) →
      items.foldlM (fun st element => removeElement element st) st = some st := by
    intro items
    induction items with
    | nil =>
      intro st _
      rfl
    | cons e items ih =>
      intro st hrest
      have he : removeElement e st = some st := by
        rcases hrest e (by simp) with htype | htype <;> simp only [removeElement, htype]
      rw [foldlM_cons, he]
      exact ih st fun e' he' => hrest e' (mem_cons_of_mem _ he')
  rw [btSalGattServerRemoveElements, Table.elements, foldlM_cons, removeElement, t.primary]
  cases removeService t.service st with
  | none => rfl
  | some st => exact hitems _ st t.rest

theorem not_mem_slots_of_removed (h : Partitioned cfg w) (hmem : (t, k) ∈ w.registered) :
    k ∉ (w.registered.filter fun r => r.1 ≠ t).map Prod.snd := by
  intro hk
  obtain ⟨⟨t', k'⟩, hmem', rfl⟩ := mem_map.mp hk
  obtain ⟨hmem', hne⟩ := mem_filter.mp hmem'
  have heq := inj_on_of_nodup_map h.nodup hmem hmem' rfl
  rw [← heq] at hne
  simp at hne

theorem filter_of_split {pre post : List (Table × Nat)} (h : Partitioned cfg w)
    (hsplit : w.registered = pre ++ (t, k) :: post)
    (honce : ∀ r ∈ w.registered, r.1 = t → r = (t, k)) :
    (w.registered.filter fun r => r.1 ≠ t) = pre ++ post := by
  have hnodup := h.nodup.of_map
  rw [hsplit, nodup_middle, nodup_cons] at hnodup
  have hothers : ∀ r ∈ pre ++ post, decide (r.1 ≠ t) = true := by
    intro r hr
    refine decide_eq_true fun ht => hnodup.1 ?_
    rwa [← honce r (by rw [hsplit]; grind) ht]
  rw [hsplit, filter_append, filter_cons_of_neg (by simp), ← filter_append,
    filter_eq_self.mpr hothers]

theorem Inv.remove (h : Inv cfg w) (hown : RemovesOwn w (.remove t)) :
    ∃ w' ∈ w.step cfg (.remove t), Inv cfg w' := by
  rw [World.step, removeElements_eq]
  rcases hown with hnone | ⟨hvalue, ⟨_, k⟩, hmem, rfl, hlow⟩
  · have hfilter : (w.registered.filter fun r => r.1 ≠ t) = w.registered := by
      refine filter_eq_self.mpr fun r hr => decide_eq_true ?_
      rintro rfl
      exact Bool.noConfusion ((hnone r hr).symm.trans (Uuid.same_self _))
    rw [removeService, (found_none_iff h.partitioned).mpr hnone, map_some, hfilter]
    exact ⟨w, rfl, h⟩
  · rename_i t
    cases hfound : getPrimaryServiceFromElement t.service w.server with
    | none =>
      have := (found_none_iff h.partitioned).mp hfound _ hmem
      rw [Uuid.same_self] at this
      cases this
    | some j =>
      obtain ⟨t', hmem', hsame, hmin⟩ := found_some h.partitioned hfound
      obtain rfl : j = k := by
        rcases hlow _ hmem' hsame with heq | ⟨_, hlt⟩
        · exact (Prod.mk.inj heq).2
        · exact absurd (hmin _ hmem (Uuid.same_self _)) (Nat.not_le.mpr hlt)
      obtain ⟨pre, post, hsplit⟩ := append_of_mem hmem
      have honce : ∀ r ∈ w.registered, r.1 = t → r = (t, j) := by
        rintro r hr rfl
        exact (hlow r hr (Uuid.same_self _)).resolve_right fun hne => hne.1 rfl
      rw [removeService_of_found h.partitioned hfound hsplit, hvalue]
      refine ⟨_, rfl, ?_, h.counter⟩
      rw [Partitioned, filter_of_split h.partitioned hsplit honce, slice_patch]
      exact SliceTable.Lays.remove (attributes_ne_nil cfg) h.partitioned hsplit

theorem Inv.removesOwn {w' : World} (h : Inv cfg w) (hstep : w' ∈ w.step cfg (.remove t))
    (hpart : Partitioned cfg w') : RemovesOwn w (.remove t) := by
  rw [World.step, removeElements_eq] at hstep
  cases hfound : getPrimaryServiceFromElement t.service w.server with
  | none => exact .inl ((found_none_iff h.partitioned).mp hfound)
  | some k =>
    obtain ⟨t', hmem, -, hmin⟩ := found_some h.partitioned hfound
    obtain ⟨pre, post, hsplit⟩ := append_of_mem hmem
    rw [removeService_of_found h.partitioned hfound hsplit] at hstep
    cases hvalue : t'.hasValue with
    | true => simp [hvalue] at hstep
    | false =>
      rw [hvalue, if_neg Bool.false_ne_true, map_some, mem_some_iff] at hstep
      subst hstep
      rw [Partitioned, slice_patch] at hpart
      -- The cleared entry belongs to `t`, or it would have to be in use still.
      obtain rfl : t' = t := by
        by_contra hne
        refine hpart.slice_ne_none (b := t') (k := k) ?_ (if_pos rfl)
        exact mem_filter.mpr ⟨hmem, by simpa using hne⟩
      refine .inr ⟨hvalue, (t', k), hmem, rfl, fun r hr hsame => or_iff_not_imp_left.mpr ?_⟩
      intro hne
      have hk : r.2 ≠ k := fun heq => hne (inj_on_of_nodup_map h.partitioned.nodup hr hmem heq)
      refine ⟨?_, lt_of_le_of_ne (hmin r hr hsame) hk.symm⟩
      -- Any other entry of `t` is still in use but not accounted for.
      intro ht
      have hfree := hpart.unused r.2 (not_mem_slots_of_removed h.partitioned (ht ▸ hr))
      rw [if_neg hk, map_eq_none_iff] at hfree
      exact h.partitioned.slice_ne_none hr hfree

/-- When every registration succeeds, every removal is defined and the database is at all times the
concatenation of the tables added and not removed since, each in the part its entry describes, if
and only if every removal is of a table without characteristics, registered once, with the lowest
entry of its UUID, or of a UUID that is not registered. -/
theorem partitioned_iff_removes_own {calls : List Call}
    (hsucc : Runs.Guarded (step cfg) (fun w c => ∀ v ∈ w, Succeeds cfg v c)
      (some (World.init cfg)) calls) :
    (∀ w ∈ Runs.visited (step cfg) (some (World.init cfg)) calls, ∃ v ∈ w, Partitioned cfg v) ↔
      Runs.Guarded (step cfg) (fun w c => ∀ v ∈ w, RemovesOwn v c)
        (some (World.init cfg)) calls := by
  have hpart : ∀ w : Option World, (∃ v ∈ w, Inv cfg v) → ∃ v ∈ w, Partitioned cfg v :=
    fun _ ⟨v, hv, h⟩ => ⟨v, hv, h.partitioned⟩
  refine Runs.Guarded.forall_visited_iff hpart ?_ ?_ ⟨_, rfl, inv_init cfg⟩ hsucc
  · rintro _ c ⟨v, rfl, h⟩ hsucc hown
    cases c with
    | add t err =>
      obtain ⟨rfl, hfree, hroom⟩ := hsucc v rfl
      obtain ⟨i, hi⟩ := isSome_iff_exists.mp hfree
      exact h.add hi hroom
    | remove t => exact h.remove (hown v rfl)
  · rintro _ c ⟨v, rfl, h⟩ _ hown ⟨w', hstep, hpart⟩
    refine hown fun _ hv => ?_
    cases hv
    cases c with
    | add t err => trivial
    | remove t => exact h.removesOwn hstep hpart

end Layout

/-! ## Two tables of one UUID -/

def defaultConfig : Config where
  maxServices := 20
  maxAttributes := 60
  misread := fun _ => 0

def batteryTable (id : Nat) : Table where
  id := id
  service := ⟨.primaryService, .uuid16 0x180F, 0, 0⟩
  items := [⟨.characteristic, .uuid16 0x2A19, 0x12, 0x01⟩, ⟨.descriptor, .uuid16 0x2902, 0, 0x03⟩]
  primary := rfl
  rest := by decide

/-- A table of the battery service that declares no characteristic. -/
def bareTable (id : Nat) : Table where
  id := id
  service := ⟨.primaryService, .uuid16 0x180F, 0, 0⟩
  items := []
  primary := rfl
  rest := by decide

/-- Removing the first bare table leaves the second one, which then moves down, and the battery
table in the entry behind. -/
theorem bare_tables_partitioned :
    Runs.Guarded (step defaultConfig) (fun w c => ∀ v ∈ w, RemovesOwn v c)
        (some (World.init defaultConfig))
        [.add (bareTable 0) false, .add (bareTable 1) false, .add (batteryTable 2) false,
          .remove (bareTable 0), .remove (bareTable 1)] ∧
      ∀ w ∈ Runs.visited (step defaultConfig) (some (World.init defaultConfig))
        [.add (bareTable 0) false, .add (bareTable 1) false, .add (batteryTable 2) false,
          .remove (bareTable 0), .remove (bareTable 1)], ∃ v ∈ w, Partitioned defaultConfig v :=
  ⟨by decide, (partitioned_iff_removes_own (by decide)).mpr (by decide)⟩

/-- Of two tables of one UUID the first is taken out when the second is removed. -/
theorem first_table_removed_for_second :
    Runs.Guarded (step defaultConfig) (fun w c => ∀ v ∈ w, Succeeds defaultConfig v c)
        (some (World.init defaultConfig))
        [.add (bareTable 0) false, .add (bareTable 1) false, .remove (bareTable 1)] ∧
      ¬ ∀ w ∈ Runs.visited (step defaultConfig) (some (World.init defaultConfig))
        [.add (bareTable 0) false, .add (bareTable 1) false, .remove (bareTable 1)],
        ∃ v ∈ w, Partitioned defaultConfig v := by
  refine ⟨by decide, fun hall => ?_⟩
  obtain ⟨v, hv, hpart⟩ := hall _ Runs.after_mem_visited
  have hmem : ∀ v ∈ Runs.after (step defaultConfig) (some (World.init defaultConfig))
      [.add (bareTable 0) false, .add (bareTable 1) false, .remove (bareTable 1)],
      (bareTable 0, 0) ∈ v.registered ∧ v.server.slice 0 = none := by decide
  exact hpart.slice_ne_none (hmem v hv).1 (hmem v hv).2

example : (Runs.after (step defaultConfig) (some (World.init defaultConfig))
    [.add (batteryTable 0) false, .remove (batteryTable 0)]).isNone = true := by decide

end BtFramework.Gatts
