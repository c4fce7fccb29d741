import BtFramework.StorageProperty

/-!
# Names and listings of the property store

The counter counts the names with the prefix of a set, and the callbacks copy the addresses in
these names into the block, one record after the other. A name with the prefix of one set never
has the prefix of another.
-/

namespace BtFramework.Storage

open List Nat Option

variable {api : PropertyApi} {db : Kvdb} {key : PropName} {st st' : Store} {addr : AddrBytes}
  {stride items : Nat}

/-! ## Names -/

theorem genPropKey_eq (h : addr.length = 6) :
    genPropKey api st.key addr = st.key ++ btAddrBa2str addr := by
  rw [genPropKey, take_of_length_le]
  have hfit := api.namesFit
  have hkey : st.key.length ≤ 32 := by cases st <;> decide
  rw [length_append, length_btAddrBa2str h]
  omega

theorem parsePropKey_genPropKey (h : addr.length = 6) :
    parsePropKey (genPropKey api st.key addr) st.key.length = addr := by
  rw [genPropKey_eq h, parsePropKey, drop_left,
    take_of_length_le (le_of_eq (length_btAddrBa2str h)), btAddrStr2ba_btAddrBa2str h]

theorem isPrefixOf_genPropKey (h : addr.length = 6) :
    st.key.isPrefixOf (genPropKey api st.key addr) = true := by
  rw [genPropKey_eq h, isPrefixOf_iff_prefix]
  exact prefix_append _ _

theorem Store.eq_of_key_prefix (h : st.key <+: st'.key) : st = st' := by
  revert h
  cases st <;> cases st' <;> decide

theorem Store.eq_of_isPrefixOf {name : PropName} (h : st.key.isPrefixOf name = true)
    (h' : st'.key.isPrefixOf name = true) : st = st' := by
  have hkey := isPrefixOf_iff_prefix.mp h
  have hkey' := isPrefixOf_iff_prefix.mp h'
  rcases prefix_or_prefix_of_prefix hkey hkey' with hpre | hpre
  · exact Store.eq_of_key_prefix hpre
  · exact (Store.eq_of_key_prefix hpre).symm

/-! ## Listings -/

/-- The names of a set, in the order of the listing. -/
def namesOf (api : PropertyApi) (db : Kvdb) (key : PropName) : List PropName :=
  (propertyList api db).filter key.isPrefixOf

theorem mem_namesOf {name : PropName} :
    name ∈ namesOf api db key
      ↔ key.isPrefixOf name = true ∧ ∃ v, propertyGetBinary db name = some v := by
  have hkeys : name ∈ db.keys ↔ ∃ v, db.lookup name = some v := by
    rw [← isSome_iff_exists, AList.lookup_isSome, AList.mem_keys]
  rw [namesOf, mem_filter, propertyList, (api.order_perm _).mem_iff, hkeys, and_comm]
  rfl

theorem nodup_namesOf : (namesOf api db key).Nodup :=
  ((api.order_perm _).nodup_iff.mpr db.keys_nodup).filter _

theorem foldl_callbackCount (names : List PropName) {n : Nat} (hn : n < 65536) :
    names.foldl (callbackCount key) n = (n + (names.filter key.isPrefixOf).length) % 65536 := by
  induction names generalizing n with
  | nil => exact (mod_eq_of_lt hn).symm
  | cons name names ih =>
    rw [foldl_cons, callbackCount]
    cases hpre : key.isPrefixOf name with
    | false =>
      rw [filter_cons_of_neg (by rw [hpre]; decide), if_neg (by decide), ih hn]
    | true =>
      rw [filter_cons_of_pos hpre, if_pos rfl, ih (mod_lt _ (by decide)), mod_add_mod, length_cons]
      congr 1
      omega

theorem countItems_eq : countItems api db key = (namesOf api db key).length % 65536 := by
  rw [countItems, foldl_callbackCount _ (by decide), zero_add]
  rfl

/-! ## The addresses in the block -/

theorem foldlM_callbackLoadAddr (names : List PropName) {p : PropertyValue}
    (hitems : p.offset + (names.filter key.isPrefixOf).length ≤ items) :
    names.foldlM (callbackLoadAddr stride key items) p
      = (FlatBuffer.writeFrom stride 0 p.offset
          ((names.filter key.isPrefixOf).map fun name => parsePropKey name key.length)
          p.value).map fun value =>
        { offset := p.offset + (names.filter key.isPrefixOf).length, value } := by
  induction names generalizing p with
  | nil => rfl
  | cons name names ih =>
    rw [foldlM_cons, callbackLoadAddr]
    cases hpre : key.isPrefixOf name with
    | false =>
      rw [filter_cons_of_neg (by rw [hpre]; decide)] at hitems ⊢
      exact ih hitems
    | true =>
      rw [filter_cons_of_pos hpre] at hitems ⊢
      rw [length_cons] at hitems
      rw [if_neg (by decide), if_pos (by omega), map_cons, FlatBuffer.writeFrom]
      cases FlatBuffer.write p.value (p.offset * stride) (parsePropKey name key.length) with
      | none => rfl
      | some value =>
        have htail := ih (p := { offset := p.offset + 1, value }) (by simp only; omega)
        simp only [map_some, bind_eq_bind, bind_some, htail, length_cons]
        congr 2
        funext v
        congr 1
        omega

theorem length_le_of_foldlM_callbackLoadAddr {names : List PropName} {p q : PropertyValue}
    (h : names.foldlM (callbackLoadAddr stride key items) p = some q) (hp : p.offset ≤ items) :
    p.offset + (names.filter key.isPrefixOf).length ≤ items := by
  induction names generalizing p with
  | nil => exact hp
  | cons name names ih =>
    rw [foldlM_cons, callbackLoadAddr] at h
    cases hpre : key.isPrefixOf name with
    | false =>
      rw [hpre, if_pos (by decide)] at h
      rw [filter_cons_of_neg (by rw [hpre]; decide)]
      exact ih h hp
    | true =>
      rw [hpre, if_neg (by decide)] at h
      obtain ⟨p', hp', h⟩ := bind_eq_some_iff.mp h
      split at hp'
      next hlt =>
        obtain ⟨value, -, rfl⟩ := map_eq_some_iff.mp hp'
        have hrest : p.offset + 1 + (names.filter key.isPrefixOf).length ≤ items := ih h hlt
        rw [filter_cons_of_pos hpre, length_cons]
        omega
      · cases hp'

theorem length_namesOf_lt {stride : Nat} {value : List UInt8} {q : PropertyValue}
    (h : (propertyList api db).foldlM (callbackLoadAddr stride key (countItems api db key))
      { offset := 0, value } = some q) : (namesOf api db key).length < 65536 := by
  have hle := length_le_of_foldlM_callbackLoadAddr h (zero_le _)
  rw [zero_add, countItems_eq] at hle
  exact lt_of_le_of_lt hle (mod_lt _ (by decide))

theorem foldlM_propertyList {value : List UInt8} (hitems : items = (namesOf api db key).length) :
    (propertyList api db).foldlM (callbackLoadAddr stride key items) { offset := 0, value }
      = (FlatBuffer.writeFrom stride 0 0
          ((namesOf api db key).map fun name => parsePropKey name key.length) value).map
        fun value => { offset := items, value } := by
  rw [foldlM_callbackLoadAddr (p := { offset := 0, value })]
  · rw [zero_add, hitems]
    rfl
  · rw [zero_add, hitems]
    exact le_refl _

end BtFramework.Storage
