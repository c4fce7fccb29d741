import BtFramework.BtUuid
import BtFramework.CStruct

/-!
# UUIDs as bytes and as text

`bt_uuid.c` expands a UUID to its sixteen bytes, least significant first, before it compares or
prints it.
-/

namespace BtFramework.Uuid

open CStruct List

/-! ## The functions of the source -/

def uuid128Base : List UInt8 :=
  [0xFB, 0x34, 0x9B, 0x5F, 0x80, 0x00, 0x00, 0x80, 0x00, 0x10, 0x00, 0x00, 0x00, 0x00, 0x00, 0x00]

def toStream : Uuid → List UInt8
  | uuid16 val => bytesOf 2 val.toNat
  | uuid32 val => bytesOf 4 val.toNat
  | uuid128 val => bytesOf 16 val.toNat

def overBase (bytes : List UInt8) : List UInt8 :=
  uuid128Base.take 12 ++ (bytes ++ uuid128Base.drop (12 + bytes.length))

def toUuid128 : Uuid → List UInt8
  | uuid128 val => bytesOf 16 val.toNat
  | uuid32 val => overBase (bytesOf 4 val.toNat)
  | uuid16 val => overBase (bytesOf 2 val.toNat)

def memcmp : List UInt8 → List UInt8 → Int
  | a :: as, b :: bs => if a = b then memcmp as bs else a.toNat - b.toNat
  | _, _ => 0

def btUuidCompare (u v : Uuid) : Int := memcmp u.toUuid128 v.toUuid128

def hexChar (n : Nat) : Char := Char.ofNat (if n < 10 then 48 + n else 87 + n)

/-- The last `w` digits. -/
def hexField : Nat → Nat → List Char
  | 0, _ => []
  | w + 1, n => hexField w (n / 16) ++ [hexChar (n % 16)]

/-- The text of the value of these bytes. -/
def btUuidToString (u : Uuid) (len : Nat) : List Char :=
  let p := u.toUuid128
  let tmp0 := natOf (p.take 2)
  let tmp1 := natOf ((p.drop 2).take 4)
  let tmp2 := natOf ((p.drop 6).take 2)
  let tmp3 := natOf ((p.drop 8).take 2)
  let tmp4 := natOf ((p.drop 10).take 2)
  let tmp5 := natOf ((p.drop 12).take 4)
  (hexField 8 tmp5 ++ '-' :: (hexField 4 tmp4 ++ '-' :: (hexField 4 tmp3 ++
    '-' :: (hexField 4 tmp2 ++ '-' :: (hexField 8 tmp1 ++ hexField 4 tmp0))))).take (len - 1)

def type : Uuid → UInt8
  | uuid16 _ => 2
  | uuid32 _ => 4
  | uuid128 _ => 16

/-- For a UUID of 16 bits four bytes are read, and the value is cut. -/
def btUuidCreateCommon (data : Nat → UInt8) (type : UInt8) : Option Uuid :=
  let value (n : Nat) := natOf ((List.range n).map data)
  if type = 16 then some (uuid128 (BitVec.ofNat 128 (value 16)))
  else if type = 4 then some (uuid32 (UInt32.ofNat (value 4)))
  else if type = 2 then some (uuid16 (UInt16.ofNat (value 4)))
  else none

/-! ## The value of the bytes -/

/-- The form 8-4-4-4-12 of a value of 128 bits. -/
def standardText (n : Nat) : List Char :=
  hexField 8 (n / 256 ^ 12) ++ '-' :: (hexField 4 (n / 256 ^ 10) ++ '-' ::
    (hexField 4 (n / 256 ^ 8) ++ '-' :: (hexField 4 (n / 256 ^ 6) ++ '-' :: hexField 12 n)))

variable {bs : List UInt8}

theorem natOf_take_drop {n : Nat} (h : n ≤ bs.length) :
    natOf (bs.take n) = natOf bs % 256 ^ n ∧ natOf (bs.drop n) = natOf bs / 256 ^ n := by
  have hsplit := natOf_append (bs.take n) (bs.drop n)
  have hlt := natOf_lt (bs.take n)
  rw [take_append_drop] at hsplit
  rw [length_take, Nat.min_eq_left h] at hsplit hlt
  constructor
  · rw [hsplit, Nat.add_mul_mod_self_left, Nat.mod_eq_of_lt hlt]
  · rw [hsplit, Nat.add_mul_div_left _ _ (Nat.zero_lt_of_lt hlt), Nat.div_eq_of_lt hlt,
      Nat.zero_add]

theorem natOf_slice {n w : Nat} (h : n + w ≤ bs.length) :
    natOf ((bs.drop n).take w) = natOf bs / 256 ^ n % 256 ^ w := by
  rw [(natOf_take_drop (by rw [length_drop]; omega)).1, (natOf_take_drop (by omega)).2]

theorem eq_of_natOf_eq {bs cs : List UInt8} (hlen : bs.length = cs.length)
    (h : natOf bs = natOf cs) : bs = cs := by
  induction bs generalizing cs with
  | nil => exact (eq_nil_of_length_eq_zero hlen.symm).symm
  | cons b bs ih =>
    obtain ⟨c, cs, rfl⟩ := exists_cons_of_length_pos (l := cs)
      (by rw [← hlen]; exact Nat.succ_pos _)
    have hb := b.toNat_lt
    have hc := c.toNat_lt
    rw [natOf, natOf] at h
    rw [ih (Nat.succ.inj hlen) (by omega), UInt8.toNat_inj.mp (by omega : b.toNat = c.toNat)]

variable (u : Uuid)

theorem length_toUuid128 : u.toUuid128.length = 16 := by
  cases u <;> simp [toUuid128, overBase, uuid128Base]

theorem natOf_overBase (h : natOf (uuid128Base.drop (12 + bs.length)) = 0) :
    natOf (overBase bs) = natOf bs * 2 ^ 96 + base := by
  rw [overBase, natOf_append, natOf_append, h, Nat.mul_zero, Nat.add_zero, Nat.add_comm,
    Nat.mul_comm]
  rfl

theorem natOf_toUuid128 : natOf u.toUuid128 = u.to128.toNat := by
  cases u with
  | uuid16 val =>
    have hlt := val.toNat_lt
    rw [toUuid128, natOf_overBase rfl, natOf_bytesOf hlt, to128, BitVec.toNat_ofNat,
      Nat.mod_eq_of_lt (by rw [base]; omega)]
  | uuid32 val =>
    have hlt := val.toNat_lt
    rw [toUuid128, natOf_overBase rfl, natOf_bytesOf hlt, to128, BitVec.toNat_ofNat,
      Nat.mod_eq_of_lt (by rw [base]; omega)]
  | uuid128 val => exact natOf_bytesOf val.isLt

theorem memcmp_eq_zero_iff {bs cs : List UInt8} (hlen : bs.length = cs.length) :
    memcmp bs cs = 0 ↔ bs = cs := by
  induction bs generalizing cs with
  | nil =>
    rw [eq_nil_of_length_eq_zero hlen.symm]
    exact iff_of_true rfl rfl
  | cons b bs ih =>
    cases cs with
    | nil => cases hlen
    | cons c cs =>
      rw [memcmp]
      split
      next heq => rw [ih (Nat.succ.inj hlen), heq, cons_inj_right]
      next hne =>
        refine iff_of_false (fun h => hne (UInt8.toNat_inj.mp ?_)) fun h => hne (cons.inj h).1
        omega

theorem btUuidCompare_eq_zero_iff (u v : Uuid) :
    u.btUuidCompare v = 0 ↔ u.to128.toNat = v.to128.toNat := by
  have hlen : u.toUuid128.length = v.toUuid128.length := by
    rw [length_toUuid128, length_toUuid128]
  rw [btUuidCompare, memcmp_eq_zero_iff hlen, ← natOf_toUuid128, ← natOf_toUuid128]
  exact ⟨congrArg natOf, eq_of_natOf_eq hlen⟩

/-! ## The digits -/

theorem length_hexField (w n : Nat) : (hexField w n).length = w := by
  induction w generalizing n with
  | zero => rfl
  | succ w ih => rw [hexField, length_append, ih, length_singleton]

theorem hexChar_inj : ∀ a < 16, ∀ b < 16, hexChar a = hexChar b → a = b := by decide

theorem hexField_eq_iff (w m n : Nat) :
    hexField w m = hexField w n ↔ m % 16 ^ w = n % 16 ^ w := by
  induction w generalizing m n with
  | zero => simp [hexField, Nat.mod_one]
  | succ w ih =>
    rw [hexField, hexField, pow_succ', Nat.mod_mul, Nat.mod_mul]
    have ha := Nat.mod_lt m (by decide : 0 < 16)
    have hb := Nat.mod_lt n (by decide : 0 < 16)
    constructor
    · intro h
      obtain ⟨hinit, hlast⟩ := append_inj' h rfl
      have hdigit := hexChar_inj _ ha _ hb (singleton_inj.mp hlast)
      rw [hdigit, (ih _ _).mp hinit]
    · intro h
      rw [(ih (m / 16) (n / 16)).mpr (by omega), show m % 16 = n % 16 by omega]

theorem hexField_mod (w n : Nat) : hexField w (n % 16 ^ w) = hexField w n :=
  (hexField_eq_iff _ _ _).mpr (Nat.mod_mod _ _)

theorem hexField_add (w k n : Nat) :
    hexField (w + k) n = hexField w (n / 16 ^ k) ++ hexField k n := by
  induction k generalizing n with
  | zero => simp [hexField]
  | succ k ih =>
    rw [← Nat.add_assoc, hexField, ih, hexField, append_assoc, Nat.div_div_eq_div_mul, pow_succ']

theorem btUuidToString_eq (room : Nat) :
    u.btUuidToString (37 + room) = standardText u.to128.toNat := by
  have hslice (n w : Nat) (h : n + w ≤ 16) :
      natOf ((u.toUuid128.drop n).take w) = u.to128.toNat / 256 ^ n % 16 ^ (2 * w) := by
    rw [natOf_slice (by rwa [length_toUuid128]), natOf_toUuid128, Nat.pow_mul]
  have hfirst := hslice 0 2 (by decide)
  rw [drop_zero, pow_zero, Nat.div_one] at hfirst
  simp only [btUuidToString, hfirst, hslice 2 4 (by decide), hslice 6 2 (by decide),
    hslice 8 2 (by decide), hslice 10 2 (by decide), hslice 12 4 (by decide), Nat.reduceMul,
    hexField_mod, standardText, hexField_add 8 4]
  refine take_of_length_le ?_
  simp only [length_append, length_cons, length_hexField]
  omega

theorem standardText_inj {m n : Nat} (hm : m < 2 ^ 128) (hn : n < 2 ^ 128)
    (h : standardText m = standardText n) : m = n := by
  obtain ⟨h₁, h⟩ := append_inj h (by simp only [length_hexField])
  obtain ⟨h₂, h⟩ := append_inj (cons.inj h).2 (by simp only [length_hexField])
  obtain ⟨h₃, h⟩ := append_inj (cons.inj h).2 (by simp only [length_hexField])
  obtain ⟨h₄, h⟩ := append_inj (cons.inj h).2 (by simp only [length_hexField])
  have h₅ := (cons.inj h).2
  rw [hexField_eq_iff] at h₁ h₂ h₃ h₄ h₅
  omega

theorem btUuidCreateCommon_toStream (rest : Nat → UInt8) :
    btUuidCreateCommon (fun i => u.toStream.getD i (rest i)) u.type = some u := by
  cases u with
  | uuid16 val =>
    have hvalue := natOf_append (bytesOf 2 val.toNat) [rest 2, rest 3]
    rw [natOf_bytesOf val.toNat_lt, length_bytesOf] at hvalue
    show some (uuid16 (UInt16.ofNat (natOf (bytesOf 2 val.toNat ++ [rest 2, rest 3])))) = _
    refine congrArg (some ∘ uuid16) (UInt16.toNat_inj.mp ?_)
    have := val.toNat_lt
    rw [hvalue, UInt16.toNat_ofNat']
    omega
  | uuid32 val =>
    show some (uuid32 (UInt32.ofNat (natOf (bytesOf 4 val.toNat)))) = _
    rw [natOf_bytesOf val.toNat_lt, UInt32.ofNat_toNat]
  | uuid128 val =>
    show some (uuid128 (BitVec.ofNat 128 (natOf (bytesOf 16 val.toNat)))) = _
    rw [natOf_bytesOf val.isLt, BitVec.ofNat_toNat, BitVec.setWidth_eq]

/-- **UUIDs.** With room for 37 characters. The stream is followed by any bytes. -/
theorem uuid_representations_agree (u v : Uuid) (room : Nat) (rest : Nat → UInt8) :
    (u.btUuidToString (37 + room) = v.btUuidToString (37 + room) ↔ u.btUuidCompare v = 0)
      ∧ u.btUuidToString (37 + room) = standardText u.to128.toNat
      ∧ ∃ w, btUuidCreateCommon (fun i => u.toStream.getD i (rest i)) u.type = some w
          ∧ w.btUuidCompare u = 0 := by
  refine ⟨?_, btUuidToString_eq u room, u, btUuidCreateCommon_toStream u rest,
    (btUuidCompare_eq_zero_iff u u).mpr rfl⟩
  rw [btUuidToString_eq, btUuidToString_eq, btUuidCompare_eq_zero_iff]
  exact ⟨standardText_inj u.to128.isLt v.to128.isLt, congrArg standardText⟩

end BtFramework.Uuid
