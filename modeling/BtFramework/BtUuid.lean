import Mathlib.Algebra.Order.Ring.Nat

/-!
# UUIDs

Short UUIDs stand for 128-bit ones over the Bluetooth base UUID.
-/

namespace BtFramework

/-- A UUID of 16, 32 or 128 bits. -/
inductive Uuid where
  | uuid16 (val : UInt16)
  | uuid32 (val : UInt32)
  | uuid128 (val : BitVec 128)
  deriving DecidableEq

namespace Uuid

def base : Nat := 0x0000000000001000800000805F9B34FB

/-- The 128-bit UUID it stands for. -/
def to128 : Uuid → BitVec 128
  | uuid16 val => BitVec.ofNat 128 (val.toNat * 2 ^ 96 + base)
  | uuid32 val => BitVec.ofNat 128 (val.toNat * 2 ^ 96 + base)
  | uuid128 val => val

/-- `bt_uuid_cmp` finds no difference. -/
def same (u v : Uuid) : Bool :=
  u.to128 = v.to128

theorem same_self (u : Uuid) : u.same u = true :=
  decide_eq_true rfl

end Uuid

end BtFramework
