import Mathlib.Init

/-!
# Device addresses
-/

namespace BtFramework

/-- `bt_address_t`, the six bytes of a device address. -/
abbrev BtAddress := BitVec 48

end BtFramework
