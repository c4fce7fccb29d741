import Mathlib.Data.List.Basic
import Mathlib.Tactic.IntervalCases

/-!
# Device addresses as text

`bt_addr.c`: the text of an address is its bytes in hexadecimal, most significant first and
separated by colons.
-/

namespace BtFramework

open List

/-- The six bytes, least significant first. -/
abbrev AddrBytes := List UInt8

def btAddrEmpty : AddrBytes := [0, 0, 0, 0, 0, 0]

/-! ## From bytes to text -/

def hexDigit (n : Nat) : Char :=
  Char.ofNat (if n < 10 then 48 + n else 55 + n)

def hexByte (b : UInt8) : List Char := [hexDigit (b.toNat / 16), hexDigit (b.toNat % 16)]

def hexBytes : List UInt8 → List Char
  | [] => []
  | [b] => hexByte b
  | b :: bs => hexByte b ++ ':' :: hexBytes bs

def btAddrBa2str (addr : AddrBytes) : List Char := hexBytes addr.reverse

/-! ## From text to bytes -/

def hexValue (c : Char) : Option Nat :=
  let n := c.toNat
  if 48 ≤ n ∧ n ≤ 57 then some (n - 48)
  else if 65 ≤ n ∧ n ≤ 70 then some (n - 55)
  else if 97 ≤ n ∧ n ≤ 102 then some (n - 87)
  else none

def isxdigit (c : Char) : Bool := (hexValue c).isSome

def bachkLoop : List Char → Bool
  | [] => true
  | [_] => false
  | [a, b] => isxdigit a && isxdigit b
  | a :: b :: c :: rest => isxdigit a && isxdigit b && c == ':' && bachkLoop rest

def bachk (str : List Char) : Bool := str.length = 17 && bachkLoop str

def strtol16 (str : List Char) : Nat :=
  ((str.takeWhile isxdigit).filterMap hexValue).foldl (16 * · + ·) 0

/-- Any other text gives the empty address. -/
def btAddrStr2ba (str : List Char) : AddrBytes :=
  if bachk str then
    (List.range 6).map fun i => UInt8.ofNat (strtol16 (str.drop (3 * (5 - i))))
  else btAddrEmpty

/-! ## Digits -/

theorem hexValue_hexDigit {n : Nat} (h : n < 16) : hexValue (hexDigit n) = some n := by
  interval_cases n <;> decide

theorem isxdigit_hexDigit {n : Nat} (h : n < 16) : isxdigit (hexDigit n) = true := by
  rw [isxdigit, hexValue_hexDigit h]
  rfl

theorem high_lt (b : UInt8) : b.toNat / 16 < 16 := by
  have := b.toNat_lt
  omega

theorem low_lt (b : UInt8) : b.toNat % 16 < 16 := Nat.mod_lt _ (by decide)

variable {addr : AddrBytes}

theorem exists_six (h : addr.length = 6) : ∃ a b c d e f, addr = [a, b, c, d, e, f] := by
  match addr, h with
  | [a, b, c, d, e, f], _ => exact ⟨a, b, c, d, e, f, rfl⟩

theorem length_btAddrBa2str (h : addr.length = 6) : (btAddrBa2str addr).length = 17 := by
  obtain ⟨a, b, c, d, e, f, rfl⟩ := exists_six h
  rfl

/-! ## The texts that are accepted -/

def hexGroups : List (Char × Char) → List Char
  | [] => []
  | [g] => [g.1, g.2]
  | g :: gs => g.1 :: g.2 :: ':' :: hexGroups gs

def IsGroup (g : Char × Char) : Prop := isxdigit g.1 = true ∧ isxdigit g.2 = true

/-- The value of two hexadecimal digits. -/
def groupValue (g : Char × Char) : Nat := 16 * (hexValue g.1).getD 0 + (hexValue g.2).getD 0

/-- The groups of digits of an address text. -/
structure Groups (str : List Char) (gs : List (Char × Char)) : Prop where
  six : gs.length = 6
  digits : ∀ g ∈ gs, IsGroup g
  text : str = hexGroups gs

def btAddrStr2baStatus (str : List Char) : Int := if bachk str then 0 else -1

theorem bachkLoop_hexGroups (gs : List (Char × Char)) :
    bachkLoop (hexGroups gs) = true ↔ ∀ g ∈ gs, IsGroup g := by
  fun_induction hexGroups gs with
  | case1 => simp [bachkLoop]
  | case2 g => simp [bachkLoop, IsGroup]
  | case3 g gs hne ih => simp [bachkLoop, IsGroup, ih]

theorem exists_hexGroups {n : Nat} {str : List Char} (hlen : str.length = 3 * n + 2)
    (h : bachkLoop str = true) : ∃ gs, gs.length = n + 1 ∧ str = hexGroups gs := by
  induction n generalizing str with
  | zero =>
    match str, hlen with
    | [a, b], _ => exact ⟨[(a, b)], rfl, rfl⟩
  | succ n ih =>
    match str, hlen, h with
    | a :: b :: c :: rest, hlen, h =>
      simp only [bachkLoop, Bool.and_eq_true, beq_iff_eq] at h
      obtain ⟨⟨-, rfl⟩, hrest⟩ := h
      obtain ⟨gs, hgs, rfl⟩ := ih (by simpa [Nat.mul_add] using hlen) hrest
      match gs, hgs with
      | g :: gs, hgs => exact ⟨(a, b) :: g :: gs, by rw [length_cons, hgs], rfl⟩

theorem bachk_iff (str : List Char) : bachk str = true ↔ ∃ gs, Groups str gs := by
  rw [bachk, Bool.and_eq_true, decide_eq_true_eq]
  constructor
  · rintro ⟨hlen, hloop⟩
    obtain ⟨gs, hgs, rfl⟩ := exists_hexGroups (n := 5) hlen hloop
    exact ⟨gs, hgs, (bachkLoop_hexGroups gs).mp hloop, rfl⟩
  · rintro ⟨gs, hsix, hdigits, rfl⟩
    refine ⟨?_, (bachkLoop_hexGroups gs).mpr hdigits⟩
    match gs, hsix with
    | [_, _, _, _, _, _], _ => rfl

theorem strtol16_hexGroups {g : Char × Char} (h : IsGroup g) (gs : List (Char × Char)) :
    strtol16 (hexGroups (g :: gs)) = groupValue g := by
  obtain ⟨u, hu⟩ := Option.isSome_iff_exists.mp h.1
  obtain ⟨v, hv⟩ := Option.isSome_iff_exists.mp h.2
  have hcolon : isxdigit ':' = false := by decide
  cases gs <;> simp [hexGroups, strtol16, groupValue, h.1, h.2, hcolon, hu, hv]

theorem Groups.btAddrStr2ba {str : List Char} {gs : List (Char × Char)} (h : Groups str gs) :
    btAddrStr2ba str = (gs.map fun g => UInt8.ofNat (groupValue g)).reverse := by
  rw [BtFramework.btAddrStr2ba, if_pos ((bachk_iff str).mpr ⟨gs, h⟩)]
  obtain ⟨hsix, hdigits, rfl⟩ := h
  match gs, hsix with
  | [a, b, c, d, e, f], _ =>
    simp only [forall_mem_cons] at hdigits
    obtain ⟨ha, hb, hc, hd, he, hf, -⟩ := hdigits
    show [[f], [e, f], [d, e, f], [c, d, e, f], [b, c, d, e, f], [a, b, c, d, e, f]].map
      (fun gs => UInt8.ofNat (strtol16 (hexGroups gs))) = _
    simp only [map_cons, map_nil, strtol16_hexGroups ha, strtol16_hexGroups hb,
      strtol16_hexGroups hc, strtol16_hexGroups hd, strtol16_hexGroups he, strtol16_hexGroups hf]
    rfl

/-! ## An address is read back from its text -/

def byteGroup (b : UInt8) : Char × Char := (hexDigit (b.toNat / 16), hexDigit (b.toNat % 16))

theorem hexBytes_eq (bs : List UInt8) : hexBytes bs = hexGroups (bs.map byteGroup) := by
  fun_induction hexBytes bs with
  | case1 | case2 b => rfl
  | case3 b bs hne ih =>
    cases bs with
    | nil => exact absurd rfl hne
    | cons c bs => exact congrArg (hexByte b ++ ':' :: ·) ih

theorem groups_btAddrBa2str (h : addr.length = 6) :
    Groups (btAddrBa2str addr) (addr.reverse.map byteGroup) where
  six := by rw [length_map, length_reverse, h]
  digits := by
    refine forall_mem_map.mpr fun b _ => ?_
    exact ⟨isxdigit_hexDigit (high_lt b), isxdigit_hexDigit (low_lt b)⟩
  text := hexBytes_eq _

theorem btAddrStr2ba_btAddrBa2str (h : addr.length = 6) :
    btAddrStr2ba (btAddrBa2str addr) = addr := by
  have hvalue : ∀ b, UInt8.ofNat (groupValue (byteGroup b)) = b := by
    intro b
    rw [groupValue, byteGroup, hexValue_hexDigit (high_lt b), hexValue_hexDigit (low_lt b)]
    exact (congrArg UInt8.ofNat (Nat.div_add_mod b.toNat 16)).trans UInt8.ofNat_toNat
  rw [(groups_btAddrBa2str h).btAddrStr2ba, map_map, map_reverse, reverse_reverse]
  exact (map_congr_left fun b _ => hvalue b).trans (map_id _)

/-- **Address texts.** An address is read back from its text. A text is accepted exactly if it
is six groups of two digits, and any other gives an error and the empty address. -/
theorem address_text_round_trip :
    (∀ addr : AddrBytes, addr.length = 6 → btAddrStr2baStatus (btAddrBa2str addr) = 0
        ∧ btAddrStr2ba (btAddrBa2str addr) = addr)
      ∧ ∀ str, (∀ gs, Groups str gs → btAddrStr2baStatus str = 0
          ∧ btAddrStr2ba str = (gs.map fun g => UInt8.ofNat (groupValue g)).reverse)
        ∧ ((¬∃ gs, Groups str gs) → btAddrStr2baStatus str = -1
          ∧ btAddrStr2ba str = btAddrEmpty) := by
  have hstatus : ∀ {str gs}, Groups str gs → btAddrStr2baStatus str = 0 :=
    fun h => if_pos ((bachk_iff _).mpr ⟨_, h⟩)
  refine ⟨fun addr h => ⟨hstatus (groups_btAddrBa2str h), btAddrStr2ba_btAddrBa2str h⟩,
    fun str => ⟨fun gs h => ⟨hstatus h, h.btAddrStr2ba⟩, fun hno => ?_⟩⟩
  rw [← bachk_iff] at hno
  exact ⟨if_neg hno, if_neg hno⟩

end BtFramework
