import Mathlib.Data.List.Basic
import Mathlib.Tactic.Ring

/-!
# Byte strings: hexadecimal text, big-endian numbers, ASCII

* `toHex`/`ofHex`: hexadecimal text of a byte string, and reading it back. Reading follows
  `Buffer.from(text, 'hex')`: it stops at the first pair that is not two digits.
* `toNat`/`ofNat`: big-endian numbers. `ofNat` uses the fewest bytes, so zero is the empty string;
  `fixed w` uses exactly `w` bytes.
* `ofAscii`/`toAscii`: the bytes of a text of ASCII characters.
-/

namespace Bytes

/-! ## Hexadecimal text -/

def hexPair (b : UInt8) : List Char :=
  [Nat.digitChar (b.toNat / 16), Nat.digitChar (b.toNat % 16)]

/-- The hexadecimal text of a byte string, in lower case. -/
def toHex (bs : List UInt8) : String := String.ofList (bs.flatMap hexPair)

def hexDigit? (c : Char) : Option Nat :=
  if '0' ≤ c ∧ c ≤ '9' then some (c.toNat - '0'.toNat)
  else if 'a' ≤ c ∧ c ≤ 'f' then some (c.toNat - 'a'.toNat + 10)
  else if 'A' ≤ c ∧ c ≤ 'F' then some (c.toNat - 'A'.toNat + 10)
  else none

def ofHexChars : List Char → List UInt8
  | hi :: lo :: rest =>
    match hexDigit? hi, hexDigit? lo with
    | some h, some l => UInt8.ofNat (16 * h + l) :: ofHexChars rest
    | _, _ => []
  | _ => []

/-- The byte string a hexadecimal text begins with. -/
def ofHex (text : String) : List UInt8 := ofHexChars text.toList

theorem hexDigit?_digitChar : ∀ n < 16, hexDigit? (Nat.digitChar n) = some n := by
  decide

theorem ofHexChars_hexPair (b : UInt8) (rest : List Char) :
    ofHexChars (hexPair b ++ rest) = b :: ofHexChars rest := by
  have hb : b.toNat < 256 := b.toNat_lt
  simp only [hexPair, List.cons_append, List.nil_append, ofHexChars,
    hexDigit?_digitChar (b.toNat / 16) (by omega), hexDigit?_digitChar (b.toNat % 16) (by omega)]
  rw [Nat.div_add_mod, UInt8.ofNat_toNat]

theorem ofHex_toHex (bs : List UInt8) : ofHex (toHex bs) = bs := by
  unfold ofHex toHex
  rw [String.toList_ofList]
  induction bs with
  | nil => rfl
  | cons b bs ih => rw [List.flatMap_cons, ofHexChars_hexPair, ih]

theorem toHex_ne_empty {bs : List UInt8} (h : bs ≠ []) : toHex bs ≠ "" := by
  intro he
  have := congrArg ofHex he
  rw [ofHex_toHex] at this
  exact h this

/-! ## Big-endian numbers -/

def toNat (bs : List UInt8) : Nat := bs.foldl (fun n b => n * 256 + b.toNat) 0

theorem foldl_toNat (bs : List UInt8) (n : Nat) :
    bs.foldl (fun n b => n * 256 + b.toNat) n = n * 256 ^ bs.length + toNat bs := by
  unfold toNat
  induction bs generalizing n with
  | nil => simp
  | cons b bs ih =>
    rw [List.foldl_cons, List.foldl_cons, ih, ih (0 * 256 + b.toNat), List.length_cons, pow_succ]
    ring

theorem toNat_append (xs ys : List UInt8) :
    toNat (xs ++ ys) = toNat xs * 256 ^ ys.length + toNat ys := by
  rw [toNat, List.foldl_append, foldl_toNat]
  rfl

theorem toNat_singleton (b : UInt8) : toNat [b] = b.toNat := by simp [toNat]

/-- The bytes of `n`, fewest possible, in front of `acc`; the fuel bounds their number. -/
def ofNatAux : Nat → Nat → List UInt8 → List UInt8
  | 0, _, acc => acc
  | fuel + 1, n, acc => if n = 0 then acc else ofNatAux fuel (n / 256) (UInt8.ofNat n :: acc)

/-- The shortest byte string that denotes `n`; empty for zero. -/
def ofNat (n : Nat) : List UInt8 := ofNatAux n n []

theorem toNat_uint8OfNat (n : Nat) : (UInt8.ofNat n).toNat = n % 256 := by
  rw [UInt8.toNat_ofNat']

theorem toNat_ofNatAux : ∀ (fuel n : Nat) (acc : List UInt8), n ≤ fuel →
    toNat (ofNatAux fuel n acc) = n * 256 ^ acc.length + toNat acc
  | 0, n, acc, h => by simp [ofNatAux, Nat.le_zero.1 h]
  | fuel + 1, n, acc, h => by
    unfold ofNatAux
    by_cases hn : n = 0
    · simp [hn]
    · rw [if_neg hn, toNat_ofNatAux fuel _ _ (by omega), List.length_cons,
        show UInt8.ofNat n :: acc = [UInt8.ofNat n] ++ acc from rfl, toNat_append, toNat_singleton,
        toNat_uint8OfNat, pow_succ]
      have hdiv := Nat.div_add_mod n 256
      calc n / 256 * (256 ^ acc.length * 256) + (n % 256 * 256 ^ acc.length + toNat acc)
          = (256 * (n / 256) + n % 256) * 256 ^ acc.length + toNat acc := by ring
        _ = n * 256 ^ acc.length + toNat acc := by rw [hdiv]

@[simp] theorem toNat_ofNat (n : Nat) : toNat (ofNat n) = n := by
  rw [ofNat, toNat_ofNatAux n n [] le_rfl]
  simp [toNat]

theorem ofNat_ne_nil {n : Nat} (h : n ≠ 0) : ofNat n ≠ [] := by
  intro he
  have := toNat_ofNat n
  rw [he] at this
  exact h this.symm

def fixed : Nat → Nat → List UInt8
  | 0, _ => []
  | w + 1, n => fixed w (n / 256) ++ [UInt8.ofNat n]

@[simp] theorem length_fixed (w n : Nat) : (fixed w n).length = w := by
  induction w generalizing n with
  | zero => rfl
  | succ w ih => simp [fixed, ih]

/-- A number below `256 ^ w` is denoted by its `w` low bytes. -/
theorem toNat_fixed {w n : Nat} (h : n < 256 ^ w) : toNat (fixed w n) = n := by
  induction w generalizing n with
  | zero =>
    rw [pow_zero] at h
    have : n = 0 := by omega
    subst this
    rfl
  | succ w ih =>
    have hdiv : n / 256 < 256 ^ w := Nat.div_lt_of_lt_mul (by rwa [pow_succ, mul_comm] at h)
    rw [fixed, toNat_append, ih hdiv, toNat_singleton, toNat_uint8OfNat]
    simp only [List.length_cons, List.length_nil, zero_add, pow_one]
    have := Nat.div_add_mod n 256
    omega

/-! ## ASCII text -/

def IsAscii (text : String) : Prop := ∀ c ∈ text.toList, c.toNat < 128

instance (text : String) : Decidable (IsAscii text) :=
  List.decidableBAll (fun c : Char => c.toNat < 128) text.toList

def ofAscii (text : String) : List UInt8 := text.toList.map fun c => UInt8.ofNat c.toNat

/-- The text of a byte string, as `Buffer.toString('ascii')` reads it: the eighth bit is dropped. -/
def toAscii (bs : List UInt8) : String :=
  String.ofList (bs.map fun b => Char.ofNat (b.toNat % 128))

theorem toAscii_ofAscii {text : String} (h : IsAscii text) : toAscii (ofAscii text) = text := by
  unfold toAscii ofAscii
  have hid : ∀ c ∈ text.toList,
      ((fun b : UInt8 => Char.ofNat (b.toNat % 128)) ∘ fun c : Char => UInt8.ofNat c.toNat) c =
        id c := by
    intro c hc
    have hlt := h c hc
    have hval : (UInt8.ofNat c.toNat).toNat % 128 = c.toNat := by
      rw [toNat_uint8OfNat]
      omega
    simp only [Function.comp_apply, hval, id_eq, Char.ofNat_toNat]
  rw [List.map_map, List.map_congr_left hid, List.map_id, String.ofList_toList]

end Bytes
