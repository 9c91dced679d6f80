import Mathlib.Data.List.TakeWhile
import Mathlib.Data.Rat.Defs
import Mathlib.Algebra.Field.Rat
import Mathlib.Tactic.FieldSimp
import Mathlib.Tactic.Ring

/-!
# Plain decimal numerals

A plain numeral is digits, or digits, a point and digits. `parse` reads one as a coefficient and a
number of decimals, `value` as the rational number it denotes. `render coeff scale` writes
`coeff / 10 ^ scale` with no superfluous zero; it denotes that number (`value_render`).
-/

namespace Numeral

def isDigits (cs : List Char) : Bool := !cs.isEmpty && cs.all Char.isDigit

/-- Read a numeral as a coefficient and the number of its decimals. -/
def parse (text : String) : Option (Nat × Nat) :=
  let int := text.toList.takeWhile (· != '.')
  match text.toList.dropWhile (· != '.') with
  | [] => if isDigits int then some (Nat.ofDigitChars 10 int 0, 0) else none
  | _ :: frac =>
    if isDigits int && isDigits frac then
      some (Nat.ofDigitChars 10 (int ++ frac) 0, frac.length)
    else none

def ratio (coeff scale : Nat) : ℚ := coeff / 10 ^ scale

def value (text : String) : Option ℚ := (parse text).map fun p => ratio p.1 p.2

/-! ## Ratios -/

@[simp] theorem ratio_zero_right (coeff : Nat) : ratio coeff 0 = coeff := by simp [ratio]

theorem ratio_ten_mul (coeff scale : Nat) : ratio (10 * coeff) (scale + 1) = ratio coeff scale := by
  unfold ratio
  push_cast
  rw [pow_succ]
  field_simp

/-! ## Digits -/

theorem isDigits_toDigits (n : Nat) : isDigits (Nat.toDigits 10 n) = true := by
  unfold isDigits
  simp only [Bool.and_eq_true, Bool.not_eq_true', List.isEmpty_eq_false_iff, List.all_eq_true]
  exact ⟨Nat.toDigits_ne_nil, fun c hc => Nat.isDigit_of_mem_toDigits (by decide) le_rfl hc⟩

theorem ne_point_of_isDigit {c : Char} (h : c.isDigit = true) : (c != '.') = true := by
  rw [bne_iff_ne]
  rintro rfl
  exact absurd h (by decide)

theorem takeWhile_digits {cs : List Char} (ds : List Char) (h : cs.all Char.isDigit = true) :
    (cs ++ '.' :: ds).takeWhile (· != '.') = cs ∧
      (cs ++ '.' :: ds).dropWhile (· != '.') = '.' :: ds := by
  have hne : ∀ c ∈ cs, (c != '.') = true := fun c hc =>
    ne_point_of_isDigit (List.all_eq_true.1 h c hc)
  constructor
  · rw [List.takeWhile_append_of_pos hne]
    simp
  · rw [List.dropWhile_append_of_pos hne]
    simp

theorem parse_digits {cs : List Char} (h : isDigits cs = true) :
    parse (String.ofList cs) = some (Nat.ofDigitChars 10 cs 0, 0) := by
  have hne : ∀ c ∈ cs, (c != '.') = true := fun c hc =>
    ne_point_of_isDigit (List.all_eq_true.1 (Bool.and_eq_true_iff.1 h).2 c hc)
  have htake : cs.takeWhile (· != '.') = cs := List.takeWhile_eq_self_iff.2 hne
  have hdrop : cs.dropWhile (· != '.') = [] := List.dropWhile_eq_nil_iff.2 hne
  simp only [parse, String.toList_ofList, htake, hdrop, h, if_true]

theorem parse_point {cs ds : List Char} (hc : isDigits cs = true) (hd : isDigits ds = true) :
    parse (String.ofList (cs ++ '.' :: ds)) =
      some (Nat.ofDigitChars 10 (cs ++ ds) 0, ds.length) := by
  obtain ⟨htake, hdrop⟩ := takeWhile_digits ds (Bool.and_eq_true_iff.1 hc).2
  simp only [parse, String.toList_ofList, htake, hdrop, hc, hd, Bool.and_self, if_true]

theorem parse_toString (n : Nat) : parse (toString n) = some (n, 0) := by
  rw [Nat.toString_eq_ofList_toDigits, parse_digits (isDigits_toDigits n),
    Nat.ofDigitChars_ten_toDigits]

theorem value_toString (n : Nat) : value (toString n) = some (n : ℚ) := by
  rw [value, parse_toString, Option.map_some, ratio_zero_right]

/-! ## Writing numerals -/

def lastDigits : Nat → Nat → List Char
  | 0, _ => []
  | w + 1, n => lastDigits w (n / 10) ++ [Nat.digitChar (n % 10)]

@[simp] theorem length_lastDigits (w n : Nat) : (lastDigits w n).length = w := by
  induction w generalizing n with
  | zero => rfl
  | succ w ih => simp [lastDigits, ih]

theorem all_isDigit_lastDigits (w n : Nat) : (lastDigits w n).all Char.isDigit = true := by
  induction w generalizing n with
  | zero => rfl
  | succ w ih =>
    have hdigit : ∀ m < 10, (Nat.digitChar m).isDigit = true := by decide
    rw [lastDigits, List.all_append, ih, List.all_cons, hdigit _ (Nat.mod_lt _ (by decide))]
    rfl

/-- The digits of `n / 10 ^ w` and then the last `w` digits of `n` are the digits of `n`. -/
theorem ofDigitChars_lastDigits (w n : Nat) :
    Nat.ofDigitChars 10 (Nat.toDigits 10 (n / 10 ^ w) ++ lastDigits w n) 0 = n := by
  induction w generalizing n with
  | zero => simp [lastDigits]
  | succ w ih =>
    have hdiv : n / 10 ^ (w + 1) = n / 10 / 10 ^ w := by
      rw [Nat.div_div_eq_div_mul, pow_succ, mul_comm]
    rw [lastDigits, ← List.append_assoc, Nat.ofDigitChars_append, hdiv, ih,
      Nat.ofDigitChars_cons_digitChar_of_lt_ten (Nat.mod_lt _ (by decide)), Nat.ofDigitChars_nil]
    omega

/-- Drop the factors of ten that a scale and a coefficient share: scale first, then coefficient. -/
def trim : Nat → Nat → Nat × Nat
  | 0, coeff => (0, coeff)
  | scale + 1, coeff => if coeff % 10 = 0 then trim scale (coeff / 10) else (scale + 1, coeff)

theorem trim_zero (scale : Nat) : trim scale 0 = (0, 0) := by
  induction scale with
  | zero => rfl
  | succ scale ih => rw [trim, if_pos rfl, Nat.zero_div, ih]

theorem ratio_trim (scale coeff : Nat) :
    ratio (trim scale coeff).2 (trim scale coeff).1 = ratio coeff scale := by
  induction scale generalizing coeff with
  | zero => rfl
  | succ scale ih =>
    unfold trim
    split
    · rename_i h
      rw [ih, ← ratio_ten_mul, Nat.mul_div_cancel' (Nat.dvd_of_mod_eq_zero h)]
    · rfl

/-- The numeral of `coeff / 10 ^ scale`, with no trailing zero after the point. -/
def render (coeff scale : Nat) : String :=
  match trim scale coeff with
  | (0, c) => toString c
  | (k + 1, c) =>
    String.ofList (Nat.toDigits 10 (c / 10 ^ (k + 1)) ++ '.' :: lastDigits (k + 1) c)

/-- **A rendered number reads back.** -/
theorem value_render (coeff scale : Nat) :
    value (render coeff scale) = some (ratio coeff scale) := by
  rw [← ratio_trim scale coeff]
  unfold render
  split
  · rename_i c htrim
    rw [htrim, value_toString, ratio_zero_right]
  · rename_i k c htrim
    have hfrac : isDigits (lastDigits (k + 1) c) = true := by
      rw [isDigits, all_isDigit_lastDigits, Bool.and_true, lastDigits]
      simp
    rw [htrim, value, parse_point (isDigits_toDigits _) hfrac, ofDigitChars_lastDigits,
      length_lastDigits]
    rfl

example : render 1500000000000000000 18 = "1.5" := by decide

end Numeral
