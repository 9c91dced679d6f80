import Mathlib.Data.Option.Basic
import Mathlib.Data.Int.Order.Basic

/-!
# Outputs of consecutive places

Every integer place has an output, a list, or none when asking for it fails. `concat` is the output
of consecutive places, one after the other. A way to ask for a whole range whose output can be cut
after any place gives what asking place by place gives (`concat_of_cut`), and ranges that follow
each other give what one pass over all their places gives (`concat_add`).
-/

namespace Segments

variable {α : Type}

/-- The outputs of two askings, the first before the second. -/
def append (first second : Option (List α)) : Option (List α) := do
  let xs ← first
  let ys ← second
  pure (xs ++ ys)

theorem append_eq_some {first second : Option (List α)} {zs : List α} :
    append first second = some zs ↔
      ∃ xs ys, first = some xs ∧ second = some ys ∧ zs = xs ++ ys := by
  unfold append
  constructor
  · intro h
    obtain ⟨xs, hxs, h⟩ := Option.bind_eq_some_iff.1 h
    obtain ⟨ys, hys, h⟩ := Option.bind_eq_some_iff.1 h
    exact ⟨xs, ys, hxs, hys, (Option.some.inj h).symm⟩
  · rintro ⟨xs, ys, rfl, rfl, rfl⟩
    rfl

@[simp] theorem append_nil (first : Option (List α)) : append first (some []) = first := by
  cases first with
  | none => rfl
  | some xs => exact congrArg some xs.append_nil

@[simp] theorem nil_append (second : Option (List α)) : append (some []) second = second := by
  cases second <;> rfl

theorem append_assoc (x y z : Option (List α)) :
    append (append x y) z = append x (append y z) := by
  cases x with
  | none => rfl
  | some xs =>
    cases y with
    | none => rfl
    | some ys =>
      cases z with
      | none => rfl
      | some zs => exact congrArg some (List.append_assoc xs ys zs)

section Concat

variable (place : Int → Option (List α))

/-- The outputs of `count` places from `start` on. -/
def concat (start : Int) : Nat → Option (List α)
  | 0 => some []
  | count + 1 => append (concat start count) (place (start + count))

@[simp] theorem concat_zero (start : Int) : concat place start 0 = some [] := rfl

@[simp] theorem concat_one (start : Int) : concat place start 1 = place start := by
  rw [concat, concat_zero, nil_append, Int.natCast_zero, Int.add_zero]

/-- Two passes, the second where the first ended, are one. -/
theorem concat_add (start : Int) (m n : Nat) :
    concat place start (m + n) =
      append (concat place start m) (concat place (start + m) n) := by
  induction n with
  | zero => rw [Nat.add_zero, concat_zero, append_nil]
  | succ n ih =>
    rw [← Nat.add_assoc, concat, ih, concat, append_assoc, Int.natCast_add, Int.add_assoc]

variable {place}

/-- **Asking for a range**: when the output of every range from `start` is that of its places but
the last, then that of the last, it is the output of all its places. -/
theorem concat_of_cut {range : Int → Int → Option (List α)} {start : Int} {count : Nat}
    (hcut : ∀ k < count, range start (start + k + 1) =
      append (range start (start + k)) (range (start + k + 1) (start + k + 1))) :
    range start (start + count) = concat (fun n => range n n) start (count + 1) := by
  induction count with
  | zero => rw [concat_one, Int.natCast_zero, Int.add_zero]
  | succ count ih =>
    have hlast := hcut count (Nat.lt_succ_self count)
    rw [ih fun k hk => hcut k (Nat.lt_succ_of_lt hk)] at hlast
    rw [concat, Int.natCast_succ, ← Int.add_assoc, hlast]

end Concat

end Segments
