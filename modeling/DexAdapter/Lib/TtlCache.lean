import Mathlib.Logic.Function.Basic

/-!
# A cache with times to live

A map from keys to entries. An entry is written at some time with a time to live, and is read back
until that time is over.
-/

namespace TtlCache

variable {κ ν : Type}

structure Entry (ν : Type) where
  value : ν
  writtenAt : Nat
  ttl : Nat
  deriving DecidableEq, Repr

/-- The entry is not expired. -/
def Entry.Live (now : Nat) (e : Entry ν) : Prop := now < e.writtenAt + e.ttl

instance (now : Nat) (e : Entry ν) : Decidable (e.Live now) :=
  inferInstanceAs (Decidable (now < e.writtenAt + e.ttl))

abbrev Cache (κ ν : Type) := κ → Option (Entry ν)

/-- An expired entry is not read. -/
def get (cache : Cache κ ν) (now : Nat) (key : κ) : Option ν :=
  match cache key with
  | some e => if e.Live now then some e.value else none
  | none => none

section Write

variable [DecidableEq κ]

def set (cache : Cache κ ν) (now : Nat) (key : κ) (value : ν) (ttl : Nat) : Cache κ ν :=
  Function.update cache key (some { value := value, writtenAt := now, ttl := ttl })

/-- Remove an entry before its time. -/
def forget (cache : Cache κ ν) (key : κ) : Cache κ ν := Function.update cache key none

variable {cache : Cache κ ν} {now ttl : Nat} {key : κ} {value : ν}

@[simp] theorem set_self :
    set cache now key value ttl key = some { value := value, writtenAt := now, ttl := ttl } :=
  Function.update_self key _ cache

@[simp] theorem set_of_ne {other : κ} (h : other ≠ key) :
    set cache now key value ttl other = cache other :=
  Function.update_of_ne h _ cache

/-- An entry after a write is the one written, or was there before. -/
theorem of_set_eq_some {other : κ} {e : Entry ν}
    (h : set cache now key value ttl other = some e) :
    (other = key ∧ e = { value := value, writtenAt := now, ttl := ttl }) ∨
      (other ≠ key ∧ cache other = some e) := by
  by_cases hkey : other = key
  · subst hkey
    rw [set_self, Option.some.injEq] at h
    exact Or.inl ⟨rfl, h.symm⟩
  · rw [set_of_ne hkey] at h
    exact Or.inr ⟨hkey, h⟩

theorem of_forget_eq_some {other : κ} {e : Entry ν} (h : forget cache key other = some e) :
    other ≠ key ∧ cache other = some e := by
  by_cases hkey : other = key
  · subst hkey
    rw [forget, Function.update_self] at h
    cases h
  · rw [forget, Function.update_of_ne hkey] at h
    exact ⟨hkey, h⟩

end Write

theorem get_eq_some {cache : Cache κ ν} {now : Nat} {key : κ} {value : ν} :
    get cache now key = some value ↔
      ∃ e, cache key = some e ∧ e.Live now ∧ e.value = value := by
  unfold get
  cases cache key with
  | none => simp
  | some e =>
    by_cases hlive : e.Live now
    · simp [hlive]
    · simp [hlive]

end TtlCache
