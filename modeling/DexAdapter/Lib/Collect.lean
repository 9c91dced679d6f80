import Mathlib.Data.List.Perm.Basic
import Mathlib.Data.List.Basic

/-!
# Loops that push, skip or throw

`collect body xs` is the loop `for x of xs` over an output list: the body pushes one value, skips
(`none`), or throws, and a throw ends the loop. A loop succeeds exactly when no body throws
(`collect_isOk`), and then it is a `filterMap` (`collect_eq_ok`). Loops in sequence fuse into one
(`collect_append`, `collect_filter`, `collect_filterMap`, `map_collect`), loops over related
elements agree (`collect_forall₂`), and an element whose body skips can be left out
(`collect_skip`).
-/

namespace Collect

variable {ε α β γ : Type}

/-! ## `Except` -/

theorem bind_eq_ok {x : Except ε α} {f : α → Except ε β} {b : β} :
    x >>= f = .ok b ↔ ∃ a, x = .ok a ∧ f a = .ok b := by
  cases x <;> simp [bind, Except.bind]

@[simp] theorem ok_bind (a : α) (f : α → Except ε β) : (Except.ok a >>= f) = f a := rfl

@[simp] theorem error_bind (e : ε) (f : α → Except ε β) :
    ((Except.error e : Except ε α) >>= f) = .error e := rfl

@[simp] theorem pure_eq_ok (a : α) : (pure a : Except ε α) = .ok a := rfl

theorem map_bind (x : Except ε α) (f : α → Except ε β) (g : β → γ) :
    (x >>= f).map g = x >>= fun a => (f a).map g := by
  cases x <;> rfl

theorem eq_ok_of_toOption {x : Except ε α} {a : α} (h : x.toOption = some a) : x = .ok a := by
  cases x with
  | error e => cases h
  | ok b => exact congrArg Except.ok (Option.some.inj h)

def Succeeds (x : Except ε α) : Prop := ∃ a, x = .ok a

theorem exists_eq_ok {x : Except ε α} : (∃ a, x = .ok a) ↔ Succeeds x := Iff.rfl

@[simp] theorem succeeds_ok (a : α) : Succeeds (.ok a : Except ε α) := ⟨a, rfl⟩

theorem succeeds_bind {x : Except ε α} {f : α → Except ε β} :
    Succeeds (x >>= f) ↔ ∃ a, x = .ok a ∧ Succeeds (f a) := by
  cases x <;> simp [Succeeds, bind, Except.bind]

@[simp] theorem succeeds_bind_pure {x : Except ε α} {f : α → β} :
    Succeeds (x >>= fun a => pure (f a)) ↔ Succeeds x := by
  cases x <;> simp [Succeeds, bind, Except.bind]

/-! ## The loop -/

/-- Run the body over the list, collecting what it pushes. -/
def collect (body : α → Except ε (Option β)) : List α → Except ε (List β)
  | [] => .ok []
  | x :: xs => do
    let pushed ← body x
    let rest ← collect body xs
    pure (pushed.toList ++ rest)

@[simp] theorem collect_nil (body : α → Except ε (Option β)) : collect body [] = .ok [] := rfl

theorem collect_append (body : α → Except ε (Option β)) (xs ys : List α) :
    collect body (xs ++ ys) =
      (collect body xs >>= fun l => collect body ys >>= fun r => pure (l ++ r)) := by
  induction xs with
  | nil =>
    cases h : collect body ys <;> simp [h, bind, Except.bind, pure, Except.pure]
  | cons x xs ih =>
    simp only [List.cons_append, collect, ih]
    cases body x with
    | error e => rfl
    | ok pushed =>
      cases collect body xs with
      | error e => rfl
      | ok l =>
        cases collect body ys with
        | error e => rfl
        | ok r => simp

theorem collect_map (body : β → Except ε (Option γ)) (f : α → β) (xs : List α) :
    collect body (xs.map f) = collect (fun x => body (f x)) xs := by
  induction xs with
  | nil => rfl
  | cons x xs ih => simp only [List.map_cons, collect, ih]

theorem collect_filter (body : α → Except ε (Option β)) (p : α → Bool) (xs : List α) :
    collect body (xs.filter p) = collect (fun x => if p x then body x else .ok none) xs := by
  induction xs with
  | nil => rfl
  | cons x xs ih =>
    cases hp : p x with
    | true => simp only [List.filter_cons_of_pos hp, collect, ih, hp, if_true]
    | false =>
      rw [List.filter_cons_of_neg (by simp [hp]), ih, collect, hp]
      cases collect (fun x => if p x then body x else .ok none) xs <;> rfl

/-- Filtering what a loop pushed is one loop whose body filters. -/
theorem collect_filterMap (body : α → Except ε (Option β)) (g : β → Option γ) (xs : List α) :
    (collect body xs >>= fun ys => pure (ys.filterMap g)) =
      collect (fun x => body x >>= fun pushed => pure (pushed.bind g)) xs := by
  induction xs with
  | nil => rfl
  | cons x xs ih =>
    simp only [collect, ← ih]
    cases body x with
    | error e => rfl
    | ok pushed =>
      cases collect body xs with
      | error e => rfl
      | ok rest =>
        cases pushed with
        | none => rfl
        | some y => cases hy : g y <;> simp [hy]

/-- Mapping what a loop pushed is one loop whose body maps. -/
theorem map_collect (body : α → Except ε (Option β)) (g : β → γ) (xs : List α) :
    (collect body xs).map (List.map g) = collect (fun x => (body x).map (Option.map g)) xs := by
  induction xs with
  | nil => rfl
  | cons x xs ih =>
    simp only [collect, ← ih]
    cases body x with
    | error e => rfl
    | ok pushed =>
      cases collect body xs with
      | error e => rfl
      | ok rest => cases pushed <;> rfl

/-- Loops over related elements agree when their bodies do. -/
theorem collect_forall₂ {R : α → β → Prop} {body : α → Except ε (Option γ)}
    {body' : β → Except ε (Option γ)} {xs : List α} {ys : List β} (h : List.Forall₂ R xs ys)
    (hbody : ∀ x y, R x y → body x = body' y) : collect body xs = collect body' ys := by
  induction h with
  | nil => rfl
  | cons hxy _ ih => rw [collect, collect, hbody _ _ hxy, ih]

/-- An element whose body skips can be left out. -/
theorem collect_skip {body : α → Except ε (Option β)} {x : α} (h : body x = .ok none)
    (xs ys : List α) : collect body (xs ++ x :: ys) = collect body (xs ++ ys) := by
  have hx : collect body (x :: ys) = collect body ys := by
    rw [collect, h]
    cases collect body ys <;> rfl
  rw [collect_append, collect_append, hx]

theorem collect_eq_filterMap {body : α → Except ε (Option β)} {g : α → Option β} {xs : List α}
    (h : ∀ x ∈ xs, body x = .ok (g x)) : collect body xs = .ok (xs.filterMap g) := by
  induction xs with
  | nil => rfl
  | cons x xs ih =>
    rw [collect, h x List.mem_cons_self, ih fun y hy => h y (List.mem_cons_of_mem _ hy)]
    cases hg : g x <;> simp [hg]

/-- A loop that always pushes is a map. -/
theorem collect_eq_map {body : α → Except ε (Option β)} {g : α → β} {xs : List α}
    (h : ∀ x ∈ xs, body x = .ok (some (g x))) : collect body xs = .ok (xs.map g) := by
  rw [collect_eq_filterMap h, List.filterMap_eq_map']

/-- Two loops over one list whose bodies agree on it. -/
theorem collect_congr {body body' : α → Except ε (Option β)} {xs : List α}
    (h : ∀ x ∈ xs, body x = body' x) : collect body xs = collect body' xs := by
  induction xs with
  | nil => rfl
  | cons x xs ih =>
    rw [collect, collect, h x List.mem_cons_self, ih fun y hy => h y (List.mem_cons_of_mem _ hy)]

theorem collect_isOk {body : α → Except ε (Option β)} {xs : List α} :
    Succeeds (collect body xs) ↔ ∀ x ∈ xs, Succeeds (body x) := by
  induction xs with
  | nil => simp
  | cons x xs ih =>
    rw [collect, succeeds_bind]
    constructor
    · rintro ⟨pushed, hx, hrest⟩ y hy
      obtain ⟨rest, hxs, -⟩ := succeeds_bind.1 hrest
      rcases List.mem_cons.1 hy with rfl | hy
      · exact ⟨pushed, hx⟩
      · exact ih.1 ⟨rest, hxs⟩ y hy
    · intro h
      obtain ⟨pushed, hx⟩ := h x List.mem_cons_self
      obtain ⟨rest, hxs⟩ := ih.2 fun y hy => h y (List.mem_cons_of_mem _ hy)
      exact ⟨pushed, hx, by rw [hxs]; exact succeeds_ok _⟩

def pushed (body : α → Except ε (Option β)) (x : α) : Option β :=
  match body x with
  | .ok y => y
  | .error _ => none

theorem pushed_of_ok {body : α → Except ε (Option β)} {x : α} {y : Option β}
    (h : body x = .ok y) : pushed body x = y := by
  rw [pushed, h]

theorem pushed_eq_some_iff {body : α → Except ε (Option β)} {x : α} {y : β} :
    pushed body x = some y ↔ body x = .ok (some y) := by
  unfold pushed
  constructor
  · intro h
    split at h
    · rename_i o ho
      rw [ho, h]
    · cases h
  · intro h
    rw [h]

theorem Succeeds.eq_pushed {body : α → Except ε (Option β)} {x : α} (h : Succeeds (body x)) :
    body x = .ok (pushed body x) := by
  obtain ⟨y, hy⟩ := h
  rw [hy, pushed_of_ok hy]

/-- A loop that succeeds returns what its bodies push, in list order. -/
theorem collect_eq_ok {body : α → Except ε (Option β)} {xs : List α}
    (h : ∀ x ∈ xs, Succeeds (body x)) : collect body xs = .ok (xs.filterMap (pushed body)) :=
  collect_eq_filterMap fun x hx => (h x hx).eq_pushed

theorem collect_eq_ok_iff {body : α → Except ε (Option β)} {xs : List α} {ys : List β} :
    collect body xs = .ok ys ↔
      (∀ x ∈ xs, Succeeds (body x)) ∧ ys = xs.filterMap (pushed body) := by
  constructor
  · intro h
    have hs := collect_isOk.1 ⟨ys, h⟩
    rw [collect_eq_ok hs, Except.ok.injEq] at h
    exact ⟨hs, h.symm⟩
  · rintro ⟨hs, rfl⟩
    exact collect_eq_ok hs

end Collect
