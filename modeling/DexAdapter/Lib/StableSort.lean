import Mathlib.Data.List.Sort

/-!
# Stable sorting by a comparator

A comparator answers with an integer whose sign orders its two arguments, as the function a
JavaScript `sort` receives. `sortBy` is the stable sort by a comparator; it does not depend on the
algorithm, since a stable sort by a consistent comparator has one result
(`Consistent.sortBy_eq_iff`).

* `lexBy`: compare by a numeric key first, by another comparator on ties. A chain of `lexBy` over a
  consistent comparator is consistent (`Consistent.lexBy`).
* `sortBy_split`: a predicate whose members come strictly before its non-members cuts the sorted
  list in two sorted lists.
* `Consistent.filter_tied`: the elements tied with a given one keep the order they came in.
-/

namespace StableSort

variable {α β : Type}

/-- A consistent comparator: the sign is antisymmetric and "not after" is transitive. -/
structure Consistent (cmp : α → α → Int) : Prop where
  neg_iff : ∀ a b, cmp a b < 0 ↔ 0 < cmp b a
  trans : ∀ a b c, cmp a b ≤ 0 → cmp b c ≤ 0 → cmp a c ≤ 0

def sortBy (cmp : α → α → Int) (l : List α) : List α :=
  l.insertionSort fun a b => cmp a b ≤ 0

/-- Compare by the key, and on equal keys by `next`. -/
def lexBy (key : α → Nat) (next : α → α → Int) (a b : α) : Int :=
  if key a ≠ key b then (key a : Int) - key b else next a b

/-! ## Consistent comparators -/

namespace Consistent

variable {cmp : α → α → Int} (h : Consistent cmp)

include h

theorem self (a : α) : cmp a a = 0 := by
  have := h.neg_iff a a
  omega

theorem total (a b : α) : cmp a b ≤ 0 ∨ cmp b a ≤ 0 := by
  have := h.neg_iff a b
  have := h.neg_iff b a
  omega

theorem eq_zero_comm {a b : α} : cmp a b = 0 ↔ cmp b a = 0 := by
  have := h.neg_iff a b
  have := h.neg_iff b a
  omega

theorem eq_zero {a b : α} (hab : cmp a b ≤ 0) (hba : cmp b a ≤ 0) : cmp a b = 0 := by
  have := h.neg_iff a b
  omega

/-- Tied elements compare alike with every other element. -/
theorem tie_trans {a b c : α} (hab : cmp a b = 0) (hbc : cmp b c = 0) : cmp a c = 0 := by
  have hba := h.eq_zero_comm.1 hab
  have hcb := h.eq_zero_comm.1 hbc
  exact h.eq_zero (h.trans a b c hab.le hbc.le) (h.trans c b a hcb.le hba.le)

theorem lexBy (key : α → Nat) : Consistent (lexBy key cmp) := by
  constructor
  · intro a b
    have := h.neg_iff a b
    unfold StableSort.lexBy
    by_cases hk : key a = key b
    · simpa [hk] using this
    · have hk' : key b ≠ key a := fun e => hk e.symm
      simp only [ne_eq, hk, not_false_eq_true, if_true, hk']
      omega
  · intro a b c hab hbc
    unfold StableSort.lexBy at *
    by_cases h1 : key a = key b
    · by_cases h2 : key b = key c
      · simp only [h1, h2, ne_eq, not_true_eq_false, if_false] at hab hbc ⊢
        exact h.trans a b c hab hbc
      · simp only [h1, ne_eq, h2, not_false_eq_true, if_true] at hbc ⊢
        exact hbc
    · simp only [ne_eq, h1, not_false_eq_true, if_true] at hab
      by_cases h2 : key b = key c
      · rw [h2] at h1 hab
        simpa only [ne_eq, h1, not_false_eq_true, if_true] using hab
      · simp only [ne_eq, h2, not_false_eq_true, if_true] at hbc
        have h3 : key a ≠ key c := by omega
        simp only [ne_eq, h3, not_false_eq_true, if_true]
        omega

end Consistent

theorem lexBy_eq_zero {key : α → Nat} {next : α → α → Int} {a b : α} :
    lexBy key next a b = 0 ↔ key a = key b ∧ next a b = 0 := by
  unfold lexBy
  by_cases h : key a = key b
  · simp [h]
  · simp only [ne_eq, h, not_false_eq_true, if_true, false_and, iff_false]
    omega

theorem key_le_of_lexBy {key : α → Nat} {next : α → α → Int} {a b : α}
    (h : lexBy key next a b ≤ 0) : key a ≤ key b := by
  unfold lexBy at h
  by_cases hk : key a = key b
  · omega
  · simp only [ne_eq, hk, not_false_eq_true, if_true] at h
    omega

/-! ## The sorted list -/

theorem sortBy_perm (cmp : α → α → Int) (l : List α) : (sortBy cmp l).Perm l :=
  List.perm_insertionSort _ l

@[simp] theorem mem_sortBy {cmp : α → α → Int} {l : List α} {a : α} :
    a ∈ sortBy cmp l ↔ a ∈ l :=
  (sortBy_perm cmp l).mem_iff

theorem orderedInsert_append_left {cmp : α → α → Int} {a : α} :
    ∀ {l₁ l₂ : List α}, (∀ b ∈ l₂, cmp a b ≤ 0) →
      (l₁ ++ l₂).orderedInsert (fun a b => cmp a b ≤ 0) a =
        l₁.orderedInsert (fun a b => cmp a b ≤ 0) a ++ l₂
  | [], [], _ => rfl
  | [], b :: l₂, h => by
    simp only [List.nil_append, List.orderedInsert_cons, h b List.mem_cons_self, if_true,
      List.orderedInsert_nil, List.cons_append]
  | b :: l₁, l₂, h => by
    simp only [List.cons_append, List.orderedInsert_cons]
    split
    · rfl
    · rw [orderedInsert_append_left h, List.cons_append]

theorem orderedInsert_append_right {cmp : α → α → Int} {a : α} :
    ∀ {l₁ l₂ : List α}, (∀ b ∈ l₁, 0 < cmp a b) →
      (l₁ ++ l₂).orderedInsert (fun a b => cmp a b ≤ 0) a =
        l₁ ++ l₂.orderedInsert (fun a b => cmp a b ≤ 0) a
  | [], _, _ => rfl
  | b :: l₁, l₂, h => by
    have hb : ¬ cmp a b ≤ 0 := by
      have := h b List.mem_cons_self
      omega
    simp only [List.cons_append, List.orderedInsert_cons, hb, if_false]
    rw [orderedInsert_append_right fun c hc => h c (List.mem_cons_of_mem _ hc)]

/-- A predicate whose members all come strictly before its non-members cuts the sorted list: the
members sorted, then the non-members sorted. -/
theorem sortBy_split {cmp : α → α → Int} (p : α → Bool) :
    ∀ {l : List α}, (∀ a ∈ l, ∀ b ∈ l, p a = true → p b = false → cmp a b ≤ 0 ∧ 0 < cmp b a) →
      sortBy cmp l = sortBy cmp (l.filter p) ++ sortBy cmp (l.filter fun a => !p a)
  | [], _ => rfl
  | a :: l, h => by
    have ih := sortBy_split p (l := l) fun x hx y hy =>
      h x (List.mem_cons_of_mem _ hx) y (List.mem_cons_of_mem _ hy)
    have hcons : ∀ x (m : List α), sortBy cmp (x :: m) =
        (sortBy cmp m).orderedInsert (fun a b => cmp a b ≤ 0) x := fun _ _ => rfl
    rw [hcons, ih]
    cases hp : p a with
    | true =>
      rw [List.filter_cons_of_pos hp, List.filter_cons_of_neg (by simp [hp]), hcons]
      refine orderedInsert_append_left fun b hb => ?_
      obtain ⟨hbl, hpb⟩ := List.mem_filter.1 (mem_sortBy.1 hb)
      exact (h a List.mem_cons_self b (List.mem_cons_of_mem _ hbl) hp (by simpa using hpb)).1
    | false =>
      rw [List.filter_cons_of_neg (by simp [hp]), List.filter_cons_of_pos (by simp [hp]), hcons]
      refine orderedInsert_append_right fun b hb => ?_
      obtain ⟨hbl, hpb⟩ := List.mem_filter.1 (mem_sortBy.1 hb)
      exact (h b (List.mem_cons_of_mem _ hbl) a List.mem_cons_self hpb hp).2

/-! ## Ties -/

def tied (cmp : α → α → Int) (a : α) (l : List α) : List α :=
  l.filter fun b => cmp a b == 0

theorem mem_tied {cmp : α → α → Int} {a b : α} {l : List α} :
    b ∈ tied cmp a l ↔ b ∈ l ∧ cmp a b = 0 := by
  simp [tied]

theorem tied_cons_of_eq {cmp : α → α → Int} {a b : α} {l : List α} (hab : cmp a b = 0) :
    tied cmp a (b :: l) = b :: tied cmp a l :=
  List.filter_cons_of_pos (by simp [hab])

theorem tied_cons_of_ne {cmp : α → α → Int} {a b : α} {l : List α} (hab : cmp a b ≠ 0) :
    tied cmp a (b :: l) = tied cmp a l :=
  List.filter_cons_of_neg (by simp [hab])

theorem tied_append (cmp : α → α → Int) (a : α) (l₁ l₂ : List α) :
    tied cmp a (l₁ ++ l₂) = tied cmp a l₁ ++ tied cmp a l₂ :=
  List.filter_append ..

/-- Tied elements that are all equal stand alike in every arrangement. -/
theorem tied_eq_of_perm {cmp : α → α → Int} {a : α} {l₁ l₂ : List α} (hperm : l₁.Perm l₂)
    (hconst : ∀ x ∈ tied cmp a l₁, ∀ y ∈ tied cmp a l₁, x = y) : tied cmp a l₁ = tied cmp a l₂ := by
  have htied : (tied cmp a l₁).Perm (tied cmp a l₂) := hperm.filter _
  cases hl : tied cmp a l₁ with
  | nil =>
    rw [hl] at htied
    exact htied.nil_eq
  | cons x xs =>
    have hx : x ∈ tied cmp a l₁ := by rw [hl]; exact List.mem_cons_self
    have hrep : tied cmp a l₁ = List.replicate (tied cmp a l₁).length x :=
      List.eq_replicate_of_mem fun y hy => hconst y hy x hx
    rw [hrep] at htied
    rw [← hl, hrep]
    exact (List.perm_replicate.1 htied.symm).symm

namespace Consistent

variable {cmp : α → α → Int} (h : Consistent cmp)

include h

theorem sortBy_pairwise (l : List α) : (sortBy cmp l).Pairwise fun a b => cmp a b ≤ 0 := by
  have : Std.Total fun a b => cmp a b ≤ 0 := ⟨h.total⟩
  have : IsTrans α fun a b => cmp a b ≤ 0 := ⟨h.trans⟩
  exact List.pairwise_insertionSort _ l

/-- **Stability**: sorting leaves tied elements in the order they came in. -/
theorem filter_tied (a : α) (l : List α) : tied cmp a (sortBy cmp l) = tied cmp a l := by
  have hsub : List.Sublist (tied cmp a l) (sortBy cmp l) := by
    refine List.sublist_insertionSort ?_ List.filter_sublist
    refine List.pairwise_iff_forall_sublist.2 fun {b c} hbc => ?_
    have hb := (mem_tied.1 (hbc.subset (by simp : b ∈ [b, c]))).2
    have hc := (mem_tied.1 (hbc.subset (by simp : c ∈ [b, c]))).2
    exact (h.tie_trans (h.eq_zero_comm.1 hb) hc).le
  have hsub' : List.Sublist (tied cmp a l) (tied cmp a (sortBy cmp l)) := by
    have := hsub.filter fun b => cmp a b == 0
    simpa only [tied, List.filter_filter, Bool.and_self] using this
  exact (hsub'.eq_of_length ((sortBy_perm cmp l).filter _).length_eq.symm).symm

/-- Two sorted lists with the same ties in the same order are one list. -/
theorem eq_of_tied : ∀ {l₁ l₂ : List α}, l₁.Pairwise (fun a b => cmp a b ≤ 0) →
    l₂.Pairwise (fun a b => cmp a b ≤ 0) → (∀ a, tied cmp a l₁ = tied cmp a l₂) → l₁ = l₂
  | [], [], _, _, _ => rfl
  | [], b :: l₂, _, _, ht => by
    have hb : b ∈ tied cmp b (b :: l₂) := mem_tied.2 ⟨List.mem_cons_self, h.self b⟩
    rw [← ht b] at hb
    cases hb
  | a :: l₁, [], _, _, ht => by
    have ha : a ∈ tied cmp a (a :: l₁) := mem_tied.2 ⟨List.mem_cons_self, h.self a⟩
    rw [ht a] at ha
    cases ha
  | a :: l₁, b :: l₂, h₁, h₂, ht => by
    -- each head occurs in the other list, so neither comes after the other: they are tied
    have mem_of : ∀ {c : α} {m m' : List α}, c ∈ m → tied cmp c m = tied cmp c m' → c ∈ m' := by
      intro c m m' hc hm
      have : c ∈ tied cmp c m := mem_tied.2 ⟨hc, h.self c⟩
      rw [hm] at this
      exact (mem_tied.1 this).1
    have hba : cmp b a ≤ 0 := by
      rcases List.mem_cons.1 (mem_of List.mem_cons_self (ht a)) with rfl | ha
      · exact (h.self _).le
      · exact (List.pairwise_cons.1 h₂).1 a ha
    have hab : cmp a b ≤ 0 := by
      rcases List.mem_cons.1 (mem_of List.mem_cons_self (ht b).symm) with rfl | hb
      · exact (h.self _).le
      · exact (List.pairwise_cons.1 h₁).1 b hb
    have hheads := ht a
    rw [tied_cons_of_eq (h.self a), tied_cons_of_eq (h.eq_zero hab hba), List.cons.injEq] at hheads
    obtain ⟨rfl, -⟩ := hheads
    refine congrArg (a :: ·) (eq_of_tied h₁.of_cons h₂.of_cons fun c => ?_)
    have hc := ht c
    by_cases hca : cmp c a = 0
    · rw [tied_cons_of_eq hca, tied_cons_of_eq hca, List.cons.injEq] at hc
      exact hc.2
    · rwa [tied_cons_of_ne hca, tied_cons_of_ne hca] at hc

/-- **One result**: two lists sort to the same list exactly when they hold the same ties in the
same order. -/
theorem sortBy_eq_iff {l₁ l₂ : List α} :
    sortBy cmp l₁ = sortBy cmp l₂ ↔ ∀ a, tied cmp a l₁ = tied cmp a l₂ := by
  constructor
  · intro heq a
    rw [← h.filter_tied a l₁, heq, h.filter_tied]
  · intro ht
    refine h.eq_of_tied (h.sortBy_pairwise l₁) (h.sortBy_pairwise l₂) fun a => ?_
    rw [h.filter_tied, h.filter_tied, ht a]

end Consistent

end StableSort
