import Mathlib.Data.List.Basic
import Mathlib.Logic.Relation

/-!
# Cached copies of a list that changes

Readers copy a list, and a copy may be stored in a cache at any later time, until it expires or
another copy replaces it. So the cache may hold any copy ever read, an old one after a new one too,
while the list may have changed in any way since; that it was read is all that the structure
carries.

A lookup searches a copy for an element, and sees no other elements than those that some filter
keeps. Two copies answer it alike when they agree on these (`find?_eq_of_filter`). An element that
is added, or that changes, is not seen by the lookups that do not keep it
(`filter_append_singleton`, `filter_view_update`).
-/

/-! ## Elements that a lookup sees -/

section Lookups

variable {α β : Type} {l l' : List α} {p q : α → Bool}

/-- A search is a search among the elements that a weaker filter keeps. -/
theorem List.find?_eq_of_filter (himp : ∀ x, p x = true → q x = true)
    (h : l.filter q = l'.filter q) : l.find? p = l'.find? p := by
  have hsame : (fun x => decide (q x = true ∧ p x = true)) = p := by
    funext x
    rw [Bool.eq_iff_iff, decide_eq_true_eq, and_iff_right_iff_imp]
    exact himp x
  have hfind := congrArg (List.find? p) h
  rwa [List.find?_filter, List.find?_filter, hsame] at hfind

theorem List.filter_append_singleton {x : α} (hx : q x = false) :
    (l ++ [x]).filter q = l.filter q := by
  rw [List.filter_append, List.filter_cons_of_neg (by simp [hx]), List.filter_nil, List.append_nil]

/-- Each element keeps its view, or is kept by the filter neither before nor after. -/
theorem List.filter_view_update {view : α → β} {update : α → α} {q : β → Bool}
    (h : ∀ x ∈ l, view (update x) = view x ∨
      (q (view x) = false ∧ q (view (update x)) = false)) :
    ((l.map update).map view).filter q = (l.map view).filter q := by
  induction l with
  | nil => rfl
  | cons x l ih =>
    have ih := ih fun y hy => h y (List.mem_cons_of_mem _ hy)
    simp only [List.map_cons, List.filter_cons]
    rcases h x List.mem_cons_self with hview | ⟨hbefore, hafter⟩
    · rw [hview, ih]
    · rw [if_neg (by simp [hafter]), if_neg (by simp [hbefore]), ih]

end Lookups

/-! ## Copies -/

structure CachedList (P : Type) where
  list : List P
  /-- the copies taken so far -/
  reads : List (List P)
  cache : Option (List P)
  cache_read : ∀ cached ∈ cache, cached ∈ reads

namespace CachedList

variable {P : Type}

def empty : CachedList P where
  list := []
  reads := []
  cache := none
  cache_read := by simp

variable (c : CachedList P)

/-- The copy in use: the cached one, or one taken now. -/
def used : List P := c.cache.getD c.list

/-- The list becomes another; its copies stay. -/
def change (list : List P) : CachedList P := { c with list := list }

def read : CachedList P where
  list := c.list
  reads := c.list :: c.reads
  cache := c.cache
  cache_read cached hcached := List.mem_cons_of_mem _ (c.cache_read cached hcached)

def store (copy : List P) (hcopy : copy ∈ c.reads) : CachedList P where
  list := c.list
  reads := c.reads
  cache := some copy
  cache_read cached hcached := by
    obtain rfl := Option.some.inj hcached
    exact hcopy

def expire : CachedList P where
  list := c.list
  reads := c.reads
  cache := none
  cache_read := by simp

/-- What happens to the copies while the list stands. -/
inductive Refresh (c : CachedList P) : CachedList P → Prop where
  | read : Refresh c c.read
  | store (copy : List P) (hcopy : copy ∈ c.reads) : Refresh c (c.store copy hcopy)
  | expire : Refresh c c.expire

variable {c}

theorem Refresh.list_eq {c' : CachedList P} (h : Refresh c c') : c'.list = c.list := by
  cases h <;> rfl

/-- Reading and storing at once. -/
def refreshed (c : CachedList P) : CachedList P := c.read.store c.list List.mem_cons_self

/-- The copy in use is stored when the cache is empty. -/
def filled (c : CachedList P) : CachedList P :=
  match c.cache with
  | some _ => c
  | none => c.refreshed

theorem refreshes_refreshed (c : CachedList P) : Relation.ReflTransGen Refresh c c.refreshed :=
  (Relation.ReflTransGen.single Refresh.read).tail (Refresh.store _ _)

theorem refreshes_filled (c : CachedList P) : Relation.ReflTransGen Refresh c c.filled := by
  unfold filled
  split
  · exact .refl
  · exact c.refreshes_refreshed

end CachedList
