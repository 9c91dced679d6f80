import Mathlib.Data.List.Infix

/-!
# Reading a list page by page while it grows

A reader asks for a page at its offset, appends it, advances by what it received and stops at a page
that is not full (`readFrom`). The list may grow between two queries: `GrowingList` is its history,
one list a query. `GrowingList.readFrom_eq` says that the reader ends, and returns the list as it
stood at its last query.
-/

namespace Pages

variable {α ε : Type}

/-- `query n offset limit` is the answer to query number `n`. The loop runs for `fuel` queries at
most; `none` says that it has not ended by then. -/
def readFrom (query : Nat → Nat → Nat → Except ε (List α)) (size : Nat) :
    (fuel n offset : Nat) → List α → Option (Except ε (List α))
  | 0, _, _, _ => none
  | fuel + 1, n, offset, read =>
    match query n offset size with
    | .error e => some (.error e)
    | .ok page =>
      if page.length = size then
        readFrom query size fuel (n + 1) (offset + page.length) (read ++ page)
      else some (.ok (read ++ page))

/-- The pages of a list. -/
def pageOf (list : List α) (offset limit : Nat) : List α := (list.drop offset).take limit

/-- A list that is only ever appended to, as it stands at each query, and stays a prefix of
`final`. -/
structure GrowingList (α : Type) where
  list : Nat → List α
  grows : ∀ n, list n <+: list (n + 1)
  final : List α
  bounded : ∀ n, list n <+: final

/-! ## One page -/

/-- A full page after a prefix is a longer prefix. -/
theorem append_full_page {list read : List α} {size : Nat} (hread : read <+: list)
    (hfull : (pageOf list read.length size).length = size) :
    read ++ pageOf list read.length size <+: list ∧
      (read ++ pageOf list read.length size).length = read.length + size := by
  obtain ⟨rest, rfl⟩ := hread
  have hpage : pageOf (read ++ rest) read.length size = rest.take size := by
    rw [pageOf, List.drop_left]
  rw [hpage] at hfull ⊢
  refine ⟨?_, by rw [List.length_append, hfull]⟩
  rw [List.prefix_append_right_inj]
  exact List.take_prefix size rest

/-- A page that is not full is the rest of the list. -/
theorem append_short_page {list read : List α} {size : Nat} (hread : read <+: list)
    (hshort : (pageOf list read.length size).length ≠ size) :
    read ++ pageOf list read.length size = list := by
  obtain ⟨rest, rfl⟩ := hread
  have hpage : pageOf (read ++ rest) read.length size = rest.take size := by
    rw [pageOf, List.drop_left]
  rw [hpage] at hshort ⊢
  have hlen : rest.length ≤ size := by
    rw [List.length_take] at hshort
    omega
  rw [List.take_of_length_le hlen]

/-! ## The loop -/

namespace GrowingList

variable (history : GrowingList α)

/-- The answers of the list to its queries. -/
def query (n offset limit : Nat) : Except ε (List α) := .ok (pageOf (history.list n) offset limit)

theorem prefix_of_le {m n : Nat} (h : m ≤ n) : history.list m <+: history.list n := by
  induction h with
  | refl => exact List.prefix_rfl
  | step _ ih => exact ih.trans (history.grows _)

/-- What was read is a prefix of the list at the next query. The loop ends after `queries` more
queries, no sooner and no later, with the list as it stands at the last of them. -/
theorem readFrom_eq {size : Nat} (hsize : 0 < size) {n : Nat} {read : List α}
    (hread : read <+: history.list n) :
    ∃ queries, 0 < queries ∧
      (∀ fuel, queries ≤ fuel →
        readFrom history.query size fuel n read.length read =
          some (.ok (history.list (n + queries - 1)) : Except ε (List α))) ∧
      ∀ fuel, fuel < queries →
        readFrom (ε := ε) history.query size fuel n read.length read = none := by
  -- every full page brings the offset closer to the length of the final list
  obtain ⟨room, hroom⟩ : ∃ room, history.final.length - read.length = room := ⟨_, rfl⟩
  induction room using Nat.strong_induction_on generalizing n read with
  | _ room ih =>
    by_cases hfull : (pageOf (history.list n) read.length size).length = size
    · obtain ⟨hextends, hlength⟩ := append_full_page hread hfull
      have hnext := hextends.trans (history.grows n)
      have hle := (hextends.trans (history.bounded n)).length_le
      obtain ⟨queries, hpos, hends, hruns⟩ := ih
        (history.final.length - (read ++ pageOf (history.list n) read.length size).length)
        (by omega) hnext rfl
      rw [List.length_append] at hends hruns
      refine ⟨queries + 1, Nat.succ_pos _, ?_, ?_⟩
      · intro fuel hfuel
        obtain ⟨fuel, rfl⟩ : ∃ m, fuel = m + 1 := ⟨fuel - 1, by omega⟩
        rw [readFrom, query]
        simp only [hfull, if_true]
        rw [hfull] at hends
        rw [hends fuel (by omega)]
        congr 3
        omega
      · intro fuel hfuel
        cases fuel with
        | zero => rfl
        | succ fuel =>
          rw [readFrom, query]
          simp only [hfull, if_true]
          rw [hfull] at hruns
          exact hruns fuel (by omega)
    · refine ⟨1, Nat.one_pos, ?_, ?_⟩
      · intro fuel hfuel
        obtain ⟨fuel, rfl⟩ : ∃ m, fuel = m + 1 := ⟨fuel - 1, by omega⟩
        rw [readFrom, query]
        simp only [hfull, if_false]
        rw [append_short_page hread hfull, Nat.add_sub_cancel]
      · intro fuel hfuel
        obtain rfl : fuel = 0 := by omega
        rfl

end GrowingList

end Pages
