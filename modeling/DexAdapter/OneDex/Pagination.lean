import Mathlib.Data.List.Nodup
import DexAdapter.Lib.Pages
import DexAdapter.Reference

/-!
# Pages of the OneDex contract

`getPairsMetadataRaw` reads the pairs of the contract in pages of 100, while pairs may be added
between two queries. It ends with the list as the contract had it at the last query.
-/

namespace DexAdapter

open Pages

namespace OneDexService

/-- The `do … while` loop, for `fuel` queries at most. `viewPairsPaginated n from size` is the
answer to query number `n`. The numbers of a pair are natural numbers here, and the pass that turns
big numbers into numbers leaves them as they are. -/
def getPairsMetadataRaw (viewPairsPaginated : Nat → Nat → Nat → Result (List OneDexRawPair))
    (fuel : Nat) : Option (Result (List OneDexRawPair)) :=
  let size := 100
  readFrom viewPairsPaginated size fuel 0 0 []

/-- **Pagination**: the loop ends after `queries` queries, with the list of the last one. -/
theorem getPairsMetadataRaw_complete (history : GrowingList OneDexRawPair) :
    ∃ queries result, 0 < queries ∧ result = history.list (queries - 1) ∧
      (∀ fuel, queries ≤ fuel → getPairsMetadataRaw history.query fuel = some (.ok result)) ∧
      (∀ fuel, fuel < queries → getPairsMetadataRaw history.query fuel = none) ∧
      history.list 0 <+: result ∧ ((∀ n, (history.list n).Nodup) → result.Nodup) := by
  have hread : [] <+: history.list 0 := List.nil_prefix
  obtain ⟨queries, hpos, hends, hruns⟩ :=
    history.readFrom_eq (ε := JsError) (by decide : 0 < 100) hread
  rw [Nat.zero_add] at hends
  refine ⟨queries, _, hpos, rfl, hends, hruns, ?_, ?_⟩
  · exact history.prefix_of_le (Nat.zero_le _)
  · intro hnodup
    exact hnodup (queries - 1)

end OneDexService

/-- What the environment holds for the pairs of the contract is what the loop comes to. -/
def Env.Paginates (env : Env)
    (viewPairsPaginated : Nat → Nat → Nat → Result (List OneDexRawPair)) : Prop :=
  ∃ queries, ∀ fuel, queries ≤ fuel →
    OneDexService.getPairsMetadataRaw viewPairsPaginated fuel = some env.oneDexContractPairs

/-- With nothing in the cache, a request reads a list that the contract had, and misses no pair that
was there when it began. -/
theorem Env.Paginates.getPairsMetadata {env : Env} {history : GrowingList OneDexRawPair}
    (h : env.Paginates history.query) (hcache : env.cachedOneDexPairsMetadata = none) :
    ∃ n, OneDexService.getPairsMetadata env = .ok (history.list n) ∧
      history.list 0 <+: history.list n := by
  obtain ⟨enough, hloop⟩ := h
  obtain ⟨queries, result, -, rfl, hends, -, hextends, -⟩ :=
    OneDexService.getPairsMetadataRaw_complete history
  have hloop := hloop (max enough queries) (le_max_left _ _)
  rw [hends _ (le_max_right _ _), Option.some.injEq] at hloop
  refine ⟨queries - 1, ?_, hextends⟩
  rw [OneDexService.getPairsMetadata, hcache, hloop]

namespace Reference

/-- A contract with 100 pairs that adds one after the first query. -/
def growing : GrowingList OneDexRawPair where
  list n := ((List.range 101).map fun i => oneDexPair i "WEGLD-bd4d79" "LP-1").take (100 + n)
  grows n := List.take_prefix_take_left (by omega)
  final := (List.range 101).map fun i => oneDexPair i "WEGLD-bd4d79" "LP-1"
  bounded n := List.take_prefix _ _

theorem getPairsMetadataRaw_complete_growing :
    ∃ queries result, result.Nodup ∧ ∀ fuel, queries ≤ fuel →
      OneDexService.getPairsMetadataRaw growing.query fuel = some (.ok result) := by
  obtain ⟨queries, result, -, -, hends, -, -, hnodup⟩ :=
    OneDexService.getPairsMetadataRaw_complete growing
  refine ⟨queries, result, hnodup fun n => ?_, hends⟩
  have hfinal : growing.final.Nodup := by
    apply List.Nodup.map
    · intro i j h
      exact congrArg OneDexRawPair.pair_id h
    · exact List.nodup_range
  exact hfinal.sublist (growing.bounded n).sublist

end Reference

end DexAdapter
