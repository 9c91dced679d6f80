import DexAdapter.DataIntegration.Service

/-!
# Callers of contract transactions

`updateEventsCaller` asks for the transactions of the events whose maker is a contract, in batches,
and patches the makers. When every batch finds the transactions it asks for in one table, the
batches do not show: each event is patched from the table alone
(`OperationsTable.updateEventsCaller_eq`).
-/

namespace DexAdapter

open DataIntegrationService

/-- A lookup finds the transactions of a batch in `table`, which has one entry a hash. -/
structure OperationsTable (elasticService : ElasticService) (table : List ElasticTransaction) :
    Prop where
  nodup : (table.map fun t => t.txHash).Nodup
  found : ∀ txHashes : List String, txHashes.length ≤ 200 →
    ∃ answer, elasticService.operations (IndexerService.txDetailsQuery txHashes) = .ok answer ∧
      (∀ t ∈ answer, t ∈ table) ∧ ∀ t ∈ table, t.txHash ∈ txHashes → t ∈ answer

/-! ## The map from transactions to callers -/

section Callers

variable {transactions table : List ElasticTransaction} {txnId : String}

theorem mem_of_txToCaller {caller : String} (h : txToCaller transactions txnId = some caller) :
    ∃ t ∈ transactions, t.txHash = txnId ∧ t.sender = caller := by
  unfold txToCaller at h
  obtain ⟨t, ht, hs⟩ := Option.map_eq_some_iff.1 h
  have hmem := List.mem_of_find?_eq_some ht
  have hhash := List.find?_some ht
  exact ⟨t, List.mem_reverse.1 hmem, by simpa using hhash, hs⟩

theorem txToCaller_isSome {t : ElasticTransaction} (ht : t ∈ transactions) :
    ∃ caller, txToCaller transactions t.txHash = some caller := by
  unfold txToCaller
  cases hfind : transactions.reverse.find? fun transaction => transaction.txHash == t.txHash with
  | some u => exact ⟨u.sender, rfl⟩
  | none =>
    have hnone := List.find?_eq_none.1 hfind t (List.mem_reverse.2 ht)
    simp at hnone

theorem eq_of_txHash (hnodup : (table.map fun t => t.txHash).Nodup) {t u : ElasticTransaction}
    (ht : t ∈ table) (hu : u ∈ table) (h : t.txHash = u.txHash) : t = u :=
  List.inj_on_of_nodup_map hnodup ht hu h

/-- Looking a hash up in part of the table finds what the table has, if the part has it. -/
theorem txToCaller_eq (hnodup : (table.map fun t => t.txHash).Nodup)
    (hsub : ∀ t ∈ transactions, t ∈ table)
    (hfound : ∀ t ∈ table, t.txHash = txnId → t ∈ transactions) :
    txToCaller transactions txnId = txToCaller table txnId := by
  refine Option.ext fun caller => ⟨fun h => ?_, fun h => ?_⟩
  · obtain ⟨t, ht, rfl, rfl⟩ := mem_of_txToCaller h
    obtain ⟨caller', h'⟩ := txToCaller_isSome (hsub t ht)
    obtain ⟨u, hu, huh, rfl⟩ := mem_of_txToCaller h'
    rw [h', eq_of_txHash hnodup hu (hsub t ht) huh]
  · obtain ⟨t, ht, rfl, rfl⟩ := mem_of_txToCaller h
    obtain ⟨caller', h'⟩ := txToCaller_isSome (hfound t ht rfl)
    obtain ⟨u, hu, huh, rfl⟩ := mem_of_txToCaller h'
    rw [h', eq_of_txHash hnodup (hsub u hu) ht huh]

end Callers

/-! ## Batches -/

namespace OperationsTable

variable {env : Env} {table : List ElasticTransaction}

/-- Every batch contributes entries of the table, and finds the hashes it was asked for. -/
theorem mem_getTxDetailsInBatches (h : OperationsTable env.elasticService table)
    (hbatch : env.sdk.batchUtils.Partitions) (txHashes : List String) :
    (∀ t ∈ getTxDetailsInBatches env txHashes 200, t ∈ table) ∧
      ∀ t ∈ table, t.txHash ∈ txHashes → t ∈ getTxDetailsInBatches env txHashes 200 := by
  have hdetails : ∀ batch ∈ env.sdk.batchUtils.splitArrayIntoChunks txHashes 200,
      (∀ t ∈ IndexerService.getTxDetails env.elasticService batch, t ∈ table) ∧
        ∀ t ∈ table, t.txHash ∈ batch →
          t ∈ IndexerService.getTxDetails env.elasticService batch := by
    intro batch hmem
    obtain ⟨answer, hanswer, hsub, hfound⟩ :=
      h.found batch (hbatch.length_le txHashes 200 (by omega) batch hmem)
    rw [IndexerService.getTxDetails, hanswer]
    exact ⟨hsub, hfound⟩
  unfold getTxDetailsInBatches
  constructor
  · intro t ht
    obtain ⟨batch, hmem, ht⟩ := List.mem_flatMap.1 ht
    exact (hdetails batch hmem).1 t ht
  · intro t ht hhash
    rw [← hbatch.flatten txHashes 200 (by omega)] at hhash
    obtain ⟨batch, hmem, hhash⟩ := List.mem_flatten.1 hhash
    exact List.mem_flatMap.2 ⟨batch, hmem, (hdetails batch hmem).2 t ht hhash⟩

/-- **The batches do not show**: each event is patched from the table. -/
theorem updateEventsCaller_eq (h : OperationsTable env.elasticService table)
    (hbatch : env.sdk.batchUtils.Partitions) (events : List ResponseEvent) :
    updateEventsCaller env events = events.map (updateCaller env table) := by
  unfold updateEventsCaller
  refine List.map_congr_left fun event hevent => ?_
  unfold updateCaller
  split
  · rename_i hsc
    obtain ⟨hsub, hfound⟩ := h.mem_getTxDetailsInBatches hbatch
      ((events.filter fun e => env.sdk.addressUtils.isSmartContractAddress e.maker).map
        fun e => e.txnId)
    rw [txToCaller_eq h.nodup hsub fun t ht hhash => hfound t ht ?_]
    exact List.mem_map.2 ⟨event, List.mem_filter.2 ⟨hevent, hsc⟩, hhash.symm⟩
  · rfl

end OperationsTable

/-- An index of operations that is served is a table: a batch has few enough hits for one page. -/
theorem ElasticService.Serves.operationsTable {elasticService : ElasticService} {indices : Indices}
    (h : elasticService.Serves indices)
    (hnodup : (indices.operations.map fun t => t.txHash).Nodup) :
    OperationsTable elasticService indices.operations where
  nodup := hnodup
  found txHashes hlen := by
    obtain ⟨answer, hanswer, hits, hperm, -, rfl⟩ :=
      h.operations (IndexerService.txDetailsQuery txHashes)
    refine ⟨_, hanswer, fun t ht => ?_, fun t ht hhash => ?_⟩
    · have ht := (hperm.mem_iff.1 (List.mem_of_mem_drop (List.mem_of_mem_take ht)))
      exact (List.mem_filter.1 ht).1
    · have hne : txHashes ≠ [] := List.ne_nil_of_mem hhash
      have hsub : (hits.map fun t => t.txHash) ⊆ txHashes := by
        intro hash hmem
        obtain ⟨u, hu, rfl⟩ := List.mem_map.1 hmem
        exact (IndexerService.matches_txDetailsQuery hne).1
          (List.mem_filter.1 (hperm.mem_iff.1 hu)).2
      have hnd : (hits.map fun t => t.txHash).Nodup :=
        (hperm.map _).nodup_iff.2 (hnodup.sublist (List.filter_sublist.map _))
      have hle : hits.length ≤ 200 := by
        have := (List.subperm_of_subset hnd hsub).length_le
        rw [List.length_map] at this
        omega
      have hslice : (IndexerService.txDetailsQuery txHashes).pagination.slice hits = hits :=
        List.take_of_length_le (show hits.length ≤ 10000 by omega)
      rw [hslice]
      exact hperm.mem_iff.2
        (List.mem_filter.2 ⟨ht, (IndexerService.matches_txDetailsQuery hne).2 hhash⟩)

/-! ## One event -/

section UpdateCaller

variable {env : Env} {table : List ElasticTransaction}

/-- The patch sets the maker and nothing else. -/
theorem updateCaller_eq_setMaker (event : ResponseEvent) :
    ∃ maker, updateCaller env table event = event.setMaker maker := by
  unfold updateCaller
  split
  · split
    · split
      · exact ⟨event.maker, event.setMaker_maker.symm⟩
      · exact ⟨_, rfl⟩
    · exact ⟨event.maker, event.setMaker_maker.symm⟩
  · exact ⟨event.maker, event.setMaker_maker.symm⟩

@[simp] theorem pairId_updateCaller (event : ResponseEvent) :
    (updateCaller env table event).pairId = event.pairId := by
  obtain ⟨maker, h⟩ : ∃ maker, updateCaller env table event = event.setMaker maker :=
    updateCaller_eq_setMaker event
  rw [h, ResponseEvent.pairId, ResponseEvent.fields_setMaker]

/-- An event whose maker is no contract keeps it. -/
theorem updateCaller_of_not_contract {event : ResponseEvent}
    (h : env.sdk.addressUtils.isSmartContractAddress event.maker = false) :
    updateCaller env table event = event := by
  simp [updateCaller, h]

/-- A contract whose transaction is in the table is replaced by a sender that is not empty. -/
theorem updateCaller_of_found (hnodup : (table.map fun t => t.txHash).Nodup)
    {event : ResponseEvent} {t : ElasticTransaction}
    (h : env.sdk.addressUtils.isSmartContractAddress event.maker = true) (ht : t ∈ table)
    (hhash : t.txHash = event.txnId) (hsender : t.sender ≠ "") :
    updateCaller env table event = event.setMaker t.sender := by
  obtain ⟨caller, hcaller⟩ := txToCaller_isSome ht
  obtain ⟨u, hu, huh, rfl⟩ := mem_of_txToCaller hcaller
  obtain rfl := eq_of_txHash hnodup hu ht huh
  rw [updateCaller, if_pos h, ← hhash, hcaller]
  exact if_neg hsender

/-- A contract without a transaction in the table stays. -/
theorem updateCaller_of_not_found {event : ResponseEvent}
    (h : ∀ t ∈ table, t.txHash = event.txnId → t.sender = "") :
    updateCaller env table event = event := by
  unfold updateCaller
  split
  · split
    · rename_i caller hcaller
      obtain ⟨t, ht, hhash, rfl⟩ := mem_of_txToCaller hcaller
      rw [if_pos (h t ht hhash)]
    · rfl
  · rfl

end UpdateCaller

end DexAdapter
