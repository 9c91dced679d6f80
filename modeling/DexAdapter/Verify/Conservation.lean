import DexAdapter.Verify.Contribution
import DexAdapter.Verify.Numbering
import DexAdapter.Reference

/-!
# Conservation of events

`getEvents` publishes exactly one event for each document that is kept, and nothing else: the event
is the conversion of the document with the caller of its transaction. What a document contributes is
a function of the document, the lookups and the table of transactions, not of the other documents.
-/

namespace DexAdapter

open Collect DataIntegrationService ResponseEvent

/-- The maker of a published event: a contract whose transaction has a sender gives way to it. -/
inductive Caller (env : Env) (table : List ElasticTransaction) (e : ResponseEvent) :
    String → Prop where
  | sender {t : ElasticTransaction}
      (contract : env.sdk.addressUtils.isSmartContractAddress e.maker = true) (mem : t ∈ table)
      (hash : t.txHash = e.txnId) (found : t.sender ≠ "") : Caller env table e t.sender
  | maker (h : env.sdk.addressUtils.isSmartContractAddress e.maker = false ∨
      ∀ t ∈ table, t.txHash = e.txnId → t.sender = "") : Caller env table e e.maker

theorem updateCaller_eq_iff {env : Env} {table : List ElasticTransaction}
    (hnodup : (table.map fun t => t.txHash).Nodup) {e re : ResponseEvent} :
    re = updateCaller env table e ↔ ∃ maker, Caller env table e maker ∧ re = e.setMaker maker := by
  constructor
  · rintro rfl
    cases hcontract : env.sdk.addressUtils.isSmartContractAddress e.maker with
    | false =>
      refine ⟨e.maker, .maker (Or.inl hcontract), ?_⟩
      rw [updateCaller_of_not_contract hcontract, setMaker_maker]
    | true =>
      by_cases hfound : ∃ t ∈ table, t.txHash = e.txnId ∧ t.sender ≠ ""
      · obtain ⟨t, ht, hhash, hsender⟩ := hfound
        exact ⟨t.sender, .sender hcontract ht hhash hsender,
          updateCaller_of_found hnodup hcontract ht hhash hsender⟩
      · have hnone : ∀ t ∈ table, t.txHash = e.txnId → t.sender = "" := by
          intro t ht hhash
          by_contra hsender
          exact hfound ⟨t, ht, hhash, hsender⟩
        refine ⟨e.maker, .maker (Or.inr hnone), ?_⟩
        rw [updateCaller_of_not_found hnone, setMaker_maker]
  · rintro ⟨maker, hcaller, rfl⟩
    cases hcaller with
    | sender hcontract ht hhash hsender =>
      exact (updateCaller_of_found hnodup hcontract ht hhash hsender).symm
    | maker h =>
      rw [setMaker_maker]
      rcases h with h | h
      · exact (updateCaller_of_not_contract h).symm
      · exact (updateCaller_of_not_found h).symm

namespace Request

variable {env : Env} {fromBlock toBlock : Int} (r : Request env fromBlock toBlock)

/-- **Conservation.** The published events are, up to order and index, the contributions of the
fetched documents; a document contributes one event when it is kept and none otherwise. -/
theorem getEvents_conserves (hdecodable : r.Decodable) {table : List ElasticTransaction}
    (htable : OperationsTable env.elasticService table)
    (hbatch : env.sdk.batchUtils.Partitions) :
    ∃ (events : List ResponseEvent) (contribution : Dex × ElasticEvent → Option ResponseEvent),
      getEvents env fromBlock toBlock = .ok events ∧
      (events.map forget).Perm ((r.occurrences.filterMap contribution).map forget) ∧
      ∀ d ∈ r.occurrences,
        (r.isSearched d = true → r.PairFound d → ∃ timestamp event, r.Decodes d timestamp event) ∧
        ∀ re, contribution d = some re ↔
          ∃ timestamp round event maker, r.Kept d timestamp round event ∧
            Caller env table { block := Block.fromElasticRound round true, event := event } maker ∧
            re = setMaker maker
              { block := Block.fromElasticRound round true, event := event } := by
  refine ⟨publish env r.reported, fun d => (pushed r.report d).map (updateCaller env table),
    r.getEvents_of_decodable hdecodable, ?_, fun d hd => ⟨?_, fun re => ?_⟩⟩
  · have hreported : r.occurrences.filterMap (fun d =>
        (pushed r.report d).map (updateCaller env table)) =
          r.reported.map (updateCaller env table) := by
      rw [Request.reported, List.map_filterMap]
    rw [hreported]
    exact publish_perm htable hbatch r.reported
  · intro hsearched hpair
    exact Snapshot.decodes_of_pairFound hsearched hpair (hdecodable d hd hsearched)
  · constructor
    · intro h
      obtain ⟨e, hpushed, rfl⟩ := Option.map_eq_some_iff.1 h
      obtain ⟨timestamp, round, event, hkept, rfl⟩ := r.pushed_eq_some_iff.1 hpushed
      obtain ⟨maker, hcaller, hmaker⟩ := (updateCaller_eq_iff htable.nodup).1 rfl
      exact ⟨timestamp, round, event, maker, hkept, hcaller, hmaker⟩
    · rintro ⟨timestamp, round, event, maker, hkept, hcaller, rfl⟩
      refine Option.map_eq_some_iff.2 ⟨_, hkept.pushed_eq, ?_⟩
      exact ((updateCaller_eq_iff htable.nodup).2 ⟨maker, hcaller, rfl⟩).symm

end Request

open Reference in
theorem getEvents_conserves_market :
    ∃ (r : Request marketEnv 10 11) (contribution : Dex × ElasticEvent → Option ResponseEvent),
      getEvents marketEnv 10 11 = .ok marketSwaps ∧
      (marketSwaps.map forget).Perm ((r.occurrences.filterMap contribution).map forget) ∧
      ∀ d ∈ r.occurrences,
        (r.isSearched d = true → r.PairFound d → ∃ timestamp event, r.Decodes d timestamp event) ∧
        ∀ re, contribution d = some re ↔
          ∃ timestamp round event maker, r.Kept d timestamp round event ∧
            Caller marketEnv market.operations
              { block := Block.fromElasticRound round true, event := event } maker ∧
            re = setMaker maker
              { block := Block.fromElasticRound round true, event := event } := by
  obtain ⟨r, hdecodable⟩ := marketEnv_decodable
  obtain ⟨events, contribution, hevents, hperm, hcontribution⟩ :=
    r.getEvents_conserves hdecodable market_operationsTable batchUtils_partitions
  obtain rfl := Except.ok.inj (hevents.symm.trans getEvents_market)
  exact ⟨r, contribution, hevents, hperm, hcontribution⟩

end DexAdapter
