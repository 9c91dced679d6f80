import Mathlib.Data.List.Forall2
import DexAdapter.Reference

/-!
# Batches of transactions that may fail

`updateEventsCaller` as a function of what its calls of `getTxDetails` come to
(`updateEventsCallerWith`). A call that fails adds no transactions, a call that succeeds adds the
operations that it asked for. Event by event the result is `Resolved`: a maker that is a contract is
replaced by the sender of its transaction when some call that asked for the transaction succeeded,
and nothing else changes.
-/

namespace DexAdapter

open Collect DataIntegrationService

/-- A call of `getTxDetails` and what the index answers to it. -/
structure TxDetailsCall where
  txHashes : List String
  outcome : Result (List ElasticTransaction)

namespace TxDetailsCall

/-- An error is answered with no transactions. -/
def transactions (call : TxDetailsCall) : List ElasticTransaction :=
  match call.outcome with
  | .ok transactions => transactions
  | .error _ => []

/-- When the call succeeds it returns the operations whose hash it asked for, and no others. -/
def Exact (table : List ElasticTransaction) (call : TxDetailsCall) : Prop :=
  ∀ answer, call.outcome = .ok answer → ∀ t, t ∈ answer ↔ t ∈ table ∧ t.txHash ∈ call.txHashes

theorem mem_transactions {call : TxDetailsCall} {t : ElasticTransaction} :
    t ∈ call.transactions ↔ ∃ answer, call.outcome = .ok answer ∧ t ∈ answer := by
  unfold transactions
  cases call.outcome with
  | ok answer => simp
  | error e => simp

end TxDetailsCall

section Batches

variable (env : Env)

/-- The hashes that `updateEventsCaller` asks for, batch by batch. -/
def txHashesBatches (events : List ResponseEvent) : List (List String) :=
  env.sdk.batchUtils.splitArrayIntoChunks
    ((events.filter fun event => env.sdk.addressUtils.isSmartContractAddress event.maker).map
      fun event => event.txnId) 200

/-- `updateEventsCaller`, given what its calls of `getTxDetails` come to. -/
def updateEventsCallerWith (calls : List TxDetailsCall) (events : List ResponseEvent) :
    List ResponseEvent :=
  events.map (updateCaller env (calls.flatMap TxDetailsCall.transactions))

/-- The calls that `updateEventsCaller` makes to the index of the environment. -/
def txDetailsCalls (events : List ResponseEvent) : List TxDetailsCall :=
  (txHashesBatches env events).map fun txHashes =>
    { txHashes := txHashes
      outcome := env.elasticService.operations (IndexerService.txDetailsQuery txHashes) }

theorem updateEventsCaller_eq_with (events : List ResponseEvent) :
    updateEventsCaller env events =
      updateEventsCallerWith env (txDetailsCalls env events) events := by
  unfold updateEventsCaller updateEventsCallerWith txDetailsCalls
  rw [List.flatMap_map]
  rfl

variable {env} in
/-- The transaction of an event that a contract made is asked for in some batch. -/
theorem exists_batch (hbatch : env.sdk.batchUtils.Partitions) {events : List ResponseEvent}
    {e : ResponseEvent} (he : e ∈ events)
    (hcontract : env.sdk.addressUtils.isSmartContractAddress e.maker = true) :
    ∃ batch ∈ txHashesBatches env events, e.txnId ∈ batch := by
  have hmem : e.txnId ∈ (txHashesBatches env events).flatten := by
    rw [txHashesBatches, hbatch.flatten _ 200 (by omega)]
    exact List.mem_map_of_mem (List.mem_filter.2 ⟨he, hcontract⟩)
  exact List.mem_flatten.1 hmem

end Batches

/-- How `updateEventsCaller` may change an event, given its calls and the operations of the
index. -/
structure Resolved (env : Env) (table : List ElasticTransaction) (calls : List TxDetailsCall)
    (before after : ResponseEvent) : Prop where
  /-- only the maker may change -/
  frame : after = before.setMaker after.maker
  user : env.sdk.addressUtils.isSmartContractAddress before.maker = false → after = before
  found : env.sdk.addressUtils.isSmartContractAddress before.maker = true →
    ∀ call ∈ calls, Succeeds call.outcome → before.txnId ∈ call.txHashes →
      ∀ t ∈ table, t.txHash = before.txnId → t.sender ≠ "" → after.maker = t.sender
  missing : env.sdk.addressUtils.isSmartContractAddress before.maker = true →
    (∀ call ∈ calls, Succeeds call.outcome → before.txnId ∈ call.txHashes →
      ∀ t ∈ table, t.txHash = before.txnId → t.sender = "") → after = before

section Resolve

variable {env : Env} {table : List ElasticTransaction} {calls : List TxDetailsCall}
  (hnodup : (table.map fun t => t.txHash).Nodup) (hexact : ∀ call ∈ calls, call.Exact table)

theorem updateCaller_congr {transactions transactions' : List ElasticTransaction}
    {e : ResponseEvent} (h : env.sdk.addressUtils.isSmartContractAddress e.maker = true →
      txToCaller transactions e.txnId = txToCaller transactions' e.txnId) :
    updateCaller env transactions e = updateCaller env transactions' e := by
  unfold updateCaller
  split
  · rename_i hcontract
    rw [h hcontract]
  · rfl

include hexact in
/-- What the calls return are operations, each asked for in a call that succeeded. -/
theorem mem_table_of_mem_calls {t : ElasticTransaction}
    (ht : t ∈ calls.flatMap TxDetailsCall.transactions) :
    t ∈ table ∧ ∃ call ∈ calls, Succeeds call.outcome ∧ t.txHash ∈ call.txHashes := by
  obtain ⟨call, hcall, ht⟩ := List.mem_flatMap.1 ht
  obtain ⟨answer, hok, ht⟩ := TxDetailsCall.mem_transactions.1 ht
  obtain ⟨htable, hhash⟩ := (hexact call hcall answer hok t).1 ht
  exact ⟨htable, call, hcall, ⟨answer, hok⟩, hhash⟩

include hexact in
theorem mem_calls_of_mem_table {t : ElasticTransaction} (ht : t ∈ table) {call : TxDetailsCall}
    (hcall : call ∈ calls) (hok : Succeeds call.outcome) (hhash : t.txHash ∈ call.txHashes) :
    t ∈ calls.flatMap TxDetailsCall.transactions := by
  obtain ⟨answer, hok⟩ := hok
  have hanswer : t ∈ answer := (hexact call hcall answer hok t).2 ⟨ht, hhash⟩
  exact List.mem_flatMap.2 ⟨call, hcall, TxDetailsCall.mem_transactions.2 ⟨answer, hok, hanswer⟩⟩

include hnodup hexact in
/-- A transaction that a successful call asked for is resolved as in the whole index. -/
theorem txToCaller_calls {call : TxDetailsCall} (hcall : call ∈ calls)
    (hok : Succeeds call.outcome) {txnId : String} (htxn : txnId ∈ call.txHashes) :
    txToCaller (calls.flatMap TxDetailsCall.transactions) txnId = txToCaller table txnId := by
  apply txToCaller_eq hnodup
  · intro t ht
    exact (mem_table_of_mem_calls hexact ht).1
  · rintro t ht rfl
    exact mem_calls_of_mem_table hexact ht hcall hok htxn

include hnodup hexact in
/-- One event. -/
theorem resolved_updateCaller (e : ResponseEvent) :
    Resolved env table calls e
      (updateCaller env (calls.flatMap TxDetailsCall.transactions) e) where
  frame := by
    obtain ⟨maker, h⟩ : ∃ maker, updateCaller env (calls.flatMap TxDetailsCall.transactions) e =
        e.setMaker maker := updateCaller_eq_setMaker e
    rw [h, ResponseEvent.maker_setMaker]
  user h := updateCaller_of_not_contract h
  found := by
    intro hcontract call hcall hok htxn t ht hhash hsender
    have hsame : updateCaller env (calls.flatMap TxDetailsCall.transactions) e =
        updateCaller env table e := by
      apply updateCaller_congr
      intro _
      exact txToCaller_calls hnodup hexact hcall hok htxn
    rw [hsame, updateCaller_of_found hnodup hcontract ht hhash hsender,
      ResponseEvent.maker_setMaker]
  missing := by
    intro hcontract hnone
    apply updateCaller_of_not_found
    intro t ht hhash
    obtain ⟨htable, call, hcall, hok, htxn⟩ := mem_table_of_mem_calls hexact ht
    exact hnone call hcall hok (hhash ▸ htxn) t htable hhash

include hnodup hexact in
/-- When no call fails, an event is resolved as by a lookup of its own transaction. -/
theorem updateCaller_calls_eq {events : List ResponseEvent}
    (hbatch : env.sdk.batchUtils.Partitions)
    (hcalls : calls.map (fun call => call.txHashes) = txHashesBatches env events)
    (hok : ∀ call ∈ calls, Succeeds call.outcome) {e : ResponseEvent} (he : e ∈ events)
    {separate : List ElasticTransaction}
    (hseparate : ∀ t, t ∈ separate ↔ t ∈ table ∧ t.txHash = e.txnId) :
    updateCaller env (calls.flatMap TxDetailsCall.transactions) e =
      updateCaller env separate e := by
  apply updateCaller_congr
  intro hcontract
  obtain ⟨batch, hmem, htxn⟩ := exists_batch hbatch he hcontract
  rw [← hcalls] at hmem
  obtain ⟨call, hcall, rfl⟩ := List.mem_map.1 hmem
  rw [txToCaller_calls hnodup hexact hcall (hok call hcall) htxn]
  symm
  apply txToCaller_eq hnodup
  · intro t ht
    exact ((hseparate t).1 ht).1
  · intro t ht hhash
    exact (hseparate t).2 ⟨ht, hhash⟩

end Resolve

/-- **Batched resolution of makers**: whichever calls fail, every event is `Resolved`; when none
fails, the batches do not show. -/
theorem updateEventsCaller_resolves {env : Env} (hbatch : env.sdk.batchUtils.Partitions)
    {table : List ElasticTransaction} (hnodup : (table.map fun t => t.txHash).Nodup)
    (events : List ResponseEvent) :
    updateEventsCaller env events =
        updateEventsCallerWith env (txDetailsCalls env events) events ∧
    ∀ calls : List TxDetailsCall,
      calls.map (fun call => call.txHashes) = txHashesBatches env events →
      (∀ call ∈ calls, call.Exact table) →
      List.Forall₂ (Resolved env table calls) events (updateEventsCallerWith env calls events) ∧
      ((∀ call ∈ calls, Succeeds call.outcome) →
        (∀ separate : String → List ElasticTransaction,
          (∀ txnId t, t ∈ separate txnId ↔ t ∈ table ∧ t.txHash = txnId) →
          updateEventsCallerWith env calls events =
            events.map fun e => updateCaller env (separate e.txnId) e) ∧
        List.Forall₂ (fun before after =>
          env.sdk.addressUtils.isSmartContractAddress before.maker = true →
            ∀ t ∈ table, t.txHash = before.txnId → t.sender ≠ "" → after.maker = t.sender)
          events (updateEventsCallerWith env calls events)) := by
  refine ⟨updateEventsCaller_eq_with env events, ?_⟩
  intro calls hcalls hexact
  have hresolved : ∀ e, Resolved env table calls e
      (updateCaller env (calls.flatMap TxDetailsCall.transactions) e) :=
    fun e => resolved_updateCaller hnodup hexact e
  refine ⟨?_, fun hok => ⟨?_, ?_⟩⟩
  · unfold updateEventsCallerWith
    rw [List.forall₂_map_right_iff, List.forall₂_same]
    exact fun e _ => hresolved e
  · intro separate hseparate
    refine List.map_congr_left fun e he => ?_
    exact updateCaller_calls_eq hnodup hexact hbatch hcalls hok he (hseparate e.txnId)
  · unfold updateEventsCallerWith
    rw [List.forall₂_map_right_iff, List.forall₂_same]
    intro e he hcontract t ht hhash hsender
    obtain ⟨batch, hmem, htxn⟩ := exists_batch hbatch he hcontract
    rw [← hcalls] at hmem
    obtain ⟨call, hcall, rfl⟩ := List.mem_map.1 hmem
    exact (hresolved e).found hcontract call hcall (hok call hcall) htxn t ht hhash hsender

namespace Reference

/-- A withdrawal in transaction `bb` that a contract made. -/
def contractExit : ResponseEvent where
  block := { blockNumber := 11, blockTimestamp := 6006, metadata := none }
  event := .joinExit
    { txnId := "bb"
      txnIndex := 0
      eventIndex := 0
      maker := bech32 (contractKey 9)
      pairId := "LP-1"
      reserves := { asset0 := "1", asset1 := "2" }
      eventType := .exit
      amount0 := "1"
      amount1 := "2" }

/-- It comes after 200 withdrawals of the contract in other transactions. -/
def manyExits : List ResponseEvent :=
  ((List.range 200).map fun i =>
    { contractExit with
      event := .joinExit { contractExit.fields with
        txnId := toString i
        eventType := .exit
        amount0 := "1"
        amount1 := "2" } }) ++ [contractExit]

/-- The call for the first 200 transactions fails. -/
def failedCall : TxDetailsCall where
  txHashes := (List.range 200).map toString
  outcome := .error ⟨"Request timed out"⟩

/-- The call for the last is answered with the operations of the market. -/
def exitCall : TxDetailsCall where
  txHashes := ["bb"]
  outcome := .ok market.operations

theorem exitCall_exact : exitCall.Exact market.operations := by
  intro answer hanswer t
  obtain rfl := Except.ok.inj hanswer
  simp only [exitCall, market, List.mem_singleton]
  constructor
  · rintro rfl
    exact ⟨rfl, rfl⟩
  · rintro ⟨rfl, -⟩
    rfl

theorem txHashesBatches_manyExits :
    txHashesBatches marketEnv manyExits = [failedCall.txHashes, exitCall.txHashes] := by
  have hcontract : marketEnv.sdk.addressUtils.isSmartContractAddress (bech32 (contractKey 9)) =
      true := by decide +kernel
  have hall : ∀ event ∈ manyExits,
      marketEnv.sdk.addressUtils.isSmartContractAddress event.maker = true := by
    intro event hevent
    rcases List.mem_append.1 hevent with hevent | hevent
    · obtain ⟨i, -, rfl⟩ := List.mem_map.1 hevent
      exact hcontract
    · obtain rfl := List.mem_singleton.1 hevent
      exact hcontract
  rw [txHashesBatches, List.filter_eq_self.2 hall]
  decide +kernel

theorem updateEventsCaller_resolves_manyExits :
    List.Forall₂ (Resolved marketEnv market.operations [failedCall, exitCall]) manyExits
      (updateEventsCallerWith marketEnv [failedCall, exitCall] manyExits) := by
  have hbatch : marketEnv.sdk.batchUtils.Partitions := batchUtils_partitions
  have hnodup : (market.operations.map fun t => t.txHash).Nodup := List.nodup_singleton _
  obtain ⟨-, hresolves⟩ := updateEventsCaller_resolves hbatch hnodup manyExits
  refine (hresolves [failedCall, exitCall] txHashesBatches_manyExits.symm ?_).1
  intro call hcall
  rcases List.mem_pair.1 hcall with rfl | rfl
  · intro answer hanswer
    cases hanswer
  · exact exitCall_exact

end Reference

end DexAdapter
