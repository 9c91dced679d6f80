import DexAdapter.XExchange.Attribution
import DexAdapter.Verify.Contribution
import DexAdapter.Verify.Numbering

/-!
# Does the response depend on the order of arrival?

The scroll orders documents by timestamp only. The sort of `getEvents` is stable, so documents that
its comparator ties are published in the order they arrived. `arrivalIndependent_iff` says when this
does not show: exactly when documents of one provider that tie become the same event.
-/

namespace DexAdapter

open Collect DataIntegrationService ResponseEvent StableSort

section Keys

variable {env : Env} (table : List ElasticTransaction)

/-- The comparator does not read the maker. -/
theorem compareEvents_updateCaller (a b : ResponseEvent) :
    compareEvents env (updateCaller env table a) (updateCaller env table b) =
      compareEvents env a b := by
  obtain ⟨maker, ha⟩ : ∃ maker, updateCaller env table a = a.setMaker maker :=
    updateCaller_eq_setMaker a
  obtain ⟨maker', hb⟩ : ∃ maker, updateCaller env table b = b.setMaker maker :=
    updateCaller_eq_setMaker b
  rw [ha, hb]
  unfold compareEvents ResponseEvent.txnIndex ResponseEvent.eventIndex ResponseEvent.txnId
  rw [fields_setMaker, fields_setMaker, block_setMaker, block_setMaker]

end Keys

/-- The comparator ties two reported documents when timestamp, orders and transaction agree. -/
theorem Lookups.tie_iff {env : Env} {fromBlock toBlock : Int} {l : Lookups env fromBlock toBlock}
    (htotal : env.locale.Total) {d d' : Dex × ElasticEvent} {t t' : JsNumber}
    {round round' : ElasticRound} {event event' : DexEvent} (h : l.Kept d t round event)
    (h' : l.Kept d' t' round' event') :
    compareEvents env { block := Block.fromElasticRound round true, event := event }
        { block := Block.fromElasticRound round' true, event := event' } = 0 ↔
      t = t' ∧ d.2.txOrder = d'.2.txOrder ∧ d.2.order = d'.2.order ∧
        d.2.transactionId = d'.2.transactionId := by
  obtain ⟨hid, hindex, horder⟩ := h.decodes.keys
  obtain ⟨hid', hindex', horder'⟩ := h'.decodes.keys
  rw [compareEvents_eq_zero]
  simp only [stamp, ResponseEvent.txnIndex, ResponseEvent.eventIndex, ResponseEvent.txnId,
    ResponseEvent.fields, Block.blockTimestamp_fromElasticRound, hid, hindex, horder, hid', hindex',
    horder', round_timestamp h.round, round_timestamp h'.round, JsNumber.num.injEq]
  refine and_congr_right fun _ => and_congr_right fun _ => and_congr_right fun _ => ?_
  refine ⟨htotal _ _, fun heq => ?_⟩
  rw [heq]
  exact env.locale.consistent.self _

namespace Request

variable {env : Env} {fromBlock toBlock : Int} (r : Request env fromBlock toBlock)

/-- Whatever the request returns, it returns when the same documents arrive in another order. -/
def ArrivalIndependent : Prop :=
  ∀ raw : Dex → List ElasticEvent, (∀ dex, (raw dex).Perm (r.raw dex)) →
    ∀ events, getEvents env fromBlock toBlock = .ok events →
      getEvents (r.handing raw) fromBlock toBlock = .ok events

/-- Reported documents of one provider that tie become the same event. -/
def TiesAgree (table : List ElasticTransaction) : Prop :=
  ∀ dex, ∀ e ∈ r.raw dex, ∀ e' ∈ r.raw dex,
    e.txOrder = e'.txOrder → e.order = e'.order → e.transactionId = e'.transactionId →
      ∀ timestamp round event event', r.Kept (dex, e) timestamp round event →
        r.Kept (dex, e') timestamp round event' →
          updateCaller env table { block := Block.fromElasticRound round true, event := event } =
            updateCaller env table { block := Block.fromElasticRound round true, event := event' }

/-- What the documents of one provider add, with their callers. -/
def added (table : List ElasticTransaction) (dex : Dex) (events : List ElasticEvent) :
    List ResponseEvent :=
  ((events.map fun e => (dex, e)).filterMap (pushed r.report)).map (updateCaller env table)

theorem map_filterMap_occurrencesOf (table : List ElasticTransaction)
    (raw : Dex → List ElasticEvent) :
    ((occurrencesOf raw).filterMap (pushed r.report)).map (updateCaller env table) =
      r.added table .xExchange (raw .xExchange) ++ r.added table .oneDex (raw .oneDex) := by
  rw [occurrencesOf, List.filterMap_append, List.map_append]
  rfl

theorem mem_added {table : List ElasticTransaction} {dex : Dex} {events : List ElasticEvent}
    {re : ResponseEvent} :
    re ∈ r.added table dex events ↔ ∃ e ∈ events, ∃ timestamp round event,
      r.Kept (dex, e) timestamp round event ∧
        re = updateCaller env table
          { block := Block.fromElasticRound round true, event := event } := by
  unfold added
  constructor
  · intro h
    obtain ⟨re', hre', rfl⟩ := List.mem_map.1 h
    obtain ⟨d, hd, hpushed⟩ := List.mem_filterMap.1 hre'
    obtain ⟨e, he, rfl⟩ := List.mem_map.1 hd
    obtain ⟨timestamp, round, event, hkept, rfl⟩ := r.pushed_eq_some_iff.1 hpushed
    exact ⟨e, he, timestamp, round, event, hkept, rfl⟩
  · rintro ⟨e, he, timestamp, round, event, hkept, rfl⟩
    exact List.mem_map_of_mem
      (List.mem_filterMap.2 ⟨(dex, e), List.mem_map_of_mem he, hkept.pushed_eq⟩)

/-- Where ties agree, the documents of a provider tie alike in every order of arrival. -/
theorem tied_added_of_perm (htotal : env.locale.Total) {table : List ElasticTransaction}
    (hagree : r.TiesAgree table) {dex : Dex} {events : List ElasticEvent}
    (hperm : events.Perm (r.raw dex)) (a : ResponseEvent) :
    tied (compareEvents env) a (r.added table dex (r.raw dex)) =
      tied (compareEvents env) a (r.added table dex events) := by
  have hcons := compareEvents_consistent env
  refine tied_eq_of_perm (((hperm.map _).filterMap _).map _).symm fun x hx y hy => ?_
  obtain ⟨hx, hax⟩ := mem_tied.1 hx
  obtain ⟨hy, hay⟩ := mem_tied.1 hy
  obtain ⟨e, he, t, round, event, hkept, rfl⟩ := r.mem_added.1 hx
  obtain ⟨e', he', t', round', event', hkept', rfl⟩ := r.mem_added.1 hy
  have htie := hcons.tie_trans (hcons.eq_zero_comm.1 hax) hay
  rw [compareEvents_updateCaller] at htie
  obtain ⟨rfl, htxOrder, horder, htxn⟩ := (Lookups.tie_iff htotal hkept hkept').1 htie
  obtain rfl := Option.some.inj (hkept.round.symm.trans hkept'.round)
  exact hagree dex e he e' he' htxOrder horder htxn t round event event' hkept hkept'

theorem added_cons_of_kept {table : List ElasticTransaction} {dex : Dex} {e : ElasticEvent}
    {t : JsNumber} {round : ElasticRound} {event : DexEvent} (h : r.Kept (dex, e) t round event)
    (events : List ElasticEvent) :
    r.added table dex (e :: events) =
      updateCaller env table { block := Block.fromElasticRound round true, event := event } ::
        r.added table dex events := by
  unfold added
  rw [List.map_cons, List.filterMap_cons_some h.pushed_eq, List.map_cons]

variable {table : List ElasticTransaction} (htable : OperationsTable env.elasticService table)
  (hbatch : env.sdk.batchUtils.Partitions)

include htable hbatch

/-- Where no class throws, the call with other documents publishes what they add. -/
theorem getEvents_handing_eq_iff (hdecodable : r.Decodable) {raw : Dex → List ElasticEvent}
    (hperm : ∀ dex, (raw dex).Perm (r.raw dex)) :
    getEvents (r.handing raw) fromBlock toBlock = getEvents env fromBlock toBlock ↔
      ∀ a, tied (compareEvents env) a
          (r.added table .xExchange (raw .xExchange) ++ r.added table .oneDex (raw .oneDex)) =
        tied (compareEvents env) a
          (r.added table .xExchange (r.raw .xExchange) ++
            r.added table .oneDex (r.raw .oneDex)) := by
  have hoccurrences : (occurrencesOf raw).Perm r.occurrences :=
    ((hperm .xExchange).map _).append ((hperm .oneDex).map _)
  have hcollect : collect r.report (occurrencesOf raw) =
      .ok ((occurrencesOf raw).filterMap (pushed r.report)) :=
    collect_eq_ok fun _ hd => hdecodable.report (hoccurrences.subset hd)
  rw [r.getEvents_handing, hcollect, ok_bind, pure_eq_ok, r.getEvents_of_decodable hdecodable,
    Except.ok.injEq, ← r.map_filterMap_occurrencesOf, ← r.map_filterMap_occurrencesOf]
  exact publish_eq_publish_iff htable hbatch (hoccurrences.filterMap _)

/-- Two orders of one provider's documents that publish the same list add the same ties. -/
theorem tied_added_of_replaced (hdecodable : r.Decodable) (hindependent : r.ArrivalIndependent)
    {dex : Dex} {events events' : List ElasticEvent} (hperm : events.Perm (r.raw dex))
    (hperm' : events'.Perm (r.raw dex)) (a : ResponseEvent) :
    tied (compareEvents env) a (r.added table dex events) =
      tied (compareEvents env) a (r.added table dex events') := by
  have htied : ∀ {events : List ElasticEvent}, events.Perm (r.raw dex) →
      tied (compareEvents env) a (r.added table dex events) =
        tied (compareEvents env) a (r.added table dex (r.raw dex)) := by
    intro events hperm
    have hreplaced : ∀ dex', (r.replaced dex events dex').Perm (r.raw dex') := by
      intro dex'
      unfold replaced
      by_cases hdex : dex' = dex
      · rw [if_pos hdex, hdex]
        exact hperm
      · rw [if_neg hdex]
    have hresult : getEvents (r.handing (r.replaced dex events)) fromBlock toBlock =
        getEvents env fromBlock toBlock := by
      rw [r.getEvents_of_decodable hdecodable]
      exact hindependent _ hreplaced _ (r.getEvents_of_decodable hdecodable)
    have h := (r.getEvents_handing_eq_iff htable hbatch hdecodable hreplaced).1 hresult a
    rw [tied_append, tied_append] at h
    -- the other provider's documents are the same and cancel
    cases dex with
    | xExchange => exact List.append_cancel_right h
    | oneDex => exact List.append_cancel_left h
  exact (htied hperm).trans (htied hperm').symm

/-- In every order of arrival one of two tied documents comes first, and the sort keeps it there. -/
theorem tiesAgree_of_arrivalIndependent (htotal : env.locale.Total) (hdecodable : r.Decodable)
    (hindependent : r.ArrivalIndependent) : r.TiesAgree table := by
  have hcons := compareEvents_consistent env
  intro dex e he e' he' htxOrder horder htxn t round event event' h h'
  by_cases heq : e = e'
  · subst heq
    rw [(h.decodes.unique h'.decodes).2]
  · -- compare the orders that begin with `e, e'` and with `e', e`
    have hmem : e' ∈ (r.raw dex).erase e := (List.mem_erase_of_ne (Ne.symm heq)).2 he'
    have hperm : (e :: e' :: ((r.raw dex).erase e).erase e').Perm (r.raw dex) :=
      ((List.perm_cons_erase hmem).symm.cons e).trans (List.perm_cons_erase he).symm
    have htie := (Lookups.tie_iff htotal h h').2 ⟨rfl, htxOrder, horder, htxn⟩
    rw [← compareEvents_updateCaller table] at htie
    have htied := r.tied_added_of_replaced htable hbatch hdecodable hindependent hperm
      ((List.Perm.swap e e' _).trans hperm)
      (updateCaller env table { block := Block.fromElasticRound round true, event := event })
    rw [r.added_cons_of_kept h, r.added_cons_of_kept h', r.added_cons_of_kept h',
      r.added_cons_of_kept h, tied_cons_of_eq (hcons.self _), tied_cons_of_eq htie,
      tied_cons_of_eq htie] at htied
    exact (List.cons.inj htied).1

/-- **Arrival order.** The response does not depend on the order of arrival exactly when reported
documents of one provider that tie become the same event. -/
theorem arrivalIndependent_iff (htotal : env.locale.Total) :
    r.ArrivalIndependent ↔ (r.Decodable → r.TiesAgree table) := by
  constructor
  · intro hindependent hdecodable
    exact r.tiesAgree_of_arrivalIndependent htable hbatch htotal hdecodable hindependent
  · intro hagree raw hperm events hevents
    have hdecodable := r.succeeds_getEvents.1 ⟨events, hevents⟩
    rw [← hevents]
    refine (r.getEvents_handing_eq_iff htable hbatch hdecodable hperm).2 fun a => ?_
    have htied := fun dex => r.tied_added_of_perm htotal (hagree hdecodable) (hperm dex) a
    rw [tied_append, tied_append, htied, htied]

end Request

section TwoShards

open Reference

def twoShardsRequest : Request twoShardsEnv 10 10 :=
  request twoShards [routerEntry, usdcEntry] [] 10 10 (by decide +kernel)

/-- Both swaps are reported, each with the address of its own pair. -/
theorem shardSwap_kept {entry : PairContractMetadata} {decimals : Nat}
    (hentry : (entry, decimals) = (routerEntry, 18) ∨ (entry, decimals) = (usdcEntry, 6))
    (txHash : String) (shardId : Nat) :
    ∃ event, twoShardsRequest.Kept (.xExchange, shardSwap entry txHash shardId) (.num 6000)
        (round 10 6000).toElasticRound event ∧ event.fields.pairId = entry.address := by
  let pair : XExchangePair :=
    { XExchangeService.toPairMetadata config entry with
      firstTokenDecimals := 18
      secondTokenDecimals := decimals }
  have hfind : twoShardsRequest.xPairs.find? (fun p => p.address == entry.address) = some pair := by
    rcases hentry with h | h <;> cases h <;> decide +kernel
  have hsearched : twoShardsRequest.isSearched (.xExchange, shardSwap entry "" 0) = true := by
    rcases hentry with h | h <;> cases h <;> decide +kernel
  have hencodes : (pairSwap entry (userKey 1) 6000).encode.isSome = true := by
    rcases hentry with h | h <;> cases h <;> decide +kernel
  obtain ⟨bytes, hencode⟩ := Option.isSome_iff_exists.1 hencodes
  have hdata : (shardSwap entry txHash shardId).data = some (Bytes.toHex bytes) :=
    congrArg (Option.map Bytes.toHex) hencode
  have hcodec : twoShardsEnv.sdk.codec.ReadsNested := codec_readsNested
  obtain ⟨event, hnew, hgeneral, -, hpair, htokenIn, -, -, hreserveIn, hreserveOut⟩ :=
    XExchangeService.new_swapEvent
      (XExchangeService.decodeEvent_eq hcodec hdata hencode) pair
  have hdecode : XExchangeService.decodeRaw twoShardsEnv twoShardsRequest.xPairs
      (shardSwap entry txHash shardId) = .ok (some (.swap event)) := by
    unfold XExchangeService.decodeRaw
    rw [show twoShardsRequest.xPairs.find?
      (fun p => p.address == (shardSwap entry txHash shardId).address) = some pair from hfind]
    show (XExchangeSwapEvent.new _ _ _ >>= _) = _
    rw [hnew]
    rfl
  have htimestamp : event.timestamp = .num 6000 :=
    (congrArg GeneralEvent.timestamp hgeneral).trans (bigNumber_exact.toNumber 6000 (by decide))
  have hprice :
      isZeroPrice (.swap (XExchangeService.fromSwapEvent twoShardsEnv event)) = false := by
    unfold isZeroPrice XExchangeService.fromSwapEvent
    simp only [swapEventOf_priceNative, hpair, htokenIn, hreserveIn, hreserveOut]
    rcases hentry with h | h <;> cases h <;> decide +kernel
  have hdecodes := Snapshot.Decodes.xExchange (s := twoShardsRequest.toSnapshot) hdecode
  refine ⟨_, ⟨hsearched, hdecodes.pairFound, htimestamp ▸ hdecodes, findRound_eq_some_iff.1 rfl,
    hprice⟩, ?_⟩
  obtain ⟨-, -, -, -, hpairId⟩ := swapEventOf_keys twoShardsEnv.sdk.bigNumber _
  exact hpairId.trans (congrArg GeneralEvent.address hgeneral)

theorem twoShards_decodable : twoShardsRequest.Decodable := by
  obtain ⟨event, hkept, -⟩ := shardSwap_kept (Or.inl rfl) "bb" 2
  obtain ⟨event', hkept', -⟩ := shardSwap_kept (Or.inr rfl) "cc" 1
  rintro ⟨dex, e⟩ hd hsearched
  rw [Request.mem_occurrences, twoShardsRequest.mem_raw (elasticService_serves twoShards)] at hd
  obtain ⟨hmem, -⟩ := hd
  cases dex with
  | xExchange =>
    rcases List.mem_pair.1 hmem with rfl | rfl
    · exact hkept.constructs
    · exact hkept'.constructs
  | oneDex =>
    -- the scroll asks the OneDex contract for other addresses
    have hother : ∀ e ∈ twoShards.events, twoShardsRequest.isSearched (.oneDex, e) = false := by
      decide +kernel
    rw [hother e hmem] at hsearched
    cases hsearched

/-- The documents of `twoShards` are distinct, and their order shows. -/
theorem twoShards_order_shows :
    (twoShards.events.map fun e => e.documentId).Nodup ∧ ¬ twoShardsRequest.ArrivalIndependent := by
  refine ⟨by decide, fun hindependent => ?_⟩
  obtain ⟨event, hkept, hpairId⟩ := shardSwap_kept (Or.inl rfl) "bb" 2
  obtain ⟨event', hkept', hpairId'⟩ := shardSwap_kept (Or.inr rfl) "cc" 1
  have hagree := twoShardsRequest.tiesAgree_of_arrivalIndependent twoShards_operationsTable
    batchUtils_partitions locale_total twoShards_decodable hindependent
  have hraw : ∀ e ∈ twoShards.events, twoShardsRequest.isSearched (.xExchange, e) = true →
      e.timestamp = 6000 → e ∈ twoShardsRequest.raw .xExchange := by
    intro e he hsearched htimestamp
    rw [twoShardsRequest.mem_raw_of_isSearched (elasticService_serves twoShards) hsearched,
      htimestamp]
    exact ⟨he, le_refl 6000, le_refl 6000⟩
  have hmem : shardSwap routerEntry "bb" 2 ∈ twoShardsRequest.raw .xExchange :=
    hraw _ List.mem_cons_self hkept.searched rfl
  have hmem' : shardSwap usdcEntry "cc" 1 ∈ twoShardsRequest.raw .xExchange :=
    hraw _ (List.mem_cons_of_mem _ List.mem_cons_self) hkept'.searched rfl
  have hkeys : ∀ entry txHash shardId, (shardSwap entry txHash shardId).txOrder = 0 ∧
      (shardSwap entry txHash shardId).order = 0 ∧
      (shardSwap entry txHash shardId).transactionId = "aa" :=
    fun _ _ _ => ⟨rfl, rfl, rfl⟩
  obtain ⟨htxOrder, horder, htxn⟩ := hkeys routerEntry "bb" 2
  obtain ⟨htxOrder', horder', htxn'⟩ := hkeys usdcEntry "cc" 1
  have heq := congrArg (fun e : ResponseEvent => e.pairId)
    (hagree .xExchange _ hmem _ hmem' (htxOrder.trans htxOrder'.symm) (horder.trans horder'.symm)
      (htxn.trans htxn'.symm) _ _ _ _ hkept hkept')
  simp only [pairId_updateCaller] at heq
  have hne : routerEntry.address ≠ usdcEntry.address := by decide +kernel
  exact hne (hpairId.symm.trans (heq.trans hpairId'))

theorem arrivalIndependent_iff_twoShards :
    twoShardsRequest.ArrivalIndependent ↔
      (twoShardsRequest.Decodable → twoShardsRequest.TiesAgree twoShards.operations) :=
  twoShardsRequest.arrivalIndependent_iff twoShards_operationsTable batchUtils_partitions
    locale_total

end TwoShards

end DexAdapter
