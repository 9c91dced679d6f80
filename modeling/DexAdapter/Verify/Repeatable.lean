import DexAdapter.World

/-!
# Repeated requests

Two requests for one published range, at any two times of a run, differ in nothing but the pairs
they work with: rounds, documents and transactions of the range are all indexed before the first.
So they answer alike when the copies of the pairs that they use agree on the entries that the events
of the range name (`getEvents_repeatable`), as copies do that were read when the range had been
produced (`covers_of_read`). A copy that is older than a pair of the range hides its events
(`published_not_repeatable`).
-/

namespace DexAdapter

open Collect DataIntegrationService

/-! ## Decoding reads the pairs through lookups -/

/-- The initial liquidity event reads its pair after its lp token. -/
theorem OneDexAddInitialLiquidityEvent.new_congr {sdk : Sdk} {e : ElasticEvent}
    {pairs pairs' : List OneDexPair}
    (h : ∀ lpTokenId, topicString sdk e 6 = .ok lpTokenId →
      (pairs.find? fun p => p.lpTokenId == lpTokenId) =
        pairs'.find? fun p => p.lpTokenId == lpTokenId) :
    OneDexAddInitialLiquidityEvent.new sdk e pairs =
      OneDexAddInitialLiquidityEvent.new sdk e pairs' := by
  unfold OneDexAddInitialLiquidityEvent.new
  cases hlp : topicString sdk e 6 with
  | error error => simp only [error_bind]
  | ok lpTokenId => simp only [ok_bind, h lpTokenId hlp]

namespace OneDexService

variable {env : Env} {pairs pairs' : List OneDexPair} {e : ElasticEvent}

theorem decodeRaw_congr
    (hid : ¬ IsInitial env e → findPairById pairs (topicNumber env.sdk e 9) =
      findPairById pairs' (topicNumber env.sdk e 9))
    (hlp : IsInitial env e → ∀ lpTokenId, topicString env.sdk e 6 = .ok lpTokenId →
      (pairs.find? fun p => p.lpTokenId == lpTokenId) =
        pairs'.find? fun p => p.lpTokenId == lpTokenId) :
    decodeRaw env pairs e = decodeRaw env pairs' e := by
  unfold decodeRaw
  split
  · rename_i hswap
    have hid := hid fun hinitial => hinitial.1 hswap
    simp only [OneDexSwapEvent.new, hid]
  · rename_i hswap
    split
    · rename_i hadd
      rw [OneDexAddInitialLiquidityEvent.new_congr (hlp ⟨hswap, hadd⟩)]
    · rename_i hadd
      have hid := hid fun hinitial => hadd hinitial.2
      simp only [OneDexAddLiquidityEvent.new, OneDexRemoveLiquidityEvent.new,
        OneDexLiquidityEvent.new, hid]

end OneDexService

namespace XExchangeService

variable {env : Env} {pairs pairs' : List XExchangePair} {e : ElasticEvent}

theorem decodeRaw_congr (h : (pairs.find? fun p => p.address == e.address) =
      pairs'.find? fun p => p.address == e.address) :
    decodeRaw env pairs e = decodeRaw env pairs' e := by
  unfold decodeRaw
  rw [h]

/-- The provider asks for the address when it finds its pair. -/
theorem contains_address :
    (pairs.map fun p => p.address).contains e.address =
      (pairs.find? fun p => p.address == e.address).isSome := by
  rw [Bool.eq_iff_iff, List.find?_isSome]
  simp

end XExchangeService

/-! ## The documents of a range -/

/-- The timestamp of the document is in the range. -/
def Lookups.inRange {env : Env} {a b : Int} (l : Lookups env a b) (e : ElasticEvent) : Bool :=
  decide (l.after ≤ e.timestamp) && decide (e.timestamp ≤ l.before)

theorem Lookups.inRange_iff {env : Env} {a b : Int} {l : Lookups env a b} {e : ElasticEvent} :
    l.inRange e = true ↔ l.after ≤ e.timestamp ∧ e.timestamp ≤ l.before := by
  simp [Lookups.inRange]

theorem Lookups.inRange_congr {env env' : Env} {a b : Int} {l : Lookups env a b}
    {l' : Lookups env' a b} (hrounds : l.rounds = l'.rounds) : l.inRange = l'.inRange := by
  funext e
  rw [Bool.eq_iff_iff, inRange_iff, inRange_iff]
  unfold after before
  simp only [hrounds]

/-- The loop over the fetched documents is a loop over the documents of the range. -/
theorem Request.collect_inRange {env : Env} {a b : Int} (r : Request env a b)
    {arranged : List ElasticEvent} (hfixed : env.elasticService.FixedOrder arranged) :
    collect r.report r.occurrences =
      collect r.report (occurrencesOf fun _ => arranged.filter r.inRange) := by
  have hsearched : ∀ dex (events : List ElasticEvent),
      collect r.report (events.map fun e => (dex, e)) =
        collect (fun e => r.convertRaw e dex) (events.filter fun e => r.isSearched (dex, e)) := by
    intro dex events
    rw [collect_map, collect_filter]
    rfl
  have hdex : ∀ dex, collect r.report ((r.raw dex).map fun e => (dex, e)) =
      collect r.report ((arranged.filter r.inRange).map fun e => (dex, e)) := by
    intro dex
    rw [hsearched, hsearched, Request.raw, hfixed _ _ (r.pages_eq dex), List.filter_filter,
      List.filter_filter]
    congr 1
    refine List.filter_congr fun e _ => ?_
    cases hsearched : r.isSearched (dex, e) with
    | false => rfl
    | true =>
      rw [Bool.eq_iff_iff, Lookups.query, Bool.true_and, Bool.true_and,
        IndexerService.matches_eventsQuery hsearched, Lookups.inRange_iff]
  rw [occurrences, occurrencesOf, occurrencesOf, collect_append, collect_append, hdex, hdex]

/-- A part of a list that has all that a predicate selects. -/
theorem filter_eq_of_sublist {α : Type} {l l' : List α} {p : α → Bool} (h : l.Sublist l')
    (hnodup : (l'.filter p).Nodup) (hmem : ∀ x ∈ l', p x = true → x ∈ l) :
    l.filter p = l'.filter p := by
  refine (h.filter p).eq_of_length_le ((List.subperm_of_subset hnodup fun x hx => ?_).length_le)
  obtain ⟨hx, hp⟩ := List.mem_filter.1 hx
  exact List.mem_filter.2 ⟨hmem x hx hp, hp⟩

namespace World

variable {d : Deployment} {w w' : World d} {a b : Int}

/-! ## Two requests -/

section Report

variable {l : Lookups w.env a b} {l' : Lookups w'.env a b} {e : ElasticEvent}

theorem xPairs_eq (l : Lookups w.env a b) : l.xPairs = w.xExchange.used.map d.xExchangePair :=
  congrArg Snapshot.xPairs (l.toSnapshot.eq_of_env w.snapshot)

theorem oPairs_eq (l : Lookups w.env a b) : l.oPairs = w.oneDex.used.map d.oneDexPair :=
  congrArg Snapshot.oPairs (l.toSnapshot.eq_of_env w.snapshot)

theorem report_xExchange_eq (hrounds : l.rounds = l'.rounds)
    (h : w.namedBy e w.used = w.namedBy e w'.used) :
    l.report (.xExchange, e) = l'.report (.xExchange, e) := by
  have hentries : (w.xExchange.used.find? fun entry => entry.address == e.address) =
      w'.xExchange.used.find? fun entry => entry.address == e.address :=
    List.find?_eq_of_filter (fun _ hp => hp) (congrArg PairEntries.pairs h)
  have hpairs : (l.xPairs.find? fun p => p.address == e.address) =
      l'.xPairs.find? fun p => p.address == e.address := by
    rw [xPairs_eq l, xPairs_eq l', List.find?_map, List.find?_map]
    exact congrArg (Option.map d.xExchangePair) hentries
  have hsearched : l.isSearched (.xExchange, e) = l'.isSearched (.xExchange, e) := by
    unfold Snapshot.isSearched IndexerService.isSearched Snapshot.addresses
    simp only [XExchangeService.contains_address, hpairs]
    rfl
  have hprocess : processEvent (xExchangeService w.env) l.rounds =
      processEvent (xExchangeService w'.env) l'.rounds := by
    rw [hrounds]
    funext event
    cases event <;> rfl
  unfold Lookups.report
  rw [hsearched]
  simp only [Lookups.convertRaw, hprocess, XExchangeService.decodeRaw_congr hpairs]
  rfl

/-- A OneDex document is converted with the entries as events read them. -/
theorem convertRaw_oneDex (l : Lookups w.env a b) (e : ElasticEvent) :
    l.convertRaw e .oneDex =
      OneDexService.decodeRaw w.env
          ((w.oneDex.used.map OneDexRawPair.forEvents).map d.oneDexPair) e >>= fun event =>
        pure (event.bind (processEvent (oneDexService w.env) l.rounds)) := by
  rw [← d.map_oneDexPair_forEvents, OneDexService.process_forEvents, ← oPairs_eq l]
  rfl

theorem report_oneDex_eq (hrounds : l.rounds = l'.rounds)
    (h : w.namedBy e w.used = w.namedBy e w'.used) :
    l.report (.oneDex, e) = l'.report (.oneDex, e) := by
  have hsearched : l.isSearched (.oneDex, e) = l'.isSearched (.oneDex, e) := rfl
  unfold Lookups.report
  rw [← hsearched]
  split
  · rename_i hs
    have haddress : e.address = d.apiConfigService.oneDexSwapAddress :=
      List.mem_singleton.1 (Snapshot.head_of_isSearched hs).1
    -- a lookup that finds only pairs that the event names
    have hfind : ∀ p : OneDexPair → Bool,
        (∀ pair, p pair = true → OneDexService.NamesPair w.env e pair) →
        ((w.oneDex.used.map OneDexRawPair.forEvents).map d.oneDexPair).find? p =
          ((w'.oneDex.used.map OneDexRawPair.forEvents).map d.oneDexPair).find? p := by
      intro p hp
      have hentries := List.find?_eq_of_filter (p := p ∘ d.oneDexPair)
        (fun rawPair hfound => decide_eq_true ⟨haddress, hp _ hfound⟩)
        (congrArg PairEntries.rawPairs h)
      rw [List.find?_map (f := d.oneDexPair), List.find?_map (f := d.oneDexPair)]
      exact congrArg (Option.map d.oneDexPair) hentries
    have hdecode : OneDexService.decodeRaw w.env
          ((w.oneDex.used.map OneDexRawPair.forEvents).map d.oneDexPair) e =
        OneDexService.decodeRaw w.env
          ((w'.oneDex.used.map OneDexRawPair.forEvents).map d.oneDexPair) e := by
      refine OneDexService.decodeRaw_congr (fun hinitial => ?_) fun hinitial lpTokenId hlp => ?_
      · exact hfind _ fun pair hid => Or.inr ⟨hinitial, JsNumber.strictEq_iff.1 hid⟩
      · refine hfind _ fun pair hid => Or.inl ⟨hinitial, ?_⟩
        rw [hlp, beq_iff_eq.1 hid]
    have hprocess : processEvent (oneDexService w.env) l.rounds =
        processEvent (oneDexService w'.env) l'.rounds := by
      rw [hrounds]
      funext event
      cases event <;> rfl
    rw [convertRaw_oneDex l e, convertRaw_oneDex l' e, hdecode, hprocess]
    rfl
  · rfl

end Report

/-- The two requests agree on every pair that an event of the range names: for each of these events,
the copies that they use have the same entries, as events read them. -/
def Agrees (w w' : World d) (a b : Int) : Prop :=
  ∀ doc ∈ w.chain.rounds, doc.shardId = METACHAIN → a ≤ doc.round → (doc.round : Int) ≤ b →
    ∀ e ∈ w.chain.events, e.timestamp = doc.timestamp →
      w.namedBy e w.used = w.namedBy e w'.used

/-- Callers are looked up in the transactions of the index. -/
theorem publish_eq (hbatch : d.sdk.batchUtils.Partitions) {events : List ResponseEvent}
    (h : ∀ event ∈ events, txToCaller w.elastic.contents.operations event.txnId =
      txToCaller w'.elastic.contents.operations event.txnId) :
    publish w.env events = publish w'.env events := by
  have htable : OperationsTable w.env.elasticService w.elastic.contents.operations :=
    w.elastic.serves.operationsTable w.within.operations_nodup
  have htable' : OperationsTable w'.env.elasticService w'.elastic.contents.operations :=
    w'.elastic.serves.operationsTable w'.within.operations_nodup
  have hcallers : updateEventsCaller w.env events = updateEventsCaller w'.env events := by
    rw [htable.updateEventsCaller_eq hbatch, htable'.updateEventsCaller_eq hbatch]
    refine List.map_congr_left fun event hevent => ?_
    unfold updateCaller
    rw [h event hevent]
    rfl
  unfold publish
  rw [hcallers]
  rfl

/-- An event of the range has a round of the range. -/
theorem exists_round (r : Request w.env a b) {e : ElasticEvent} (he : e ∈ w.chain.events)
    (hrange : r.inRange e = true) :
    ∃ doc ∈ w.chain.rounds, doc.shardId = METACHAIN ∧ a ≤ doc.round ∧ (doc.round : Int) ≤ b ∧
      doc.timestamp = e.timestamp := by
  obtain ⟨hafter, hbefore⟩ := Lookups.inRange_iff.1 hrange
  unfold Lookups.after at hafter
  unfold Lookups.before at hbefore
  obtain ⟨first, hfirst, hfmeta, hge, -, hhead⟩ :=
    (w.elastic.serves.getRounds r.rounds_eq).1 _ (List.head_mem r.rounds_ne)
  obtain ⟨last, hlast, hlmeta, -, hle, hgetLast⟩ :=
    (w.elastic.serves.getRounds r.rounds_eq).1 _ (List.getLast_mem r.rounds_ne)
  rw [← hhead] at hafter
  rw [← hgetLast] at hbefore
  obtain ⟨doc, hdoc, hmeta, htimestamp⟩ := w.chain.round_of_event e he
  have hstrict := w.chain.strictRounds
  have hlow := hstrict.round_le (w.within.rounds.subset hfirst) hfmeta hdoc hmeta (by omega)
  have hhigh := hstrict.round_le hdoc hmeta (w.within.rounds.subset hlast) hlmeta (by omega)
  exact ⟨doc, hdoc, hmeta, by omega, by omega, htimestamp⟩

section Repeat

variable {block : Nat} (hlater : w.Later w')
  (hcomplete : w.elastic.contents.CompleteUpTo w.chain.toIndices block) (hb : b ≤ block)

include hlater hcomplete hb

/-- The rounds of a range that is published are there at both times. -/
theorem getRounds_eq
    (hlast : ∃ last ∈ w.chain.rounds, last.shardId = METACHAIN ∧ last.round = block)
    (hrange : b - a ≤ 1000) :
    IndexerService.getRounds w.env.elasticService a b =
      IndexerService.getRounds w'.env.elasticService a b := by
  refine w.within.strictRounds.getRounds_congr w.elastic.serves w'.elastic.serves
    w'.within.strictRounds hrange ?_
  refine filter_eq_of_sublist hlater.index.rounds
    ((w'.within.strictRounds.nodup_matches a b).of_map _) fun doc hdoc hmatches => ?_
  obtain ⟨hmeta, -, hle⟩ := IndexerService.matches_roundsQuery.1 hmatches
  exact hcomplete.round_mem hlater.chain w'.within hlast hdoc hmeta (by omega)

variable (r : Request w.env a b)

/-- The documents of the range are there at both times. -/
theorem inRange_eq : w.elastic.contents.events.filter r.inRange =
    w'.elastic.contents.events.filter r.inRange := by
  obtain ⟨doc, hdoc, hmeta, -, hle, hlast⟩ :=
    (w.elastic.serves.getRounds r.rounds_eq).1 _ (List.getLast_mem r.rounds_ne)
  refine filter_eq_of_sublist hlater.index.events (w'.within.events_nodup.filter _)
    fun e he hrange => ?_
  refine hcomplete.event_mem hlater.chain w'.within (w.within.rounds.subset hdoc) hmeta (by omega)
    he ?_
  have hbefore := (Lookups.inRange_iff.1 hrange).2
  unfold Lookups.before at hbefore
  rwa [← hlast] at hbefore

/-- The transactions of the events are there at both times. -/
theorem publish_reported_eq (hbatch : d.sdk.batchUtils.Partitions) :
    publish w.env r.reported = publish w'.env r.reported := by
  refine publish_eq hbatch fun event hevent => ?_
  obtain ⟨doc, hdoc, hpushed⟩ := List.mem_filterMap.1 hevent
  obtain ⟨timestamp, round, event, hkept, rfl⟩ := r.pushed_eq_some_iff.1 hpushed
  rw [r.mem_occurrences, r.mem_raw_of_isSearched w.elastic.serves hkept.searched,
    ← Lookups.inRange_iff] at hdoc
  have he := w.within.events.subset hdoc.1
  obtain ⟨roundDoc, hround, hmeta, -, hle, htimestamp⟩ := exists_round r he hdoc.2
  refine txToCaller_eq w'.within.operations_nodup
    (fun t ht => hlater.index.operations.subset ht) fun t ht hhash => ?_
  exact hcomplete.operation_mem hlater.chain w'.within hround hmeta (by omega) he htimestamp.ge ht
    (hhash.trans hkept.decodes.keys.1)

variable {r} {r' : Request w'.env a b} (hrounds : r.rounds = r'.rounds)
  (hagrees : w.Agrees w' a b)

include hrounds hagrees

omit hlater hcomplete hb in
/-- Requests that agree on the pairs do the same with an event of the range. -/
theorem report_eq {doc : Dex × ElasticEvent} (he : doc.2 ∈ w.chain.events)
    (hrange : r.inRange doc.2 = true) : r.report doc = r'.report doc := by
  obtain ⟨round, hround, hmeta, hge, hle, htimestamp⟩ := exists_round r he hrange
  have hentries := hagrees round hround hmeta hge hle doc.2 he htimestamp.symm
  obtain ⟨dex, e⟩ := doc
  cases dex with
  | xExchange => exact report_xExchange_eq hrounds hentries
  | oneDex => exact report_oneDex_eq hrounds hentries

/-- The two loops collect the same events, or throw the same error. -/
theorem collect_eq : collect r.report r.occurrences = collect r'.report r'.occurrences := by
  rw [r.collect_inRange w.elastic.fixedOrder, r'.collect_inRange w'.elastic.fixedOrder,
    ← Lookups.inRange_congr hrounds, ← inRange_eq hlater hcomplete hb]
  refine collect_congr fun doc hdoc => ?_
  obtain ⟨he, hin⟩ := List.mem_filter.1 (mem_occurrencesOf.1 hdoc)
  exact report_eq hrounds hagrees (w.within.events.subset he) hin

end Repeat

/-- **Two requests for a published range** answer alike when they agree on its pairs. -/
theorem getEvents_eq_of_agrees (hbatch : d.sdk.batchUtils.Partitions) (hlater : w.Later w')
    {block : Nat} (hcomplete : w.elastic.contents.CompleteUpTo w.chain.toIndices block)
    (hlast : ∃ last ∈ w.chain.rounds, last.shardId = METACHAIN ∧ last.round = block)
    (hb : b ≤ block) (hagrees : w.Agrees w' a b) :
    DataIntegrationController.getEvents w.env a b =
      DataIntegrationController.getEvents w'.env a b := by
  rcases lt_or_ge 1000 (b - a) with hrange | hrange
  · rw [DataIntegrationController.getEvents_of_lt hrange,
      DataIntegrationController.getEvents_of_lt hrange]
  · rw [DataIntegrationController.getEvents_of_le hrange,
      DataIntegrationController.getEvents_of_le hrange]
    have hrounds := getRounds_eq hlater hcomplete hb hlast hrange
    obtain ⟨hits, hhits, -⟩ := w.within.strictRounds.getRounds_eq w.elastic.serves hrange
    have hhits' := hrounds.symm.trans hhits
    by_cases hnil : hits.map RoundDocument.toElasticRound = []
    · rw [hnil] at hhits hhits'
      rw [getEvents_of_no_rounds hhits, getEvents_of_no_rounds hhits']
    · obtain ⟨r, hr⟩ := w.snapshot.exists_request w.elastic.serves hnil hhits
      obtain ⟨r', hr'⟩ := w'.snapshot.exists_request w'.elastic.serves hnil hhits'
      have hcollect := collect_eq hlater hcomplete hb (hr.trans hr'.symm) hagrees
      rw [r.getEvents_eq, r'.getEvents_eq, ← hcollect]
      cases hevents : collect r.report r.occurrences with
      | error error => rfl
      | ok events =>
        obtain ⟨-, rfl⟩ := collect_eq_ok_iff.1 hevents
        exact congrArg Except.ok (publish_reported_eq hlater hcomplete hb r hbatch)

/-! ## When requests agree -/

/-- The copies in use have every pair that an event of the range names, as it is registered. -/
def Covers (w : World d) (a b : Int) : Prop :=
  ∀ doc ∈ w.chain.rounds, doc.shardId = METACHAIN → a ≤ doc.round → (doc.round : Int) ≤ b →
    ∀ e ∈ w.chain.events, e.timestamp = doc.timestamp →
      w.namedBy e w.used = w.namedBy e w.registered

theorem agrees_of_covers (hlater : w.Later w') (h : w.Covers a b) (h' : w'.Covers a b) :
    w.Agrees w' a b := by
  intro doc hdoc hmeta hge hle e he htimestamp
  have hused := h doc hdoc hmeta hge hle e he htimestamp
  have hused' := h' doc (hlater.chain.rounds hdoc) hmeta hge hle e (hlater.chain.events he)
    htimestamp
  exact hused.trans ((hlater.entries e he).trans hused'.symm)

/-- Copies that were read when the range had been produced cover it: they have the entries that the
events until then name. -/
theorem covers_of_read {read : World d} (hlater : read.Later w)
    (hlast : ∃ last ∈ read.chain.rounds, last.shardId = METACHAIN ∧ b ≤ last.round)
    (hread : ∀ e ∈ read.chain.events, read.namedBy e w.used = read.namedBy e read.registered) :
    w.Covers a b := by
  intro doc hdoc hmeta _ hle e he htimestamp
  obtain ⟨last, hlast, hmeta', hb⟩ := hlast
  have hround := hlater.chain.round_old ⟨last, hlast, hmeta', rfl⟩ hdoc hmeta (by omega)
  have he := hlater.chain.event_old hround hmeta he htimestamp.le
  exact (hread e he).trans (hlater.entries e he)

/-! ## Published ranges -/

/-- The latest block is a round of the metachain. -/
theorem exists_latest {block : Block} (h : getLatestBlock w.env = .ok block) :
    ∃ last ∈ w.chain.rounds, last.shardId = METACHAIN ∧ last.round = block.blockNumber := by
  obtain ⟨round, hround, h⟩ := bind_eq_ok.1 h
  obtain ⟨docs, hdocs, hround⟩ := bind_eq_ok.1 hround
  obtain ⟨answer, hanswer, hits, hperm, -, rfl⟩ := w.elastic.serves.rounds
    IndexerService.latestRoundQuery
  obtain rfl := Except.ok.inj (hdocs.symm.trans hanswer)
  cases hhead : (IndexerService.latestRoundQuery.pagination.slice hits).head? with
  | none =>
    rw [hhead] at hround
    obtain rfl := Except.ok.inj hround
    cases h
  | some doc =>
    rw [hhead] at hround
    obtain rfl := Except.ok.inj hround
    obtain rfl := Except.ok.inj h
    have hmem : doc ∈ hits :=
      List.mem_of_mem_drop (List.mem_of_mem_take (List.mem_of_mem_head? hhead))
    obtain ⟨hdoc, hmatches⟩ := List.mem_filter.1 (hperm.mem_iff.1 hmem)
    have hmeta := IndexerService.matches_latestRoundQuery.1 hmatches
    exact ⟨doc, w.within.rounds.subset hdoc, hmeta, (Block.blockNumber_fromElasticRound _ _).symm⟩

/-- **Published ranges are repeatable.** Once the latest block has been asked for and the index is
complete up to it, two requests for a range up to that block answer alike at any two later times,
when they agree on the pairs of the range. -/
theorem getEvents_repeatable {w₀ w₁ w₂ : World d} (hbatch : d.sdk.batchUtils.Partitions)
    {block : Block} (hlatest : getLatestBlock w₀.env = .ok block)
    (hcomplete : w₀.elastic.contents.CompleteUpTo w₀.chain.toIndices block.blockNumber)
    (h₁ : Steps w₀ w₁) (h₂ : Steps w₁ w₂) {a b : Int} (hb : b ≤ block.blockNumber)
    (hagrees : w₁.Agrees w₂ a b) :
    DataIntegrationController.getEvents w₁.env a b =
      DataIntegrationController.getEvents w₂.env a b := by
  have hlast := exists_latest hlatest
  have hlater := h₁.later
  have hcomplete₁ := hcomplete.later hlater.chain hlater.index hlast
  obtain ⟨last, hlast, hmeta, hround⟩ := hlast
  exact getEvents_eq_of_agrees hbatch h₂.later hcomplete₁
    ⟨last, hlater.chain.rounds hlast, hmeta, hround⟩ hb hagrees

end World

/-! ## A run with an old copy

The pairs of the OneDex contract are copied before its first pair is created and its lp token is
issued. Two rounds and a swap of that pair are indexed while the copy is in the cache, and then it
expires. -/

namespace Reference

open World

def deployment : Deployment where
  sdk := sdk
  locale := locale
  apiConfigService := config
  token identifier := (tokens.find? fun token => token.identifier == identifier).getD
    (token identifier 18)
  cachedPairFeePercent _ := none
  getTotalFeePercent _ := .ok (some 300)
  getContractDeployInfo _ := { deployTxHash := none, deployedAt := none }

def elastic (contents : Indices) : Elastic where
  contents := contents
  service := elasticService contents
  serves := elasticService_serves contents
  fixedOrder := elasticService_fixedOrder contents

def start : World deployment where
  chain := .empty
  elastic := elastic Chain.empty.toIndices
  within := ⟨List.Subperm.refl _, List.Subperm.refl _, List.Subperm.refl _⟩
  created := []
  xExchange := .empty
  oneDex := .empty

def copied : World deployment := start.warmOneDexPairsMetadata

def created : World deployment :=
  { copied with oneDex := copied.oneDex.change [oneDexPair 1 "WEGLD-bd4d79" ""] }

def issued : World deployment :=
  { created with
    oneDex := created.oneDex.change (created.oneDex.list.map (World.issueLpToken 1 "LP-1" 18)) }

/-- A round without a caller that is a contract has no transaction to look up. -/
def production (chain : Chain) (round : ElasticRound) (events : List ElasticEvent)
    (positive : 0 < round.timestamp)
    (grows : ∀ doc ∈ chain.rounds, doc.shardId = METACHAIN →
      doc.round < round.round ∧ doc.timestamp < round.timestamp)
    (events_nodup : events.Nodup)
    (events_timestamp : ∀ e ∈ events, e.timestamp = round.timestamp) : Production chain where
  round := round
  shardRounds := []
  events := events
  operations := []
  positive := positive
  grows := grows
  shards := by simp
  events_nodup := events_nodup
  events_timestamp := events_timestamp
  operations_nodup := List.nodup_nil
  operations_fresh := by simp
  operations_first := by simp

def swapRound : Production issued.chain :=
  production issued.chain (round 10 6000).toElasticRound [sameSecondSwap] (by decide)
    (by simp [issued, created, copied, start, World.warmOneDexPairsMetadata, Chain.empty])
    (List.nodup_singleton _) (by simp [sameSecondSwap, oneDexSwapDocument, document, round])

def swapped : World deployment :=
  { issued with
    chain := issued.chain.produce swapRound, within := issued.within.produce swapRound }

def lastRound : Production swapped.chain :=
  production swapped.chain (round 11 6006).toElasticRound [] (by decide) (by decide +kernel)
    List.nodup_nil (by simp)

def produced : World deployment :=
  { swapped with
    chain := swapped.chain.produce lastRound, within := swapped.within.produce lastRound }

def published : World deployment :=
  { produced with
    elastic := elastic produced.chain.toIndices
    within := ⟨List.Subperm.refl _, List.Subperm.refl _, List.Subperm.refl _⟩ }

def expired : World deployment := { published with oneDex := published.oneDex.expire }

theorem reachable_published : Reachable published := by
  have hcreated : Steps start created :=
    start.steps_warmOneDexPairsMetadata.tail (.createOneDexPair _ rfl (by simp [start, Chain.empty,
      World.warmOneDexPairsMetadata]))
  have hissued : Steps start issued :=
    hcreated.tail (.issueLpToken 1 "LP-1" 18 (by simp [created, copied, start, Chain.empty,
      World.warmOneDexPairsMetadata]))
  have hproduced : Steps start produced :=
    (hissued.tail (.produce swapRound)).tail (.produce lastRound)
  refine ⟨start, ⟨rfl, rfl, rfl, rfl⟩, hproduced.tail (.index _ ?_ _)⟩
  exact ⟨List.nil_sublist _, List.nil_sublist _, List.nil_sublist _⟩

theorem steps_expired : Steps published expired :=
  .single (.refreshOneDex .expire)

theorem getLatestBlock_published : getLatestBlock published.env =
    .ok (Block.fromElasticRound (round 10 6000).toElasticRound false) := by
  decide +kernel

theorem published_complete (block : Nat) :
    published.elastic.contents.CompleteUpTo published.chain.toIndices block where
  rounds _ hdoc _ _ := hdoc
  events _ _ _ _ _ he _ := he
  operations _ _ _ _ _ _ _ _ ht _ := ht

theorem getEvents_published :
    DataIntegrationController.getEvents published.env 10 10 = .ok [] := by
  have h : (DataIntegrationController.getEvents published.env 10 10).toOption = some [] := by
    decide +kernel
  exact eq_ok_of_toOption h

theorem getEvents_expired :
    DataIntegrationController.getEvents expired.env 10 10 ≠ .ok [] := by
  intro h
  have hempty : (DataIntegrationController.getEvents expired.env 10 10).toOption ≠ some [] := by
    decide +kernel
  rw [h] at hempty
  exact hempty rfl

/-- The old copy hides the swap of a published round until it expires. -/
theorem published_not_repeatable :
    ¬ ∀ (w₀ w₁ w₂ : World deployment) (block : Block) (a b : Int), Reachable w₀ →
      getLatestBlock w₀.env = .ok block →
      w₀.elastic.contents.CompleteUpTo w₀.chain.toIndices block.blockNumber →
      Steps w₀ w₁ → Steps w₁ w₂ → b ≤ block.blockNumber →
      DataIntegrationController.getEvents w₁.env a b =
        DataIntegrationController.getEvents w₂.env a b := by
  intro hrepeatable
  refine getEvents_expired ?_
  rw [← hrepeatable published published expired _ 10 10 reachable_published
    getLatestBlock_published (published_complete _) .refl steps_expired (le_refl _)]
  exact getEvents_published

/-- Copies read after the expiry have the pair of the swap. -/
theorem expired_covers {w : World deployment} (hlater : expired.Later w)
    (hused : w.used = expired.registered) : w.Covers 10 10 := by
  refine covers_of_read hlater ⟨lastRound.metachainRound, ?_, rfl, by decide⟩ fun e _ => ?_
  · exact (lastRound.mem_rounds rfl).2 (Or.inr rfl)
  · rw [hused]

theorem getEvents_repeatable_expired :
    DataIntegrationController.getEvents expired.env 10 10 =
      DataIntegrationController.getEvents expired.afterRequest.env 10 10 := by
  have hrequest := expired.steps_afterRequest
  refine getEvents_repeatable batchUtils_partitions getLatestBlock_published
    (published_complete _) steps_expired hrequest (le_refl _) ?_
  exact agrees_of_covers hrequest.later (expired_covers (.refl _) rfl)
    (expired_covers hrequest.later rfl)

end Reference

end DexAdapter
