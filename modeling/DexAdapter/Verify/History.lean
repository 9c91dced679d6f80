import DexAdapter.Verify.Following

/-!
# What a reader has of the chain

`World.record` is what an event of the chain is to one who sees the whole chain and all pairs of
the contracts: no index, no range, no cache, no batch and no order takes part in it. A reader that
has followed the chain to a block has the record of every event up to it, each once
(`World.Follows.perm_history`).
-/

namespace DexAdapter

open Collect DataIntegrationService ResponseEvent Segments

/-! ## Rounds of the chain -/

namespace Chain

variable (chain : Chain)

/-- The block of a timestamp. -/
def roundAt (timestamp : Nat) : Option RoundDocument :=
  chain.rounds.find? fun doc => doc.shardId == METACHAIN && doc.timestamp == timestamp

/-- The event is of a block of the range. -/
def inBlocks (a b : Int) (e : ElasticEvent) : Bool :=
  decide (∃ doc ∈ chain.rounds, doc.shardId = METACHAIN ∧ a ≤ doc.round ∧ (doc.round : Int) ≤ b ∧
    doc.timestamp = e.timestamp)

variable {chain}

theorem roundAt_eq_some {doc : RoundDocument} {timestamp : Nat} :
    chain.roundAt timestamp = some doc ↔
      doc ∈ chain.rounds ∧ doc.shardId = METACHAIN ∧ doc.timestamp = timestamp := by
  unfold roundAt
  constructor
  · intro h
    have hfound := List.find?_some h
    simp only [Bool.and_eq_true, beq_iff_eq] at hfound
    exact ⟨List.mem_of_find?_eq_some h, hfound⟩
  · rintro ⟨hdoc, hmeta, rfl⟩
    cases hfind : chain.rounds.find?
        fun doc' => doc'.shardId == METACHAIN && doc'.timestamp == doc.timestamp with
    | none =>
      have hnone := List.find?_eq_none.1 hfind doc hdoc
      simp [hmeta] at hnone
    | some doc' =>
      have hfound := List.find?_some hfind
      simp only [Bool.and_eq_true, beq_iff_eq] at hfound
      rw [chain.strictRounds.eq_of_timestamp (List.mem_of_find?_eq_some hfind) hfound.1 hdoc hmeta
        hfound.2]

theorem inBlocks_iff {a b : Int} {e : ElasticEvent} :
    chain.inBlocks a b e = true ↔ ∃ doc ∈ chain.rounds, doc.shardId = METACHAIN ∧ a ≤ doc.round ∧
      (doc.round : Int) ≤ b ∧ doc.timestamp = e.timestamp := by
  rw [inBlocks, decide_eq_true_eq]

end Chain

/-! ## Records -/

theorem occurrencesOf_perm {raw raw' : Dex → List ElasticEvent}
    (h : ∀ dex, (raw dex).Perm (raw' dex)) : (occurrencesOf raw).Perm (occurrencesOf raw') :=
  ((h .xExchange).map _).append ((h .oneDex).map _)

theorem occurrencesOf_append (raw raw' : Dex → List ElasticEvent) :
    (occurrencesOf fun dex => raw dex ++ raw' dex).Perm
      (occurrencesOf raw ++ occurrencesOf raw') := by
  unfold occurrencesOf
  rw [List.map_append, List.map_append, List.append_assoc, List.append_assoc]
  refine List.Perm.append_left _ ?_
  rw [← List.append_assoc, ← List.append_assoc]
  exact List.perm_append_comm.append_right _

/-- What the provider makes of a document, if it decodes. -/
def Snapshot.conversion {env : Env} (s : Snapshot env) : Dex × ElasticEvent → Option DexEvent
  | (.xExchange, e) => (XExchangeService.decodeRaw env s.xPairs e).toOption.join.map
      (convert (xExchangeService env))
  | (.oneDex, e) => (OneDexService.decodeRaw env s.oPairs e).toOption.join.map
      (convert (oneDexService env))

theorem Snapshot.conversion_eq_some {env : Env} {s : Snapshot env} {doc : Dex × ElasticEvent}
    {event : DexEvent} :
    s.conversion doc = some event ↔ ∃ timestamp, s.Decodes doc timestamp event := by
  obtain ⟨dex, e⟩ := doc
  constructor
  · intro h
    cases dex with
    | xExchange =>
      obtain ⟨event, hdecode, rfl⟩ := Option.map_eq_some_iff.1 h
      exact ⟨_, .xExchange (eq_ok_of_toOption (Option.join_eq_some_iff.1 hdecode))⟩
    | oneDex =>
      obtain ⟨event, hdecode, rfl⟩ := Option.map_eq_some_iff.1 h
      exact ⟨_, .oneDex (eq_ok_of_toOption (Option.join_eq_some_iff.1 hdecode))⟩
  · rintro ⟨timestamp, h⟩
    cases h with
    | xExchange h => exact Option.map_eq_some_iff.2 ⟨_, by rw [h]; rfl, rfl⟩
    | oneDex h => exact Option.map_eq_some_iff.2 ⟨_, by rw [h]; rfl, rfl⟩

namespace World

variable {d : Deployment} {w w' : World d} {a b c : Int}

/-- What the chain says of an event, with the pairs in use: its conversion, with the caller of its
transaction, in its block. -/
def record (w : World d) (doc : Dex × ElasticEvent) : Option ResponseEvent :=
  if w.snapshot.isSearched doc then do
    let event ← w.snapshot.conversion doc
    let round ← w.chain.roundAt doc.2.timestamp
    if isZeroPrice event then none
    else
      some (updateCaller w.env w.chain.operations
        { block := Block.fromElasticRound round.toElasticRound true, event := event })
  else none

/-- The records of the events of the blocks, each once for each provider. -/
def history (w : World d) (a b : Int) : List ResponseEvent :=
  (occurrencesOf fun _ => w.chain.events.filter (w.chain.inBlocks a b)).filterMap w.record

theorem record_eq_some {doc : Dex × ElasticEvent} {re : ResponseEvent} :
    w.record doc = some re ↔ ∃ timestamp event round, w.snapshot.isSearched doc = true ∧
      w.snapshot.Decodes doc timestamp event ∧
      w.chain.roundAt doc.2.timestamp = some round ∧ isZeroPrice event = false ∧
      re = updateCaller w.env w.chain.operations
        { block := Block.fromElasticRound round.toElasticRound true, event := event } := by
  unfold record
  constructor
  · intro h
    split at h
    · rename_i hsearched
      obtain ⟨event, hconversion, h⟩ := Option.bind_eq_some_iff.1 h
      obtain ⟨round, hround, h⟩ := Option.bind_eq_some_iff.1 h
      obtain ⟨timestamp, hdecodes⟩ := Snapshot.conversion_eq_some.1 hconversion
      simp only [Option.ite_none_left_eq_some, Bool.not_eq_true, Option.some.injEq] at h
      exact ⟨timestamp, event, round, hsearched, hdecodes, hround, h.1, h.2.symm⟩
    · cases h
  · rintro ⟨timestamp, event, round, hsearched, hdecodes, hround, hpriced, rfl⟩
    rw [if_pos hsearched]
    refine Option.bind_eq_some_iff.2 ⟨event, Snapshot.conversion_eq_some.2 ⟨_, hdecodes⟩, ?_⟩
    refine Option.bind_eq_some_iff.2 ⟨round, hround, ?_⟩
    simp only [hpriced, Bool.false_eq_true, if_false]

/-- A range without a round has no events. -/
theorem history_eq_nil (h : ∀ doc ∈ w.chain.rounds, doc.shardId = METACHAIN → a ≤ doc.round →
    (doc.round : Int) ≤ b → False) : w.history a b = [] := by
  have hempty : w.chain.events.filter (w.chain.inBlocks a b) = [] := by
    refine List.filter_eq_nil_iff.2 fun e _ hin => ?_
    obtain ⟨doc, hdoc, hmeta, hge, hle, -⟩ := Chain.inBlocks_iff.1 hin
    exact h doc hdoc hmeta hge hle
  rw [history, hempty]
  rfl

/-! ## A published range -/

section Range

variable (hpublished : w.Published b)

include hpublished

/-- The events of a published range are indexed. -/
theorem mem_events_of_inBlocks {e : ElasticEvent} (he : e ∈ w.chain.events)
    (hin : w.chain.inBlocks a b e = true) : e ∈ w.elastic.contents.events := by
  obtain ⟨block, hblock, hcomplete, -⟩ := hpublished
  obtain ⟨doc, hdoc, hmeta, -, hle, htimestamp⟩ := Chain.inBlocks_iff.1 hin
  exact hcomplete.events doc hdoc hmeta (by omega) e he htimestamp.symm

theorem filter_inBlocks_perm : (w.elastic.contents.events.filter (w.chain.inBlocks a b)).Perm
    (w.chain.events.filter (w.chain.inBlocks a b)) := by
  refine (List.perm_ext_iff_of_nodup (w.within.events_nodup.filter _)
    (w.chain.events_nodup.filter _)).2 fun e => ?_
  rw [List.mem_filter, List.mem_filter]
  exact ⟨fun h => ⟨w.within.events.subset h.1, h.2⟩,
    fun h => ⟨mem_events_of_inBlocks hpublished h.1 h.2, h.2⟩⟩

/-- So are their transactions. -/
theorem updateCaller_operations {e : ElasticEvent} (he : e ∈ w.chain.events)
    (hin : w.chain.inBlocks a b e = true) {event : ResponseEvent}
    (htxn : event.txnId = e.transactionId) :
    updateCaller w.env w.elastic.contents.operations event =
      updateCaller w.env w.chain.operations event := by
  obtain ⟨block, hblock, hcomplete, -⟩ := hpublished
  obtain ⟨doc, hdoc, hmeta, -, hle, htimestamp⟩ := Chain.inBlocks_iff.1 hin
  have hcaller : txToCaller w.elastic.contents.operations event.txnId =
      txToCaller w.chain.operations event.txnId := by
    refine txToCaller_eq w.chain.operations_nodup
      (fun t ht => w.within.operations.subset ht) fun t ht hhash => ?_
    exact hcomplete.operations doc hdoc hmeta (by omega) e he htimestamp.symm t ht
      (hhash.trans htxn)
  unfold updateCaller
  rw [hcaller]

variable (hrange : b - a ≤ 1000) (r : Request w.env a b)

include hrange

/-- A request finds the block that the chain has for an event of its range. -/
theorem findRound_eq_some {e : ElasticEvent} (hin : w.chain.inBlocks a b e = true)
    {round : ElasticRound} :
    findRound r.rounds (.num e.timestamp) = some round ↔
      ∃ doc, w.chain.roundAt e.timestamp = some doc ∧ round = doc.toElasticRound := by
  constructor
  · intro hfind
    obtain ⟨doc, hdoc, hmeta, -, -, rfl⟩ :=
      (mem_of_getRounds hpublished hrange r.rounds_eq).1 (List.mem_of_find?_eq_some hfind)
    have htimestamp := Lookups.round_timestamp hfind
    rw [JsNumber.num.injEq] at htimestamp
    exact ⟨doc, Chain.roundAt_eq_some.2 ⟨hdoc, hmeta, htimestamp.symm⟩, rfl⟩
  · rintro ⟨doc, hround, rfl⟩
    obtain ⟨hdoc, hmeta, htimestamp⟩ := Chain.roundAt_eq_some.1 hround
    obtain ⟨doc', hdoc', hmeta', hge, hle, htimestamp'⟩ := Chain.inBlocks_iff.1 hin
    obtain rfl := w.chain.strictRounds.eq_of_timestamp hdoc hmeta hdoc' hmeta'
      (htimestamp.trans htimestamp'.symm)
    have hmem := (mem_of_getRounds hpublished hrange r.rounds_eq).2
      ⟨doc, hdoc, hmeta, hge, hle, rfl⟩
    unfold findRound
    cases hfind : r.rounds.find?
        fun round => (JsNumber.num e.timestamp).strictEq round.timestamp with
    | none =>
      have hnone := List.find?_eq_none.1 hfind _ hmem
      rw [JsNumber.strictEq_iff, htimestamp] at hnone
      exact absurd rfl hnone
    | some round =>
      obtain ⟨found, hfound, hmeta', -, -, rfl⟩ :=
        (mem_of_getRounds hpublished hrange r.rounds_eq).1 (List.mem_of_find?_eq_some hfind)
      have hsame := Lookups.round_timestamp hfind
      rw [JsNumber.num.injEq] at hsame
      rw [w.chain.strictRounds.eq_of_timestamp hfound hmeta' hdoc hmeta
        (hsame.symm.trans htimestamp.symm)]

variable (htimestamps : w.TimestampsAgree)

include htimestamps

/-- A request publishes an event of its range as the chain records it. -/
theorem pushed_eq_record {doc : Dex × ElasticEvent} (he : doc.2 ∈ w.chain.events)
    (hin : w.chain.inBlocks a b doc.2 = true) :
    (pushed r.report doc).map (updateCaller w.env w.elastic.contents.operations) =
      w.record doc := by
  have hsnapshot := r.toSnapshot.eq_of_env w.snapshot
  have hindexed := mem_events_of_inBlocks hpublished he hin
  refine Option.ext fun re => ?_
  rw [Option.map_eq_some_iff, record_eq_some]
  constructor
  · rintro ⟨event, hpushed, rfl⟩
    obtain ⟨timestamp, round, event, hkept, rfl⟩ := r.pushed_eq_some_iff.1 hpushed
    have hround := hkept.round
    obtain ⟨hsearched, -, hdecodes, -, hpriced⟩ := hkept
    rw [hsnapshot] at hsearched hdecodes
    obtain rfl := htimestamps doc timestamp event hindexed hdecodes
    obtain ⟨roundDoc, hroundAt, rfl⟩ := (findRound_eq_some hpublished hrange r hin).1 hround
    exact ⟨_, event, roundDoc, hsearched, hdecodes, hroundAt, hpriced,
      updateCaller_operations hpublished he hin hdecodes.keys.1⟩
  · rintro ⟨timestamp, event, roundDoc, hsearched, hdecodes, hroundAt, hpriced, rfl⟩
    have hround := (findRound_eq_some hpublished hrange r hin).2 ⟨roundDoc, hroundAt, rfl⟩
    rw [← htimestamps doc timestamp event hindexed hdecodes] at hround
    have hkept : r.Kept doc timestamp roundDoc.toElasticRound event := by
      rw [← hsnapshot] at hsearched hdecodes
      exact ⟨hsearched, hdecodes.pairFound, hdecodes, findRound_eq_some_iff.1 hround, hpriced⟩
    exact ⟨_, hkept.pushed_eq, updateCaller_operations hpublished he hin hdecodes.keys.1⟩

/-- A document that is not of the range is not reported. -/
theorem inBlocks_of_pushed {doc : Dex × ElasticEvent}
    (he : doc.2 ∈ w.elastic.contents.events) {event : ResponseEvent}
    (hpushed : pushed r.report doc = some event) : w.chain.inBlocks a b doc.2 = true := by
  obtain ⟨timestamp, round, event, hkept, rfl⟩ := r.pushed_eq_some_iff.1 hpushed
  have hdecodes := hkept.decodes
  rw [r.toSnapshot.eq_of_env w.snapshot] at hdecodes
  have htimestamp := htimestamps doc timestamp event he hdecodes
  rw [Lookups.round_timestamp hkept.round, JsNumber.num.injEq] at htimestamp
  obtain ⟨roundDoc, hdoc, hmeta, hge, hle, rfl⟩ :=
    (mem_of_getRounds hpublished hrange r.rounds_eq).1 (List.mem_of_find?_eq_some hkept.round)
  exact Chain.inBlocks_iff.2 ⟨roundDoc, hdoc, hmeta, hge, hle, htimestamp⟩

/-- One provider's documents of the index give the records of the range. -/
theorem filterMap_pushed_perm (dex : Dex) :
    ((w.elastic.contents.events.map fun e => (dex, e)).filterMap fun doc =>
        (pushed r.report doc).map (updateCaller w.env w.elastic.contents.operations)).Perm
      (((w.chain.events.filter (w.chain.inBlocks a b)).map fun e => (dex, e)).filterMap
        w.record) := by
  rw [List.filterMap_map, List.filterMap_map]
  -- of the index, only the documents of the range matter
  have hfilter : (w.elastic.contents.events.filterMap fun e => (pushed r.report (dex, e)).map
        (updateCaller w.env w.elastic.contents.operations)) =
      (w.elastic.contents.events.filter (w.chain.inBlocks a b)).filterMap fun e =>
        (pushed r.report (dex, e)).map (updateCaller w.env w.elastic.contents.operations) := by
    rw [List.filterMap_filter]
    refine List.filterMap_congr fun e he => ?_
    split
    · rfl
    · rename_i hout
      cases hpushed : pushed r.report (dex, e) with
      | none => rfl
      | some event =>
        exact absurd (inBlocks_of_pushed hpublished hrange r htimestamps he hpushed) hout
  have hrecord : ((w.chain.events.filter (w.chain.inBlocks a b)).filterMap fun e =>
        (pushed r.report (dex, e)).map (updateCaller w.env w.elastic.contents.operations)) =
      (w.chain.events.filter (w.chain.inBlocks a b)).filterMap fun e => w.record (dex, e) := by
    refine List.filterMap_congr fun e he => ?_
    obtain ⟨he, hin⟩ := List.mem_filter.1 he
    exact pushed_eq_record hpublished hrange r htimestamps he hin
  refine (List.Perm.of_eq hfilter).trans (List.Perm.trans ?_ (List.Perm.of_eq hrecord))
  exact (filter_inBlocks_perm hpublished).filterMap _

/-- What a request reports is what the chain records of its range. -/
theorem reported_perm_history :
    (r.reported.map (updateCaller w.env w.elastic.contents.operations)).Perm (w.history a b) := by
  rw [r.reported_eq w.elastic.serves htimestamps w.elastic.fixedOrder (List.Perm.refl _),
    List.map_filterMap]
  have hdex := filterMap_pushed_perm hpublished hrange r htimestamps
  rw [history, occurrencesOf, occurrencesOf, List.filterMap_append, List.filterMap_append]
  exact (hdex .xExchange).append (hdex .oneDex)

end Range

/-- The events of a published range, up to order and index, are the records of its blocks. -/
theorem response_perm_history (hbatch : d.sdk.batchUtils.Partitions)
    (htimestamps : w.TimestampsAgree) (hpublished : w.Published b) (hrange : b - a ≤ 1000)
    {events : List ResponseEvent} (h : w.response a b = some events) :
    (events.map forget).Perm ((w.history a b).map forget) := by
  have hevents := eq_ok_of_toOption h
  rw [DataIntegrationController.getEvents_of_le hrange] at hevents
  rcases request_of_getEvents hevents with ⟨hrounds, rfl⟩ | ⟨⟨r⟩⟩
  · -- without a round, the range has no events
    have hempty : w.history a b = [] := by
      refine history_eq_nil fun doc hdoc hmeta hge hle => ?_
      exact List.not_mem_nil ((mem_of_getRounds hpublished hrange hrounds).2
        ⟨doc, hdoc, hmeta, hge, hle, rfl⟩)
    rw [hempty]
  · rw [r.getEvents_of_decodable (r.succeeds_getEvents.1 ⟨events, hevents⟩),
      Except.ok.injEq] at hevents
    rw [← hevents]
    exact (publish_perm (w.elastic.serves.operationsTable w.within.operations_nodup) hbatch
      r.reported).trans ((reported_perm_history hpublished hrange r htimestamps).map forget)

/-! ## Blocks one after the other -/

/-- The history of a range is that of its parts. -/
theorem history_append (hab : a ≤ b + 1) (hbc : b ≤ c) :
    (w.history a c).Perm (w.history a b ++ w.history (b + 1) c) := by
  have hcut : (w.chain.events.filter (w.chain.inBlocks a c)).Perm
      (w.chain.events.filter (w.chain.inBlocks a b) ++
        w.chain.events.filter (w.chain.inBlocks (b + 1) c)) := by
    refine filter_perm_append (fun e _ => ?_) fun e _ => ?_
    · rw [← Bool.not_eq_true, Chain.inBlocks_iff, Chain.inBlocks_iff, Chain.inBlocks_iff]
      constructor
      · rintro ⟨doc, hdoc, hmeta, hge, hle, htimestamp⟩
        refine ⟨⟨doc, hdoc, hmeta, hge, by omega, htimestamp⟩, ?_⟩
        rintro ⟨doc', hdoc', hmeta', hge', -, htimestamp'⟩
        obtain rfl := w.chain.strictRounds.eq_of_timestamp hdoc hmeta hdoc' hmeta'
          (htimestamp.trans htimestamp'.symm)
        omega
      · rintro ⟨⟨doc, hdoc, hmeta, hge, hle, htimestamp⟩, hout⟩
        refine ⟨doc, hdoc, hmeta, hge, ?_, htimestamp⟩
        by_contra hlt
        exact hout ⟨doc, hdoc, hmeta, by omega, hle, htimestamp⟩
    · rw [Chain.inBlocks_iff, Chain.inBlocks_iff]
      rintro ⟨doc, hdoc, hmeta, hge, hle, htimestamp⟩
      exact ⟨doc, hdoc, hmeta, by omega, hle, htimestamp⟩
  unfold history
  rw [← List.filterMap_append]
  exact ((occurrencesOf_perm fun _ => hcut).trans (occurrencesOf_append _ _)).filterMap _

/-- Blocks asked for one by one. -/
theorem concat_perm_history (hbatch : d.sdk.batchUtils.Partitions)
    (htimestamps : w.TimestampsAgree) {count : Nat} (hpublished : ∀ k < count, w.Published (a + k))
    {events : List ResponseEvent} (h : concat (fun n => w.response n n) a count = some events) :
    (events.map forget).Perm ((w.history a (a + count - 1)).map forget) := by
  induction count generalizing events with
  | zero =>
    obtain rfl := Option.some.inj h
    have hempty : w.history a (a + (0 : Nat) - 1) = [] :=
      history_eq_nil fun doc _ _ hge hle => by omega
    rw [hempty]
  | succ count ih =>
    obtain ⟨first, last, hfirst, hlast, rfl⟩ := append_eq_some.1 h
    have hblock := response_perm_history hbatch htimestamps
      (hpublished count (Nat.lt_succ_self count)) (by omega) hlast
    have hblocks := ih (fun k hk => hpublished k (Nat.lt_succ_of_lt hk)) hfirst
    have hcut : (w.history a (a + count)).Perm
        (w.history a (a + count - 1) ++ w.history (a + count) (a + count)) := by
      have happend := w.history_append (a := a) (b := a + count - 1) (c := a + count)
        (by omega) (by omega)
      rwa [Int.sub_add_cancel] at happend
    rw [show a + (count + 1 : Nat) - 1 = a + count by omega]
    refine List.Perm.trans ?_ (hcut.map forget).symm
    rw [List.map_append, List.map_append]
    exact hblocks.append hblock

/-- **Nothing is missed and nothing comes twice**: a reader that has followed the chain has, up to
the order and the index in each block, the records of all events of the chain in these blocks, with
all pairs of the contracts, whatever copies of the pairs its requests worked with. -/
theorem Follows.perm_history (hbatch : d.sdk.batchUtils.Partitions) {first next : Int}
    {events : List ResponseEvent} (h : Follows first w next events)
    (htimestamps : w.withAllPairs.TimestampsAgree) :
    (events.map forget).Perm ((w.withAllPairs.history first (next - 1)).map forget) := by
  obtain ⟨count, rfl, hpublished, hblocks⟩ := h.eq_withAllPairs hbatch .refl htimestamps
  exact concat_perm_history hbatch htimestamps hpublished hblocks

end World

theorem Reference.perm_history_expired :
    ((answer 10 11).map forget).Perm ((expired.withAllPairs.history 10 11).map forget) :=
  follows_atOnce.perm_history batchUtils_partitions timestampsAgree_expired

end DexAdapter
