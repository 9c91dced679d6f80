import DexAdapter.Verify.Feed
import DexAdapter.Verify.Latest

/-!
# Block numbers across the endpoints

`/latest-block`, `/events` and `/pair` each report a number and a timestamp of a block: of the
newest round but one, of the round of an event, and of the round in which a pair was deployed, which
`getRound` looks for in any shard. Where the shards agree on the rounds, what the endpoints say at
any two times agrees, and orders blocks by number as by timestamp (`World.reports_agree`).
-/

namespace DexAdapter

open Collect DataIntegrationService

/-! ## The round of a timestamp -/

namespace IndexerService

theorem matches_roundQuery {timestamp : Nat} {doc : RoundDocument} :
    (roundQuery timestamp).matches doc = true ↔ doc.timestamp = timestamp := by
  have htext : toString timestamp = toString doc.timestamp ↔ doc.timestamp = timestamp :=
    ⟨fun h => (toString_nat_inj h).symm, fun h => by rw [h]⟩
  simp only [ElasticQuery.matches, roundQuery, List.all_cons, List.all_nil,
    ElasticCondition.matches, ElasticDocument.texts, String.reduceEq, if_true, if_false,
    List.contains_eq_mem, List.mem_singleton, htext, Bool.and_true, decide_eq_true_eq]

/-- The round is that of some shard. -/
theorem mem_of_getRound {elasticService : ElasticService} {indices : Indices}
    (hserves : elasticService.Serves indices) {timestamp : Nat} {round : ElasticRound}
    (h : getRound elasticService timestamp = some round) :
    ∃ doc ∈ indices.rounds, doc.toElasticRound = round ∧ doc.timestamp = timestamp := by
  obtain ⟨answer, hanswer, hits, hperm, -, rfl⟩ := hserves.rounds (roundQuery timestamp)
  rw [getRound, hanswer] at h
  obtain ⟨doc, hdoc, rfl⟩ := Option.map_eq_some_iff.1 h
  have hmem : doc ∈ hits :=
    List.mem_of_mem_drop (List.mem_of_mem_take (List.mem_of_head? hdoc))
  obtain ⟨hdoc, hmatches⟩ := List.mem_filter.1 (hperm.mem_iff.1 hmem)
  exact ⟨doc, hdoc, rfl, matches_roundQuery.1 hmatches⟩

end IndexerService

/-! ## The block of a pair -/

section Pair

variable {env : Env} {identifier : String} {pair : Pair}

/-- The block of an xExchange pair is that of the round at its `deployedAt`. -/
theorem XExchangeService.getRound_of_getPair {n t : Nat}
    (h : getPair env identifier = .ok (some pair)) (hn : pair.createdAtBlockNumber = some n)
    (ht : pair.createdAtBlockTimestamp = some t) :
    ∃ round, IndexerService.getRound env.elasticService t = some round ∧ round.round = n := by
  obtain ⟨pairs, -, hpair⟩ := bind_eq_ok.1 h
  cases hfind : pairs.find? fun p => p.address == identifier with
  | none =>
    rw [hfind] at hpair
    cases hpair
  | some xExchangePair =>
    rw [hfind] at hpair
    obtain ⟨fee, -, hpair⟩ := bind_eq_ok.1 hpair
    obtain rfl := Option.some.inj (Except.ok.inj hpair)
    change (env.getContractDeployInfo identifier).deployedAt = some t at ht
    simp only [XExchangeService.fromCustomPair, ht] at hn
    split at hn
    · cases hn
    · exact Option.map_eq_some_iff.1 hn

/-- A OneDex pair has none. -/
theorem OneDexService.createdAtBlockNumber_of_getPair
    (h : getPair env identifier = .ok (some pair)) : pair.createdAtBlockNumber = none := by
  obtain ⟨pairs, -, hpair⟩ := bind_eq_ok.1 h
  cases hfind : pairs.find? fun p => p.address == identifier with
  | none =>
    rw [hfind] at hpair
    cases hpair
  | some oneDexPair =>
    rw [hfind] at hpair
    obtain rfl := Option.some.inj (Except.ok.inj hpair)
    rfl

theorem getRound_of_getPair {n t : Nat} (h : DataIntegrationService.getPair env identifier =
      .ok pair) (hn : pair.createdAtBlockNumber = some n)
    (ht : pair.createdAtBlockTimestamp = some t) :
    ∃ round, IndexerService.getRound env.elasticService t = some round ∧ round.round = n := by
  obtain ⟨found, hfound, h⟩ := bind_eq_ok.1 h
  cases found with
  | some found =>
    obtain rfl := Except.ok.inj h
    exact XExchangeService.getRound_of_getPair hfound hn ht
  | none =>
    obtain ⟨found, hfound, h⟩ := bind_eq_ok.1 h
    cases found with
    | none => cases h
    | some found =>
      obtain rfl := Except.ok.inj h
      rw [OneDexService.createdAtBlockNumber_of_getPair hfound] at hn
      cases hn

end Pair

namespace World

variable {d : Deployment} {w w' : World d}

/-- The other shards have the rounds of the metachain. -/
def SameRounds (w : World d) : Prop :=
  ∀ doc ∈ w.chain.rounds, ∃ doc' ∈ w.chain.rounds, doc'.shardId = METACHAIN ∧
    doc'.round = doc.round ∧ doc'.timestamp = doc.timestamp

/-- An endpoint answers with the number and the timestamp of a block. For `/pair`, the lookups of
deployments and fees may answer anything at any time. -/
inductive Reports (w : World d) : Nat → Nat → Prop where
  | latestBlock {block : Block} (h : getLatestBlock w.env = .ok block) :
      Reports w block.blockNumber block.blockTimestamp
  | event {a b : Int} {events : List ResponseEvent} {e : ResponseEvent}
      (h : DataIntegrationController.getEvents w.env a b = .ok events) (he : e ∈ events) :
      Reports w e.block.blockNumber e.block.blockTimestamp
  | pair {cachedFees : String → Option Float} {totalFees : String → Result (Option Nat)}
      {deployInfo : String → ContractDeployInfo} {identifier : String} {pair : Pair} {n t : Nat}
      (h : getPair { w.env with
        cachedPairFeePercent := cachedFees
        getTotalFeePercent := totalFees
        getContractDeployInfo := deployInfo } identifier = .ok pair)
      (hn : pair.createdAtBlockNumber = some n) (ht : pair.createdAtBlockTimestamp = some t) :
      Reports w n t

/-- What is reported is a round of the chain. -/
theorem Reports.exists_round {n t : Nat} (h : w.Reports n t) :
    ∃ doc ∈ w.chain.rounds, doc.round = n ∧ doc.timestamp = t := by
  cases h with
  | latestBlock h =>
    obtain ⟨hits, hnewest, hlatest⟩ := w.getLatestBlock_eq
    rw [hlatest] at h
    cases hsecond : hits[1]? with
    | none =>
      rw [hsecond] at h
      cases h
    | some doc =>
      rw [hsecond] at h
      obtain rfl := Except.ok.inj h
      have hdoc := (hnewest.mem.1 (List.mem_of_getElem? hsecond)).1
      exact ⟨doc, w.within.rounds.subset hdoc, (Block.blockNumber_fromElasticRound _ _).symm,
        (Block.blockTimestamp_fromElasticRound _ _).symm⟩
  | event h he =>
    obtain ⟨rounds, -, hrounds, hin, -⟩ := ordered_of_getEvents h
    obtain ⟨round, hround, heround⟩ := hin _ he
    obtain ⟨doc, hdoc, -, -, -, rfl⟩ := hrounds round hround
    rw [heround]
    exact ⟨doc, hdoc, (Block.blockNumber_fromElasticRound _ _).symm,
      (Block.blockTimestamp_fromElasticRound _ _).symm⟩
  | pair h hn ht =>
    obtain ⟨round, hround, rfl⟩ := getRound_of_getPair h hn ht
    obtain ⟨doc, hdoc, rfl, htimestamp⟩ := IndexerService.mem_of_getRound w.elastic.serves hround
    exact ⟨doc, w.within.rounds.subset hdoc, rfl, htimestamp⟩

/-- **The endpoints agree on blocks** over the whole run. -/
theorem reports_agree (hsame : w'.SameRounds) (hsteps : Steps w w') {n n' t t' : Nat}
    (h : w.Reports n t) (h' : w'.Reports n' t') :
    (n < n' ↔ t < t') ∧ (n = n' ↔ t = t') := by
  obtain ⟨doc, hdoc, rfl, rfl⟩ := h.exists_round
  obtain ⟨doc', hdoc', rfl, rfl⟩ := h'.exists_round
  obtain ⟨round, hround, hmeta, hnumber, htimestamp⟩ :=
    hsame doc (hsteps.later.chain.rounds hdoc)
  obtain ⟨round', hround', hmeta', hnumber', htimestamp'⟩ := hsame doc' hdoc'
  have hstrict := w'.chain.strictRounds
  have hlt := hstrict.round_lt_iff hround hmeta hround' hmeta'
  have hgt := hstrict.round_lt_iff hround' hmeta' hround hmeta
  omega

end World

namespace Reference

open World

theorem sameRounds_expired : expired.SameRounds := by
  intro doc hdoc
  have hmeta : ∀ doc ∈ expired.chain.rounds, doc.shardId = METACHAIN := by decide +kernel
  exact ⟨doc, hdoc, hmeta doc hdoc, rfl, rfl⟩

/-- The latest block of the run is the one that has the swap. -/
theorem reports_agree_expired : ∃ e ∈ answer 10 10,
    (10 < e.block.blockNumber ↔ 6000 < e.block.blockTimestamp) ∧
      (10 = e.block.blockNumber ↔ 6000 = e.block.blockTimestamp) := by
  have hsome : (answer 10 10).head?.isSome = true := by decide +kernel
  obtain ⟨e, he⟩ := Option.isSome_iff_exists.1 hsome
  have hmem : e ∈ answer 10 10 := List.mem_of_head? he
  exact ⟨e, hmem, reports_agree sameRounds_expired steps_expired
    (.latestBlock getLatestBlock_published)
    (.event (getEvents_answer getEvents_isSome_expired.1) hmem)⟩

end Reference

end DexAdapter
