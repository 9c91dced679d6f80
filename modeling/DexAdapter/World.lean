import DexAdapter.Lib.CachedList
import DexAdapter.Chain
import DexAdapter.OneDex.Fields

/-!
# The adapter over time

A `World` is the chain, the index that follows it, and for each provider the pair list of its
contract with the copies that the cache warmer and the requests take of it. `World.Step` is what can
happen, in any order: a round is produced, documents are indexed, a pair is created or removed, the
lp token of a pair is issued, its fee is set, a copy of the pairs is read, is stored in the cache,
or expires. A request is `World.env`, the environment of a moment; what it changes is the cache it
fills (`World.afterRequest`).

The entries of the contracts change, but not in what the events of the past read of them
(`World.Later.entries`).
-/

namespace DexAdapter

/-- What does not change: packages, configuration, and tokens, which are always found. -/
structure Deployment where
  sdk : Sdk
  locale : LocaleCompare
  apiConfigService : ApiConfigService
  token : String → Token
  cachedPairFeePercent : String → Option Float
  getTotalFeePercent : String → Result (Option Nat)
  getContractDeployInfo : String → ContractDeployInfo

/-- An index that answers for its contents, events in their order. -/
structure Elastic where
  contents : Indices
  service : ElasticService
  serves : service.Serves contents
  fixedOrder : service.FixedOrder contents.events

structure World (d : Deployment) where
  chain : Chain
  elastic : Elastic
  within : elastic.contents.Within chain.toIndices
  /-- the pairs that the router has created, those that it has removed too -/
  created : List PairContractMetadata
  /-- the pairs of the router -/
  xExchange : CachedList PairContractMetadata
  /-- the pairs of the OneDex contract -/
  oneDex : CachedList OneDexRawPair

namespace World

variable {d : Deployment}

/-- What a request reads at this moment. -/
def env (w : World d) : Env where
  sdk := d.sdk
  locale := d.locale
  apiConfigService := d.apiConfigService
  elasticService := w.elastic.service
  cachedPairsMetadata := w.xExchange.cache.map fun entries =>
    entries.map (XExchangeService.toPairMetadata d.apiConfigService)
  cachedOneDexPairsMetadata := w.oneDex.cache
  getAllPairContractMetadata := .ok (some w.xExchange.list)
  oneDexContractPairs := .ok w.oneDex.list
  getToken identifier := .ok (some (d.token identifier))
  cachedPairFeePercent := d.cachedPairFeePercent
  getTotalFeePercent := d.getTotalFeePercent
  getContractDeployInfo := d.getContractDeployInfo

end World

/-! ## Pairs -/

namespace Deployment

variable (d : Deployment)

def xExchangePair (entry : PairContractMetadata) : XExchangePair :=
  let metadata := XExchangeService.toPairMetadata d.apiConfigService entry
  { metadata with
    firstTokenDecimals := (d.token metadata.firstTokenId).decimals
    secondTokenDecimals := (d.token metadata.secondTokenId).decimals }

def oneDexPair (rawPair : OneDexRawPair) : OneDexPair where
  id := rawPair.pair_id
  address := d.apiConfigService.oneDexSwapAddress ++ "-" ++ rawPair.lp_token_id
  lpTokenId := rawPair.lp_token_id
  lpTokenDecimals := rawPair.lp_token_decimal
  firstTokenId := rawPair.first_token_id
  firstTokenDecimals := (d.token rawPair.first_token_id).decimals
  secondTokenId := rawPair.second_token_id
  secondTokenDecimals := (d.token rawPair.second_token_id).decimals
  pairFeePercent := rawPair.total_fee_percentage

end Deployment

/-- The entry as events read it. -/
def OneDexRawPair.forEvents (rawPair : OneDexRawPair) : OneDexRawPair :=
  { rawPair with lp_token_decimal := 0, total_fee_percentage := 0 }

theorem Deployment.map_oneDexPair_forEvents (d : Deployment) (rawPairs : List OneDexRawPair) :
    (rawPairs.map d.oneDexPair).map OneDexPair.forEvents =
      (rawPairs.map OneDexRawPair.forEvents).map d.oneDexPair := by
  rw [List.map_map, List.map_map]
  rfl

/-- Entries of both contracts. -/
@[ext] structure PairEntries where
  pairs : List PairContractMetadata
  rawPairs : List OneDexRawPair

namespace World

variable {d : Deployment}

/-- The document is of the OneDex contract and names the pair. -/
def Names (w : World d) (e : ElasticEvent) (rawPair : OneDexRawPair) : Prop :=
  e.address = d.apiConfigService.oneDexSwapAddress ∧
    OneDexService.NamesPair w.env e (d.oneDexPair rawPair)

instance (w : World d) (e : ElasticEvent) (rawPair : OneDexRawPair) :
    Decidable (w.Names e rawPair) :=
  inferInstanceAs (Decidable (_ ∧ _))

/-- The entries that an event names, in their order, as events read them. -/
def namedBy (w : World d) (e : ElasticEvent) (entries : PairEntries) : PairEntries where
  pairs := entries.pairs.filter fun entry => entry.address == e.address
  rawPairs := (entries.rawPairs.map OneDexRawPair.forEvents).filter fun rawPair =>
    decide (w.Names e rawPair)

/-- The copies that a request works with. -/
def used (w : World d) : PairEntries where
  pairs := w.xExchange.used
  rawPairs := w.oneDex.used

/-- All pairs of the two contracts. The OneDex contract removes none. -/
def registered (w : World d) : PairEntries where
  pairs := w.created
  rawPairs := w.oneDex.list

theorem getPairs_xExchange (w : World d) :
    XExchangeService.getPairs w.env = .ok (w.xExchange.used.map d.xExchangePair) := by
  have hmetadata : XExchangeService.getPairsMetadata w.env = .ok (w.xExchange.used.map
      (XExchangeService.toPairMetadata d.apiConfigService)) := by
    unfold XExchangeService.getPairsMetadata CachedList.used World.env
    cases w.xExchange.cache <;> rfl
  rw [XExchangeService.getPairs, hmetadata, Collect.ok_bind, Collect.collect_map]
  exact Collect.collect_eq_map fun _ _ => rfl

theorem getPairs_oneDex (w : World d) :
    OneDexService.getPairs w.env = .ok (w.oneDex.used.map d.oneDexPair) := by
  have hmetadata : OneDexService.getPairsMetadata w.env = .ok w.oneDex.used := by
    unfold OneDexService.getPairsMetadata CachedList.used World.env
    cases w.oneDex.cache <;> rfl
  rw [OneDexService.getPairs, hmetadata, Collect.ok_bind]
  exact Collect.collect_eq_map fun _ _ => rfl

/-- The pairs that a request works with: those of the copies in use. -/
def snapshot (w : World d) : Snapshot w.env where
  xPairs := w.xExchange.used.map d.xExchangePair
  xPairs_eq := w.getPairs_xExchange
  oPairs := w.oneDex.used.map d.oneDexPair
  oPairs_eq := w.getPairs_oneDex

/-! ## Steps -/

/-- `issueLpToken` of the OneDex contract. -/
def issueLpToken (pair_id : Nat) (lp_token_id : String) (lp_token_decimal : Nat)
    (rawPair : OneDexRawPair) : OneDexRawPair :=
  if rawPair.pair_id = pair_id then
    { rawPair with lp_token_id := lp_token_id, lp_token_decimal := lp_token_decimal }
  else rawPair

/-- `setPairFee` of the OneDex contract. -/
def setPairFee (pair_id total_fee_percentage : Nat) (rawPair : OneDexRawPair) : OneDexRawPair :=
  if rawPair.pair_id = pair_id then { rawPair with total_fee_percentage := total_fee_percentage }
  else rawPair

/-- A pair is created before anything names it. A OneDex pair has no lp token then; the token is
issued before the first deposit mints it, so before any event names the pair by its number or by
its token. -/
inductive Step (w : World d) : World d → Prop where
  | produce (p : Production w.chain) :
      Step w { w with chain := w.chain.produce p, within := w.within.produce p }
  | index (elastic : Elastic) (hgrows : w.elastic.contents.Grows elastic.contents)
      (hwithin : elastic.contents.Within w.chain.toIndices) :
      Step w { w with elastic := elastic, within := hwithin }
  | createPair (entry : PairContractMetadata)
      (hnew : ∀ e ∈ w.chain.events, e.address ≠ entry.address) :
      Step w { w with
        created := w.created ++ [entry]
        xExchange := w.xExchange.change (w.xExchange.list ++ [entry]) }
  | removePair (entry : PairContractMetadata) :
      Step w { w with xExchange := w.xExchange.change (w.xExchange.list.erase entry) }
  | createOneDexPair (rawPair : OneDexRawPair) (hunissued : rawPair.lp_token_id = "")
      (hnew : ∀ e ∈ w.chain.events, ¬ w.Names e rawPair) :
      Step w { w with oneDex := w.oneDex.change (w.oneDex.list ++ [rawPair]) }
  | issueLpToken (pair_id : Nat) (lp_token_id : String) (lp_token_decimal : Nat)
      (hnew : ∀ e ∈ w.chain.events, ∀ rawPair ∈ w.oneDex.list, rawPair.pair_id = pair_id →
        ¬ w.Names e rawPair ∧
          ¬ w.Names e (World.issueLpToken pair_id lp_token_id lp_token_decimal rawPair)) :
      Step w { w with
        oneDex := w.oneDex.change
          (w.oneDex.list.map (World.issueLpToken pair_id lp_token_id lp_token_decimal)) }
  | setPairFee (pair_id total_fee_percentage : Nat) :
      Step w { w with
        oneDex := w.oneDex.change
          (w.oneDex.list.map (World.setPairFee pair_id total_fee_percentage)) }
  | refresh {c : CachedList PairContractMetadata} (h : w.xExchange.Refresh c) :
      Step w { w with xExchange := c }
  | refreshOneDex {c : CachedList OneDexRawPair} (h : w.oneDex.Refresh c) :
      Step w { w with oneDex := c }

abbrev Steps : World d → World d → Prop := Relation.ReflTransGen Step

/-- Nothing has happened. -/
structure Initial (w : World d) : Prop where
  chain : w.chain = .empty
  created : w.created = []
  xExchange : w.xExchange = .empty
  oneDex : w.oneDex = .empty

def Reachable (w : World d) : Prop := ∃ w₀, Initial w₀ ∧ Steps w₀ w

/-! ## What the code does to the caches -/

/-- `cacheService.set` of the metadata that the router returns. -/
def warmPairsMetadata (w : World d) : World d := { w with xExchange := w.xExchange.refreshed }

def warmOneDexPairsMetadata (w : World d) : World d := { w with oneDex := w.oneDex.refreshed }

/-- The two `cacheService.getOrSet` of a request. -/
def afterRequest (w : World d) : World d :=
  { w with xExchange := w.xExchange.filled, oneDex := w.oneDex.filled }

theorem steps_refresh (w : World d) {c : CachedList PairContractMetadata}
    (h : Relation.ReflTransGen CachedList.Refresh w.xExchange c) :
    Steps w { w with xExchange := c } := by
  induction h with
  | refl => exact .refl
  | tail _ hrefresh ih => exact ih.tail (.refresh hrefresh)

theorem steps_refreshOneDex (w : World d) {c : CachedList OneDexRawPair}
    (h : Relation.ReflTransGen CachedList.Refresh w.oneDex c) :
    Steps w { w with oneDex := c } := by
  induction h with
  | refl => exact .refl
  | tail _ hrefresh ih => exact ih.tail (.refreshOneDex hrefresh)

theorem steps_warmPairsMetadata (w : World d) : Steps w w.warmPairsMetadata :=
  w.steps_refresh w.xExchange.refreshes_refreshed

theorem steps_warmOneDexPairsMetadata (w : World d) : Steps w w.warmOneDexPairsMetadata :=
  w.steps_refreshOneDex w.oneDex.refreshes_refreshed

theorem steps_afterRequest (w : World d) : Steps w w.afterRequest :=
  (w.steps_refresh w.xExchange.refreshes_filled).trans
    (steps_refreshOneDex _ w.oneDex.refreshes_filled)

/-! ## What a run preserves -/

/-- `w'` has what `w` has, what it adds is later than all that happened before `w`, and the events
of `w` read the same of the pairs that they name. -/
structure Later (w w' : World d) : Prop where
  chain : w.chain.Later w'.chain
  index : w.elastic.contents.Grows w'.elastic.contents
  entries : ∀ e ∈ w.chain.events, w.namedBy e w.registered = w.namedBy e w'.registered

theorem Later.refl (w : World d) : w.Later w where
  chain := .refl _
  index := .refl _
  entries _ _ := rfl

theorem Later.trans {w₁ w₂ w₃ : World d} (h : w₁.Later w₂) (h' : w₂.Later w₃) : w₁.Later w₃ where
  chain := h.chain.trans h'.chain
  index := h.index.trans h'.index
  entries e he := (h.entries e he).trans (h'.entries e (h.chain.events he))

theorem namedBy_createPair {w : World d} {e : ElasticEvent} {entry : PairContractMetadata}
    (hnew : e.address ≠ entry.address) (entries : PairEntries) :
    w.namedBy e { entries with pairs := entries.pairs ++ [entry] } = w.namedBy e entries := by
  have hpairs := List.filter_append_singleton (l := entries.pairs) (x := entry)
    (q := fun entry => entry.address == e.address) (by simpa using hnew.symm)
  exact PairEntries.ext hpairs rfl

theorem namedBy_createOneDexPair {w : World d} {e : ElasticEvent} {rawPair : OneDexRawPair}
    (hnew : ¬ w.Names e rawPair) (entries : PairEntries) :
    w.namedBy e { entries with rawPairs := entries.rawPairs ++ [rawPair] } =
      w.namedBy e entries := by
  refine PairEntries.ext rfl ?_
  show ((entries.rawPairs ++ [rawPair]).map OneDexRawPair.forEvents).filter _ = _
  rw [List.map_append]
  exact List.filter_append_singleton (decide_eq_false hnew)

/-- A change of an entry that events do not read, or that no event reads yet, is not seen. -/
theorem namedBy_update {w : World d} {e : ElasticEvent} {entries : PairEntries}
    {update : OneDexRawPair → OneDexRawPair}
    (h : ∀ rawPair ∈ entries.rawPairs, (update rawPair).forEvents = rawPair.forEvents ∨
      (¬ w.Names e rawPair ∧ ¬ w.Names e (update rawPair))) :
    w.namedBy e { entries with rawPairs := entries.rawPairs.map update } =
      w.namedBy e entries := by
  refine PairEntries.ext rfl (List.filter_view_update fun rawPair hrawPair => ?_)
  exact (h rawPair hrawPair).imp_right fun ⟨hbefore, hafter⟩ =>
    ⟨decide_eq_false hbefore, decide_eq_false hafter⟩

theorem Step.later {w w' : World d} (h : Step w w') : w.Later w' := by
  have hrefl := Later.refl w
  cases h with
  | produce p => exact { hrefl with chain := w.chain.later_produce p }
  | index elastic hgrows hwithin => exact { hrefl with index := hgrows }
  | createPair entry hnew =>
    exact { hrefl with
      entries := fun e he => (namedBy_createPair (hnew e he) w.registered).symm }
  | removePair entry => exact { hrefl with }
  | createOneDexPair rawPair hunissued hnew =>
    exact { hrefl with
      entries := fun e he => (namedBy_createOneDexPair (hnew e he) w.registered).symm }
  | issueLpToken pair_id lp_token_id lp_token_decimal hnew =>
    refine { hrefl with entries := fun e he => (namedBy_update fun rawPair hrawPair => ?_).symm }
    by_cases hid : rawPair.pair_id = pair_id
    · exact Or.inr (hnew e he rawPair hrawPair hid)
    · exact Or.inl (by rw [World.issueLpToken, if_neg hid])
  | setPairFee pair_id total_fee_percentage =>
    refine { hrefl with entries := fun e he => (namedBy_update fun rawPair _ => Or.inl ?_).symm }
    rw [World.setPairFee]
    split <;> rfl
  | refresh hrefresh => exact { hrefl with }
  | refreshOneDex hrefresh =>
    refine { hrefl with entries := fun e _ => ?_ }
    show _ = w.namedBy e { w.registered with rawPairs := _ }
    rw [hrefresh.list_eq]
    rfl

theorem Steps.later {w w' : World d} (h : Steps w w') : w.Later w' := by
  induction h with
  | refl => exact .refl w
  | tail _ hstep ih => exact ih.trans hstep.later

end World

end DexAdapter
