import Mathlib.Data.List.Find
import DexAdapter.Verify.Contribution
import DexAdapter.Verify.Numbering
import DexAdapter.Verify.Pairs

/-!
# Does `/pair` resolve the pair of an event?

An event finds its pair by address, by number or by lp token; `/pair` finds it by the id that the
event reports, as the first match of the first provider that has one. For an xExchange pair both
are its address. For a OneDex pair the id is composed of the contract's address and the lp token,
which is empty until it is issued, so `/pair` may answer with another pair. `pairsResolve_iff` says
when it does not: exactly when every reported OneDex pair is the first with its lp token.
-/

namespace DexAdapter

open Collect DataIntegrationService ResponseEvent

/-! ## Pairs of both providers -/

/-- A pair of one of the providers. -/
inductive DexPair where
  | xExchange (pair : XExchangePair)
  | oneDex (pair : OneDexPair)
  deriving DecidableEq, Repr

namespace DexPair

def id : DexPair → String
  | xExchange pair => pair.address
  | oneDex pair => pair.address

def dexKey : DexPair → String
  | xExchange _ => XExchangeService.getProviderName
  | oneDex _ => OneDexService.getProviderName

def asset0Id : DexPair → String
  | xExchange pair => pair.firstTokenId
  | oneDex pair => pair.firstTokenId

def asset1Id : DexPair → String
  | xExchange pair => pair.secondTokenId
  | oneDex pair => pair.secondTokenId

end DexPair

/-- What a `/pair` response says of a pair. -/
structure Pair.Describes (response : Pair) (p : DexPair) : Prop where
  id : response.id = p.id
  dexKey : response.dexKey = p.dexKey
  asset0Id : response.asset0Id = p.asset0Id
  asset1Id : response.asset1Id = p.asset1Id

def XExchangeService.pairOf : Event → XExchangePair
  | .swap event => event.pair
  | .liquidity event => event.pair

def OneDexService.pairOf : Event → OneDexPair
  | .swap event => swapPair event
  | .liquidity event => liquidityPair event

namespace Snapshot

variable {env : Env} (s : Snapshot env)

/-- The document is converted to this event with the decimals of this pair. -/
inductive ConvertedWith : Dex × ElasticEvent → DexEvent → DexPair → Prop where
  | xExchange {e : ElasticEvent} {event : XExchangeService.Event}
      (h : XExchangeService.decodeRaw env s.xPairs e = .ok (some event)) :
      ConvertedWith (.xExchange, e) (convert (xExchangeService env) event)
        (.xExchange (XExchangeService.pairOf event))
  | oneDex {e : ElasticEvent} {event : OneDexService.Event}
      (h : OneDexService.decodeRaw env s.oPairs e = .ok (some event)) :
      ConvertedWith (.oneDex, e) (convert (oneDexService env) event)
        (.oneDex (OneDexService.pairOf event))

/-- The pair that the loop over the providers finds for an identifier. -/
inductive Finds (identifier : String) : DexPair → Prop where
  | xExchange {pair : XExchangePair}
      (h : s.xPairs.find? (fun p => p.address == identifier) = some pair) :
      Finds identifier (.xExchange pair)
  | oneDex {pair : OneDexPair} (hx : s.xPairs.find? (fun p => p.address == identifier) = none)
      (h : s.oPairs.find? (fun p => p.address == identifier) = some pair) :
      Finds identifier (.oneDex pair)

variable {s}

theorem Finds.unique {identifier : String} {p p' : DexPair} (h : s.Finds identifier p)
    (h' : s.Finds identifier p') : p = p' := by
  cases h with
  | xExchange h =>
    cases h' with
    | xExchange h' => rw [Option.some.inj (h.symm.trans h')]
    | oneDex hx' _ => cases h.symm.trans hx'
  | oneDex hx h =>
    cases h' with
    | xExchange h' => cases h'.symm.trans hx
    | oneDex _ h' => rw [Option.some.inj (h.symm.trans h')]

/-- `/pair` answers from the pair it finds. -/
theorem Finds.getPair {identifier : String} {p : DexPair} (h : s.Finds identifier p)
    (hfee : Succeeds (XExchangeService.getPairFeePercent env identifier)) :
    ∃ response, getPair env identifier = .ok response ∧ response.id = identifier ∧
      response.Describes p := by
  cases h with
  | xExchange h =>
    obtain ⟨response, hresponse, hdescribes⟩ :=
      XExchangeService.getPair_of_found s.xPairs_eq h hfee
    refine ⟨response, ?_, ?_, hdescribes.id, hdescribes.dexKey, hdescribes.asset0Id,
      hdescribes.asset1Id⟩
    · show (XExchangeService.getPair env identifier >>= _) = _
      rw [hresponse]
      rfl
    · rw [hdescribes.id]
      simpa using List.find?_some h
  | @oneDex pair hx h =>
    refine ⟨OneDexService.pairResponse pair, ?_, ?_, rfl, rfl, rfl, rfl⟩
    · show (XExchangeService.getPair env identifier >>= _) = _
      rw [XExchangeService.getPair_of_not_found s.xPairs_eq hx]
      show (OneDexService.getPair env identifier >>= _) = _
      rw [OneDexService.getPair_of_found s.oPairs_eq h]
      rfl
    · show pair.address = identifier
      simpa using List.find?_some h

/-! ## The pair of a document -/

theorem Decodes.convertedWith {d : Dex × ElasticEvent} {timestamp : JsNumber} {event : DexEvent}
    (h : s.Decodes d timestamp event) : ∃ p, s.ConvertedWith d event p := by
  cases h with
  | xExchange h => exact ⟨_, .xExchange h⟩
  | oneDex h => exact ⟨_, .oneDex h⟩

/-- A OneDex pair's address is composed of the contract's address and its lp token. -/
theorem address_eq {pair : OneDexPair} (h : pair ∈ s.oPairs) :
    pair.address = OneDexService.pairAddress env pair.lpTokenId := by
  have hpairs := s.oPairs_eq
  obtain ⟨rawPairs, -, hcollect⟩ := bind_eq_ok.1 hpairs
  obtain ⟨hsucceeds, hpushed⟩ := collect_eq_ok_iff.1 hcollect
  rw [hpushed] at h
  obtain ⟨rawPair, hraw, hpair⟩ := List.mem_filterMap.1 h
  have htoPair := (hsucceeds rawPair hraw).eq_pushed
  rw [hpair] at htoPair
  obtain ⟨first, second, -, -, rfl⟩ := OneDexService.toPair_eq_some.1 htoPair
  rfl

/-- An event of a pair's address reports the address, and `/pair` finds the same pair by it. -/
theorem ConvertedWith.finds_xExchange {d : Dex × ElasticEvent} {event : DexEvent}
    {p : XExchangePair} (h : s.ConvertedWith d event (.xExchange p)) :
    s.Finds event.fields.pairId (.xExchange p) := by
  generalize hp : DexPair.xExchange p = p' at h
  cases h with
  | oneDex h => cases hp
  | @xExchange e event h =>
    obtain rfl := DexPair.xExchange.inj hp
    obtain ⟨pair, hfind, ⟨swapEvent, rfl, hnew⟩ | ⟨eventType, liquidityEvent, rfl, hnew⟩⟩ :=
      XExchangeService.of_decodeRaw h
    · obtain ⟨-, -, -, haddress, rfl⟩ := XExchangeSwapEvent.of_new hnew
      obtain ⟨-, -, -, -, hpairId⟩ := swapEventOf_keys env.sdk.bigNumber _
      refine .xExchange ?_
      rw [show (convert (xExchangeService env) (.swap swapEvent)).fields.pairId = e.address from
        hpairId.trans haddress]
      exact hfind
    · obtain ⟨-, -, -, haddress, rfl⟩ := XExchangeLiquidityEvent.of_newSubclass hnew
      refine .xExchange ?_
      rw [show (convert (xExchangeService env) (.liquidity liquidityEvent)).fields.pairId =
        e.address from haddress]
      exact hfind

/-- A OneDex event reports the address of a pair of the list. -/
theorem ConvertedWith.of_oneDex {d : Dex × ElasticEvent} {event : DexEvent} {p : OneDexPair}
    (h : s.ConvertedWith d event (.oneDex p)) :
    event.fields.pairId = p.address ∧ p ∈ s.oPairs := by
  generalize hp : DexPair.oneDex p = p' at h
  cases h with
  | xExchange h => cases hp
  | @oneDex e event h =>
    obtain rfl := DexPair.oneDex.inj hp
    have hmem : ∀ {o : Option OneDexPair} {q : OneDexPair → Bool} (hsome : o.isSome = true),
        o = s.oPairs.find? q → o.get hsome ∈ s.oPairs := by
      rintro o q hsome rfl
      exact List.mem_of_find?_eq_some (Option.some_get hsome).symm
    rcases OneDexService.class_of_decodeRaw h with hclass | ⟨hnone, -⟩
    · generalize hev : some event = ev at hclass
      cases hclass with
      | swap hinitial hnew =>
        obtain ⟨hpair, rfl⟩ := OneDexService.keepSwap_eq_some hev.symm
        obtain ⟨-, -, -, -, hpairId⟩ := swapEventOf_keys env.sdk.bigNumber _
        exact ⟨hpairId, hmem hpair (OneDexSwapEvent.of_new hnew).2.2.2⟩
      | initial hinitial hnew =>
        obtain ⟨hpair, rfl⟩ := OneDexService.keepLiquidity_eq_some hev.symm
        obtain ⟨-, -, -, lpTokenId, -, hfind⟩ := OneDexAddInitialLiquidityEvent.of_new hnew
        exact ⟨rfl, hmem hpair hfind⟩
      | liquidity hinitial hnew =>
        obtain ⟨hpair, rfl⟩ := OneDexService.keepLiquidity_eq_some hev.symm
        exact ⟨rfl, hmem hpair (OneDexLiquidityEvent.of_new hnew).2.2.2⟩
    · cases hnone

/-- A OneDex pair is found by its address exactly when it is the first with its lp token: an
address of xExchange has no dash. -/
theorem finds_oneDex_iff (hbech32 : ∀ p ∈ s.xPairs, '-' ∉ p.address.toList) {p : OneDexPair}
    (hp : p ∈ s.oPairs) :
    s.Finds p.address (.oneDex p) ↔
      s.oPairs.find? (fun q => q.lpTokenId == p.lpTokenId) = some p := by
  have hdash : '-' ∈ p.address.toList := by
    rw [address_eq hp, OneDexService.pairAddress]
    simp
  have hx : s.xPairs.find? (fun q => q.address == p.address) = none := by
    refine List.find?_eq_none.2 fun q hq heq => hbech32 q hq ?_
    rw [beq_iff_eq.1 heq]
    exact hdash
  have hkeys : s.oPairs.find? (fun q => q.address == p.address) =
      s.oPairs.find? fun q => q.lpTokenId == p.lpTokenId := by
    refine List.find?_congr fun q hq => Bool.eq_iff_iff.2 ?_
    rw [beq_iff_eq, beq_iff_eq, address_eq hq, address_eq hp]
    exact String.append_right_inj _
  constructor
  · intro h
    cases h with
    | oneDex _ h => exact hkeys.symm.trans h
  · intro h
    exact .oneDex hx (hkeys.trans h)

end Snapshot

/-! ## Published events -/

namespace ResponseEvent

/-- An event up to its maker and its index in the response. -/
def core (e : ResponseEvent) : ResponseEvent := (e.setMaker "").setTxnIndex 0

theorem core_setTxnIndex (i : Nat) (e : ResponseEvent) : (e.setTxnIndex i).core = e.core := by
  rcases e with ⟨block, event | event⟩ <;> rfl

theorem core_setMaker (maker : String) (e : ResponseEvent) : (e.setMaker maker).core = e.core := by
  rcases e with ⟨block, event | event⟩ <;> rfl

theorem pairId_core (e : ResponseEvent) : e.core.pairId = e.pairId := by
  rcases e with ⟨block, event | event⟩ <;> rfl

end ResponseEvent

namespace Request

variable {env : Env} {fromBlock toBlock : Int} (r : Request env fromBlock toBlock)

/-- The published event is the conversion of a reported document with this pair. -/
def Converted (re : ResponseEvent) (p : DexPair) : Prop :=
  ∃ d ∈ r.occurrences, ∃ timestamp round event, r.Kept d timestamp round event ∧
    r.ConvertedWith d event p ∧
    re.core = core { block := Block.fromElasticRound round true, event := event }

/-- Every reported OneDex pair is the first of the list with its lp token. -/
def FirstWithLpToken : Prop :=
  ∀ d ∈ r.occurrences, ∀ timestamp round event p, r.Kept d timestamp round event →
    r.ConvertedWith d event (.oneDex p) →
      r.oPairs.find? (fun q => q.lpTokenId == p.lpTokenId) = some p

theorem Converted.pairId {r : Request env fromBlock toBlock} {re : ResponseEvent} {p : DexPair}
    (h : r.Converted re p) :
    ∃ d ∈ r.occurrences, ∃ timestamp round event, r.Kept d timestamp round event ∧
      r.ConvertedWith d event p ∧ re.pairId = event.fields.pairId := by
  obtain ⟨d, hd, timestamp, round, event, hkept, hconverted, hcore⟩ := h
  refine ⟨d, hd, timestamp, round, event, hkept, hconverted, ?_⟩
  rw [← pairId_core, hcore, pairId_core]
  rfl

end Request

/-- Every event of a response is resolved by `/pair` to the pair it was converted with, so events
of different pairs have different ids. -/
structure PairsResolve (env : Env) (fromBlock toBlock : Int) (events : List ResponseEvent) :
    Prop where
  resolves : ∀ r : Request env fromBlock toBlock, ∀ re ∈ events, ∀ p, r.Converted re p →
    r.Finds re.pairId p ∧ ∃ response, getPair env re.pairId = .ok response ∧
      response.id = re.pairId ∧ response.Describes p
  injective : ∀ r : Request env fromBlock toBlock, ∀ re ∈ events, ∀ re' ∈ events, ∀ p p',
    r.Converted re p → r.Converted re' p' → re.pairId = re'.pairId → p = p'

/-- `/pair` finds the pair of an event only if it is the first with its lp token. -/
theorem PairsResolve.firstWithLpToken {env : Env} {fromBlock toBlock : Int}
    {events : List ResponseEvent} (hresolve : PairsResolve env fromBlock toBlock events)
    (h : getEvents env fromBlock toBlock = .ok events)
    (hbech32 : ∀ s : Snapshot env, ∀ p ∈ s.xPairs, '-' ∉ p.address.toList)
    (r : Request env fromBlock toBlock) : r.FirstWithLpToken := by
  intro d hd timestamp round event p hkept hconverted
  obtain ⟨hpairId, hp⟩ := hconverted.of_oneDex
  have hevents := r.getEvents_of_decodable (r.succeeds_getEvents.1 ⟨events, h⟩)
  rw [h, Except.ok.injEq] at hevents
  -- the document has an event in the response
  obtain ⟨re, hre, hcore⟩ : ∃ re ∈ events, re.core =
      core { block := Block.fromElasticRound round true, event := event } := by
    refine List.mem_map.1 ?_
    rw [hevents, (publish_map_perm core_setTxnIndex core_setMaker r.reported).mem_iff]
    exact List.mem_map_of_mem (List.mem_filterMap.2 ⟨d, hd, hkept.pushed_eq⟩)
  obtain ⟨hfinds, -⟩ := hresolve.resolves r re hre (.oneDex p)
    ⟨d, hd, timestamp, round, event, hkept, hconverted, hcore⟩
  rw [← pairId_core, hcore, pairId_core] at hfinds
  rw [← Snapshot.finds_oneDex_iff (hbech32 r.toSnapshot) hp, ← hpairId]
  exact hfinds

/-- **When `/events` and `/pair` agree.** -/
theorem pairsResolve_iff {env : Env} {fromBlock toBlock : Int} {events : List ResponseEvent}
    (h : getEvents env fromBlock toBlock = .ok events)
    (hbech32 : ∀ s : Snapshot env, ∀ p ∈ s.xPairs, '-' ∉ p.address.toList)
    (hfee : ∀ address, Succeeds (XExchangeService.getPairFeePercent env address)) :
    PairsResolve env fromBlock toBlock events ↔
      ∀ r : Request env fromBlock toBlock, r.FirstWithLpToken := by
  constructor
  · intro hresolve r
    exact hresolve.firstWithLpToken h hbech32 r
  · intro hfirst
    have hfinds : ∀ r : Request env fromBlock toBlock, ∀ re p, r.Converted re p →
        r.Finds re.pairId p := by
      intro r re p hconverted
      obtain ⟨d, hd, timestamp, round, event, hkept, hconverted, hpairId⟩ := hconverted.pairId
      rw [hpairId]
      cases p with
      | xExchange p => exact hconverted.finds_xExchange
      | oneDex p =>
        obtain ⟨hpairId, hp⟩ := hconverted.of_oneDex
        rw [hpairId, Snapshot.finds_oneDex_iff (hbech32 r.toSnapshot) hp]
        exact hfirst r d hd timestamp round event p hkept hconverted
    refine ⟨fun r re hre p hconverted => ?_, fun r re hre re' hre' p p' h h' heq => ?_⟩
    · exact ⟨hfinds r re p hconverted, (hfinds r re p hconverted).getPair (hfee _)⟩
    · have hp := hfinds r re p h
      rw [heq] at hp
      exact hp.unique (hfinds r re' p' h')

section Unissued

open Reference

def unissuedRequest : Request unissuedEnv 10 10 :=
  request unissued [] unissuedPairs 10 10 (by decide +kernel)

/-- The swap is reported, with the second pair of the list. -/
theorem unissuedSwap_converted :
    ∃ timestamp round event p, unissuedRequest.Kept (.oneDex, unissuedSwap) timestamp round event ∧
      unissuedRequest.ConvertedWith (.oneDex, unissuedSwap) event (.oneDex p) ∧ p.id = 2 := by
  have hreport : (unissuedRequest.report (.oneDex, unissuedSwap)).toOption.join.isSome = true := by
    decide +kernel
  have hpair : (OneDexService.decodeRaw unissuedEnv unissuedRequest.oPairs
      unissuedSwap).toOption.join.map (fun event => (OneDexService.pairOf event).id) = some 2 := by
    decide +kernel
  obtain ⟨re, hre⟩ := Option.isSome_iff_exists.1 hreport
  obtain ⟨timestamp, round, event, hkept, -⟩ := Lookups.report_eq_some_iff.1
    (eq_ok_of_toOption (Option.join_eq_some_iff.1 hre))
  obtain ⟨p, hconverted⟩ := hkept.decodes.convertedWith
  cases hconverted with
  | oneDex h =>
    rw [h] at hpair
    exact ⟨timestamp, round, _, _, hkept, .oneDex h, Option.some.inj hpair⟩

theorem unissued_decodable : unissuedRequest.Decodable := by
  obtain ⟨timestamp, round, event, p, hkept, -⟩ := unissuedSwap_converted
  rintro ⟨dex, e⟩ hd hsearched
  rw [Request.mem_occurrences, unissuedRequest.mem_raw (elasticService_serves unissued)] at hd
  obtain rfl := List.mem_singleton.1 hd.1
  cases dex with
  | xExchange => cases hsearched
  | oneDex => exact hkept.constructs

/-- Two pairs without an lp token, and a swap in the second. -/
theorem unissued_not_resolved :
    (unissuedPairs.map fun p => p.pair_id).Nodup ∧
      ∃ events, getEvents unissuedEnv 10 10 = .ok events ∧
        ¬ PairsResolve unissuedEnv 10 10 events := by
  refine ⟨by decide, _, unissuedRequest.getEvents_of_decodable unissued_decodable,
    fun hresolve => ?_⟩
  obtain ⟨timestamp, round, event, p, hkept, hconverted, hid⟩ := unissuedSwap_converted
  have hbech32 : ∀ s : Snapshot unissuedEnv, ∀ p ∈ s.xPairs, '-' ∉ p.address.toList := by
    intro s p hp
    rw [s.eq_of_env unissuedRequest.toSnapshot] at hp
    cases hp
  have hmem : (Dex.oneDex, unissuedSwap) ∈ unissuedRequest.occurrences := by
    rw [Request.mem_occurrences, unissuedRequest.mem_raw_of_isSearched
      (elasticService_serves unissued) hkept.searched]
    exact ⟨List.mem_cons_self, by decide +kernel⟩
  have hfirst := hresolve.firstWithLpToken
    (unissuedRequest.getEvents_of_decodable unissued_decodable) hbech32 unissuedRequest _ hmem
    timestamp round event p hkept hconverted
  have hpairs : ∀ q ∈ unissuedRequest.oPairs, q.lpTokenId = "" := by decide +kernel
  rw [hpairs p hconverted.of_oneDex.2] at hfirst
  have hid' : (unissuedRequest.oPairs.find? fun q => q.lpTokenId == "").map (fun q => q.id) =
      some 1 := by
    decide +kernel
  rw [hfirst, Option.map_some, hid] at hid'
  cases hid'

theorem pairsResolve_iff_market :
    ∃ events, getEvents marketEnv 10 11 = .ok events ∧ (PairsResolve marketEnv 10 11 events ↔
      ∀ r : Request marketEnv 10 11, r.FirstWithLpToken) := by
  obtain ⟨r, hdecodable⟩ := marketEnv_decodable
  have hevents := r.getEvents_of_decodable hdecodable
  have hbech32 : ∀ s : Snapshot marketEnv, ∀ p ∈ s.xPairs, '-' ∉ p.address.toList := by
    intro s
    rw [s.eq_of_env (request market [routerEntry] [oneDexPair 1 "WEGLD-bd4d79" "LP-1"] 10 11
      (by decide +kernel)).toSnapshot]
    decide +kernel
  exact ⟨_, hevents, pairsResolve_iff hevents hbech32 fun _ => succeeds_ok _⟩

end Unissued

end DexAdapter
