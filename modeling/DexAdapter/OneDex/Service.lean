import DexAdapter.OneDex.Events

/-!
# `OneDexService`

Pairs of the one OneDex contract, its events and their conversion. `getEvents` keeps an event only
when its class found a pair, so the events it returns carry that fact (`WithPair`) and the
conversions read the pair without a check.
-/

namespace DexAdapter

open Collect

/-- An event whose class found a pair. -/
abbrev OneDexSwapEvent.WithPair := { event : OneDexSwapEvent // event.pair.isSome = true }
abbrev OneDexLiquidityEvent.WithPair := { event : OneDexLiquidityEvent // event.pair.isSome = true }

namespace OneDexService

def getProviderName : String := "OneDex"

section

variable (env : Env)

/-- `cacheService.getOrSet`: the cached metadata, or the contract's pages. -/
def getPairsMetadata : Result (List OneDexRawPair) :=
  match env.cachedOneDexPairsMetadata with
  | some pairsMetadata => .ok pairsMetadata
  | none => env.oneDexContractPairs

/-- `${this.swapAddress}-${rawPair.lp_token_id}` -/
def pairAddress (lp_token_id : String) : String :=
  env.apiConfigService.oneDexSwapAddress ++ "-" ++ lp_token_id

/-- The body of the loop of `getPairs`: a pair whose token is not found is skipped. -/
def toPair (rawPair : OneDexRawPair) : Result (Option OneDexPair) := do
  let firstToken ← env.getToken rawPair.first_token_id
  let secondToken ← env.getToken rawPair.second_token_id
  match firstToken, secondToken with
  | some firstToken, some secondToken =>
    pure (some
      { id := rawPair.pair_id
        address := pairAddress env rawPair.lp_token_id
        lpTokenId := rawPair.lp_token_id
        lpTokenDecimals := rawPair.lp_token_decimal
        firstTokenId := rawPair.first_token_id
        firstTokenDecimals := firstToken.decimals
        secondTokenId := rawPair.second_token_id
        secondTokenDecimals := secondToken.decimals
        pairFeePercent := rawPair.total_fee_percentage })
  | _, _ => pure none

def getPairs : Result (List OneDexPair) := do
  let rawPairs ← getPairsMetadata env
  collect (toPair env) rawPairs

def pairResponse (oneDexPair : OneDexPair) : Pair where
  id := oneDexPair.address
  dexKey := getProviderName
  asset0Id := oneDexPair.firstTokenId
  asset1Id := oneDexPair.secondTokenId
  feeBps := some (Float.ofNat oneDexPair.pairFeePercent)
  createdAtBlockNumber := none
  createdAtBlockTimestamp := none
  createdAtTxnId := none

def getPair (address : String) : Result (Option Pair) := do
  let oneDexPairs ← getPairs env
  match oneDexPairs.find? fun p => p.address == address with
  | none => pure none
  | some oneDexPair => pure (some (pairResponse oneDexPair))

def swapInputTopic : String := env.sdk.binaryUtils.stringToHex "SwapTokensFixedInputEvent"
def swapOutputTopic : String := env.sdk.binaryUtils.stringToHex "SwapTokensFixedOutputEvent"
def addInitialLiquidityTopic : String := env.sdk.binaryUtils.stringToHex "AddInitialLiquidityEvent"
def addLiquidityTopic : String := env.sdk.binaryUtils.stringToHex "AddLiquidityEvent"
def removeLiquidityTopic : String := env.sdk.binaryUtils.stringToHex "RemoveLiquidityEvent"

def eventNames : List String :=
  [swapInputTopic env, swapOutputTopic env, addInitialLiquidityTopic env, addLiquidityTopic env,
    removeLiquidityTopic env]

abbrev Event := ProviderEvent OneDexSwapEvent.WithPair OneDexLiquidityEvent.WithPair

/-- `if (event.pair) events.push(event)` -/
def keepSwap (event : OneDexSwapEvent) : Option Event :=
  if h : event.pair.isSome = true then some (.swap ⟨event, h⟩) else none

def keepLiquidity (event : OneDexLiquidityEvent) : Option Event :=
  if h : event.pair.isSome = true then some (.liquidity ⟨event, h⟩) else none

/-- The body of the loop of `getEvents`. -/
def decodeRaw (pairs : List OneDexPair) (event : ElasticEvent) : Result (Option Event) :=
  if event.topics.head? = some (swapInputTopic env) ∨
      event.topics.head? = some (swapOutputTopic env) then do
    let swapEvent ← OneDexSwapEvent.new env.sdk event pairs
    pure (keepSwap swapEvent)
  else if event.topics.head? = some (addInitialLiquidityTopic env) then do
    let addInitialLiquidityEvent ← OneDexAddInitialLiquidityEvent.new env.sdk event pairs
    pure (keepLiquidity addInitialLiquidityEvent)
  else if event.topics.head? = some (addLiquidityTopic env) then do
    let addLiquidityEvent ← OneDexAddLiquidityEvent.new env.sdk event pairs
    pure (keepLiquidity addLiquidityEvent)
  else if event.topics.head? = some (removeLiquidityTopic env) then do
    let removeLiquidityEvent ← OneDexRemoveLiquidityEvent.new env.sdk event pairs
    pure (keepLiquidity removeLiquidityEvent)
  else .ok none

def getEvents (before after : Nat) : Result (List Event) := do
  let pairs ← getPairs env
  let eventsRaw ← IndexerService.getEvents env.elasticService before after
    [env.apiConfigService.oneDexSwapAddress] (eventNames env)
  collect (decodeRaw env pairs) eventsRaw

def swapPair (event : OneDexSwapEvent.WithPair) : OneDexPair := event.val.pair.get event.property

def liquidityPair (event : OneDexLiquidityEvent.WithPair) : OneDexPair :=
  event.val.pair.get event.property

def fromSwapEvent (event : OneDexSwapEvent.WithPair) : SwapEvent :=
  swapEventOf env.sdk.bigNumber
    { firstTokenId := (swapPair event).firstTokenId
      firstTokenDecimals := (swapPair event).firstTokenDecimals
      secondTokenDecimals := (swapPair event).secondTokenDecimals
      tokenInId := event.val.tokenInId
      tokenInAmount := event.val.tokenInAmount
      tokenOutAmount := event.val.tokenOutAmount
      tokenInReserves := event.val.tokenInReserves
      tokenOutReserves := event.val.tokenOutReserves
      txHash := event.val.txHash
      txOrder := event.val.txOrder
      eventOrder := event.val.eventOrder
      caller := event.val.caller
      pairId := (swapPair event).address }

def fromAddRemoveLiquidityEvent (event : OneDexLiquidityEvent.WithPair) : JoinExitEvent :=
  joinExitEventOf env.sdk.bigNumber
    { type := event.val.type
      firstTokenDecimals := (liquidityPair event).firstTokenDecimals
      secondTokenDecimals := (liquidityPair event).secondTokenDecimals
      firstTokenAmount := event.val.firstTokenAmount
      secondTokenAmount := event.val.secondTokenAmount
      firstTokenReserves := event.val.firstTokenReserves
      secondTokenReserves := event.val.secondTokenReserves
      txHash := event.val.txHash
      txOrder := event.val.txOrder
      eventOrder := event.val.eventOrder
      caller := event.val.caller
      pairId := (liquidityPair event).address }

def general : Event → GeneralEvent
  | .swap event => event.val.toGeneralEvent
  | .liquidity event => event.val.toGeneralEvent

end

end OneDexService

/-- `OneDexService implements IProviderService`. -/
@[reducible] def oneDexService (env : Env) : IProviderService where
  SwapClass := OneDexSwapEvent.WithPair
  LiquidityClass := OneDexLiquidityEvent.WithPair
  getProviderName := OneDexService.getProviderName
  getPair := OneDexService.getPair env
  getEvents := OneDexService.getEvents env
  general := OneDexService.general
  fromSwapEvent := OneDexService.fromSwapEvent env
  fromAddRemoveLiquidityEvent := OneDexService.fromAddRemoveLiquidityEvent env

end DexAdapter
