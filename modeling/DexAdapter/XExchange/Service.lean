import DexAdapter.XExchange.Events

/-!
# `XExchangeService`

Pair metadata from the router, pairs with their tokens' decimals, the fee of a pair, events of the
pairs' addresses, and the conversion of events. `decodeRaw` is the body of the loop of `getEvents`.
-/

namespace DexAdapter

open Collect

namespace XExchangeService

def getProviderName : String := "xExchange"

def isPairInverted (config : ApiConfigService) (firstTokenId secondTokenId : String) : Bool :=
  firstTokenId == config.wrappedEGLDIdentifier && secondTokenId != config.wrappedUSDCIdentifier

/-- The metadata of one entry of the router: an inverted pair has its tokens exchanged. -/
def toPairMetadata (config : ApiConfigService) (v : PairContractMetadata) : PairMetadata :=
  let isInverted := isPairInverted config v.first_token_id v.second_token_id
  { address := v.address
    firstTokenId := if isInverted then v.second_token_id else v.first_token_id
    secondTokenId := if isInverted then v.first_token_id else v.second_token_id
    isInverted := isInverted }

section

variable (env : Env)

def getPairsMetadataRaw : Result (List PairMetadata) := do
  let response ← env.getAllPairContractMetadata
  match response with
  | none => .error ⟨"Empty vm-query result"⟩
  | some response => pure (response.map (toPairMetadata env.apiConfigService))

/-- `cacheService.getOrSet`: the cached metadata, or the router's. -/
def getPairsMetadata : Result (List PairMetadata) :=
  match env.cachedPairsMetadata with
  | some pairsMetadata => .ok pairsMetadata
  | none => getPairsMetadataRaw env

/-- The body of the loop of `getPairs`: a pair whose token is not found is skipped. -/
def withDecimals (metadata : PairMetadata) : Result (Option XExchangePair) := do
  let firstToken ← env.getToken metadata.firstTokenId
  let secondToken ← env.getToken metadata.secondTokenId
  match firstToken, secondToken with
  | some firstToken, some secondToken =>
    pure (some { metadata with
      firstTokenDecimals := firstToken.decimals
      secondTokenDecimals := secondToken.decimals })
  | _, _ => pure none

def getPairs : Result (List XExchangePair) := do
  let pairsMetadata ← getPairsMetadata env
  collect (withDecimals env) pairsMetadata

def swapTopic : String := env.sdk.binaryUtils.stringToHex env.sdk.pairEvents.SWAP
def addLiquidityTopic : String := env.sdk.binaryUtils.stringToHex env.sdk.pairEvents.ADD_LIQUIDITY
def removeLiquidityTopic : String :=
  env.sdk.binaryUtils.stringToHex env.sdk.pairEvents.REMOVE_LIQUIDITY

def eventNames : List String := [swapTopic env, addLiquidityTopic env, removeLiquidityTopic env]

abbrev Event := ProviderEvent XExchangeSwapEvent XExchangeLiquidityEvent

def decodeRaw (pairs : List XExchangePair) (event : ElasticEvent) : Result (Option Event) :=
  match pairs.find? fun p => p.address == event.address with
  | none => .ok none
  | some pair =>
    if event.topics.head? = some (swapTopic env) then do
      let swapEvent ← XExchangeSwapEvent.new env.sdk event pair
      pure (some (.swap swapEvent))
    else if event.topics.head? = some (addLiquidityTopic env) then do
      let addLiquidityEvent ← XExchangeAddLiquidityEvent.new env.sdk event pair
      pure (some (.liquidity addLiquidityEvent))
    else if event.topics.head? = some (removeLiquidityTopic env) then do
      let removeLiquidityEvent ← XExchangeRemoveLiquidityEvent.new env.sdk event pair
      pure (some (.liquidity removeLiquidityEvent))
    else .ok none

def getEvents (before after : Nat) : Result (List Event) := do
  let pairs ← getPairs env
  let pairAddresses := pairs.map fun p => p.address
  let eventsRaw ←
    IndexerService.getEvents env.elasticService before after pairAddresses (eventNames env)
  collect (decodeRaw env pairs) eventsRaw

def SWAP_FEE_PERCENT_BASE_POINTS : Nat := 100000

def getPairFeePercentRaw (pairAddress : String) : Result Float := do
  let response ← env.getTotalFeePercent pairAddress
  match response with
  | none => .error ⟨"No response"⟩
  | some response =>
    let B := env.sdk.bigNumber
    let quotient := B.dividedBy (B.ofNat response) (toString SWAP_FEE_PERCENT_BASE_POINTS)
    pure (B.toFloat (B.multipliedBy quotient 100))

/-- `cacheService.getOrSet`: the cached percentage, or the pair contract's. -/
def getPairFeePercent (pairAddress : String) : Result Float :=
  match env.cachedPairFeePercent pairAddress with
  | some feePercent => .ok feePercent
  | none => getPairFeePercentRaw env pairAddress

def fromCustomPair (pair : XExchangePair) (feePercent : Float) (deployRound : Option Nat)
    (deployInfo : ContractDeployInfo) : Pair where
  id := pair.address
  dexKey := getProviderName
  asset0Id := pair.firstTokenId
  asset1Id := pair.secondTokenId
  feeBps := some (feePercent * 100)
  createdAtBlockNumber := deployRound
  createdAtBlockTimestamp := deployInfo.deployedAt
  createdAtTxnId := deployInfo.deployTxHash

def getPair (identifier : String) : Result (Option Pair) := do
  let xExchangePairs ← getPairs env
  match xExchangePairs.find? fun p => p.address == identifier with
  | none => pure none
  | some xExchangePair => do
    let pairFeePercent ← getPairFeePercent env identifier
    let deployInfo := env.getContractDeployInfo identifier
    -- a `deployedAt` of zero is falsy
    let round := match deployInfo.deployedAt with
      | some deployedAt =>
        if deployedAt = 0 then none else IndexerService.getRound env.elasticService deployedAt
      | none => none
    pure (some (fromCustomPair xExchangePair pairFeePercent (round.map (·.round)) deployInfo))

def fromSwapEvent (event : XExchangeSwapEvent) : SwapEvent :=
  swapEventOf env.sdk.bigNumber
    { firstTokenId := event.pair.firstTokenId
      firstTokenDecimals := event.pair.firstTokenDecimals
      secondTokenDecimals := event.pair.secondTokenDecimals
      tokenInId := event.tokenInId
      tokenInAmount := event.tokenInAmount
      tokenOutAmount := event.tokenOutAmount
      tokenInReserves := event.tokenInReserves
      tokenOutReserves := event.tokenOutReserves
      txHash := event.txHash
      txOrder := event.txOrder
      eventOrder := event.eventOrder
      caller := event.caller
      pairId := event.address }

def fromAddRemoveLiquidityEvent (event : XExchangeLiquidityEvent) : JoinExitEvent :=
  joinExitEventOf env.sdk.bigNumber
    { type := event.type
      firstTokenDecimals := event.pair.firstTokenDecimals
      secondTokenDecimals := event.pair.secondTokenDecimals
      firstTokenAmount := event.firstTokenAmount
      secondTokenAmount := event.secondTokenAmount
      firstTokenReserves := event.firstTokenReserves
      secondTokenReserves := event.secondTokenReserves
      txHash := event.txHash
      txOrder := event.txOrder
      eventOrder := event.eventOrder
      caller := event.caller
      pairId := event.address }

def general : Event → GeneralEvent
  | .swap event => event.toGeneralEvent
  | .liquidity event => event.toGeneralEvent

end

end XExchangeService

/-- `XExchangeService implements IProviderService`. -/
@[reducible] def xExchangeService (env : Env) : IProviderService where
  SwapClass := XExchangeSwapEvent
  LiquidityClass := XExchangeLiquidityEvent
  getProviderName := XExchangeService.getProviderName
  getPair := XExchangeService.getPair env
  getEvents := XExchangeService.getEvents env
  general := XExchangeService.general
  fromSwapEvent := XExchangeService.fromSwapEvent env
  fromAddRemoveLiquidityEvent := XExchangeService.fromAddRemoveLiquidityEvent env

end DexAdapter
