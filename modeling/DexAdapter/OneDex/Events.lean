import DexAdapter.Provider

/-!
# OneDex event classes

The constructors read the topics of the document by position. Swaps, additions and removals look
the pair up by its number, which is topic 9; the initial liquidity event looks it up by its lp
token, which is topic 6.
-/

namespace DexAdapter

section Topics

variable (sdk : Sdk) (event : ElasticEvent)

def topicString (i : Nat) : Result String := sdk.binaryUtils.hexToString event.topics[i]?

/-- `BinaryUtils.hexToBigInt(event.topics[i]).toString()` -/
def topicBigInt (i : Nat) : Result String := do
  let n ← sdk.binaryUtils.hexToBigInt event.topics[i]?
  pure (toString n)

def topicNumber (i : Nat) : JsNumber := sdk.binaryUtils.hexToNumber event.topics[i]?

end Topics

/-- `pairs.find(p => p.id === pairId)` -/
def findPairById (pairs : List OneDexPair) (pairId : JsNumber) : Option OneDexPair :=
  pairs.find? fun p => pairId.strictEq p.id

structure OneDexSwapEvent extends GeneralEvent where
  caller : String
  tokenInId : String
  tokenInAmount : String
  tokenOutId : String
  tokenOutAmount : String
  tokenInReserves : String
  tokenOutReserves : String
  txHash : String
  txOrder : Nat
  eventOrder : Nat
  pair : Option OneDexPair
  deriving DecidableEq, Repr

def OneDexSwapEvent.new (sdk : Sdk) (event : ElasticEvent) (pairs : List OneDexPair) :
    Result OneDexSwapEvent := do
  let caller ← sdk.addressUtils.bech32Encode event.topics[1]?
  let tokenInId ← topicString sdk event 2
  let tokenInAmount ← topicBigInt sdk event 3
  let tokenOutId ← topicString sdk event 5
  let tokenOutAmount ← topicBigInt sdk event 6
  let tokenInReserves ← topicBigInt sdk event 4
  let tokenOutReserves ← topicBigInt sdk event 7
  let timestamp := topicNumber sdk event 8
  let pairId := topicNumber sdk event 9
  pure
    { GeneralEvent.ofElastic event .swap timestamp with
      caller := caller
      tokenInId := tokenInId
      tokenInAmount := tokenInAmount
      tokenOutId := tokenOutId
      tokenOutAmount := tokenOutAmount
      tokenInReserves := tokenInReserves
      tokenOutReserves := tokenOutReserves
      txHash := event.originalTxHash.getD event.txHash
      txOrder := event.txOrder
      eventOrder := event.order
      pair := findPairById pairs pairId }

/-- The fields of `OneDexAddInitialLiquidityEvent`, `OneDexAddLiquidityEvent` and
`OneDexRemoveLiquidityEvent`. -/
structure OneDexLiquidityEvent extends GeneralEvent where
  caller : String
  firstTokenId : String
  firstTokenAmount : String
  secondTokenId : String
  secondTokenAmount : String
  lpTokenId : String
  lpTokenAmount : String
  liquidityPoolSupply : String
  firstTokenReserves : String
  secondTokenReserves : String
  txHash : String
  txOrder : Nat
  eventOrder : Nat
  pair : Option OneDexPair
  deriving DecidableEq, Repr

/-- The constructor that `OneDexAddLiquidityEvent` and `OneDexRemoveLiquidityEvent` share. -/
def OneDexLiquidityEvent.new (sdk : Sdk) (event : ElasticEvent) (pairs : List OneDexPair)
    (eventType : EventType) : Result OneDexLiquidityEvent := do
  let caller ← sdk.addressUtils.bech32Encode event.topics[1]?
  let firstTokenId ← topicString sdk event 2
  let firstTokenAmount ← topicBigInt sdk event 3
  let secondTokenId ← topicString sdk event 4
  let secondTokenAmount ← topicBigInt sdk event 5
  let firstTokenReserves ← topicBigInt sdk event 10
  let secondTokenReserves ← topicBigInt sdk event 11
  let lpTokenId ← topicString sdk event 6
  let lpTokenAmount ← topicBigInt sdk event 7
  let liquidityPoolSupply ← topicBigInt sdk event 12
  let timestamp := topicNumber sdk event 8
  let pairId := topicNumber sdk event 9
  pure
    { GeneralEvent.ofElastic event eventType timestamp with
      caller := caller
      firstTokenId := firstTokenId
      firstTokenAmount := firstTokenAmount
      secondTokenId := secondTokenId
      secondTokenAmount := secondTokenAmount
      firstTokenReserves := firstTokenReserves
      secondTokenReserves := secondTokenReserves
      lpTokenId := lpTokenId
      lpTokenAmount := lpTokenAmount
      liquidityPoolSupply := liquidityPoolSupply
      txHash := event.originalTxHash.getD event.txHash
      txOrder := event.txOrder
      eventOrder := event.order
      pair := findPairById pairs pairId }

def OneDexAddLiquidityEvent.new (sdk : Sdk) (event : ElasticEvent) (pairs : List OneDexPair) :
    Result OneDexLiquidityEvent :=
  OneDexLiquidityEvent.new sdk event pairs .addLiquidity

def OneDexRemoveLiquidityEvent.new (sdk : Sdk) (event : ElasticEvent) (pairs : List OneDexPair) :
    Result OneDexLiquidityEvent :=
  OneDexLiquidityEvent.new sdk event pairs .removeLiquidity

/-- The reserves after the first deposit are the deposit, and the pair is found by its lp token. -/
def OneDexAddInitialLiquidityEvent.new (sdk : Sdk) (event : ElasticEvent)
    (pairs : List OneDexPair) : Result OneDexLiquidityEvent := do
  let caller ← sdk.addressUtils.bech32Encode event.topics[1]?
  let firstTokenId ← topicString sdk event 2
  let firstTokenAmount ← topicBigInt sdk event 3
  let secondTokenId ← topicString sdk event 4
  let secondTokenAmount ← topicBigInt sdk event 5
  let lpTokenId ← topicString sdk event 6
  let lpTokenAmount ← topicBigInt sdk event 7
  let timestamp := topicNumber sdk event 8
  pure
    { GeneralEvent.ofElastic event .addLiquidity timestamp with
      caller := caller
      firstTokenId := firstTokenId
      firstTokenAmount := firstTokenAmount
      secondTokenId := secondTokenId
      secondTokenAmount := secondTokenAmount
      firstTokenReserves := firstTokenAmount
      secondTokenReserves := secondTokenAmount
      lpTokenId := lpTokenId
      lpTokenAmount := lpTokenAmount
      liquidityPoolSupply := lpTokenAmount
      txHash := event.originalTxHash.getD event.txHash
      txOrder := event.txOrder
      eventOrder := event.order
      pair := pairs.find? fun p => p.lpTokenId == lpTokenId }

end DexAdapter
