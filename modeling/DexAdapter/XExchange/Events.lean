import DexAdapter.Provider

/-!
# xExchange event classes

The constructors of `XExchangeSwapEvent` and of the liquidity events: they decode the `data` field
of the document against a struct, and the liquidity events exchange first and second token on an
inverted pair.
-/

namespace DexAdapter

/-- `decodeEvent` of both classes. -/
def decodeEvent (sdk : Sdk) (data : Option String) (struct : StructType) : Result DecodedStruct :=
  match data with
  | none => .error ⟨"Invalid data field"⟩
  | some data => sdk.codec.decodeNested (Bytes.ofHex data) struct

/-- `value.toFixed()` of a decoded `BigUint`. -/
def fixedOfNat (sdk : Sdk) (n : Nat) : String := sdk.bigNumber.toFixed (sdk.bigNumber.ofNat n)

/-- `value.toNumber()` of a decoded `u64`. -/
def numberOfNat (sdk : Sdk) (n : Nat) : JsNumber := sdk.bigNumber.toNumber (sdk.bigNumber.ofNat n)

structure XExchangeSwapEvent extends GeneralEvent where
  caller : String
  tokenInId : String
  tokenInAmount : String
  tokenOutId : String
  tokenOutAmount : String
  feeAmount : String
  tokenInReserves : String
  tokenOutReserves : String
  block : JsNumber
  epoch : JsNumber
  txHash : String
  txOrder : Nat
  eventOrder : Nat
  pair : XExchangePair
  deriving DecidableEq, Repr

namespace XExchangeSwapEvent

def getStructure : StructType :=
  [("caller", AddressType),
   ("tokenInID", TokenIdentifierType),
   ("tokenInAmount", BigUIntType),
   ("tokenOutID", TokenIdentifierType),
   ("tokenOutAmount", BigUIntType),
   ("feeAmount", BigUIntType),
   ("tokenInReserves", BigUIntType),
   ("tokenOutReserves", BigUIntType),
   ("block", U64Type),
   ("epoch", U64Type),
   ("timestamp", U64Type)]

def new (sdk : Sdk) (event : ElasticEvent) (pair : XExchangePair) : Result XExchangeSwapEvent := do
  let decodedEvent ← decodeEvent sdk event.data getStructure
  let caller ← decodedEvent.addressField "caller"
  let tokenInId ← decodedEvent.textField "tokenInID"
  let tokenInAmount ← decodedEvent.natField "tokenInAmount"
  let tokenOutId ← decodedEvent.textField "tokenOutID"
  let tokenOutAmount ← decodedEvent.natField "tokenOutAmount"
  let tokenInReserves ← decodedEvent.natField "tokenInReserves"
  let tokenOutReserves ← decodedEvent.natField "tokenOutReserves"
  let feeAmount ← decodedEvent.natField "feeAmount"
  let block ← decodedEvent.natField "block"
  let epoch ← decodedEvent.natField "epoch"
  let timestamp ← decodedEvent.natField "timestamp"
  pure
    { GeneralEvent.ofElastic event .swap (numberOfNat sdk timestamp) with
      caller := sdk.bech32 caller
      tokenInId := tokenInId
      tokenInAmount := fixedOfNat sdk tokenInAmount
      tokenOutId := tokenOutId
      tokenOutAmount := fixedOfNat sdk tokenOutAmount
      tokenInReserves := fixedOfNat sdk tokenInReserves
      tokenOutReserves := fixedOfNat sdk tokenOutReserves
      feeAmount := fixedOfNat sdk feeAmount
      block := numberOfNat sdk block
      epoch := numberOfNat sdk epoch
      txHash := event.originalTxHash.getD event.txHash
      txOrder := event.txOrder
      eventOrder := event.order
      pair := pair }

end XExchangeSwapEvent

structure XExchangeLiquidityEvent extends GeneralEvent where
  caller : String
  firstTokenId : String
  firstTokenAmount : String
  secondTokenId : String
  secondTokenAmount : String
  lpTokenId : String
  lpTokenAmount : String
  liquidityPoolSupply : String
  firstTokenReserves : String
  secondTokenReserves : String
  block : JsNumber
  epoch : JsNumber
  txHash : String
  txOrder : Nat
  eventOrder : Nat
  pair : XExchangePair
  deriving DecidableEq, Repr

namespace XExchangeLiquidityEvent

def getStructure : StructType :=
  [("caller", AddressType),
   ("firstTokenID", TokenIdentifierType),
   ("firstTokenAmount", BigUIntType),
   ("secondTokenID", TokenIdentifierType),
   ("secondTokenAmount", BigUIntType),
   ("lpTokenID", TokenIdentifierType),
   ("lpTokenAmount", BigUIntType),
   ("liquidityPoolSupply", BigUIntType),
   ("firstTokenReserves", BigUIntType),
   ("secondTokenReserves", BigUIntType),
   ("block", U64Type),
   ("epoch", U64Type),
   ("timestamp", U64Type)]

/-- The constructor of the base class, with the `eventType` a subclass passes to it. -/
def new (sdk : Sdk) (event : ElasticEvent) (pair : XExchangePair) (eventType : EventType) :
    Result XExchangeLiquidityEvent := do
  let decodedEvent ← decodeEvent sdk event.data getStructure
  let caller ← decodedEvent.addressField "caller"
  let firstTokenID ← decodedEvent.textField "firstTokenID"
  let firstTokenAmount ← decodedEvent.natField "firstTokenAmount"
  let secondTokenID ← decodedEvent.textField "secondTokenID"
  let secondTokenAmount ← decodedEvent.natField "secondTokenAmount"
  let firstTokenReserves ← decodedEvent.natField "firstTokenReserves"
  let secondTokenReserves ← decodedEvent.natField "secondTokenReserves"
  let lpTokenId ← decodedEvent.textField "lpTokenID"
  let lpTokenAmount ← decodedEvent.natField "lpTokenAmount"
  let liquidityPoolSupply ← decodedEvent.natField "liquidityPoolSupply"
  let block ← decodedEvent.natField "block"
  let epoch ← decodedEvent.natField "epoch"
  let timestamp ← decodedEvent.natField "timestamp"
  pure
    { GeneralEvent.ofElastic event eventType (numberOfNat sdk timestamp) with
      caller := sdk.bech32 caller
      firstTokenId := if pair.isInverted then secondTokenID else firstTokenID
      firstTokenAmount :=
        fixedOfNat sdk (if pair.isInverted then secondTokenAmount else firstTokenAmount)
      secondTokenId := if pair.isInverted then firstTokenID else secondTokenID
      secondTokenAmount :=
        fixedOfNat sdk (if pair.isInverted then firstTokenAmount else secondTokenAmount)
      firstTokenReserves :=
        fixedOfNat sdk (if pair.isInverted then secondTokenReserves else firstTokenReserves)
      secondTokenReserves :=
        fixedOfNat sdk (if pair.isInverted then firstTokenReserves else secondTokenReserves)
      lpTokenId := lpTokenId
      lpTokenAmount := fixedOfNat sdk lpTokenAmount
      liquidityPoolSupply := fixedOfNat sdk liquidityPoolSupply
      block := numberOfNat sdk block
      epoch := numberOfNat sdk epoch
      txHash := event.originalTxHash.getD event.txHash
      txOrder := event.txOrder
      eventOrder := event.order
      pair := pair }

/-- The subclasses decode the event a second time and set the caller again. -/
def newSubclass (sdk : Sdk) (event : ElasticEvent) (pair : XExchangePair) (eventType : EventType) :
    Result XExchangeLiquidityEvent := do
  let this ← new sdk event pair eventType
  let decodedEvent ← decodeEvent sdk event.data getStructure
  let caller ← decodedEvent.addressField "caller"
  pure { this with caller := sdk.bech32 caller }

end XExchangeLiquidityEvent

def XExchangeAddLiquidityEvent.new (sdk : Sdk) (event : ElasticEvent) (pair : XExchangePair) :
    Result XExchangeLiquidityEvent :=
  XExchangeLiquidityEvent.newSubclass sdk event pair .addLiquidity

def XExchangeRemoveLiquidityEvent.new (sdk : Sdk) (event : ElasticEvent) (pair : XExchangePair) :
    Result XExchangeLiquidityEvent :=
  XExchangeLiquidityEvent.newSubclass sdk event pair .removeLiquidity

end DexAdapter
