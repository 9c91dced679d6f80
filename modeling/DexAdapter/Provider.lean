import DexAdapter.Indexer

/-!
# Providers and their environment

`Env` is what one request reads from outside the process: configuration, index answers, the cached
pair metadata, contract queries, token and account lookups. `IProviderService` is the interface the
two providers implement. The providers convert their events with the same arithmetic, which is
`swapEventOf` and `joinExitEventOf` here.
-/

namespace DexAdapter

structure ApiConfigService where
  oneDexSwapAddress : String
  wrappedEGLDIdentifier : String
  wrappedUSDCIdentifier : String

structure ContractDeployInfo where
  deployTxHash : Option String
  deployedAt : Option Nat

structure Env where
  sdk : Sdk
  locale : LocaleCompare
  apiConfigService : ApiConfigService
  elasticService : ElasticService
  /-- what the cache holds under `CacheInfo.PairsMetadata().key` -/
  cachedPairsMetadata : Option (List PairMetadata)
  /-- what the cache holds under `CacheInfo.OneDexPairsMetadata().key` -/
  cachedOneDexPairsMetadata : Option (List OneDexRawPair)
  /-- the value of the router's answer; `none` is `undefined` -/
  getAllPairContractMetadata : Result (Option (List PairContractMetadata))
  /-- the pairs the OneDex contract hands out over all pages of one pagination -/
  oneDexContractPairs : Result (List OneDexRawPair)
  getToken : String → Result (Option Token)
  /-- what the cache holds under `CacheInfo.PairFeePercent(pairAddress).key` -/
  cachedPairFeePercent : String → Option Float
  /-- the value of a pair contract's answer; `none` is `undefined` -/
  getTotalFeePercent : String → Result (Option Nat)
  getContractDeployInfo : String → ContractDeployInfo

/-- An event object of a provider: the constructor tells the `type` that the source switches on. -/
inductive ProviderEvent (S L : Type) where
  | swap (event : S)
  | liquidity (event : L)
  deriving DecidableEq

structure IProviderService where
  SwapClass : Type
  LiquidityClass : Type
  getProviderName : String
  getPair : String → Result (Option Pair)
  getEvents : Nat → Nat → Result (List (ProviderEvent SwapClass LiquidityClass))
  general : ProviderEvent SwapClass LiquidityClass → GeneralEvent
  fromSwapEvent : SwapClass → SwapEvent
  fromAddRemoveLiquidityEvent : LiquidityClass → JoinExitEvent

/-! ## Conversion of amounts -/

section Conversion

variable (B : BigNumberLib)

/-- `new BigNumber(amount).shiftedBy(-decimals).toFixed()` -/
def scaled (amount : String) (decimals : Nat) : String :=
  B.toFixed (B.shiftedBy (B.ofString amount) (-(decimals : Int)))

/-- `new BigNumber(asset1Reserves).dividedBy(asset0Reserves).toFixed()` -/
def priceOf (asset1Reserves asset0Reserves : String) : String :=
  B.toFixed (B.dividedBy (B.ofString asset1Reserves) asset0Reserves)

/-- What `fromSwapEvent` reads of a swap event and its pair. -/
structure SwapData where
  firstTokenId : String
  firstTokenDecimals : Nat
  secondTokenDecimals : Nat
  tokenInId : String
  tokenInAmount : String
  tokenOutAmount : String
  tokenInReserves : String
  tokenOutReserves : String
  txHash : String
  txOrder : Nat
  eventOrder : Nat
  caller : String
  pairId : String

def swapEventOf (d : SwapData) : SwapEvent :=
  if d.firstTokenId == d.tokenInId then
    let asset0Reserves := scaled B d.tokenInReserves d.firstTokenDecimals
    let asset1Reserves := scaled B d.tokenOutReserves d.secondTokenDecimals
    { txnId := d.txHash
      txnIndex := d.txOrder
      eventIndex := d.eventOrder
      maker := d.caller
      pairId := d.pairId
      asset0In := some (scaled B d.tokenInAmount d.firstTokenDecimals)
      asset1In := none
      asset0Out := none
      asset1Out := some (scaled B d.tokenOutAmount d.secondTokenDecimals)
      priceNative := priceOf B asset1Reserves asset0Reserves
      reserves := { asset0 := asset0Reserves, asset1 := asset1Reserves } }
  else
    let asset0Reserves := scaled B d.tokenOutReserves d.firstTokenDecimals
    let asset1Reserves := scaled B d.tokenInReserves d.secondTokenDecimals
    { txnId := d.txHash
      txnIndex := d.txOrder
      eventIndex := d.eventOrder
      maker := d.caller
      pairId := d.pairId
      asset0In := none
      asset1In := some (scaled B d.tokenInAmount d.secondTokenDecimals)
      asset0Out := some (scaled B d.tokenOutAmount d.firstTokenDecimals)
      asset1Out := none
      priceNative := priceOf B asset1Reserves asset0Reserves
      reserves := { asset0 := asset0Reserves, asset1 := asset1Reserves } }

/-- Both directions of a swap copy the keys. -/
theorem swapEventOf_keys (d : SwapData) :
    (swapEventOf B d).txnId = d.txHash ∧ (swapEventOf B d).txnIndex = d.txOrder ∧
      (swapEventOf B d).eventIndex = d.eventOrder ∧ (swapEventOf B d).maker = d.caller ∧
      (swapEventOf B d).pairId = d.pairId := by
  unfold swapEventOf
  split <;> exact ⟨rfl, rfl, rfl, rfl, rfl⟩

theorem swapEventOf_priceNative (d : SwapData) :
    (swapEventOf B d).priceNative =
      if d.firstTokenId == d.tokenInId then
        priceOf B (scaled B d.tokenOutReserves d.secondTokenDecimals)
          (scaled B d.tokenInReserves d.firstTokenDecimals)
      else
        priceOf B (scaled B d.tokenInReserves d.secondTokenDecimals)
          (scaled B d.tokenOutReserves d.firstTokenDecimals) := by
  unfold swapEventOf
  split <;> rfl

/-- What `fromAddRemoveLiquidityEvent` reads of a liquidity event and its pair. -/
structure LiquidityData where
  type : EventType
  firstTokenDecimals : Nat
  secondTokenDecimals : Nat
  firstTokenAmount : String
  secondTokenAmount : String
  firstTokenReserves : String
  secondTokenReserves : String
  txHash : String
  txOrder : Nat
  eventOrder : Nat
  caller : String
  pairId : String

def joinExitEventOf (d : LiquidityData) : JoinExitEvent where
  eventType := if d.type = .addLiquidity then .join else .exit
  txnId := d.txHash
  txnIndex := d.txOrder
  eventIndex := d.eventOrder
  maker := d.caller
  pairId := d.pairId
  amount0 := scaled B d.firstTokenAmount d.firstTokenDecimals
  amount1 := scaled B d.secondTokenAmount d.secondTokenDecimals
  reserves :=
    { asset0 := scaled B d.firstTokenReserves d.firstTokenDecimals
      asset1 := scaled B d.secondTokenReserves d.secondTokenDecimals }

end Conversion

end DexAdapter
