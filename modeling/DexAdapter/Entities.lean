import DexAdapter.Sdk

/-!
# Entities

The data types of `libs/common/src/providers/entities`, of the two providers, and of the indexes.
The types of the source that are unions or share fields are split accordingly: `SwapEvent` and
`JoinExitEvent` extend their common fields, and a `ResponseEvent` is one of the two with its block.
-/

namespace DexAdapter

/-! ## Index documents -/

/-- A document of the `events` index. A field that may be absent is an `Option`. -/
structure ElasticEvent where
  identifier : String
  address : String
  data : Option String
  topics : List String
  order : Nat
  txOrder : Nat
  shardId : Nat
  timestamp : Nat
  originalTxHash : Option String
  txHash : String
  logAddress : String
  deriving DecidableEq, Repr

structure ElasticRound where
  round : Nat
  epoch : Nat
  timestamp : Nat
  deriving DecidableEq, Repr

/-- A document of the `rounds` index: a round as one shard saw it. -/
structure RoundDocument extends ElasticRound where
  shardId : Nat
  deriving DecidableEq, Repr

/-- A document of the `operations` index; `txHash` is its id. -/
structure ElasticTransaction where
  txHash : String
  sender : String
  deriving DecidableEq, Repr

/-! ## Tokens and pairs -/

structure TokenSocial where
  coinmarketcap : Option String
  coingecko : Option String
  deriving DecidableEq, Repr

structure TokenAssets where
  social : Option TokenSocial
  deriving DecidableEq, Repr

structure Token where
  identifier : String
  name : String
  ticker : String
  decimals : Nat
  supply : String
  circulatingSupply : String
  assets : Option TokenAssets
  deriving DecidableEq, Repr

/-- An entry of the router's `getAllPairContractMetadata`. -/
structure PairContractMetadata where
  first_token_id : String
  second_token_id : String
  address : String
  deriving DecidableEq, Repr

structure PairMetadata where
  address : String
  firstTokenId : String
  secondTokenId : String
  isInverted : Bool
  deriving DecidableEq, Repr

structure XExchangePair extends PairMetadata where
  firstTokenDecimals : Nat
  secondTokenDecimals : Nat
  deriving DecidableEq, Repr

/-- An entry of the OneDex contract's `viewPairsPaginated`, with the fields the service reads. -/
structure OneDexRawPair where
  pair_id : Nat
  first_token_id : String
  second_token_id : String
  lp_token_id : String
  lp_token_decimal : Nat
  total_fee_percentage : Nat
  deriving DecidableEq, Repr

structure OneDexPair where
  id : Nat
  address : String
  lpTokenId : String
  lpTokenDecimals : Nat
  firstTokenId : String
  firstTokenDecimals : Nat
  secondTokenId : String
  secondTokenDecimals : Nat
  pairFeePercent : Nat
  deriving DecidableEq, Repr

/-- The pair of a `/pair` response. -/
structure Pair where
  id : String
  dexKey : String
  asset0Id : String
  asset1Id : String
  createdAtBlockNumber : Option Nat
  createdAtBlockTimestamp : Option Nat
  createdAtTxnId : Option String
  feeBps : Option Float

/-! ## Events -/

inductive EventType where
  | swap
  | addLiquidity
  | removeLiquidity
  deriving DecidableEq, Repr

/-- The base class of the providers' event classes; `timestamp` is set by the subclass. -/
structure GeneralEvent where
  type : EventType
  address : String
  identifier : String
  topics : List String
  data : Option String
  timestamp : JsNumber
  deriving DecidableEq, Repr

/-- The fields that a `GeneralEvent` copies from its document. -/
def GeneralEvent.ofElastic (event : ElasticEvent) (type : EventType) (timestamp : JsNumber) :
    GeneralEvent where
  type := type
  address := event.address
  identifier := event.identifier
  topics := event.topics
  data := event.data
  timestamp := timestamp

structure BlockMetadata where
  epoch : String
  deriving DecidableEq, Repr

structure Block where
  blockNumber : Nat
  blockTimestamp : Nat
  metadata : Option BlockMetadata
  deriving DecidableEq, Repr

def Block.fromElasticRound (round : ElasticRound) (onlyRequiredFields : Bool) : Block :=
  if onlyRequiredFields then
    { blockNumber := round.round, blockTimestamp := round.timestamp, metadata := none }
  else
    { blockNumber := round.round, blockTimestamp := round.timestamp,
      metadata := some { epoch := toString round.epoch } }

@[simp] theorem Block.blockNumber_fromElasticRound (round : ElasticRound) (b : Bool) :
    (fromElasticRound round b).blockNumber = round.round := by
  cases b <;> rfl

@[simp] theorem Block.blockTimestamp_fromElasticRound (round : ElasticRound) (b : Bool) :
    (fromElasticRound round b).blockTimestamp = round.timestamp := by
  cases b <;> rfl

structure Reserves where
  asset0 : String
  asset1 : String
  deriving DecidableEq, Repr

/-- The fields that `SwapEvent` and `JoinExitEvent` share. -/
structure EventFields where
  txnId : String
  txnIndex : Nat
  eventIndex : Nat
  maker : String
  pairId : String
  reserves : Reserves
  deriving DecidableEq, Repr

structure SwapEvent extends EventFields where
  asset0In : Option String
  asset1In : Option String
  asset0Out : Option String
  asset1Out : Option String
  priceNative : String
  deriving DecidableEq, Repr

inductive JoinExitType where
  | join
  | exit
  deriving DecidableEq, Repr

structure JoinExitEvent extends EventFields where
  eventType : JoinExitType
  amount0 : String
  amount1 : String
  deriving DecidableEq, Repr

inductive DexEvent where
  | swap (event : SwapEvent)
  | joinExit (event : JoinExitEvent)
  deriving DecidableEq, Repr

namespace DexEvent

def fields : DexEvent → EventFields
  | swap e => e.toEventFields
  | joinExit e => e.toEventFields

def setFields (f : EventFields) : DexEvent → DexEvent
  | swap e => swap { e with toEventFields := f }
  | joinExit e => joinExit { e with toEventFields := f }

@[simp] theorem fields_setFields (f : EventFields) (e : DexEvent) : (e.setFields f).fields = f := by
  cases e <;> rfl

@[simp] theorem setFields_fields (e : DexEvent) : e.setFields e.fields = e := by
  cases e <;> rfl

@[simp] theorem setFields_setFields (f g : EventFields) (e : DexEvent) :
    (e.setFields f).setFields g = e.setFields g := by
  cases e <;> rfl

end DexEvent

/-- An event of the `/events` response: `{ block } & (SwapEvent | JoinExitEvent)`. -/
structure ResponseEvent where
  block : Block
  event : DexEvent
  deriving DecidableEq, Repr

namespace ResponseEvent

def fields (e : ResponseEvent) : EventFields := e.event.fields

abbrev txnId (e : ResponseEvent) : String := e.fields.txnId
abbrev txnIndex (e : ResponseEvent) : Nat := e.fields.txnIndex
abbrev eventIndex (e : ResponseEvent) : Nat := e.fields.eventIndex
abbrev maker (e : ResponseEvent) : String := e.fields.maker
abbrev pairId (e : ResponseEvent) : String := e.fields.pairId

def setTxnIndex (txnIndex : Nat) (e : ResponseEvent) : ResponseEvent :=
  { e with event := e.event.setFields { e.fields with txnIndex := txnIndex } }

def setMaker (maker : String) (e : ResponseEvent) : ResponseEvent :=
  { e with event := e.event.setFields { e.fields with maker := maker } }

@[simp] theorem block_setTxnIndex (i : Nat) (e : ResponseEvent) :
    (e.setTxnIndex i).block = e.block := rfl

@[simp] theorem fields_setTxnIndex (i : Nat) (e : ResponseEvent) :
    (e.setTxnIndex i).fields = { e.fields with txnIndex := i } := by
  simp [setTxnIndex, fields]

@[simp] theorem txnIndex_setTxnIndex (i : Nat) (e : ResponseEvent) :
    (e.setTxnIndex i).txnIndex = i :=
  congrArg EventFields.txnIndex (fields_setTxnIndex i e)

@[simp] theorem block_setMaker (m : String) (e : ResponseEvent) :
    (e.setMaker m).block = e.block := rfl

@[simp] theorem fields_setMaker (m : String) (e : ResponseEvent) :
    (e.setMaker m).fields = { e.fields with maker := m } := by
  simp [setMaker, fields]

/-- Overwriting the index forgets the one that was there. -/
@[simp] theorem setTxnIndex_setTxnIndex (i j : Nat) (e : ResponseEvent) :
    (e.setTxnIndex i).setTxnIndex j = e.setTxnIndex j := by
  simp [setTxnIndex, fields]

@[simp] theorem maker_setMaker (m : String) (e : ResponseEvent) : (e.setMaker m).maker = m :=
  congrArg EventFields.maker (fields_setMaker m e)

@[simp] theorem setMaker_setMaker (m m' : String) (e : ResponseEvent) :
    (e.setMaker m).setMaker m' = e.setMaker m' := by
  simp [setMaker, fields]

theorem setTxnIndex_txnIndex (e : ResponseEvent) : e.setTxnIndex e.txnIndex = e := by
  rcases e with ⟨block, event | event⟩ <;> rfl

theorem setMaker_maker (e : ResponseEvent) : e.setMaker e.maker = e := by
  rcases e with ⟨block, event | event⟩ <;> rfl

end ResponseEvent

end DexAdapter
