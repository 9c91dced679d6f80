import DexAdapter.Asset
import DexAdapter.XExchange.Service
import DexAdapter.OneDex.Service

/-!
# `DataIntegrationService` and its controller

`getEvents` turns a block range into a range of timestamps, gathers the events of the providers,
replaces the makers that are contracts by the senders of their transactions, sorts, and numbers the
events of each block. Its loops are `processEvent` (over the events of a provider), `updateCaller`
and `renumber` (over the merged list).
-/

namespace DexAdapter

namespace DataIntegrationService

section

variable (env : Env)

def providers : List IProviderService := [xExchangeService env, oneDexService env]

def getLatestBlock : Result Block := do
  let round ← IndexerService.getLatestRound env.elasticService
  match round with
  | none => .error DecodedStruct.typeError
  | some round => pure (Block.fromElasticRound round false)

def getAsset (identifier : String) : Result Asset := do
  let token ← env.getToken identifier
  match token with
  | none => .error ⟨s!"Asset with identifier {identifier} not found"⟩
  | some token =>
    pure (Asset.fromToken token env.apiConfigService.wrappedEGLDIdentifier
      env.apiConfigService.wrappedUSDCIdentifier)

/-- The loop of `getPair` over the providers. -/
def getPairFrom (identifier : String) : List IProviderService → Result Pair
  | [] => .error ⟨s!"Pair with identifier {identifier} not found"⟩
  | provider :: rest => do
    let pairResponse ← provider.getPair identifier
    match pairResponse with
    | some pair => pure pair
    | none => getPairFrom identifier rest

def getPair (identifier : String) : Result Pair := getPairFrom identifier (providers env)

end

/-! ## Events of one provider -/

section

variable (provider : IProviderService)

abbrev ClassEvent := ProviderEvent provider.SwapClass provider.LiquidityClass

/-- The `switch` on the type of the event. -/
def convert : ClassEvent provider → DexEvent
  | .swap event => .swap (provider.fromSwapEvent event)
  | .liquidity event => .joinExit (provider.fromAddRemoveLiquidityEvent event)

/-- `event.eventType === 'swap' && event.priceNative === '0'` -/
def isZeroPrice : DexEvent → Bool
  | .swap event => event.priceNative == "0"
  | .joinExit _ => false

/-- `rounds.find(round => round.timestamp === timestamp)` -/
def findRound (rounds : List ElasticRound) (timestamp : JsNumber) : Option ElasticRound :=
  rounds.find? fun round => timestamp.strictEq round.timestamp

def processEvent (rounds : List ElasticRound) (generalEvent : ClassEvent provider) :
    Option ResponseEvent :=
  let event := convert provider generalEvent
  match findRound rounds (provider.general generalEvent).timestamp with
  | none => none
  | some round =>
    let block := Block.fromElasticRound round true
    if isZeroPrice event then none else some { block := block, event := event }

def processEvents (generalEvents : List (ClassEvent provider)) (rounds : List ElasticRound) :
    List ResponseEvent :=
  generalEvents.filterMap (processEvent provider rounds)

end

/-! ## The merged list -/

section

variable (env : Env)

def getTxDetailsInBatches (txHashes : List String) (batchSize : Nat) : List ElasticTransaction :=
  let txHashesBatches := env.sdk.batchUtils.splitArrayIntoChunks txHashes batchSize
  txHashesBatches.flatMap (IndexerService.getTxDetails env.elasticService)

/-- `txToCallerMap.get(txnId)`: of the entries with one key, a `Map` keeps the last. -/
def txToCaller (transactions : List ElasticTransaction) (txnId : String) : Option String :=
  (transactions.reverse.find? fun transaction => transaction.txHash == txnId).map (·.sender)

/-- The body of the second loop of `updateEventsCaller`. An empty caller is falsy. -/
def updateCaller (transactions : List ElasticTransaction) (event : ResponseEvent) :
    ResponseEvent :=
  if env.sdk.addressUtils.isSmartContractAddress event.maker then
    match txToCaller transactions event.txnId with
    | some callerFromMap => if callerFromMap = "" then event else event.setMaker callerFromMap
    | none => event
  else event

def updateEventsCaller (events : List ResponseEvent) : List ResponseEvent :=
  let filteredEvents :=
    events.filter fun event => env.sdk.addressUtils.isSmartContractAddress event.maker
  let txHashes := filteredEvents.map fun event => event.txnId
  let transactions := getTxDetailsInBatches env txHashes 200
  events.map (updateCaller env transactions)

/-- The comparator of the sort. -/
def compareEvents (a b : ResponseEvent) : Int :=
  if a.block.blockTimestamp ≠ b.block.blockTimestamp then
    (a.block.blockTimestamp : Int) - b.block.blockTimestamp
  else if a.txnIndex ≠ b.txnIndex then
    (a.txnIndex : Int) - b.txnIndex
  else if a.eventIndex ≠ b.eventIndex then
    (a.eventIndex : Int) - b.eventIndex
  else env.locale.localeCompare a.txnId b.txnId

/-- The loop that numbers the sorted events, from the state of its two variables. -/
def renumber : (txnIndex lastBlockTimestamp : Nat) → List ResponseEvent → List ResponseEvent
  | _, _, [] => []
  | txnIndex, lastBlockTimestamp, event :: rest =>
    let txnIndex := if event.block.blockTimestamp ≠ lastBlockTimestamp then 0 else txnIndex + 1
    event.setTxnIndex txnIndex :: renumber txnIndex event.block.blockTimestamp rest

/-- What `getEvents` does with the events of all providers. -/
def publish (allEvents : List ResponseEvent) : List ResponseEvent :=
  let allEvents := updateEventsCaller env allEvents
  let sortedEvents := StableSort.sortBy (compareEvents env) allEvents
  renumber 0 0 sortedEvents

/-- The loop of `getEvents` over the providers. -/
def gatherEvents (before after : Nat) (rounds : List ElasticRound) :
    List IProviderService → Result (List ResponseEvent)
  | [] => .ok []
  | provider :: rest => do
    let generalEvents ← provider.getEvents before after
    let events := processEvents provider generalEvents rounds
    let restEvents ← gatherEvents before after rounds rest
    pure (events ++ restEvents)

def getEvents (fromBlockNonce toBlockNonce : Int) : Result (List ResponseEvent) := do
  let rounds ← IndexerService.getRounds env.elasticService fromBlockNonce toBlockNonce
  match rounds with
  | [] => pure []
  | first :: rest =>
    let after := first.timestamp
    let before := ((first :: rest).getLast (List.cons_ne_nil _ _)).timestamp
    let allEvents ← gatherEvents before after rounds (providers env)
    pure (publish env allEvents)

end

end DataIntegrationService

namespace DataIntegrationController

def getEvents (env : Env) (fromBlock toBlock : Int) : Result (List ResponseEvent) :=
  let maxBlockRange : Nat := 1000
  if toBlock - fromBlock > maxBlockRange then
    .error ⟨s!"Block range cannot exceed {maxBlockRange}"⟩
  else DataIntegrationService.getEvents env fromBlock toBlock

theorem getEvents_of_le {env : Env} {fromBlock toBlock : Int} (h : toBlock - fromBlock ≤ 1000) :
    getEvents env fromBlock toBlock = DataIntegrationService.getEvents env fromBlock toBlock :=
  if_neg (not_lt.2 h)

/-- The controller rejects the range before it reads anything. -/
theorem getEvents_of_lt {env : Env} {fromBlock toBlock : Int} (h : 1000 < toBlock - fromBlock) :
    getEvents env fromBlock toBlock = .error ⟨"Block range cannot exceed 1000"⟩ :=
  if_pos h

end DataIntegrationController

end DexAdapter
