import DexAdapter.CacheInfo

/-!
# The cache of the processes

`CacheService` keeps values in a cache that all processes share and in one of each process. Requests
read it and fill it (`getOrSet`, and `getToken`, which does the same by hand), the jobs of
`CacheWarmerService` overwrite it and then tell all processes which keys to delete from their own
caches, and `PubSubListenerController.deleteCacheKey` deletes them. Each call is cut where it
awaits, and `SharedCache.step` takes one of these steps in one call of one process. Times are
milliseconds, times to live are seconds as in the source.

Of `CacheService`, which is a package, the steps take no more than this: a call reads the cache of
its process first and the shared one after a miss; a value that it read there may be copied to the
process; `set` writes both in any order; entries may go before their time; and each of these may
fail.
-/

namespace DexAdapter

/-- For how many milliseconds a process keeps a value, by the time to live that is passed. -/
structure CachePackage where
  ownMilliseconds : Nat → Nat
  mono : ∀ ttl ttl', ttl ≤ ttl' → ownMilliseconds ttl ≤ ownMilliseconds ttl'

/-! ## Sources -/

/-- An error is logged and answered with no deploy info. -/
def MultiversXApiService.getContractDeployInfoRaw : Result ContractDeployInfo → ContractDeployInfo
  | .ok data => data
  | .error _ => { deployTxHash := none, deployedAt := none }

/-- What the API and the contracts answer at some moment: the fees as `getPairFeePercentRaw` reads
them, the pages of the OneDex contract at the moment of the last one. -/
structure Sources where
  tokens : String → TokenResponse
  accounts : String → Result ContractDeployInfo
  pairsMetadata : Result (List PairMetadata)
  pairFees : String → Result Float
  oneDexPairsMetadata : Result (List OneDexRawPair)

/-- The function that the cache is filled with. -/
def Sources.raw (sources : Sources) : (item : Cached) → Result item.Value
  | .token identifier => MultiversXApiService.getTokenRaw (sources.tokens identifier)
  | .pairsMetadata => sources.pairsMetadata
  | .pairFeePercent pairAddress => sources.pairFees pairAddress
  | .contractDeployInfo address =>
    .ok (MultiversXApiService.getContractDeployInfoRaw (sources.accounts address))
  | .oneDexPairsMetadata => sources.oneDexPairsMetadata

/-- A value that a source gave for a thing. `given` is the time at which it did, which no code
reads. -/
structure Answer where
  item : Cached
  value : item.Value
  given : Nat

/-- The time to live that the calls of requests pass: `getToken` keeps `null` for a minute. -/
def Answer.ttl : Answer → Nat
  | { item := .token identifier, value := tokenRaw, .. } =>
    if Option.isSome tokenRaw then (CacheInfo.Token identifier).ttl else Constants.oneMinute
  | { item := item, .. } => item.info.ttl

theorem Answer.ttl_le (answer : Answer) : answer.ttl ≤ answer.item.info.ttl := by
  obtain ⟨item, value, given⟩ := answer
  cases item with
  | token identifier =>
    have hminute : Constants.oneMinute ≤ Constants.oneDay := by decide
    show (if Option.isSome value then Constants.oneDay else Constants.oneMinute) ≤ Constants.oneDay
    split
    · exact Nat.le_refl _
    · exact hminute
  | pairsMetadata | pairFeePercent | contractDeployInfo | oneDexPairsMetadata =>
    exact Nat.le_refl _

/-! ## Calls -/

/-- The state of a job of `CacheWarmerService`. -/
structure Job where
  /-- an error for one key is logged and the job goes on -/
  catches : Bool
  /-- the keys written since the last message -/
  cacheKeys : List String
  /-- what is left of each batch, the one under way first -/
  batches : List (List Cached)

/-- The writes of `set` that are left. -/
structure Writes where
  own : Bool
  shared : Bool

/-- A call under way. -/
inductive Call where
  /-- before it reads the cache of its process -/
  | reading (item : Cached)
  /-- before it reads the shared cache -/
  | missed (item : Cached)
  /-- before it copies what it has read there -/
  | copying (item : Cached) (answer : Answer) (since : Nat)
  /-- before it is answered by the source -/
  | asking (item : Cached)
  /-- in `set`, with the job that goes on after it, if it is one -/
  | setting (answer : Answer) (left : Writes) (job : Option Job)
  /-- a call of a request, that has returned or thrown -/
  | returned (item : Cached) (time : Nat) (result : Result Answer)
  /-- a job, before it is answered for the next key of its batch, or before its message -/
  | warming (job : Job)
  /-- `deleteCacheKey`, with the keys that are left -/
  | deleting (keys : List String)

namespace Call

/-- The time to live that is passed to `set`: a job passes that of the key whatever it writes. -/
def settingTtl (answer : Answer) : Option Job → Nat
  | none => answer.ttl
  | some _ => answer.item.info.ttl

theorem settingTtl_le (answer : Answer) (job : Option Job) :
    settingTtl answer job ≤ answer.item.info.ttl := by
  cases job with
  | none => exact answer.ttl_le
  | some job => exact Nat.le_refl _

/-- A call of a request. -/
def get (item : Cached) : Call := reading item

def warmPairsMetadata : Call :=
  warming { catches := false, cacheKeys := [], batches := [[.pairsMetadata]] }

def warmOneDexPairsMetadata : Call :=
  warming { catches := false, cacheKeys := [], batches := [[.oneDexPairsMetadata]] }

/-- The tokens of the pairs; `distinct` keeps the first of equal ones. -/
def tokensOf (xExchangePairsMetadata : List PairMetadata)
    (oneDexPairsMetadata : List OneDexRawPair) : List String :=
  let xExchangeTokens :=
    xExchangePairsMetadata.flatMap fun pair => [pair.firstTokenId, pair.secondTokenId]
  let oneDexTokens :=
    oneDexPairsMetadata.flatMap fun pair => [pair.first_token_id, pair.second_token_id]
  (xExchangeTokens ++ oneDexTokens).reverse.dedup.reverse

/-- `warmTokens`, when it has read the pairs of both providers. -/
def warmTokens (batchUtils : BatchUtils) (xExchangePairsMetadata : List PairMetadata)
    (oneDexPairsMetadata : List OneDexRawPair) : Call :=
  let tokens := tokensOf xExchangePairsMetadata oneDexPairsMetadata
  let tokenBatches := batchUtils.splitArrayIntoChunks tokens 25
  warming { catches := true, cacheKeys := [], batches := tokenBatches.map (·.map .token) }

/-- `warmPairFees`, when it has read the pairs. -/
def warmPairFees (pairsMetadata : List PairMetadata) : Call :=
  warming
    { catches := true
      cacheKeys := []
      batches := [pairsMetadata.map fun metadata => .pairFeePercent metadata.address] }

/-- What `cacheService` finds in the cache of the process. -/
def afterOwn (now : Nat) (item : Cached) : Option Answer → Call
  | some answer => returned item now (.ok answer)
  | none => missed item

/-- What it finds in the shared cache. -/
def afterShared (now : Nat) (item : Cached) : Option Answer → Call
  | some answer => copying item answer now
  | none => asking item

/-- A job after an error for a key. -/
def afterError (now : Nat) (item : Cached) (error : JsError) (job : Job) : Call :=
  if job.catches then warming job else returned item now (.error error)

/-- The source answers; `none` when the call is not waiting for an answer. -/
def afterAnswer (now : Nat) (sources : Sources) : Call → Option Call
  | asking item =>
    match sources.raw item with
    | .ok value =>
      some (setting { item := item, value := value, given := now }
        { own := true, shared := true } none)
    | .error error => some (returned item now (.error error))
  | warming { catches, cacheKeys, batches := (item :: rest) :: batches } =>
    let job := { catches := catches, cacheKeys := cacheKeys, batches := rest :: batches }
    match sources.raw item with
    | .ok value =>
      some (setting { item := item, value := value, given := now }
        { own := true, shared := true } (some job))
    | .error error => some (afterError now item error job)
  | _ => none

/-- `set` is left when nothing is left to write. -/
def afterWrite (now : Nat) (answer : Answer) (left : Writes) (job : Option Job) : Call :=
  if left.own || left.shared then setting answer left job
  else
    match job with
    | none => returned answer.item now (.ok answer)
    | some job => warming { job with cacheKeys := job.cacheKeys ++ [answer.item.key] }

/-- A call whose access to a cache fails: a request throws, a job logs or throws. -/
def afterFailure (now : Nat) (error : JsError) : Call → Option Call
  | reading item | missed item | copying item _ _ => some (returned item now (.error error))
  | setting answer _ none => some (returned answer.item now (.error error))
  | setting answer _ (some job) => some (afterError now answer.item error job)
  | _ => none

end Call

/-! ## The system -/

/-- A process with the messages that it has not handled. -/
structure Process where
  cache : TtlCache.Cache String Answer
  inbox : List (List String)
  calls : List Call

structure SharedCache where
  now : Nat
  shared : TtlCache.Cache String Answer
  processes : Nat → Process

namespace SharedCache

def initial : SharedCache where
  now := 0
  shared _ := none
  processes _ := { cache := fun _ => none, inbox := [], calls := [] }

/-- What happens next, in process `p` and there in call `i` or with message `i`. -/
inductive Action where
  /-- time passes -/
  | wait (ms : Nat)
  /-- an entry goes before its time -/
  | forget (p : Nat) (key : String)
  | forgetShared (key : String)
  | get (p : Nat) (item : Cached)
  | warmPairsMetadata (p : Nat)
  | warmOneDexPairsMetadata (p : Nat)
  | warmTokens (p : Nat) (batchUtils : BatchUtils) (xExchangePairsMetadata : List PairMetadata)
    (oneDexPairsMetadata : List OneDexRawPair)
  | warmPairFees (p : Nat) (pairsMetadata : List PairMetadata)
  | readOwn (p i : Nat)
  | readShared (p i : Nat)
  | answer (p i : Nat) (sources : Sources)
  | writeOwn (p i : Nat)
  | writeShared (p i : Nat)
  /-- a value that was read in the shared cache is not copied -/
  | skipCopy (p i : Nat)
  | fail (p i : Nat) (error : JsError)
  /-- a job sends its message -/
  | emit (p i : Nat)
  /-- `deleteCacheKey` is called with a message -/
  | receive (p i : Nat)
  | lose (p i : Nat)
  | deleteLocal (p i : Nat)

variable (package : CachePackage) (s : SharedCache)

def update (p : Nat) (f : Process → Process) : SharedCache :=
  { s with processes := Function.update s.processes p (f (s.processes p)) }

def begin (p : Nat) (call : Call) : SharedCache :=
  s.update p fun process => { process with calls := process.calls ++ [call] }

/-- What call `i` of process `p` does when it is at the point that `next` is about. -/
def move (p i : Nat) (next : Call → Option Call) : Option SharedCache := do
  let call ← (s.processes p).calls[i]?
  let call ← next call
  pure (s.update p fun process => { process with calls := process.calls.set i call })

/-- `clientProxy.emit('deleteCacheKeys', cacheKeys)`: the message reaches every process. -/
def broadcast (cacheKeys : List String) : SharedCache :=
  { s with processes := fun p =>
      { s.processes p with inbox := (s.processes p).inbox ++ [cacheKeys] } }

/-- The arguments of a write. -/
structure Write where
  item : Cached
  answer : Answer
  ttl : Nat

/-- The value that a call writes to the cache of its process, and the call after it. -/
def ownWrite (now : Nat) : Call → Option (Write × Call)
  | .copying item answer _ =>
    some ({ item := item, answer := answer, ttl := item.info.ttl },
      .returned item now (.ok answer))
  | .setting answer { own := true, shared } job =>
    some ({ item := answer.item, answer := answer, ttl := Call.settingTtl answer job },
      .afterWrite now answer { own := false, shared := shared } job)
  | _ => none

/-- The value that a call writes to the shared cache. -/
def sharedWrite (now : Nat) : Call → Option (Write × Call)
  | .setting answer { own, shared := true } job =>
    some ({ item := answer.item, answer := answer, ttl := Call.settingTtl answer job },
      .afterWrite now answer { own := own, shared := false } job)
  | _ => none

/-- The keys in the message that a job comes to at the end of a batch. -/
def emitted : Call → Option (List String × Call)
  | .warming { catches, cacheKeys, batches := [] :: batches } =>
    some (cacheKeys, .warming { catches := catches, cacheKeys := [], batches := batches })
  | _ => none

def step : Action → Option SharedCache
  | .wait ms => some { s with now := s.now + ms }
  | .forget p key =>
    some (s.update p fun process => { process with cache := TtlCache.forget process.cache key })
  | .forgetShared key => some { s with shared := TtlCache.forget s.shared key }
  | .get p item => some (s.begin p (.get item))
  | .warmPairsMetadata p => some (s.begin p .warmPairsMetadata)
  | .warmOneDexPairsMetadata p => some (s.begin p .warmOneDexPairsMetadata)
  | .warmTokens p batchUtils xExchangePairsMetadata oneDexPairsMetadata =>
    some (s.begin p (.warmTokens batchUtils xExchangePairsMetadata oneDexPairsMetadata))
  | .warmPairFees p pairsMetadata => some (s.begin p (.warmPairFees pairsMetadata))
  | .readOwn p i => s.move p i fun
    | .reading item =>
      some (.afterOwn s.now item (TtlCache.get (s.processes p).cache s.now item.key))
    | _ => none
  | .readShared p i => s.move p i fun
    | .missed item => some (.afterShared s.now item (TtlCache.get s.shared s.now item.key))
    | _ => none
  | .answer p i sources => s.move p i (Call.afterAnswer s.now sources)
  | .writeOwn p i => do
    let call ← (s.processes p).calls[i]?
    let (w, call) ← ownWrite s.now call
    pure (s.update p fun process =>
      { process with
        cache := TtlCache.set process.cache s.now w.item.key w.answer
          (package.ownMilliseconds w.ttl)
        calls := process.calls.set i call })
  | .writeShared p i => do
    let call ← (s.processes p).calls[i]?
    let (w, call) ← sharedWrite s.now call
    let s' := s.update p fun process => { process with calls := process.calls.set i call }
    pure { s' with
      shared := TtlCache.set s.shared s.now w.item.key w.answer (TokenCache.milliseconds w.ttl) }
  | .skipCopy p i => s.move p i fun
    | .copying item answer _ => some (.returned item s.now (.ok answer))
    | _ => none
  | .fail p i error => s.move p i (Call.afterFailure s.now error)
  | .emit p i => do
    let call ← (s.processes p).calls[i]?
    let (cacheKeys, call) ← emitted call
    let s' := s.update p fun process => { process with calls := process.calls.set i call }
    pure (s'.broadcast cacheKeys)
  | .receive p i => do
    let keys ← (s.processes p).inbox[i]?
    pure (s.update p fun process =>
      { process with
        inbox := process.inbox.eraseIdx i
        calls := process.calls ++ [.deleting keys] })
  | .lose p i => some (s.update p fun process =>
      { process with inbox := process.inbox.eraseIdx i })
  | .deleteLocal p i => do
    let call ← (s.processes p).calls[i]?
    match call with
    | .deleting (key :: keys) => pure (s.update p fun process =>
        { process with
          cache := TtlCache.forget process.cache key
          calls := process.calls.set i (.deleting keys) })
    | _ => none

end SharedCache

end DexAdapter
