import DexAdapter.DataIntegration.Service
import DexAdapter.OneDex.Service

/-!
# What OneDex events read of their pairs

An event keeps the pair that its class found, and its conversion reads the pair's address, tokens
and token decimals. The decimals of the lp token and the fee are read by neither, so that lists of
pairs that differ in nothing else give the same responses (`process_forEvents`).
-/

namespace DexAdapter

open Collect DataIntegrationService

/-- The pair as events read it: without the decimals of its lp token and its fee. -/
def OneDexPair.forEvents (pair : OneDexPair) : OneDexPair :=
  { pair with lpTokenDecimals := 0, pairFeePercent := 0 }

def OneDexSwapEvent.forEvents (event : OneDexSwapEvent) : OneDexSwapEvent :=
  { event with pair := event.pair.map OneDexPair.forEvents }

def OneDexLiquidityEvent.forEvents (event : OneDexLiquidityEvent) : OneDexLiquidityEvent :=
  { event with pair := event.pair.map OneDexPair.forEvents }

def OneDexSwapEvent.WithPair.forEvents (event : OneDexSwapEvent.WithPair) :
    OneDexSwapEvent.WithPair where
  val := event.val.forEvents
  property := Option.isSome_map.trans event.property

def OneDexLiquidityEvent.WithPair.forEvents (event : OneDexLiquidityEvent.WithPair) :
    OneDexLiquidityEvent.WithPair where
  val := event.val.forEvents
  property := Option.isSome_map.trans event.property

namespace OneDexService

def Event.forEvents : Event → Event
  | .swap event => .swap event.forEvents
  | .liquidity event => .liquidity event.forEvents

/-! ## Decoding -/

theorem findPairById_forEvents (pairs : List OneDexPair) (pairId : JsNumber) :
    findPairById (pairs.map OneDexPair.forEvents) pairId =
      (findPairById pairs pairId).map OneDexPair.forEvents :=
  List.find?_map

theorem find?_lpTokenId_forEvents (pairs : List OneDexPair) (lpTokenId : String) :
    ((pairs.map OneDexPair.forEvents).find? fun p => p.lpTokenId == lpTokenId) =
      (pairs.find? fun p => p.lpTokenId == lpTokenId).map OneDexPair.forEvents :=
  List.find?_map

theorem keepSwap_forEvents (event : OneDexSwapEvent) :
    keepSwap event.forEvents = (keepSwap event).map Event.forEvents := by
  have hpair : event.forEvents.pair.isSome = event.pair.isSome := Option.isSome_map
  unfold keepSwap
  by_cases h : event.pair.isSome = true
  · rw [dif_pos h, dif_pos (hpair.trans h)]
    rfl
  · rw [dif_neg h, dif_neg fun h' => h (hpair.symm.trans h')]
    rfl

theorem keepLiquidity_forEvents (event : OneDexLiquidityEvent) :
    keepLiquidity event.forEvents = (keepLiquidity event).map Event.forEvents := by
  have hpair : event.forEvents.pair.isSome = event.pair.isSome := Option.isSome_map
  unfold keepLiquidity
  by_cases h : event.pair.isSome = true
  · rw [dif_pos h, dif_pos (hpair.trans h)]
    rfl
  · rw [dif_neg h, dif_neg fun h' => h (hpair.symm.trans h')]
    rfl

section Classes

variable (sdk : Sdk) (e : ElasticEvent) (pairs : List OneDexPair)

theorem swapEvent_forEvents :
    OneDexSwapEvent.new sdk e (pairs.map OneDexPair.forEvents) =
      (OneDexSwapEvent.new sdk e pairs).map OneDexSwapEvent.forEvents := by
  simp only [OneDexSwapEvent.new, findPairById_forEvents, map_bind]
  rfl

theorem liquidityEvent_forEvents (eventType : EventType) :
    OneDexLiquidityEvent.new sdk e (pairs.map OneDexPair.forEvents) eventType =
      (OneDexLiquidityEvent.new sdk e pairs eventType).map OneDexLiquidityEvent.forEvents := by
  simp only [OneDexLiquidityEvent.new, findPairById_forEvents, map_bind]
  rfl

theorem addInitialLiquidityEvent_forEvents :
    OneDexAddInitialLiquidityEvent.new sdk e (pairs.map OneDexPair.forEvents) =
      (OneDexAddInitialLiquidityEvent.new sdk e pairs).map OneDexLiquidityEvent.forEvents := by
  simp only [OneDexAddInitialLiquidityEvent.new, find?_lpTokenId_forEvents, map_bind]
  rfl

end Classes

/-- A class decodes alike, and its event keeps the pair as events read it. -/
theorem decodeRaw_forEvents (env : Env) (pairs : List OneDexPair) (e : ElasticEvent) :
    decodeRaw env (pairs.map OneDexPair.forEvents) e =
      (decodeRaw env pairs e).map (Option.map Event.forEvents) := by
  unfold decodeRaw OneDexAddLiquidityEvent.new OneDexRemoveLiquidityEvent.new
  rw [swapEvent_forEvents, addInitialLiquidityEvent_forEvents, liquidityEvent_forEvents,
    liquidityEvent_forEvents]
  split
  · cases OneDexSwapEvent.new env.sdk e pairs with
    | error error => rfl
    | ok event => exact congrArg Except.ok (keepSwap_forEvents event)
  · split
    · cases OneDexAddInitialLiquidityEvent.new env.sdk e pairs with
      | error error => rfl
      | ok event => exact congrArg Except.ok (keepLiquidity_forEvents event)
    · split
      · cases OneDexLiquidityEvent.new env.sdk e pairs .addLiquidity with
        | error error => rfl
        | ok event => exact congrArg Except.ok (keepLiquidity_forEvents event)
      · split
        · cases OneDexLiquidityEvent.new env.sdk e pairs .removeLiquidity with
          | error error => rfl
          | ok event => exact congrArg Except.ok (keepLiquidity_forEvents event)
        · rfl

/-! ## Conversion -/

theorem swapPair_forEvents (event : OneDexSwapEvent.WithPair) :
    swapPair event.forEvents = (swapPair event).forEvents :=
  Option.get_map

theorem liquidityPair_forEvents (event : OneDexLiquidityEvent.WithPair) :
    liquidityPair event.forEvents = (liquidityPair event).forEvents :=
  Option.get_map

theorem convert_forEvents (env : Env) (event : Event) :
    convert (oneDexService env) event.forEvents = convert (oneDexService env) event := by
  cases event with
  | swap event =>
    simp only [Event.forEvents, convert, fromSwapEvent, swapPair_forEvents]
    rfl
  | liquidity event =>
    simp only [Event.forEvents, convert, fromAddRemoveLiquidityEvent, liquidityPair_forEvents]
    rfl

theorem general_forEvents (event : Event) : general event.forEvents = general event := by
  cases event <;> rfl

theorem processEvent_forEvents (env : Env) (rounds : List ElasticRound) (event : Event) :
    processEvent (oneDexService env) rounds event.forEvents =
      processEvent (oneDexService env) rounds event := by
  have hgeneral : (oneDexService env).general event.forEvents = (oneDexService env).general event :=
    general_forEvents event
  unfold processEvent
  rw [convert_forEvents, hgeneral]

/-- **What becomes of a document** does not depend on the fields that events do not read. -/
theorem process_forEvents (env : Env) (rounds : List ElasticRound) (pairs : List OneDexPair)
    (e : ElasticEvent) :
    (decodeRaw env (pairs.map OneDexPair.forEvents) e >>= fun event =>
        pure (event.bind (processEvent (oneDexService env) rounds))) =
      decodeRaw env pairs e >>= fun event =>
        pure (event.bind (processEvent (oneDexService env) rounds)) := by
  rw [decodeRaw_forEvents]
  cases decodeRaw env pairs e with
  | error error => rfl
  | ok event =>
    cases event with
    | none => rfl
    | some event => exact congrArg Except.ok (processEvent_forEvents env rounds event)

end OneDexService

end DexAdapter
