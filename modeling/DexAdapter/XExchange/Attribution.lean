import DexAdapter.XExchange.Abi
import DexAdapter.Verify.Attribution
import DexAdapter.Verify.Pairs
import DexAdapter.Reference

/-!
# xExchange events end to end

From a value of the pair contract's ABI to the reported event: the document carries the nested
encoding of the value, the event class decodes it, the provider converts it. The orientation of a
pair is decided in the metadata, in the liquidity events and in the swaps; `xExchange_attributed`
says that the three agree for both orientations of the router's entry.
-/

namespace DexAdapter.XExchangeService

open Collect

/-! ## Decoding -/

section Decoding

variable {sdk : Sdk} {document : ElasticEvent}

/-- The fields of a decoded swap become the fields of its event. -/
theorem new_swapEvent {chain : PairAbi.SwapEvent}
    (hdecode : decodeEvent sdk document.data XExchangeSwapEvent.getStructure =
      .ok ((XExchangeSwapEvent.getStructure.map Prod.fst).zip chain.values))
    (pair : XExchangePair) :
    ∃ event, XExchangeSwapEvent.new sdk document pair = .ok event ∧
      event.toGeneralEvent =
        GeneralEvent.ofElastic document .swap (numberOfNat sdk chain.timestamp) ∧
      event.caller = sdk.bech32 chain.caller ∧ event.pair = pair ∧
      event.tokenInId = chain.token_id_in ∧
      event.tokenInAmount = fixedOfNat sdk chain.token_amount_in ∧
      event.tokenOutAmount = fixedOfNat sdk chain.token_amount_out ∧
      event.tokenInReserves = fixedOfNat sdk chain.token_in_reserve ∧
      event.tokenOutReserves = fixedOfNat sdk chain.token_out_reserve := by
  rw [XExchangeSwapEvent.new, hdecode]
  exact ⟨_, rfl, rfl, rfl, rfl, rfl, rfl, rfl, rfl, rfl⟩

theorem new_liquidityEvent {chain : PairAbi.LiquidityEvent}
    (hdecode : decodeEvent sdk document.data XExchangeLiquidityEvent.getStructure =
      .ok ((XExchangeLiquidityEvent.getStructure.map Prod.fst).zip chain.values))
    (pair : XExchangePair) (eventType : EventType) :
    ∃ event, XExchangeLiquidityEvent.newSubclass sdk document pair eventType = .ok event ∧
      event.toGeneralEvent =
        GeneralEvent.ofElastic document eventType (numberOfNat sdk chain.timestamp) ∧
      event.caller = sdk.bech32 chain.caller ∧ event.pair = pair ∧
      event.firstTokenAmount = fixedOfNat sdk
        (if pair.isInverted then chain.second_token_amount else chain.first_token_amount) ∧
      event.secondTokenAmount = fixedOfNat sdk
        (if pair.isInverted then chain.first_token_amount else chain.second_token_amount) ∧
      event.firstTokenReserves = fixedOfNat sdk
        (if pair.isInverted then chain.second_token_reserves else chain.first_token_reserves) ∧
      event.secondTokenReserves = fixedOfNat sdk
        (if pair.isInverted then chain.first_token_reserves else chain.second_token_reserves) := by
  rw [XExchangeLiquidityEvent.newSubclass, XExchangeLiquidityEvent.new, hdecode]
  exact ⟨_, rfl, rfl, rfl, rfl, rfl, rfl, rfl, rfl⟩

variable (hcodec : sdk.codec.ReadsNested) {bytes : List UInt8}
  (hdata : document.data = some (Bytes.toHex bytes))

include hcodec hdata

theorem decodeEvent_eq {struct : StructType} {values : List Nested.FieldValue}
    (hencode : Nested.encodeAll (struct.map Prod.snd) values = some bytes) :
    decodeEvent sdk document.data struct = .ok ((struct.map Prod.fst).zip values) := by
  rw [hdata, decodeEvent, Bytes.ofHex_toHex]
  exact hcodec struct values bytes hencode

end Decoding

/-! ## Orientation -/

def chainSwap (chain : PairAbi.SwapEvent) : ChainSwap where
  tokenIn := chain.token_id_in
  amountIn := chain.token_amount_in
  tokenOut := chain.token_id_out
  amountOut := chain.token_amount_out
  reserveIn := chain.token_in_reserve
  reserveOut := chain.token_out_reserve

def chainLiquidity (chain : PairAbi.LiquidityEvent) : ChainLiquidity where
  token := Side.pick chain.first_token_id chain.second_token_id
  amount := Side.pick chain.first_token_amount chain.second_token_amount
  reserve := Side.pick chain.first_token_reserves chain.second_token_reserves

/-- An entry of the router, the pair that `getPairs` makes of it, and the answer of `/pair`. -/
structure RouterPair (env : Env) where
  entry : PairContractMetadata
  pair : XExchangePair
  pair_eq : withDecimals env (toPairMetadata env.apiConfigService entry) = .ok (some pair)
  pairs : List XExchangePair
  pairs_eq : getPairs env = .ok pairs
  found : pairs.find? (fun p => p.address == entry.address) = some pair
  response : Pair
  response_eq : getPair env entry.address = .ok (some response)

namespace RouterPair

variable {env : Env} (p : RouterPair env)

def decimals : Side → Nat := Side.pick p.pair.firstTokenDecimals p.pair.secondTokenDecimals

/-- The pair is the entry, as it stands or exchanged. -/
theorem orientation :
    (p.pair.isInverted = false ∧ p.pair.firstTokenId = p.entry.first_token_id ∧
      p.pair.secondTokenId = p.entry.second_token_id) ∨
    (p.pair.isInverted = true ∧ p.pair.firstTokenId = p.entry.second_token_id ∧
      p.pair.secondTokenId = p.entry.first_token_id) := by
  obtain ⟨first, second, -, -, hpair⟩ := withDecimals_eq_some.1 p.pair_eq
  rw [hpair]
  simp only [toPairMetadata]
  cases isPairInverted env.apiConfigService p.entry.first_token_id p.entry.second_token_id with
  | false => exact Or.inl ⟨rfl, rfl, rfl⟩
  | true => exact Or.inr ⟨rfl, rfl, rfl⟩

/-- `/pair` reports the tokens of the pair. -/
theorem assetId_eq (side : Side) :
    p.response.assetId side = Side.pick p.pair.firstTokenId p.pair.secondTokenId side := by
  have h := describes_of_getPair p.pairs_eq p.found p.response_eq
  cases side with
  | zero => exact h.asset0Id
  | one => exact h.asset1Id

/-- Where the token of a side stands in the router's entry. -/
def place (side : Side) : Side := if p.pair.isInverted then side.other else side

theorem assetId_eq_entry (side : Side) :
    p.response.assetId side =
      Side.pick p.entry.first_token_id p.entry.second_token_id (p.place side) := by
  rw [p.assetId_eq, place]
  rcases p.orientation with ⟨hinv, h0, h1⟩ | ⟨hinv, h0, h1⟩
  · rw [hinv, h0, h1]
    rfl
  · rw [hinv, h0, h1]
    cases side <;> rfl

/-- The decimals of a side are those of the token `/pair` reports on it. -/
theorem token_of_side (side : Side) :
    ∃ token, env.getToken (p.response.assetId side) = .ok (some token) ∧
      token.decimals = p.decimals side := by
  obtain ⟨first, second, hfirst, hsecond, hpair⟩ := withDecimals_eq_some.1 p.pair_eq
  have hdecimals : p.decimals = Side.pick first.decimals second.decimals := by
    rw [decimals, hpair]
  rw [p.assetId_eq, hdecimals]
  rw [hpair]
  cases side with
  | zero => exact ⟨first, hfirst, rfl⟩
  | one => exact ⟨second, hsecond, rfl⟩

end RouterPair

/-! ## Attribution -/

section Attribution

variable {env : Env} {rat : env.sdk.bigNumber.BigNumber → Option ℚ}
  (hB : env.sdk.bigNumber.Exact rat) (p : RouterPair env)

include hB

/-- A swap in either direction, over a pair in either orientation. -/
theorem swap_attributed {chain : PairAbi.SwapEvent}
    (htokens : (chain.token_id_in = p.entry.first_token_id ∧
        chain.token_id_out = p.entry.second_token_id) ∨
      (chain.token_id_in = p.entry.second_token_id ∧
        chain.token_id_out = p.entry.first_token_id))
    {event : XExchangeSwapEvent} (hpair : event.pair = p.pair)
    (hin : event.tokenInId = chain.token_id_in)
    (hamountIn : event.tokenInAmount = fixedOfNat env.sdk chain.token_amount_in)
    (hamountOut : event.tokenOutAmount = fixedOfNat env.sdk chain.token_amount_out)
    (hreserveIn : event.tokenInReserves = fixedOfNat env.sdk chain.token_in_reserve)
    (hreserveOut : event.tokenOutReserves = fixedOfNat env.sdk chain.token_out_reserve) :
    ∃ side, SwapAttributed p.response.assetId p.decimals (chainSwap chain)
      (fromSwapEvent env event) side := by
  have hdecimals : p.decimals =
      Side.pick event.pair.firstTokenDecimals event.pair.secondTokenDecimals := by
    rw [hpair]
    rfl
  refine swapEventOf_attributed hB hdecimals ?_ ?_ ?_
  · exact
      { tokenIn := hin
        amountIn := (congrArg _ hamountIn).trans (value_fixedOfNat hB _)
        amountOut := (congrArg _ hamountOut).trans (value_fixedOfNat hB _)
        reserveIn := (congrArg _ hreserveIn).trans (value_fixedOfNat hB _)
        reserveOut := (congrArg _ hreserveOut).trans (value_fixedOfNat hB _) }
  · show event.pair.firstTokenId = _
    rw [hpair, p.assetId_eq]
    rfl
  · rw [p.assetId_eq, p.assetId_eq]
    simp only [Side.pick, chainSwap]
    rcases p.orientation with ⟨-, h0, h1⟩ | ⟨-, h0, h1⟩
    · rw [h0, h1]
      exact htokens.imp (fun h => ⟨h.1.symm, h.2.symm⟩) fun h => ⟨h.1.symm, h.2.symm⟩
    · rw [h0, h1]
      exact htokens.symm.imp (fun h => ⟨h.1.symm, h.2.symm⟩) fun h => ⟨h.1.symm, h.2.symm⟩

/-- The exchange of first and second token in the event undoes the one in the metadata. -/
theorem liquidity_attributed {chain : PairAbi.LiquidityEvent}
    (hfirst : chain.first_token_id = p.entry.first_token_id)
    (hsecond : chain.second_token_id = p.entry.second_token_id)
    {event : XExchangeLiquidityEvent} (hpair : event.pair = p.pair)
    (hamount0 : event.firstTokenAmount = fixedOfNat env.sdk
      (if p.pair.isInverted then chain.second_token_amount else chain.first_token_amount))
    (hamount1 : event.secondTokenAmount = fixedOfNat env.sdk
      (if p.pair.isInverted then chain.first_token_amount else chain.second_token_amount))
    (hreserve0 : event.firstTokenReserves = fixedOfNat env.sdk
      (if p.pair.isInverted then chain.second_token_reserves else chain.first_token_reserves))
    (hreserve1 : event.secondTokenReserves = fixedOfNat env.sdk
      (if p.pair.isInverted then chain.first_token_reserves else chain.second_token_reserves)) :
    LiquidityAttributed p.response.assetId p.decimals (chainLiquidity chain)
      (fromAddRemoveLiquidityEvent env event) p.place := by
  have hdecimals : p.decimals =
      Side.pick event.pair.firstTokenDecimals event.pair.secondTokenDecimals := by
    rw [hpair]
    rfl
  have value_of : ∀ {text : String} {m n : Nat}, text = fixedOfNat env.sdk m → m = n →
      Numeral.value text = some (n : ℚ) := by
    rintro text m n rfl rfl
    exact value_fixedOfNat hB m
  refine joinExitEventOf_attributed hB hdecimals ?_ fun side => ?_
  · constructor
    · exact value_of hamount0 (by unfold RouterPair.place; split <;> rfl)
    · exact value_of hamount1 (by unfold RouterPair.place; split <;> rfl)
    · exact value_of hreserve0 (by unfold RouterPair.place; split <;> rfl)
    · exact value_of hreserve1 (by unfold RouterPair.place; split <;> rfl)
  · rw [p.assetId_eq_entry, chainLiquidity, hfirst, hsecond]

variable (hcodec : env.sdk.codec.ReadsNested)

include hcodec

/-- **End to end**: whatever the router lists first, the three event kinds report every on-chain
amount on the asset that `/pair` names for its token. -/
theorem xExchange_attributed :
    (∀ side, ∃ token, env.getToken (p.response.assetId side) = .ok (some token) ∧
      token.decimals = p.decimals side) ∧
    (∀ (chain : PairAbi.SwapEvent) (bytes : List UInt8) (document : ElasticEvent),
      chain.encode = some bytes → document.data = some (Bytes.toHex bytes) →
      chain.timestamp < 2 ^ 53 →
      ((chain.token_id_in = p.entry.first_token_id ∧
          chain.token_id_out = p.entry.second_token_id) ∨
        (chain.token_id_in = p.entry.second_token_id ∧
          chain.token_id_out = p.entry.first_token_id)) →
      ∃ event side, XExchangeSwapEvent.new env.sdk document p.pair = .ok event ∧
        event.timestamp = .num chain.timestamp ∧
        (fromSwapEvent env event).maker = env.sdk.bech32 chain.caller ∧
        SwapAttributed p.response.assetId p.decimals (chainSwap chain)
          (fromSwapEvent env event) side) ∧
    (∀ (chain : PairAbi.AddLiquidityEvent) (bytes : List UInt8) (document : ElasticEvent),
      chain.encode = some bytes → document.data = some (Bytes.toHex bytes) →
      chain.timestamp < 2 ^ 53 → chain.first_token_id = p.entry.first_token_id →
      chain.second_token_id = p.entry.second_token_id →
      ∃ event, XExchangeAddLiquidityEvent.new env.sdk document p.pair = .ok event ∧
        event.timestamp = .num chain.timestamp ∧
        (fromAddRemoveLiquidityEvent env event).eventType = .join ∧
        (fromAddRemoveLiquidityEvent env event).maker = env.sdk.bech32 chain.caller ∧
        LiquidityAttributed p.response.assetId p.decimals (chainLiquidity chain)
          (fromAddRemoveLiquidityEvent env event) p.place) ∧
    (∀ (chain : PairAbi.RemoveLiquidityEvent) (bytes : List UInt8) (document : ElasticEvent),
      chain.encode = some bytes → document.data = some (Bytes.toHex bytes) →
      chain.timestamp < 2 ^ 53 → chain.first_token_id = p.entry.first_token_id →
      chain.second_token_id = p.entry.second_token_id →
      ∃ event, XExchangeRemoveLiquidityEvent.new env.sdk document p.pair = .ok event ∧
        event.timestamp = .num chain.timestamp ∧
        (fromAddRemoveLiquidityEvent env event).eventType = .exit ∧
        (fromAddRemoveLiquidityEvent env event).maker = env.sdk.bech32 chain.caller ∧
        LiquidityAttributed p.response.assetId p.decimals (chainLiquidity chain)
          (fromAddRemoveLiquidityEvent env event) p.place) := by
  refine ⟨p.token_of_side, ?_, ?_, ?_⟩
  · intro chain bytes document hencode hdata htimestamp htokens
    obtain ⟨event, hnew, hgeneral, hcaller, hpair, hin, h0, h1, h2, h3⟩ :=
      new_swapEvent (decodeEvent_eq hcodec hdata hencode) p.pair
    obtain ⟨side, hside⟩ := swap_attributed hB p htokens hpair hin h0 h1 h2 h3
    obtain ⟨-, -, -, hmaker, -⟩ := swapEventOf_keys env.sdk.bigNumber _
    refine ⟨event, side, hnew, ?_, hmaker.trans hcaller, hside⟩
    rw [hgeneral]
    exact hB.toNumber _ htimestamp
  · intro chain bytes document hencode hdata htimestamp hfirst hsecond
    obtain ⟨event, hnew, hgeneral, hcaller, hpair, h0, h1, h2, h3⟩ :=
      new_liquidityEvent (decodeEvent_eq hcodec hdata hencode) p.pair .addLiquidity
    refine ⟨event, hnew, ?_, ?_, hcaller,
      liquidity_attributed hB p hfirst hsecond hpair h0 h1 h2 h3⟩
    · rw [hgeneral]
      exact hB.toNumber _ htimestamp
    · show (if event.type = .addLiquidity then JoinExitType.join else .exit) = _
      rw [hgeneral]
      rfl
  · intro chain bytes document hencode hdata htimestamp hfirst hsecond
    obtain ⟨event, hnew, hgeneral, hcaller, hpair, h0, h1, h2, h3⟩ :=
      new_liquidityEvent (decodeEvent_eq hcodec hdata hencode) p.pair .removeLiquidity
    refine ⟨event, hnew, ?_, ?_, hcaller,
      liquidity_attributed hB p hfirst hsecond hpair h0 h1 h2 h3⟩
    · rw [hgeneral]
      exact hB.toNumber _ htimestamp
    · show (if event.type = .addLiquidity then JoinExitType.join else .exit) = _
      rw [hgeneral]
      rfl

end Attribution

section Market

open Reference

theorem withDecimals_routerEntry :
    withDecimals marketEnv (toPairMetadata config routerEntry) =
      .ok (some { toPairMetadata config routerEntry with
        firstTokenDecimals := 18
        secondTokenDecimals := 18 }) :=
  withDecimals_eq_some.2 ⟨token "MEX-455c57" 18, token "WEGLD-bd4d79" 18, by decide +kernel,
    by decide +kernel, rfl⟩

theorem market_routerPair : ∃ p : RouterPair marketEnv, p.entry = routerEntry := by
  let pair : XExchangePair :=
    { toPairMetadata config routerEntry with firstTokenDecimals := 18, secondTokenDecimals := 18 }
  have hpair : withDecimals marketEnv (toPairMetadata config routerEntry) = .ok (some pair) :=
    withDecimals_routerEntry
  have hpairs : getPairs marketEnv = .ok [pair] := by
    show collect (withDecimals marketEnv) [toPairMetadata config routerEntry] = _
    rw [collect, hpair]
    rfl
  have hfound : [pair].find? (fun p => p.address == routerEntry.address) = some pair :=
    List.find?_cons_of_pos (beq_self_eq_true routerEntry.address)
  obtain ⟨response, hresponse, -⟩ := getPair_of_found hpairs hfound ⟨_, rfl⟩
  exact ⟨⟨routerEntry, pair, hpair, [pair], hpairs, hfound, response, hresponse⟩, rfl⟩

theorem xExchange_attributed_market :
    ∃ (p : RouterPair marketEnv) (document : ElasticEvent) (event : XExchangeSwapEvent)
        (side : Side),
      XExchangeSwapEvent.new marketEnv.sdk document p.pair = .ok event ∧
        event.timestamp = .num 6000 ∧
        SwapAttributed p.response.assetId p.decimals
          (chainSwap (pairSwap routerEntry (userKey 1) 6000)) (fromSwapEvent marketEnv event)
          side := by
  obtain ⟨p, hentry⟩ := market_routerPair
  obtain ⟨bytes, hencode⟩ : ∃ bytes, (pairSwap routerEntry (userKey 1) 6000).encode = some bytes :=
    Option.isSome_iff_exists.1 (by decide +kernel)
  let document := pairSwapDocument routerEntry (userKey 1)
    { timestamp := 6000, txHash := "cc", originalTxHash := none, txOrder := 1, order := 0,
      shardId := 1 }
  have hdata : document.data = some (Bytes.toHex bytes) := congrArg (Option.map Bytes.toHex) hencode
  obtain ⟨-, hswap, -⟩ := xExchange_attributed bigNumber_exact p codec_readsNested
  have htokens : "WEGLD-bd4d79" = p.entry.first_token_id ∧
      "MEX-455c57" = p.entry.second_token_id := by
    rw [hentry]
    exact ⟨rfl, rfl⟩
  obtain ⟨event, side, hnew, htimestamp, -, hside⟩ :=
    hswap (pairSwap routerEntry (userKey 1) 6000) bytes document hencode hdata (by decide)
      (Or.inl htokens)
  exact ⟨p, document, event, side, hnew, htimestamp, hside⟩

end Market

end DexAdapter.XExchangeService
