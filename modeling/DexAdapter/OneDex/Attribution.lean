import DexAdapter.Verify.Attribution
import DexAdapter.Verify.Contribution
import DexAdapter.Verify.Pairs
import DexAdapter.Reference

/-!
# OneDex events end to end

From a value of the OneDex ABI to the reported event: the document carries the top-encoded arguments
as topics, the class that the first topic names reads them by position, the provider converts them.
`oneDex_attributed` covers the five kinds; swaps carry their reserves at topics 4 and 7, deposits
and withdrawals at 10 and 11, and the initial deposit carries none.
-/

namespace DexAdapter.OneDexService

open Collect
open SwapAbi (topicOfText topicOfNat TokenIdentifier)

/-! ## Topics -/

section Topics

variable {sdk : Sdk} (hutils : sdk.binaryUtils.Reads)

include hutils

theorem topicString_eq {event : ElasticEvent} {i : Nat} {token : TokenIdentifier}
    (h : event.topics[i]? = some (topicOfText token.val)) :
    topicString sdk event i = .ok token.val := by
  rw [topicString, h]
  exact hutils.hexToString token.val token.property

/-- The empty topic is zero. -/
theorem topicBigInt_eq {event : ElasticEvent} {i n : Nat}
    (h : event.topics[i]? = some (topicOfNat n)) :
    topicBigInt sdk event i = .ok (toString n) := by
  rw [topicBigInt, h, topicOfNat, hutils.hexToBigInt, Bytes.toNat_ofNat]
  rfl

theorem topicNumber_eq {event : ElasticEvent} {i n : Nat}
    (h : event.topics[i]? = some (topicOfNat n)) (hpos : n ≠ 0) (hlt : n < 2 ^ 53) :
    topicNumber sdk event i = .num n := by
  have hread := hutils.hexToNumber (Bytes.ofNat n) (Bytes.ofNat_ne_nil hpos)
  rw [Bytes.toNat_ofNat] at hread
  rw [topicNumber, h]
  exact hread hlt

theorem topicNumber_empty {event : ElasticEvent} {i : Nat}
    (h : event.topics[i]? = some (topicOfNat 0)) : topicNumber sdk event i = .nan := by
  rw [topicNumber, h]
  exact hutils.hexToNumber_empty

theorem stringToHex_name {name : String} (h : Bytes.IsAscii name) :
    sdk.binaryUtils.stringToHex name = topicOfText name :=
  hutils.stringToHex name h

end Topics

theorem topicOfText_ne {a b : String} (ha : Bytes.IsAscii a) (hb : Bytes.IsAscii b) (h : a ≠ b) :
    topicOfText a ≠ topicOfText b := by
  intro heq
  have hbytes := congrArg Bytes.ofHex heq
  rw [topicOfText, topicOfText, Bytes.ofHex_toHex, Bytes.ofHex_toHex] at hbytes
  have htext := congrArg Bytes.toAscii hbytes
  rw [Bytes.toAscii_ofAscii ha, Bytes.toAscii_ofAscii hb] at htext
  exact h htext

/-! ## Event classes -/

section Classes

variable {sdk : Sdk} (hutils : sdk.binaryUtils.Reads) (haddress : sdk.EncodesAddresses)
  {document : ElasticEvent} (pairs : List OneDexPair)

include hutils haddress

theorem new_swapEvent {chain : SwapAbi.SwapEvent} {name : String}
    (htopics : document.topics = chain.topics name) :
    ∃ event, OneDexSwapEvent.new sdk document pairs = .ok event ∧
      event.timestamp = topicNumber sdk document 8 ∧ event.caller = sdk.bech32 chain.caller.val ∧
      event.tokenInId = chain.token_in.val ∧
      event.tokenInAmount = toString chain.amount_in ∧
      event.tokenOutAmount = toString chain.amount_out ∧
      event.tokenInReserves = toString chain.token_in_reserve ∧
      event.tokenOutReserves = toString chain.token_out_reserve ∧
      event.pair = findPairById pairs (topicNumber sdk document 9) := by
  have htopic : ∀ i : Nat, document.topics[i]? = (chain.topics name)[i]? := fun i => by rw [htopics]
  rw [OneDexSwapEvent.new, htopic 1]
  rw [show (chain.topics name)[1]? = some (Bytes.toHex chain.caller.val) from rfl,
    haddress _ chain.caller.property, ok_bind, topicString_eq hutils (htopic 2), ok_bind,
    topicBigInt_eq hutils (htopic 3), ok_bind, topicString_eq hutils (htopic 5), ok_bind,
    topicBigInt_eq hutils (htopic 6), ok_bind, topicBigInt_eq hutils (htopic 4), ok_bind,
    topicBigInt_eq hutils (htopic 7), ok_bind]
  exact ⟨_, rfl, rfl, rfl, rfl, rfl, rfl, rfl, rfl, rfl⟩

theorem new_liquidityEvent {chain : SwapAbi.LiquidityEvent} {name : String} (eventType : EventType)
    (htopics : document.topics = chain.topics name) :
    ∃ event, OneDexLiquidityEvent.new sdk document pairs eventType = .ok event ∧
      event.type = eventType ∧ event.timestamp = topicNumber sdk document 8 ∧
      event.caller = sdk.bech32 chain.caller.val ∧
      event.firstTokenAmount = toString chain.first_token_amount ∧
      event.secondTokenAmount = toString chain.second_token_amount ∧
      event.firstTokenReserves = toString chain.first_token_reserve ∧
      event.secondTokenReserves = toString chain.second_token_reserve ∧
      event.pair = findPairById pairs (topicNumber sdk document 9) := by
  have htopic : ∀ i : Nat, document.topics[i]? = (chain.topics name)[i]? := fun i => by rw [htopics]
  rw [OneDexLiquidityEvent.new, htopic 1]
  rw [show (chain.topics name)[1]? = some (Bytes.toHex chain.caller.val) from rfl,
    haddress _ chain.caller.property, ok_bind, topicString_eq hutils (htopic 2), ok_bind,
    topicBigInt_eq hutils (htopic 3), ok_bind, topicString_eq hutils (htopic 4), ok_bind,
    topicBigInt_eq hutils (htopic 5), ok_bind, topicBigInt_eq hutils (htopic 10), ok_bind,
    topicBigInt_eq hutils (htopic 11), ok_bind, topicString_eq hutils (htopic 6), ok_bind,
    topicBigInt_eq hutils (htopic 7), ok_bind, topicBigInt_eq hutils (htopic 12), ok_bind]
  exact ⟨_, rfl, rfl, rfl, rfl, rfl, rfl, rfl, rfl, rfl⟩

theorem new_addInitialLiquidityEvent {chain : SwapAbi.AddInitialLiquidityEvent}
    (htopics : document.topics = chain.topics) :
    ∃ event, OneDexAddInitialLiquidityEvent.new sdk document pairs = .ok event ∧
      event.type = .addLiquidity ∧ event.timestamp = topicNumber sdk document 8 ∧
      event.caller = sdk.bech32 chain.caller.val ∧
      event.firstTokenAmount = toString chain.first_token_amount ∧
      event.secondTokenAmount = toString chain.second_token_amount ∧
      event.firstTokenReserves = toString chain.first_token_amount ∧
      event.secondTokenReserves = toString chain.second_token_amount ∧
      event.pair = pairs.find? fun p => p.lpTokenId == chain.lp_token_id.val := by
  have htopic : ∀ i : Nat, document.topics[i]? = chain.topics[i]? := fun i => by rw [htopics]
  rw [OneDexAddInitialLiquidityEvent.new, htopic 1]
  rw [show chain.topics[1]? = some (Bytes.toHex chain.caller.val) from rfl,
    haddress _ chain.caller.property, ok_bind, topicString_eq hutils (htopic 2), ok_bind,
    topicBigInt_eq hutils (htopic 3), ok_bind, topicString_eq hutils (htopic 4), ok_bind,
    topicBigInt_eq hutils (htopic 5), ok_bind, topicString_eq hutils (htopic 6), ok_bind,
    topicBigInt_eq hutils (htopic 7), ok_bind]
  exact ⟨_, rfl, rfl, rfl, rfl, rfl, rfl, rfl, rfl, rfl⟩

end Classes

/-! ## The switch on the first topic -/

section Switch

variable {env : Env} (hutils : env.sdk.binaryUtils.Reads) {document : ElasticEvent}
  (pairs : List OneDexPair)

include hutils

theorem head_eq_iff {a b : String} (hhead : document.topics.head? = some (topicOfText a))
    (ha : Bytes.IsAscii a) (hb : Bytes.IsAscii b) :
    document.topics.head? = some (env.sdk.binaryUtils.stringToHex b) ↔ a = b := by
  rw [hhead, stringToHex_name hutils hb, Option.some.injEq]
  refine ⟨fun heq => ?_, fun heq => by rw [heq]⟩
  by_contra hne
  exact topicOfText_ne ha hb hne heq

theorem decodeRaw_swap {name : String}
    (hname : name = "SwapTokensFixedInputEvent" ∨ name = "SwapTokensFixedOutputEvent")
    (hhead : document.topics.head? = some (topicOfText name)) :
    decodeRaw env pairs document =
      (OneDexSwapEvent.new env.sdk document pairs >>= fun event => pure (keepSwap event)) := by
  have hascii : Bytes.IsAscii name := by
    rcases hname with rfl | rfl <;> decide
  have htopic : document.topics.head? = some (swapInputTopic env) ∨
      document.topics.head? = some (swapOutputTopic env) :=
    hname.imp (head_eq_iff hutils hhead hascii (by decide)).2
      (head_eq_iff hutils hhead hascii (by decide)).2
  rw [decodeRaw, if_pos htopic]

theorem decodeRaw_initial
    (hhead : document.topics.head? = some (topicOfText "AddInitialLiquidityEvent")) :
    decodeRaw env pairs document =
      (OneDexAddInitialLiquidityEvent.new env.sdk document pairs >>= fun event =>
        pure (keepLiquidity event)) := by
  have hascii : Bytes.IsAscii "AddInitialLiquidityEvent" := by decide
  have hiff : ∀ {b : String}, Bytes.IsAscii b → _ := fun hb => head_eq_iff hutils hhead hascii hb
  have hswap : ¬ (document.topics.head? = some (swapInputTopic env) ∨
      document.topics.head? = some (swapOutputTopic env)) := by
    rintro (h | h)
    · exact absurd ((hiff (by decide)).1 h) (by decide)
    · exact absurd ((hiff (by decide)).1 h) (by decide)
  have hinitial : document.topics.head? = some (addInitialLiquidityTopic env) := (hiff hascii).2 rfl
  rw [decodeRaw, if_neg hswap, if_pos hinitial]

theorem decodeRaw_liquidity {name : String} {eventType : EventType}
    (hname : (name = "AddLiquidityEvent" ∧ eventType = .addLiquidity) ∨
      (name = "RemoveLiquidityEvent" ∧ eventType = .removeLiquidity))
    (hhead : document.topics.head? = some (topicOfText name)) :
    decodeRaw env pairs document =
      (OneDexLiquidityEvent.new env.sdk document pairs eventType >>= fun event =>
        pure (keepLiquidity event)) := by
  have hascii : Bytes.IsAscii name := by
    rcases hname with ⟨rfl, -⟩ | ⟨rfl, -⟩ <;> decide
  have hiff : ∀ {b : String}, Bytes.IsAscii b → _ := fun hb => head_eq_iff hutils hhead hascii hb
  have hswap : ¬ (document.topics.head? = some (swapInputTopic env) ∨
      document.topics.head? = some (swapOutputTopic env)) := by
    rintro (h | h)
    · obtain rfl := (hiff (by decide)).1 h
      simp at hname
    · obtain rfl := (hiff (by decide)).1 h
      simp at hname
  have hinitial : ¬ document.topics.head? = some (addInitialLiquidityTopic env) := by
    intro h
    obtain rfl := (hiff (by decide)).1 h
    simp at hname
  rw [decodeRaw, if_neg hswap, if_neg hinitial]
  rcases hname with ⟨rfl, rfl⟩ | ⟨rfl, rfl⟩
  · have hadd : document.topics.head? = some (addLiquidityTopic env) := (hiff (by decide)).2 rfl
    rw [if_pos hadd]
    rfl
  · have hadd : ¬ document.topics.head? = some (addLiquidityTopic env) := fun h =>
      absurd ((hiff (by decide)).1 h) (by decide)
    have hremove : document.topics.head? = some (removeLiquidityTopic env) :=
      (hiff (by decide)).2 rfl
    rw [if_neg hadd, if_pos hremove]
    rfl

end Switch

/-! ## Keeping an event -/

theorem keepSwap_of_pair {event : OneDexSwapEvent} {p : OneDexPair} (h : event.pair = some p) :
    ∃ kept : OneDexSwapEvent.WithPair, kept.val = event ∧ swapPair kept = p ∧
      keepSwap event = some (.swap kept) := by
  have hsome : event.pair.isSome = true := by rw [h]; rfl
  exact ⟨⟨event, hsome⟩, rfl, Option.get_of_eq_some _ h, dif_pos hsome⟩

theorem keepLiquidity_of_pair {event : OneDexLiquidityEvent} {p : OneDexPair}
    (h : event.pair = some p) :
    ∃ kept : OneDexLiquidityEvent.WithPair, kept.val = event ∧ liquidityPair kept = p ∧
      keepLiquidity event = some (.liquidity kept) := by
  have hsome : event.pair.isSome = true := by rw [h]; rfl
  exact ⟨⟨event, hsome⟩, rfl, Option.get_of_eq_some _ h, dif_pos hsome⟩

/-! ## Attribution -/

/-- Pairs with distinct numbers, none of them zero, and distinct lp tokens. -/
structure Distinct (pairs : List OneDexPair) : Prop where
  id : (pairs.map fun p => p.id).Nodup
  id_ne_zero : ∀ p ∈ pairs, p.id ≠ 0
  lpTokenId : (pairs.map fun p => p.lpTokenId).Nodup

namespace Distinct

variable {pairs : List OneDexPair} (h : Distinct pairs) {p : OneDexPair} (hp : p ∈ pairs)

include h hp

theorem findPairById_eq : findPairById pairs (.num p.id) = some p :=
  find?_unique hp (beq_self_eq_true p.id) fun _ hx hid =>
    List.inj_on_of_nodup_map h.id hx hp (beq_iff_eq.1 hid).symm

theorem find?_lpTokenId : pairs.find? (fun x => x.lpTokenId == p.lpTokenId) = some p :=
  find?_unique hp (beq_self_eq_true p.lpTokenId) fun _ hx hlp =>
    List.inj_on_of_nodup_map h.lpTokenId hx hp (beq_iff_eq.1 hlp)

end Distinct

def assetId (p : OneDexPair) : Side → String := Side.pick p.firstTokenId p.secondTokenId

def decimals (p : OneDexPair) : Side → Nat := Side.pick p.firstTokenDecimals p.secondTokenDecimals

def chainSwap (chain : SwapAbi.SwapEvent) : ChainSwap where
  tokenIn := chain.token_in.val
  amountIn := chain.amount_in
  tokenOut := chain.token_out.val
  amountOut := chain.amount_out
  reserveIn := chain.token_in_reserve
  reserveOut := chain.token_out_reserve

def chainLiquidity (chain : SwapAbi.LiquidityEvent) : ChainLiquidity where
  token := Side.pick chain.first_token_id.val chain.second_token_id.val
  amount := Side.pick chain.first_token_amount chain.second_token_amount
  reserve := Side.pick chain.first_token_reserve chain.second_token_reserve

/-- The reserves after an initial deposit are the deposit. -/
def chainInitial (chain : SwapAbi.AddInitialLiquidityEvent) : ChainLiquidity where
  token := Side.pick chain.first_token_id.val chain.second_token_id.val
  amount := Side.pick chain.first_token_amount chain.second_token_amount
  reserve := Side.pick chain.first_token_amount chain.second_token_amount

section Attribution

variable {env : Env} {rat : env.sdk.bigNumber.BigNumber → Option ℚ}
  (hB : env.sdk.bigNumber.Exact rat)

include hB

theorem swap_attributed {p : OneDexPair} {chain : ChainSwap}
    (htokens : (chain.tokenIn = p.firstTokenId ∧ chain.tokenOut = p.secondTokenId) ∨
      (chain.tokenIn = p.secondTokenId ∧ chain.tokenOut = p.firstTokenId))
    {event : OneDexSwapEvent.WithPair} (hpair : swapPair event = p)
    (hin : event.val.tokenInId = chain.tokenIn)
    (hamountIn : event.val.tokenInAmount = toString chain.amountIn)
    (hamountOut : event.val.tokenOutAmount = toString chain.amountOut)
    (hreserveIn : event.val.tokenInReserves = toString chain.reserveIn)
    (hreserveOut : event.val.tokenOutReserves = toString chain.reserveOut) :
    ∃ side, SwapAttributed (assetId p) (decimals p) chain (fromSwapEvent env event) side := by
  subst hpair
  refine swapEventOf_attributed hB rfl ?_ rfl ?_
  · exact
      { tokenIn := hin
        amountIn := (congrArg _ hamountIn).trans (Numeral.value_toString _)
        amountOut := (congrArg _ hamountOut).trans (Numeral.value_toString _)
        reserveIn := (congrArg _ hreserveIn).trans (Numeral.value_toString _)
        reserveOut := (congrArg _ hreserveOut).trans (Numeral.value_toString _) }
  · exact htokens.imp (fun h => ⟨h.1.symm, h.2.symm⟩) fun h => ⟨h.1.symm, h.2.symm⟩

theorem liquidity_attributed {p : OneDexPair} {chain : ChainLiquidity}
    (htokens : ∀ side, assetId p side = chain.token side)
    {event : OneDexLiquidityEvent.WithPair} (hpair : liquidityPair event = p)
    (hamount0 : event.val.firstTokenAmount = toString (chain.amount .zero))
    (hamount1 : event.val.secondTokenAmount = toString (chain.amount .one))
    (hreserve0 : event.val.firstTokenReserves = toString (chain.reserve .zero))
    (hreserve1 : event.val.secondTokenReserves = toString (chain.reserve .one)) :
    LiquidityAttributed (assetId p) (decimals p) chain (fromAddRemoveLiquidityEvent env event)
      id := by
  subst hpair
  refine joinExitEventOf_attributed hB rfl ?_ htokens
  exact
    { firstAmount := (congrArg _ hamount0).trans (Numeral.value_toString _)
      secondAmount := (congrArg _ hamount1).trans (Numeral.value_toString _)
      firstReserve := (congrArg _ hreserve0).trans (Numeral.value_toString _)
      secondReserve := (congrArg _ hreserve1).trans (Numeral.value_toString _) }

/-- A deposit or withdrawal that is kept is reported with the amounts of its class. -/
theorem kept_liquidity {p : OneDexPair} {chain : ChainLiquidity} {kind : JoinExitType}
    (htokens : ∀ side, assetId p side = chain.token side) {event : OneDexLiquidityEvent}
    (hpair : event.pair = some p)
    (hkind : (if event.type = .addLiquidity then JoinExitType.join else .exit) = kind)
    (hamount0 : event.firstTokenAmount = toString (chain.amount .zero))
    (hamount1 : event.secondTokenAmount = toString (chain.amount .one))
    (hreserve0 : event.firstTokenReserves = toString (chain.reserve .zero))
    (hreserve1 : event.secondTokenReserves = toString (chain.reserve .one)) :
    ∃ kept, keepLiquidity event = some (.liquidity kept) ∧ kept.val = event ∧
      (fromAddRemoveLiquidityEvent env kept).eventType = kind ∧
      (fromAddRemoveLiquidityEvent env kept).pairId = p.address ∧
      (fromAddRemoveLiquidityEvent env kept).maker = event.caller ∧
      LiquidityAttributed (assetId p) (decimals p) chain (fromAddRemoveLiquidityEvent env kept)
        id := by
  obtain ⟨kept, rfl, hkept, hkeep⟩ := keepLiquidity_of_pair hpair
  exact ⟨kept, hkeep, rfl, hkind, congrArg OneDexPair.address hkept, rfl,
    liquidity_attributed hB htokens hkept hamount0 hamount1 hreserve0 hreserve1⟩

variable (hutils : env.sdk.binaryUtils.Reads) (haddress : env.sdk.EncodesAddresses)

include hutils haddress

/-- **End to end**: an event emitted for a listed pair is decoded by its class, reported under the
address of the pair, and every on-chain amount stands on the asset that is its token. -/
theorem oneDex_attributed {pairs : List OneDexPair} (h : Distinct pairs) {p : OneDexPair}
    (hp : p ∈ pairs) :
    (∀ (name : String) (chain : SwapAbi.SwapEvent) (document : ElasticEvent),
      name = "SwapTokensFixedInputEvent" ∨ name = "SwapTokensFixedOutputEvent" →
      document.topics = chain.topics name → chain.pair_id.toNat = p.id →
      1 ≤ chain.timestamp → chain.timestamp < 2 ^ 53 →
      ((chain.token_in.val = p.firstTokenId ∧ chain.token_out.val = p.secondTokenId) ∨
        (chain.token_in.val = p.secondTokenId ∧ chain.token_out.val = p.firstTokenId)) →
      ∃ event side, decodeRaw env pairs document = .ok (some (.swap event)) ∧
        event.val.timestamp = .num chain.timestamp ∧
        (fromSwapEvent env event).pairId = p.address ∧
        (fromSwapEvent env event).maker = env.sdk.bech32 chain.caller.val ∧
        SwapAttributed (assetId p) (decimals p) (chainSwap chain) (fromSwapEvent env event) side) ∧
    (∀ (name : String) (kind : JoinExitType) (chain : SwapAbi.LiquidityEvent)
        (document : ElasticEvent),
      (name = "AddLiquidityEvent" ∧ kind = .join) ∨ (name = "RemoveLiquidityEvent" ∧ kind = .exit) →
      document.topics = chain.topics name → chain.pair_id.toNat = p.id →
      1 ≤ chain.timestamp → chain.timestamp < 2 ^ 53 →
      chain.first_token_id.val = p.firstTokenId → chain.second_token_id.val = p.secondTokenId →
      ∃ event, decodeRaw env pairs document = .ok (some (.liquidity event)) ∧
        event.val.timestamp = .num chain.timestamp ∧
        (fromAddRemoveLiquidityEvent env event).eventType = kind ∧
        (fromAddRemoveLiquidityEvent env event).pairId = p.address ∧
        (fromAddRemoveLiquidityEvent env event).maker = env.sdk.bech32 chain.caller.val ∧
        LiquidityAttributed (assetId p) (decimals p) (chainLiquidity chain)
          (fromAddRemoveLiquidityEvent env event) id) ∧
    (∀ (chain : SwapAbi.AddInitialLiquidityEvent) (document : ElasticEvent),
      document.topics = chain.topics → chain.lp_token_id.val = p.lpTokenId →
      1 ≤ chain.timestamp → chain.timestamp < 2 ^ 53 →
      chain.first_token_id.val = p.firstTokenId → chain.second_token_id.val = p.secondTokenId →
      ∃ event, decodeRaw env pairs document = .ok (some (.liquidity event)) ∧
        event.val.timestamp = .num chain.timestamp ∧
        (fromAddRemoveLiquidityEvent env event).eventType = .join ∧
        (fromAddRemoveLiquidityEvent env event).pairId = p.address ∧
        (fromAddRemoveLiquidityEvent env event).maker = env.sdk.bech32 chain.caller.val ∧
        LiquidityAttributed (assetId p) (decimals p) (chainInitial chain)
          (fromAddRemoveLiquidityEvent env event) id) := by
  have hfind : ∀ {document : ElasticEvent} {i : UInt32},
      document.topics[9]? = some (topicOfNat i.toNat) → i.toNat = p.id →
      findPairById pairs (topicNumber env.sdk document 9) = some p := by
    intro document i htopic hi
    have hid : i.toNat ≠ 0 := hi ▸ h.id_ne_zero p hp
    rw [topicNumber_eq hutils htopic hid (i.toNat_lt.trans (by decide)), hi, h.findPairById_eq hp]
  have htimestamp : ∀ {document : ElasticEvent} {timestamp : Nat},
      document.topics[8]? = some (topicOfNat timestamp) → 1 ≤ timestamp → timestamp < 2 ^ 53 →
      topicNumber env.sdk document 8 = .num timestamp :=
    fun htopic hpos hlt => topicNumber_eq hutils htopic (by omega) hlt
  refine ⟨?_, ?_, ?_⟩
  · intro name chain document hname htopics hid hpos hlt htokens
    obtain ⟨event, hnew, hread, hcaller, hin, h0, h1, h2, h3, hpair⟩ :=
      new_swapEvent hutils haddress pairs htopics
    rw [hfind (by rw [htopics]; rfl) hid] at hpair
    obtain ⟨kept, rfl, hkept, hkeep⟩ := keepSwap_of_pair hpair
    obtain ⟨side, hside⟩ : ∃ side, SwapAttributed (assetId p) (decimals p) (chainSwap chain)
        (fromSwapEvent env kept) side :=
      swap_attributed hB htokens hkept hin h0 h1 h2 h3
    obtain ⟨-, -, -, hmaker, hpairId⟩ := swapEventOf_keys env.sdk.bigNumber _
    refine ⟨kept, side, ?_, hread.trans (htimestamp (by rw [htopics]; rfl) hpos hlt),
      hpairId.trans (by rw [hkept]), hmaker.trans hcaller, hside⟩
    rw [decodeRaw_swap hutils pairs hname (by rw [htopics]; rfl), hnew, ok_bind, hkeep,
      pure_eq_ok]
  · intro name kind chain document hname htopics hid hpos hlt hfirst hsecond
    obtain ⟨eventType, hname, hkind⟩ : ∃ eventType : EventType,
        ((name = "AddLiquidityEvent" ∧ eventType = .addLiquidity) ∨
          (name = "RemoveLiquidityEvent" ∧ eventType = .removeLiquidity)) ∧
        (if eventType = .addLiquidity then JoinExitType.join else .exit) = kind := by
      rcases hname with ⟨rfl, rfl⟩ | ⟨rfl, rfl⟩
      · exact ⟨.addLiquidity, Or.inl ⟨rfl, rfl⟩, rfl⟩
      · exact ⟨.removeLiquidity, Or.inr ⟨rfl, rfl⟩, rfl⟩
    obtain ⟨event, hnew, htype, hread, hcaller, h0, h1, h2, h3, hpair⟩ :=
      new_liquidityEvent hutils haddress pairs eventType htopics
    rw [hfind (by rw [htopics]; rfl) hid] at hpair
    have htokens : ∀ side, assetId p side = (chainLiquidity chain).token side := by
      intro side
      rw [assetId, chainLiquidity, hfirst, hsecond]
    obtain ⟨kept, hkeep, rfl, heventType, hpairId, hmaker, hattributed⟩ :=
      kept_liquidity hB htokens hpair (by rw [htype, hkind]) h0 h1 h2 h3
    refine ⟨kept, ?_, hread.trans (htimestamp (by rw [htopics]; rfl) hpos hlt), heventType,
      hpairId, hmaker.trans hcaller, hattributed⟩
    rw [decodeRaw_liquidity hutils pairs hname (by rw [htopics]; rfl), hnew, ok_bind, hkeep,
      pure_eq_ok]
  · intro chain document htopics hlp hpos hlt hfirst hsecond
    obtain ⟨event, hnew, htype, hread, hcaller, h0, h1, h2, h3, hpair⟩ :=
      new_addInitialLiquidityEvent hutils haddress pairs htopics
    rw [hlp, h.find?_lpTokenId hp] at hpair
    have htokens : ∀ side, assetId p side = (chainInitial chain).token side := by
      intro side
      rw [assetId, chainInitial, hfirst, hsecond]
    obtain ⟨kept, hkeep, rfl, heventType, hpairId, hmaker, hattributed⟩ :=
      kept_liquidity hB htokens hpair (by rw [htype]) h0 h1 h2 h3
    refine ⟨kept, ?_, hread.trans (htimestamp (by rw [htopics]; rfl) hpos hlt), heventType,
      hpairId, hmaker.trans hcaller, hattributed⟩
    rw [decodeRaw_initial hutils pairs (by rw [htopics]; rfl), hnew, ok_bind, hkeep, pure_eq_ok]

end Attribution

section Market

open Reference

theorem oneDex_attributed_market :
    ∃ (p : OneDexPair) (document : ElasticEvent) (event : OneDexSwapEvent.WithPair) (side : Side),
      decodeRaw marketEnv [p] document = .ok (some (.swap event)) ∧
        (fromSwapEvent marketEnv event).pairId = p.address ∧
        SwapAttributed (assetId p) (decimals p) (chainSwap (oneDexSwap ⟨userKey 1, rfl⟩ 1 6000))
          (fromSwapEvent marketEnv event) side := by
  let p : OneDexPair :=
    { id := 1
      address := pairAddress marketEnv "LP-1"
      lpTokenId := "LP-1"
      lpTokenDecimals := 18
      firstTokenId := wegld.val
      firstTokenDecimals := 18
      secondTokenId := usdc.val
      secondTokenDecimals := 6
      pairFeePercent := 100 }
  have hdistinct : Distinct [p] :=
    ⟨List.nodup_singleton _, fun q hq => by rw [List.mem_singleton.1 hq]; decide,
      List.nodup_singleton _⟩
  have hB : marketEnv.sdk.bigNumber.Exact BigNumber.rat := bigNumber_exact
  obtain ⟨hswap, -⟩ := oneDex_attributed hB binaryUtils_reads sdk_encodesAddresses hdistinct
    (List.mem_singleton.2 rfl)
  obtain ⟨event, side, hdecode, -, hpairId, -, hside⟩ :=
    hswap "SwapTokensFixedInputEvent" (oneDexSwap ⟨userKey 1, rfl⟩ 1 6000)
      (oneDexSwapDocument ⟨userKey 1, rfl⟩ 1
        { timestamp := 6000, txHash := "aa", originalTxHash := none, txOrder := 0, order := 0,
          shardId := 1 })
      (Or.inl rfl) rfl rfl (by decide) (by decide) (Or.inl ⟨rfl, rfl⟩)
  exact ⟨p, _, event, side, hdecode, hpairId, hside⟩

end Market

end DexAdapter.OneDexService
