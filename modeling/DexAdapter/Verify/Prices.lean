import DexAdapter.OneDex.Attribution
import DexAdapter.XExchange.Attribution
import DexAdapter.DataIntegration.Service

/-!
# Swaps without a price

The price of a swap is a quotient of reserves, rounded down to twenty places, and `processEvents`
drops a swap whose price is written `0`. An empty reserve of the first asset is written `Infinity`
or `NaN` and stays; a price below the last place is written `0` and goes.
`processEvents_priced_iff`: the filter is exact for the reserves in between (`Expressible`) only.
-/

namespace DexAdapter

open DataIntegrationService

/-- The reserves of a swap event by the assets of its pair. -/
def reserveTexts (firstTokenId tokenInId tokenInReserves tokenOutReserves : String) :
    Side → String :=
  if firstTokenId == tokenInId then Side.pick tokenInReserves tokenOutReserves
  else Side.pick tokenOutReserves tokenInReserves

def SwapData.reserves (d : SwapData) : Side → String :=
  reserveTexts d.firstTokenId d.tokenInId d.tokenInReserves d.tokenOutReserves

def SwapData.decimals (d : SwapData) : Side → Nat :=
  Side.pick d.firstTokenDecimals d.secondTokenDecimals

def XExchangeSwapEvent.reserves (event : XExchangeSwapEvent) : Side → String :=
  reserveTexts event.pair.firstTokenId event.tokenInId event.tokenInReserves event.tokenOutReserves

def OneDexSwapEvent.WithPair.reserves (event : OneDexSwapEvent.WithPair) : Side → String :=
  reserveTexts (OneDexService.swapPair event).firstTokenId event.val.tokenInId
    event.val.tokenInReserves event.val.tokenOutReserves

/-- The texts are the numerals of these reserves. -/
def Reads (texts : Side → String) (reserve : Side → Nat) : Prop :=
  ∀ side, Numeral.value (texts side) = some (reserve side : ℚ)

/-- A swap with these reserves is among the responses when both are positive, and the responses
have prices that are positive numbers. -/
structure PricedExactly (responses : List ResponseEvent) (reserve : Side → Nat) : Prop where
  returned : responses ≠ [] ↔ 0 < reserve .zero ∧ 0 < reserve .one
  positive : ∀ response ∈ responses, ∀ event, response.event = .swap event →
    ∃ price, Numeral.value event.priceNative = some price ∧ 0 < price

/-- There is a reserve of the first asset, and the price is zero or reaches the last place. -/
def Expressible (decimals reserve : Side → Nat) : Prop :=
  0 < reserve .zero ∧ (reserve .one = 0 ∨
    reserve .zero * 10 ^ decimals .one ≤ 10 ^ 20 * (reserve .one * 10 ^ decimals .zero))

/-! ## The quotient -/

def quotient (decimals reserve : Side → Nat) : ℚ :=
  (reserve .one / 10 ^ decimals .one) / (reserve .zero / 10 ^ decimals .zero)

theorem quotient_nonneg (decimals reserve : Side → Nat) : 0 ≤ quotient decimals reserve := by
  unfold quotient
  positivity

/-- There is a reserve of the first asset, and the price does not reach the last place. -/
def Vanishes (decimals reserve : Side → Nat) : Prop :=
  0 < reserve .zero ∧
    10 ^ 20 * (reserve .one * 10 ^ decimals .zero) < reserve .zero * 10 ^ decimals .one

/-- The quotient reaches the last place, without fractions. -/
theorem quotient_reaches {decimals reserve : Side → Nat} (h : 0 < reserve .zero) :
    1 ≤ quotient decimals reserve * 10 ^ 20 ↔
      reserve .zero * 10 ^ decimals .one ≤ 10 ^ 20 * (reserve .one * 10 ^ decimals .zero) := by
  have hzero : (0 : ℚ) < reserve .zero := Nat.cast_pos.2 h
  have hdenominator : (0 : ℚ) < reserve .zero * 10 ^ decimals .one := by positivity
  have hquotient : quotient decimals reserve * 10 ^ 20 =
      10 ^ 20 * (reserve .one * 10 ^ decimals .zero) /
        (reserve .zero * 10 ^ decimals .one) := by
    unfold quotient
    field_simp
  rw [hquotient, le_div_iff₀ hdenominator, one_mul]
  exact_mod_cast Iff.rfl

theorem value_zero : Numeral.value "0" = some 0 := by
  have h := Numeral.value_toString 0
  rwa [Nat.cast_zero] at h

section Quotient

variable {B : BigNumberLib} {rat : B.BigNumber → Option ℚ} (hB : B.Exact rat)
  (hdivides : B.Divides rat) {d : SwapData} {reserve : Side → Nat} (h : Reads d.reserves reserve)

theorem priceNative_eq (d : SwapData) :
    (swapEventOf B d).priceNative =
      priceOf B (scaled B (d.reserves .one) d.secondTokenDecimals)
        (scaled B (d.reserves .zero) d.firstTokenDecimals) := by
  rw [swapEventOf_priceNative, SwapData.reserves, reserveTexts]
  split <;> rfl

include hB

theorem value_scaled {text : String} {n : Nat} (htext : Numeral.value text = some (n : ℚ))
    (decimals : Nat) : Numeral.value (scaled B text decimals) = some ((n : ℚ) / 10 ^ decimals) := by
  obtain ⟨q, hq, hmul⟩ := denotes_scaled hB htext decimals
  rw [hq, eq_div_of_mul_eq (by positivity) hmul]

include h

theorem rat_second : rat (B.ofString (scaled B (d.reserves .one) d.secondTokenDecimals)) =
    some ((reserve .one : ℚ) / 10 ^ d.secondTokenDecimals) :=
  hB.ofString _ _ (value_scaled hB (h .one) _)

include hdivides

/-- With no reserve of the first asset the price is not a number. -/
theorem priceNative_of_empty (hempty : reserve .zero = 0) :
    (swapEventOf B d).priceNative = "Infinity" ∨ (swapEventOf B d).priceNative = "NaN" := by
  have hfirst := value_scaled hB (h .zero) d.firstTokenDecimals
  have hsecond := rat_second hB h
  rw [hempty, Nat.cast_zero, zero_div] at hfirst
  rw [priceNative_eq]
  by_cases hone : reserve .one = 0
  · rw [hone, Nat.cast_zero, zero_div] at hsecond
    exact Or.inr (hdivides.indeterminate _ _ hsecond hfirst)
  · have hpos : (0 : ℚ) < reserve .one / 10 ^ d.secondTokenDecimals := by
      have hcast : (0 : ℚ) < reserve .one := Nat.cast_pos.2 (Nat.pos_of_ne_zero hone)
      positivity
    exact Or.inl (hdivides.infinite _ _ _ hsecond hpos hfirst)

theorem priceNative_ne_zero_of_empty (hempty : reserve .zero = 0) :
    (swapEventOf B d).priceNative ≠ "0" := by
  rcases priceNative_of_empty hB hdivides h hempty with hprice | hprice <;>
    · rw [hprice]
      decide

/-- Else it is the rounded quotient, which is written `0` exactly when it rounds to zero. -/
theorem priceNative_of_pos (hpos : 0 < reserve .zero) :
    Numeral.value (swapEventOf B d).priceNative =
        some (Rounding.toPlaces 20 (quotient d.decimals reserve)) ∧
      ((swapEventOf B d).priceNative = "0" ↔
        Rounding.toPlaces 20 (quotient d.decimals reserve) = 0) := by
  have hfirst := value_scaled hB (h .zero) d.firstTokenDecimals
  have hzero : (0 : ℚ) < reserve .zero / 10 ^ d.firstTokenDecimals := by
    have hcast : (0 : ℚ) < reserve .zero := Nat.cast_pos.2 hpos
    positivity
  have hrat : rat (B.dividedBy (B.ofString (scaled B (d.reserves .one) d.secondTokenDecimals))
      (scaled B (d.reserves .zero) d.firstTokenDecimals)) =
        some (Rounding.toPlaces 20 (quotient d.decimals reserve)) :=
    hdivides.rounded _ _ _ _ (rat_second hB h) hfirst (by positivity) hzero
  have hvalue := hB.toFixed _ _ hrat (Rounding.toPlaces_nonneg (quotient_nonneg _ _))
  rw [priceNative_eq, priceOf]
  refine ⟨hvalue, ?_, ?_⟩
  · intro hprice
    rw [hprice, value_zero] at hvalue
    exact (Option.some.inj hvalue).symm
  · intro hrounded
    rw [hrounded] at hrat
    exact hdivides.zero _ hrat

/-- The text `0` is the price that does not reach the last place. -/
theorem priceNative_eq_zero_iff :
    (swapEventOf B d).priceNative = "0" ↔ Vanishes d.decimals reserve := by
  by_cases hempty : reserve .zero = 0
  · refine iff_of_false (priceNative_ne_zero_of_empty hB hdivides h hempty) fun hvanishes => ?_
    exact absurd hvanishes.1 (by omega)
  · have hpos : 0 < reserve .zero := Nat.pos_of_ne_zero hempty
    rw [(priceNative_of_pos hB hdivides h hpos).2,
      Rounding.toPlaces_eq_zero_iff (quotient_nonneg _ _), ← not_le, quotient_reaches hpos, not_le,
      Vanishes, and_iff_right hpos]

end Quotient

/-! ## Decoded swaps -/

theorem reads_reserveTexts {firstTokenId tokenInId tokenInReserves tokenOutReserves : String}
    {m n : Nat} (hin : Numeral.value tokenInReserves = some (m : ℚ))
    (hout : Numeral.value tokenOutReserves = some (n : ℚ)) :
    ∃ reserve, Reads (reserveTexts firstTokenId tokenInId tokenInReserves tokenOutReserves)
      reserve := by
  unfold reserveTexts
  split
  · refine ⟨Side.pick m n, fun side => ?_⟩
    cases side with
    | zero => exact hin
    | one => exact hout
  · refine ⟨Side.pick n m, fun side => ?_⟩
    cases side with
    | zero => exact hout
    | one => exact hin

theorem topicBigInt_reads {sdk : Sdk} {document : ElasticEvent} {i : Nat} {text : String}
    (h : topicBigInt sdk document i = .ok text) :
    ∃ n : Nat, Numeral.value text = some (n : ℚ) := by
  obtain ⟨n, -, htext⟩ := Collect.bind_eq_ok.1 h
  obtain rfl := Except.ok.inj htext
  exact ⟨n, Numeral.value_toString n⟩

/-- The reserves of a swap that a class constructs are numerals of naturals. -/
theorem XExchangeSwapEvent.reads_of_new {sdk : Sdk} {rat : sdk.bigNumber.BigNumber → Option ℚ}
    (hB : sdk.bigNumber.Exact rat) {document : ElasticEvent} {pair : XExchangePair}
    {event : XExchangeSwapEvent} (h : XExchangeSwapEvent.new sdk document pair = .ok event) :
    ∃ reserve, Reads event.reserves reserve := by
  simp only [XExchangeSwapEvent.new, Collect.bind_eq_ok, Collect.pure_eq_ok,
    Except.ok.injEq] at h
  obtain ⟨_, -, _, -, _, -, _, -, _, -, _, -, _, -, _, -, _, -, _, -, _, -, _, -, rfl⟩ := h
  exact reads_reserveTexts (value_fixedOfNat hB _) (value_fixedOfNat hB _)

theorem OneDexSwapEvent.reads_of_new {sdk : Sdk} {document : ElasticEvent}
    {pairs : List OneDexPair} {event : OneDexSwapEvent.WithPair}
    (h : OneDexSwapEvent.new sdk document pairs = .ok event.val) :
    ∃ reserve, Reads event.reserves reserve := by
  rw [OneDexSwapEvent.WithPair.reserves]
  simp only [OneDexSwapEvent.new, Collect.bind_eq_ok, Collect.pure_eq_ok,
    Except.ok.injEq] at h
  obtain ⟨_, -, _, -, _, -, _, -, _, -, _, hin, _, hout, hevent⟩ := h
  rw [← hevent]
  obtain ⟨m, hm⟩ := topicBigInt_reads hin
  obtain ⟨n, hn⟩ := topicBigInt_reads hout
  exact reads_reserveTexts hm hn

/-! ## The filter -/

/-- Events are processed one by one. -/
theorem processEvents_append_cons {provider : IProviderService} (rounds : List ElasticRound)
    (before after : List (ClassEvent provider)) (event : ClassEvent provider) :
    processEvents provider (before ++ event :: after) rounds =
      processEvents provider before rounds ++ processEvents provider [event] rounds ++
        processEvents provider after rounds := by
  simp only [processEvents]
  rw [← List.singleton_append, ← List.append_assoc, List.filterMap_append, List.filterMap_append]

theorem processEvents_swap {provider : IProviderService} {rounds : List ElasticRound}
    {event : provider.SwapClass}
    (hround : (findRound rounds (provider.general (.swap event)).timestamp).isSome = true) :
    ∃ block, processEvents provider [.swap event] rounds =
      if (provider.fromSwapEvent event).priceNative = "0" then []
      else [{ block := block, event := .swap (provider.fromSwapEvent event) }] := by
  obtain ⟨round, hfind⟩ := Option.isSome_iff_exists.1 hround
  refine ⟨Block.fromElasticRound round true, ?_⟩
  by_cases hprice : (provider.fromSwapEvent event).priceNative = "0" <;>
    simp [processEvents, processEvent, convert, isZeroPrice, hfind, hprice]

/-- What the filter does to one swap. -/
theorem pricedExactly_iff {provider : IProviderService} {rounds : List ElasticRound}
    {event : provider.SwapClass} {reserve : Side → Nat}
    (hround : (findRound rounds (provider.general (.swap event)).timestamp).isSome = true) :
    PricedExactly (processEvents provider [.swap event] rounds) reserve ↔
      ((provider.fromSwapEvent event).priceNative ≠ "0" ↔ 0 < reserve .zero ∧ 0 < reserve .one) ∧
      ((provider.fromSwapEvent event).priceNative ≠ "0" →
        ∃ price, Numeral.value (provider.fromSwapEvent event).priceNative = some price ∧
          0 < price) := by
  obtain ⟨block, hprocess⟩ := processEvents_swap hround
  rw [hprocess]
  by_cases hprice : (provider.fromSwapEvent event).priceNative = "0"
  · rw [if_pos hprice]
    constructor
    · rintro ⟨hreturned, -⟩
      exact ⟨by simpa [hprice] using hreturned, fun hne => absurd hprice hne⟩
    · rintro ⟨hreturned, -⟩
      exact ⟨by simpa [hprice] using hreturned, by simp⟩
  · rw [if_neg hprice]
    constructor
    · rintro ⟨hreturned, hpositive⟩
      refine ⟨by simpa [hprice] using hreturned, fun _ => ?_⟩
      exact hpositive _ (List.mem_singleton.2 rfl) _ rfl
    · rintro ⟨hreturned, hpositive⟩
      refine ⟨by simpa [hprice] using hreturned, ?_⟩
      intro response hresponse swap hswap
      obtain rfl := List.mem_singleton.1 hresponse
      obtain rfl := DexEvent.swap.inj hswap
      exact hpositive hprice

section Filter

variable {B : BigNumberLib} {rat : B.BigNumber → Option ℚ} (hB : B.Exact rat)
  (hdivides : B.Divides rat)

include hB hdivides

/-- One swap of any provider that converts with this arithmetic. -/
theorem swap_priced_iff (provider : IProviderService) {rounds : List ElasticRound}
    {event : provider.SwapClass} {d : SwapData} {reserve : Side → Nat}
    (hconvert : provider.fromSwapEvent event = swapEventOf B d) (h : Reads d.reserves reserve)
    (hround : (findRound rounds (provider.general (.swap event)).timestamp).isSome = true) :
    PricedExactly (processEvents provider [.swap event] rounds) reserve ↔
      Expressible d.decimals reserve := by
  rw [pricedExactly_iff hround, hconvert]
  by_cases hempty : reserve .zero = 0
  · -- the text is not `0`, so the swap stays
    have hne := priceNative_ne_zero_of_empty hB hdivides h hempty
    constructor
    · rintro ⟨hreturned, -⟩
      exact absurd (hreturned.1 hne).1 (by omega)
    · rintro ⟨hpos, -⟩
      omega
  · have hpos : 0 < reserve .zero := Nat.pos_of_ne_zero hempty
    obtain ⟨hvalue, hzero⟩ := priceNative_of_pos hB hdivides h hpos
    have hne : (swapEventOf B d).priceNative ≠ "0" ↔
        0 < Rounding.toPlaces 20 (quotient d.decimals reserve) := by
      rw [(Rounding.toPlaces_nonneg (quotient_nonneg _ _)).lt_iff_ne', not_iff_not]
      exact hzero
    rw [and_iff_left fun hprice => ⟨_, hvalue, hne.1 hprice⟩, hne,
      Rounding.toPlaces_pos_iff, quotient_reaches hpos, Expressible]
    by_cases hone : reserve .one = 0
    · have hproduct : 0 < reserve .zero * 10 ^ d.decimals .one := by positivity
      simp only [hone, zero_mul, mul_zero, lt_irrefl, and_false, iff_false, true_or, and_true]
      omega
    · have hone' : 0 < reserve .one := Nat.pos_of_ne_zero hone
      simp only [hpos, hone', hone, true_and, false_or, and_self, iff_true]

end Filter

/-- **When the filter is exact**: for either provider, a swap that stands among other events is
reported exactly when it has a price, and with a positive price, if and only if its reserves are
`Expressible`. -/
theorem processEvents_priced_iff (env : Env) {rat : env.sdk.bigNumber.BigNumber → Option ℚ}
    (hB : env.sdk.bigNumber.Exact rat) (hdivides : env.sdk.bigNumber.Divides rat)
    (rounds : List ElasticRound) :
    (∀ (event : XExchangeSwapEvent) (reserve : Side → Nat), Reads event.reserves reserve →
      (findRound rounds event.timestamp).isSome = true →
      ∀ before after, ∃ responses,
        processEvents (xExchangeService env) (before ++ .swap event :: after) rounds =
          processEvents (xExchangeService env) before rounds ++ responses ++
            processEvents (xExchangeService env) after rounds ∧
        (PricedExactly responses reserve ↔
          Expressible (Side.pick event.pair.firstTokenDecimals event.pair.secondTokenDecimals)
            reserve)) ∧
    (∀ (event : OneDexSwapEvent.WithPair) (reserve : Side → Nat), Reads event.reserves reserve →
      (findRound rounds event.val.timestamp).isSome = true →
      ∀ before after, ∃ responses,
        processEvents (oneDexService env) (before ++ .swap event :: after) rounds =
          processEvents (oneDexService env) before rounds ++ responses ++
            processEvents (oneDexService env) after rounds ∧
        (PricedExactly responses reserve ↔
          Expressible (OneDexService.decimals (OneDexService.swapPair event)) reserve)) := by
  constructor
  · intro event reserve h hround before after
    refine ⟨processEvents (xExchangeService env) [.swap event] rounds,
      processEvents_append_cons rounds before after (.swap event), ?_⟩
    exact swap_priced_iff hB hdivides (xExchangeService env) rfl h hround
  · intro event reserve h hround before after
    refine ⟨processEvents (oneDexService env) [.swap event] rounds,
      processEvents_append_cons rounds before after (.swap event), ?_⟩
    exact swap_priced_iff hB hdivides (oneDexService env) rfl h hround

namespace Reference

def mex : SwapAbi.TokenIdentifier := ⟨"MEX-455c57", by decide⟩

/-- A pair of MEX, with 18 decimals, and USDC, with 6. -/
def mexPair : OneDexPair where
  id := 1
  address := config.oneDexSwapAddress ++ "-LP-1"
  lpTokenId := "LP-1"
  lpTokenDecimals := 18
  firstTokenId := "MEX-455c57"
  firstTokenDecimals := 18
  secondTokenId := "USDC-c76f1f"
  secondTokenDecimals := 6
  pairFeePercent := 100

/-- A swap of MEX for USDC that leaves these reserves. -/
def mexDocument (mexReserve usdcReserve : Nat) : ElasticEvent :=
  document
    { timestamp := 6000, txHash := "aa", originalTxHash := none, txOrder := 0, order := 0,
      shardId := 1 }
    "swapTokensFixedInput" config.oneDexSwapAddress
    (SwapAbi.SwapEvent.topics "SwapTokensFixedInputEvent"
      { oneDexSwap (user 1) 1 6000 with
        token_in := mex
        token_in_reserve := mexReserve
        token_out_reserve := usdcReserve }) none

/-- The event of this document. -/
def mexSwap (mexReserve usdcReserve : Nat) : OneDexSwapEvent.WithPair where
  val :=
    { GeneralEvent.ofElastic (mexDocument mexReserve usdcReserve) .swap (.num 6000) with
      caller := bech32 (userKey 1)
      tokenInId := "MEX-455c57"
      tokenInAmount := toString (2 * 10 ^ 18)
      tokenOutId := "USDC-c76f1f"
      tokenOutAmount := toString (6 * 10 ^ 6)
      tokenInReserves := toString mexReserve
      tokenOutReserves := toString usdcReserve
      txHash := "aa"
      txOrder := 0
      eventOrder := 0
      pair := some mexPair }
  property := rfl

theorem reads_mexSwap (mexReserve usdcReserve : Nat) :
    Reads (mexSwap mexReserve usdcReserve).reserves (Side.pick mexReserve usdcReserve) := by
  intro side
  cases side with
  | zero => exact Numeral.value_toString mexReserve
  | one => exact Numeral.value_toString usdcReserve

def mexResponses (mexReserve usdcReserve : Nat) : List ResponseEvent :=
  processEvents (oneDexService marketEnv) [.swap (mexSwap mexReserve usdcReserve)]
    [(round 10 6000).toElasticRound]

/-- A swap that leaves no MEX is reported, at the price `Infinity`; a swap that leaves 10 ^ 15 MEX
and the smallest amount of USDC has a price below the last place, and is dropped. -/
theorem mexResponses_not_exact :
    (OneDexSwapEvent.new sdk (mexDocument 0 1) [mexPair] = .ok (mexSwap 0 1).val ∧
      (OneDexService.fromSwapEvent marketEnv (mexSwap 0 1)).priceNative = "Infinity" ∧
      (mexResponses 0 1).length = 1 ∧ ¬ PricedExactly (mexResponses 0 1) (Side.pick 0 1)) ∧
    (OneDexSwapEvent.new sdk (mexDocument (10 ^ 33) 1) [mexPair] = .ok (mexSwap (10 ^ 33) 1).val ∧
      mexResponses (10 ^ 33) 1 = [] ∧
      ¬ PricedExactly (mexResponses (10 ^ 33) 1) (Side.pick (10 ^ 33) 1)) := by
  have hstays : (mexResponses 0 1).length = 1 := by decide +kernel
  have hgoes : mexResponses (10 ^ 33) 1 = [] := by decide +kernel
  refine ⟨⟨by decide +kernel, by decide +kernel, hstays, ?_⟩, by decide +kernel, hgoes, ?_⟩
  · rintro ⟨hreturned, -⟩
    have hne : mexResponses 0 1 ≠ [] := List.ne_nil_of_length_pos (by omega)
    exact absurd (hreturned.1 hne).1 (by decide)
  · rintro ⟨hreturned, -⟩
    exact hreturned.2 (by decide) hgoes

theorem processEvents_priced_iff_mexSwap :
    ∃ responses,
      processEvents (oneDexService marketEnv) [.swap (mexSwap (10 ^ 33) (10 ^ 6))]
        [(round 10 6000).toElasticRound] = responses ∧
      (PricedExactly responses (Side.pick (10 ^ 33) (10 ^ 6)) ↔
        Expressible (OneDexService.decimals mexPair) (Side.pick (10 ^ 33) (10 ^ 6))) := by
  obtain ⟨responses, hresponses, hiff⟩ :=
    (processEvents_priced_iff marketEnv bigNumber_exact bigNumber_divides
      [(round 10 6000).toElasticRound]).2 (mexSwap (10 ^ 33) (10 ^ 6)) _ (reads_mexSwap _ _)
      (by decide +kernel) [] []
  exact ⟨responses, by simpa [processEvents] using hresponses, hiff⟩

end Reference

end DexAdapter
