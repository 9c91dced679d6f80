import Mathlib.Algebra.Order.Field.Rat
import Mathlib.Algebra.Order.Field.Power
import Mathlib.Tactic.Positivity
import DexAdapter.Provider

/-!
# Attribution of amounts to assets

What a reported event says about assets, in its own terms: a pair has two sides, an event has an
input, an output and a reserve on each side, and a text denotes an on-chain amount when it is that
amount with the point moved by the decimals of the asset (`Denotes`). `SwapAttributed` and
`LiquidityAttributed` compare a reported event with the on-chain one. The arithmetic that both
providers share meets them (`swapEventOf_attributed`, `joinExitEventOf_attributed`).
-/

namespace DexAdapter

/-- The two assets of a pair. -/
inductive Side where
  | zero
  | one
  deriving DecidableEq, Repr

namespace Side

def other : Side → Side
  | zero => one
  | one => zero

def pick {α : Type} (a b : α) : Side → α
  | zero => a
  | one => b

end Side

def Pair.assetId (p : Pair) : Side → String := Side.pick p.asset0Id p.asset1Id

def Reserves.of (r : Reserves) : Side → String := Side.pick r.asset0 r.asset1

def SwapEvent.input (e : SwapEvent) : Side → Option String := Side.pick e.asset0In e.asset1In

def SwapEvent.output (e : SwapEvent) : Side → Option String := Side.pick e.asset0Out e.asset1Out

def JoinExitEvent.amount (e : JoinExitEvent) : Side → String := Side.pick e.amount0 e.amount1

/-- The text times `10 ^ decimals` is the amount. -/
def Denotes (text : String) (decimals amount : Nat) : Prop :=
  ∃ q, Numeral.value text = some q ∧ q * 10 ^ decimals = amount

/-- A swap on the chain: amounts and reserves of the two tokens. -/
structure ChainSwap where
  tokenIn : String
  amountIn : Nat
  tokenOut : String
  amountOut : Nat
  reserveIn : Nat
  reserveOut : Nat

/-- A deposit or withdrawal on the chain, with the tokens in the order of the contract. -/
structure ChainLiquidity where
  token : Side → String
  amount : Side → Nat
  reserve : Side → Nat

/-- The reported swap has its one input on the asset that came in, its one output on the asset that
went out, and each reserve on its own asset. -/
structure SwapAttributed (assetId : Side → String) (decimals : Side → Nat) (chain : ChainSwap)
    (e : SwapEvent) (side : Side) : Prop where
  tokenIn : assetId side = chain.tokenIn
  tokenOut : assetId side.other = chain.tokenOut
  input : ∃ text, e.input side = some text ∧ Denotes text (decimals side) chain.amountIn
  no_input : e.input side.other = none
  output : ∃ text, e.output side.other = some text ∧
    Denotes text (decimals side.other) chain.amountOut
  no_output : e.output side = none
  reserveIn : Denotes (e.reserves.of side) (decimals side) chain.reserveIn
  reserveOut : Denotes (e.reserves.of side.other) (decimals side.other) chain.reserveOut

/-- The reported amounts and reserves of each asset are those of its token, which stands at `place`
in the contract. -/
structure LiquidityAttributed (assetId : Side → String) (decimals : Side → Nat)
    (chain : ChainLiquidity) (e : JoinExitEvent) (place : Side → Side) : Prop where
  token : ∀ side, assetId side = chain.token (place side)
  amount : ∀ side, Denotes (e.amount side) (decimals side) (chain.amount (place side))
  reserve : ∀ side, Denotes (e.reserves.of side) (decimals side) (chain.reserve (place side))

/-! ## The conversions -/

section Conversion

variable {B : BigNumberLib} {rat : B.BigNumber → Option ℚ} (hB : B.Exact rat)

include hB

/-- Shifting the point by the decimals and writing the result out denotes the amount. -/
theorem denotes_scaled {text : String} {n : Nat} (h : Numeral.value text = some (n : ℚ))
    (decimals : Nat) : Denotes (scaled B text decimals) decimals n := by
  have hshift : rat (B.shiftedBy (B.ofString text) (-(decimals : Int))) =
      some ((n : ℚ) * 10 ^ (-(decimals : Int))) :=
    hB.shiftedBy _ _ _ (hB.ofString _ _ h)
  refine ⟨_, hB.toFixed _ _ hshift (by positivity), ?_⟩
  rw [zpow_neg, zpow_natCast, mul_assoc, inv_mul_cancel₀ (by positivity), mul_one]

theorem value_fixedOfNat (n : Nat) : Numeral.value (B.toFixed (B.ofNat n)) = some (n : ℚ) :=
  hB.toFixed _ _ (hB.ofNat n) (by positivity)

/-- The amounts of a swap event are numerals of on-chain amounts. -/
structure SwapData.Reads (d : SwapData) (chain : ChainSwap) : Prop where
  tokenIn : d.tokenInId = chain.tokenIn
  amountIn : Numeral.value d.tokenInAmount = some (chain.amountIn : ℚ)
  amountOut : Numeral.value d.tokenOutAmount = some (chain.amountOut : ℚ)
  reserveIn : Numeral.value d.tokenInReserves = some (chain.reserveIn : ℚ)
  reserveOut : Numeral.value d.tokenOutReserves = some (chain.reserveOut : ℚ)

/-- Comparing the first token with the incoming one places both directions of a swap. -/
theorem swapEventOf_attributed {d : SwapData} {chain : ChainSwap} {assetId : Side → String}
    {decimals : Side → Nat}
    (hdecimals : decimals = Side.pick d.firstTokenDecimals d.secondTokenDecimals)
    (h : d.Reads chain) (hfirst : d.firstTokenId = assetId .zero)
    (htokens : (assetId .zero = chain.tokenIn ∧ assetId .one = chain.tokenOut) ∨
      (assetId .one = chain.tokenIn ∧ assetId .zero = chain.tokenOut)) :
    ∃ side, SwapAttributed assetId decimals chain (swapEventOf B d) side := by
  subst hdecimals
  by_cases hdir : d.firstTokenId = d.tokenInId
  · have hin : assetId .zero = chain.tokenIn := by
      rw [← hfirst, hdir, h.tokenIn]
    have hout : assetId .one = chain.tokenOut := by
      rcases htokens with ⟨-, hout⟩ | ⟨hone, hzero⟩
      · exact hout
      · rw [hone, ← hin, hzero]
    refine ⟨.zero, ?_⟩
    rw [swapEventOf, if_pos (beq_iff_eq.2 hdir)]
    exact
      { tokenIn := hin
        tokenOut := hout
        input := ⟨_, rfl, denotes_scaled hB h.amountIn _⟩
        no_input := rfl
        output := ⟨_, rfl, denotes_scaled hB h.amountOut _⟩
        no_output := rfl
        reserveIn := denotes_scaled hB h.reserveIn _
        reserveOut := denotes_scaled hB h.reserveOut _ }
  · have hne : assetId .zero ≠ chain.tokenIn := by
      rw [← hfirst, ← h.tokenIn]
      exact hdir
    obtain ⟨hin, hout⟩ := htokens.resolve_left fun hzero => hne hzero.1
    refine ⟨.one, ?_⟩
    rw [swapEventOf, if_neg fun heq => hdir (beq_iff_eq.1 heq)]
    exact
      { tokenIn := hin
        tokenOut := hout
        input := ⟨_, rfl, denotes_scaled hB h.amountIn _⟩
        no_input := rfl
        output := ⟨_, rfl, denotes_scaled hB h.amountOut _⟩
        no_output := rfl
        reserveIn := denotes_scaled hB h.reserveIn _
        reserveOut := denotes_scaled hB h.reserveOut _ }

/-- The amounts of a liquidity event are numerals of on-chain amounts, `place` by place. -/
structure LiquidityData.Reads (d : LiquidityData) (chain : ChainLiquidity) (place : Side → Side) :
    Prop where
  firstAmount : Numeral.value d.firstTokenAmount = some (chain.amount (place .zero) : ℚ)
  secondAmount : Numeral.value d.secondTokenAmount = some (chain.amount (place .one) : ℚ)
  firstReserve : Numeral.value d.firstTokenReserves = some (chain.reserve (place .zero) : ℚ)
  secondReserve : Numeral.value d.secondTokenReserves = some (chain.reserve (place .one) : ℚ)

theorem joinExitEventOf_attributed {d : LiquidityData} {chain : ChainLiquidity}
    {assetId : Side → String} {decimals : Side → Nat} {place : Side → Side}
    (hdecimals : decimals = Side.pick d.firstTokenDecimals d.secondTokenDecimals)
    (h : d.Reads chain place) (htoken : ∀ side, assetId side = chain.token (place side)) :
    LiquidityAttributed assetId decimals chain (joinExitEventOf B d) place := by
  subst hdecimals
  refine ⟨htoken, fun side => ?_, fun side => ?_⟩
  · cases side with
    | zero => exact denotes_scaled hB h.firstAmount _
    | one => exact denotes_scaled hB h.secondAmount _
  · cases side with
    | zero => exact denotes_scaled hB h.firstReserve _
    | one => exact denotes_scaled hB h.secondReserve _

end Conversion

end DexAdapter
