import DexAdapter.Sdk

/-!
# Events of the xExchange pair contract

The structs `SwapEvent`, `AddLiquidityEvent` and `RemoveLiquidityEvent` of `pair.abi.json`, and
their nested encoding, field by field in the order of the ABI. The last two have the same fields.
-/

namespace DexAdapter.PairAbi

structure SwapEvent where
  caller : List UInt8
  token_id_in : String
  token_amount_in : Nat
  token_id_out : String
  token_amount_out : Nat
  fee_amount : Nat
  token_in_reserve : Nat
  token_out_reserve : Nat
  block : Nat
  epoch : Nat
  timestamp : Nat

namespace SwapEvent

def types : List Nested.FieldType :=
  [AddressType, TokenIdentifierType, BigUIntType, TokenIdentifierType, BigUIntType, BigUIntType,
    BigUIntType, BigUIntType, U64Type, U64Type, U64Type]

def values (e : SwapEvent) : List Nested.FieldValue :=
  [.bytes e.caller, .text e.token_id_in, .nat e.token_amount_in, .text e.token_id_out,
    .nat e.token_amount_out, .nat e.fee_amount, .nat e.token_in_reserve, .nat e.token_out_reserve,
    .nat e.block, .nat e.epoch, .nat e.timestamp]

/-- An event has an encoding when its fields fit their types. -/
def encode (e : SwapEvent) : Option (List UInt8) := Nested.encodeAll types e.values

/-- Values of these types are those of an event. -/
theorem exists_of_hasTypes {values : List Nested.FieldValue}
    (h : List.Forall₂ Nested.HasType types values) : ∃ e : SwapEvent, values = e.values := by
  simp only [types, List.forall₂_cons_left_iff, List.forall₂_nil_left_iff, Nested.HasType] at h
  obtain ⟨_, _, ⟨caller, rfl⟩, ⟨_, _, ⟨tokenIn, rfl⟩, ⟨_, _, ⟨amountIn, rfl⟩,
    ⟨_, _, ⟨tokenOut, rfl⟩, ⟨_, _, ⟨amountOut, rfl⟩, ⟨_, _, ⟨fee, rfl⟩, ⟨_, _, ⟨reserveIn, rfl⟩,
    ⟨_, _, ⟨reserveOut, rfl⟩, ⟨_, _, ⟨block, rfl⟩, ⟨_, _, ⟨epoch, rfl⟩, ⟨_, _, ⟨timestamp, rfl⟩,
    rfl, rfl⟩, rfl⟩, rfl⟩, rfl⟩, rfl⟩, rfl⟩, rfl⟩, rfl⟩, rfl⟩, rfl⟩, rfl⟩ := h
  exact ⟨⟨caller, tokenIn, amountIn, tokenOut, amountOut, fee, reserveIn, reserveOut, block, epoch,
    timestamp⟩, rfl⟩

end SwapEvent

structure LiquidityEvent where
  caller : List UInt8
  first_token_id : String
  first_token_amount : Nat
  second_token_id : String
  second_token_amount : Nat
  lp_token_id : String
  lp_token_amount : Nat
  lp_supply : Nat
  first_token_reserves : Nat
  second_token_reserves : Nat
  block : Nat
  epoch : Nat
  timestamp : Nat

abbrev AddLiquidityEvent := LiquidityEvent

abbrev RemoveLiquidityEvent := LiquidityEvent

namespace LiquidityEvent

def types : List Nested.FieldType :=
  [AddressType, TokenIdentifierType, BigUIntType, TokenIdentifierType, BigUIntType,
    TokenIdentifierType, BigUIntType, BigUIntType, BigUIntType, BigUIntType, U64Type, U64Type,
    U64Type]

def values (e : LiquidityEvent) : List Nested.FieldValue :=
  [.bytes e.caller, .text e.first_token_id, .nat e.first_token_amount, .text e.second_token_id,
    .nat e.second_token_amount, .text e.lp_token_id, .nat e.lp_token_amount, .nat e.lp_supply,
    .nat e.first_token_reserves, .nat e.second_token_reserves, .nat e.block, .nat e.epoch,
    .nat e.timestamp]

def encode (e : LiquidityEvent) : Option (List UInt8) := Nested.encodeAll types e.values

theorem exists_of_hasTypes {values : List Nested.FieldValue}
    (h : List.Forall₂ Nested.HasType types values) : ∃ e : LiquidityEvent, values = e.values := by
  simp only [types, List.forall₂_cons_left_iff, List.forall₂_nil_left_iff, Nested.HasType] at h
  obtain ⟨_, _, ⟨caller, rfl⟩, ⟨_, _, ⟨first, rfl⟩, ⟨_, _, ⟨firstAmount, rfl⟩,
    ⟨_, _, ⟨second, rfl⟩, ⟨_, _, ⟨secondAmount, rfl⟩, ⟨_, _, ⟨lp, rfl⟩, ⟨_, _, ⟨lpAmount, rfl⟩,
    ⟨_, _, ⟨supply, rfl⟩, ⟨_, _, ⟨firstReserves, rfl⟩, ⟨_, _, ⟨secondReserves, rfl⟩,
    ⟨_, _, ⟨block, rfl⟩, ⟨_, _, ⟨epoch, rfl⟩, ⟨_, _, ⟨timestamp, rfl⟩, rfl, rfl⟩, rfl⟩, rfl⟩, rfl⟩,
    rfl⟩, rfl⟩, rfl⟩, rfl⟩, rfl⟩, rfl⟩, rfl⟩, rfl⟩, rfl⟩ := h
  exact ⟨⟨caller, first, firstAmount, second, secondAmount, lp, lpAmount, supply, firstReserves,
    secondReserves, block, epoch, timestamp⟩, rfl⟩

end LiquidityEvent

end DexAdapter.PairAbi
