import DexAdapter.Sdk

/-!
# Events of the OneDex contract

The events of `swap.abi.json` that the adapter reads. All their arguments are indexed, so a document
carries them as topics after the event name, each top-encoded: addresses and token identifiers as
their bytes, numbers big-endian in the fewest bytes, so that zero is the empty topic.
-/

namespace DexAdapter.SwapAbi

abbrev Address := { key : List UInt8 // key.length = 32 }

/-- A token identifier is ASCII text. -/
abbrev TokenIdentifier := { text : String // Bytes.IsAscii text }

def topicOfText (text : String) : String := Bytes.toHex (Bytes.ofAscii text)

def topicOfNat (n : Nat) : String := Bytes.toHex (Bytes.ofNat n)

/-- `SwapTokensFixedInputEvent` and `SwapTokensFixedOutputEvent`. -/
structure SwapEvent where
  caller : Address
  token_in : TokenIdentifier
  amount_in : Nat
  token_in_reserve : Nat
  token_out : TokenIdentifier
  amount_out : Nat
  token_out_reserve : Nat
  timestamp : Nat
  pair_id : UInt32

def SwapEvent.topics (name : String) (e : SwapEvent) : List String :=
  [topicOfText name, Bytes.toHex e.caller.val, topicOfText e.token_in.val, topicOfNat e.amount_in,
    topicOfNat e.token_in_reserve, topicOfText e.token_out.val, topicOfNat e.amount_out,
    topicOfNat e.token_out_reserve, topicOfNat e.timestamp, topicOfNat e.pair_id.toNat]

structure AddInitialLiquidityEvent where
  caller : Address
  first_token_id : TokenIdentifier
  first_token_amount : Nat
  second_token_id : TokenIdentifier
  second_token_amount : Nat
  lp_token_id : TokenIdentifier
  lp_token_add_amount : Nat
  timestamp : Nat
  pair_id : UInt32

def AddInitialLiquidityEvent.topics (e : AddInitialLiquidityEvent) : List String :=
  [topicOfText "AddInitialLiquidityEvent", Bytes.toHex e.caller.val,
    topicOfText e.first_token_id.val, topicOfNat e.first_token_amount,
    topicOfText e.second_token_id.val,
    topicOfNat e.second_token_amount, topicOfText e.lp_token_id.val,
    topicOfNat e.lp_token_add_amount, topicOfNat e.timestamp, topicOfNat e.pair_id.toNat]

/-- `AddLiquidityEvent` and `RemoveLiquidityEvent`; the amounts are those added or withdrawn. -/
structure LiquidityEvent where
  caller : Address
  first_token_id : TokenIdentifier
  first_token_amount : Nat
  second_token_id : TokenIdentifier
  second_token_amount : Nat
  lp_token_id : TokenIdentifier
  lp_token_amount : Nat
  timestamp : Nat
  pair_id : UInt32
  first_token_reserve : Nat
  second_token_reserve : Nat
  lp_token_supply : Nat

def LiquidityEvent.topics (name : String) (e : LiquidityEvent) : List String :=
  [topicOfText name, Bytes.toHex e.caller.val, topicOfText e.first_token_id.val,
    topicOfNat e.first_token_amount, topicOfText e.second_token_id.val,
    topicOfNat e.second_token_amount, topicOfText e.lp_token_id.val, topicOfNat e.lp_token_amount,
    topicOfNat e.timestamp, topicOfNat e.pair_id.toNat, topicOfNat e.first_token_reserve,
    topicOfNat e.second_token_reserve, topicOfNat e.lp_token_supply]

end DexAdapter.SwapAbi
