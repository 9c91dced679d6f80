import Mathlib.Data.String.Basic
import DexAdapter.XExchange.Abi
import DexAdapter.OneDex.Abi
import DexAdapter.Verify.Callers

/-!
# A reference environment

Executable instances of the imported packages, of the locale and of Elasticsearch, for which the
assumptions of the theorems hold: decimals with twenty places of division, the nested codec,
bech32 addresses, hexadecimal text, chunks, and an index that filters, sorts and slices its
documents.
-/

namespace DexAdapter.Reference

/-! ## Decimals -/

/-- `coeff / 10 ^ scale`, or no finite number. -/
inductive BigNumber where
  | finite (coeff scale : Nat)
  | infinity
  | nan
  deriving DecidableEq, Repr

namespace BigNumber

def ofString (s : String) : BigNumber :=
  match Numeral.parse s with
  | some (coeff, scale) => finite coeff scale
  | none => nan

def shiftedBy : BigNumber → Int → BigNumber
  | finite coeff scale, .ofNat k => finite (coeff * 10 ^ k) scale
  | finite coeff scale, .negSucc k => finite coeff (scale + (k + 1))
  | x, _ => x

/-- Twenty decimal places, rounded down. -/
def dividedBy : BigNumber → BigNumber → BigNumber
  | finite c k, finite c' k' =>
    if c' = 0 then (if c = 0 then nan else infinity)
    else finite (c * 10 ^ (k' + 20) / (c' * 10 ^ k)) 20
  | finite _ _, infinity => finite 0 0
  | infinity, finite _ _ => infinity
  | _, _ => nan

def multipliedBy : BigNumber → Nat → BigNumber
  | finite coeff scale, n => finite (coeff * n) scale
  | infinity, n => if n = 0 then nan else infinity
  | nan, _ => nan

def toFixed : BigNumber → String
  | finite coeff scale => Numeral.render coeff scale
  | infinity => "Infinity"
  | nan => "NaN"

def toNumber : BigNumber → JsNumber
  | finite coeff scale => .num (coeff / 10 ^ scale)
  | _ => .nan

def toFloat : BigNumber → Float
  | finite coeff scale => Float.ofScientific coeff true scale
  | infinity => 1 / 0
  | nan => 0 / 0

def rat : BigNumber → Option ℚ
  | finite coeff scale => some (Numeral.ratio coeff scale)
  | _ => none

end BigNumber

def bigNumber : BigNumberLib where
  BigNumber := BigNumber
  ofNat n := .finite n 0
  ofString := BigNumber.ofString
  shiftedBy := BigNumber.shiftedBy
  dividedBy x s := BigNumber.dividedBy x (BigNumber.ofString s)
  multipliedBy := BigNumber.multipliedBy
  toFixed := BigNumber.toFixed
  toNumber := BigNumber.toNumber
  toFloat := BigNumber.toFloat

theorem ratio_mul_zpow (coeff scale : Nat) (k : Int) {x : BigNumber}
    (hx : x = .finite coeff scale) :
    (x.shiftedBy k).rat = some (Numeral.ratio coeff scale * 10 ^ k) := by
  subst hx
  cases k with
  | ofNat k =>
    simp only [BigNumber.shiftedBy, BigNumber.rat, Numeral.ratio, Int.ofNat_eq_natCast,
      zpow_natCast, Nat.cast_mul, Nat.cast_pow, Nat.cast_ofNat, Option.some.injEq]
    ring
  | negSucc k =>
    simp only [BigNumber.shiftedBy, BigNumber.rat, Numeral.ratio, zpow_negSucc, Option.some.injEq,
      pow_add, div_eq_mul_inv, mul_inv]
    ring

theorem ofString_eq {s : String} {q : ℚ} (h : Numeral.value s = some q) :
    ∃ coeff scale, BigNumber.ofString s = .finite coeff scale ∧ Numeral.ratio coeff scale = q := by
  unfold Numeral.value at h
  unfold BigNumber.ofString
  obtain ⟨⟨coeff, scale⟩, hparse, hq⟩ := Option.map_eq_some_iff.1 h
  rw [hparse]
  exact ⟨coeff, scale, rfl, hq⟩

theorem rat_eq_some {x : BigNumber} {q : ℚ} (h : x.rat = some q) :
    ∃ coeff scale, x = .finite coeff scale ∧ Numeral.ratio coeff scale = q := by
  cases x with
  | finite coeff scale => exact ⟨coeff, scale, rfl, Option.some.inj h⟩
  | infinity | nan => cases h

theorem bigNumber_exact : bigNumber.Exact BigNumber.rat where
  ofNat n := by
    show some (Numeral.ratio n 0) = _
    rw [Numeral.ratio_zero_right]
  ofString s q h := by
    obtain ⟨coeff, scale, hparsed, rfl⟩ := ofString_eq h
    show (BigNumber.ofString s).rat = _
    rw [hparsed]
    rfl
  shiftedBy x q k h := by
    obtain ⟨coeff, scale, hx, rfl⟩ := rat_eq_some h
    exact ratio_mul_zpow coeff scale k hx
  toFixed x q h _ := by
    obtain ⟨coeff, scale, rfl, rfl⟩ := rat_eq_some h
    exact Numeral.value_render coeff scale
  toNumber n _ := by
    show JsNumber.num (n / 10 ^ 0) = _
    rw [pow_zero, Nat.div_one]

theorem ratio_eq_zero {coeff scale : Nat} : Numeral.ratio coeff scale = 0 ↔ coeff = 0 := by
  simp [Numeral.ratio]

theorem ratio_div_ratio {c k c' k' : Nat} :
    Numeral.ratio c k / Numeral.ratio c' k' =
      ((c * 10 ^ k' : Nat) : ℚ) / ((c' * 10 ^ k : Nat) : ℚ) := by
  unfold Numeral.ratio
  push_cast
  field_simp

theorem bigNumber_divides : bigNumber.Divides BigNumber.rat where
  rounded x s p q hx hs _ hq := by
    obtain ⟨c, k, rfl, rfl⟩ := rat_eq_some hx
    obtain ⟨c', k', hparsed, rfl⟩ := ofString_eq hs
    have hc' : c' ≠ 0 := fun h => hq.ne' (ratio_eq_zero.2 h)
    have hnumerator : c * 10 ^ (k' + 20) = c * 10 ^ k' * 10 ^ 20 := by
      rw [pow_add, mul_assoc]
    show (BigNumber.dividedBy (.finite c k) (.ofString s)).rat = _
    rw [hparsed, BigNumber.dividedBy, if_neg hc', ratio_div_ratio,
      Rounding.toPlaces_div 20, ← hnumerator]
    rfl
  infinite x s p hx hp hs := by
    obtain ⟨c, k, rfl, rfl⟩ := rat_eq_some hx
    obtain ⟨c', k', hparsed, hzero⟩ := ofString_eq hs
    have hc : c ≠ 0 := fun h => hp.ne' (ratio_eq_zero.2 h)
    show BigNumber.toFixed (BigNumber.dividedBy (.finite c k) (.ofString s)) = _
    rw [hparsed, BigNumber.dividedBy, if_pos (ratio_eq_zero.1 hzero), if_neg hc]
    rfl
  indeterminate x s hx hs := by
    obtain ⟨c, k, rfl, hc⟩ := rat_eq_some hx
    obtain ⟨c', k', hparsed, hzero⟩ := ofString_eq hs
    show BigNumber.toFixed (BigNumber.dividedBy (.finite c k) (.ofString s)) = _
    rw [hparsed, BigNumber.dividedBy, if_pos (ratio_eq_zero.1 hzero),
      if_pos (ratio_eq_zero.1 hc)]
    rfl
  zero x hx := by
    obtain ⟨c, k, rfl, hc⟩ := rat_eq_some hx
    obtain rfl := ratio_eq_zero.1 hc
    show Numeral.render 0 k = "0"
    rw [Numeral.render, Numeral.trim_zero]
    rfl

/-! ## Bech32 -/

def bech32Charset : List Char := "qpzry9x8gf2tvdw0s3jn54khce6mua7l".toList

def bech32Generators : List Nat := [0x3b6a57b2, 0x26508e6d, 0x1ea119fa, 0x3d4233dd, 0x2a1462b3]

def bech32Step (checksum value : Nat) : Nat :=
  let top := checksum / 2 ^ 25
  let shifted := (checksum % 2 ^ 25 * 32) ^^^ value
  (bech32Generators.zipIdx).foldl
    (fun acc g => if top / 2 ^ g.2 % 2 = 1 then acc ^^^ g.1 else acc) shifted

/-- The `n` digits of a number in base 32, most significant first. -/
def base32Digits : Nat → Nat → List Nat
  | 0, _ => []
  | n + 1, x => base32Digits n (x / 32) ++ [x % 32]

def bech32Prefix : List Nat :=
  let hrp := "erd".toList.map Char.toNat
  hrp.map (· / 32) ++ 0 :: hrp.map (· % 32)

/-- The address of a public key, with its checksum. -/
def bech32 (bytes : List UInt8) : String :=
  let count := (8 * bytes.length + 4) / 5
  let data := base32Digits count (Bytes.toNat bytes * 2 ^ (5 * count - 8 * bytes.length))
  let checksum := (bech32Prefix ++ data ++ [0, 0, 0, 0, 0, 0]).foldl bech32Step 1 ^^^ 1
  "erd1" ++ String.ofList ((data ++ base32Digits 6 checksum).map fun d => bech32Charset.getD d 'q')

/-- A contract's public key begins with eight zero bytes. -/
def isSmartContractAddress (address : String) : Bool :=
  "erd1qqqqqqqqqqqqq".toList.isPrefixOf address.toList ||
    "erd1qqqqqqqqqqqqp".toList.isPrefixOf address.toList

/-! ## The packages -/

/-- Chunks of `size`, with as many steps as there can be chunks. -/
def chunks (size : Nat) : Nat → List String → List (List String)
  | 0, _ => []
  | _ + 1, [] => []
  | n + 1, x :: xs => (x :: xs).take size :: chunks size n ((x :: xs).drop size)

theorem flatten_chunks {size : Nat} (hsize : 0 < size) {n : Nat} {xs : List String}
    (hn : xs.length ≤ n) : (chunks size n xs).flatten = xs := by
  induction n generalizing xs with
  | zero =>
    obtain rfl := List.length_eq_zero_iff.1 (Nat.le_zero.1 hn)
    rfl
  | succ n ih =>
    cases xs with
    | nil => rfl
    | cons x xs =>
      have hlen : ((x :: xs).drop size).length ≤ n := by
        rw [List.length_drop]
        rw [List.length_cons] at *
        omega
      rw [chunks, List.flatten_cons, ih hlen, List.take_append_drop]

theorem length_le_of_mem_chunks {size n : Nat} {xs c : List String} (hc : c ∈ chunks size n xs) :
    c.length ≤ size := by
  induction n generalizing xs with
  | zero => cases hc
  | succ n ih =>
    cases xs with
    | nil => cases hc
    | cons x xs =>
      rw [chunks] at hc
      rcases List.mem_cons.1 hc with rfl | hc
      · exact List.length_take_le _ _
      · exact ih hc

def codec : BinaryCodec where
  decodeNested bytes struct :=
    match Nested.sliceAll (struct.map Prod.snd) bytes with
    | some values => .ok ((struct.map Prod.fst).zip values)
    | none => .error ⟨"Attempt to access memory outside buffer bounds"⟩

def binaryUtils : BinaryUtils where
  stringToHex s := Bytes.toHex (Bytes.ofAscii s)
  hexToString
    | some hex => .ok (Bytes.toAscii (Bytes.ofHex hex))
    | none => .error ⟨"The first argument must be of type string"⟩
  hexToBigInt
    | some hex => .ok (Bytes.toNat (Bytes.ofHex hex))
    | none => .ok 0
  hexToNumber
    | some hex => if hex = "" then .nan else .num (Bytes.toNat (Bytes.ofHex hex))
    | none => .nan

def addressUtils : AddressUtils where
  bech32Encode
    | some hex => .ok (bech32 (Bytes.ofHex hex))
    | none => .error ⟨"The first argument must be of type string"⟩
  isSmartContractAddress := isSmartContractAddress

def batchUtils : BatchUtils where
  splitArrayIntoChunks xs size := chunks size xs.length xs

def sdk : Sdk where
  bigNumber := bigNumber
  codec := codec
  bech32 := bech32
  binaryUtils := binaryUtils
  addressUtils := addressUtils
  batchUtils := batchUtils
  pairEvents :=
    { SWAP := "swap", ADD_LIQUIDITY := "add_liquidity", REMOVE_LIQUIDITY := "remove_liquidity" }

theorem codec_slicesNested : codec.SlicesNested where
  reads struct values bytes h := by simp only [codec, h]
  throws struct bytes h := by
    simp only [codec, h]
    exact ⟨_, rfl⟩

theorem codec_readsNested : codec.ReadsNested := by
  intro struct values bytes h
  have hdecode : Nested.decodeAll (struct.map Prod.snd) bytes = some (values, []) := by
    have := Nested.decodeAll_encodeAll [] h
    rwa [List.append_nil] at this
  exact codec_slicesNested.reads struct values bytes (Nested.sliceAll_of_decodeAll hdecode)

theorem binaryUtils_reads : binaryUtils.Reads where
  stringToHex _ _ := rfl
  hexToString s h := by
    show Except.ok (Bytes.toAscii (Bytes.ofHex (Bytes.toHex (Bytes.ofAscii s)))) = _
    rw [Bytes.ofHex_toHex, Bytes.toAscii_ofAscii h]
  hexToBigInt bs := by
    show Except.ok (Bytes.toNat (Bytes.ofHex (Bytes.toHex bs))) = _
    rw [Bytes.ofHex_toHex]
  hexToNumber bs hne _ := by
    show (if Bytes.toHex bs = "" then JsNumber.nan
      else .num (Bytes.toNat (Bytes.ofHex (Bytes.toHex bs)))) = _
    rw [if_neg (Bytes.toHex_ne_empty hne), Bytes.ofHex_toHex]
  hexToNumber_empty := rfl

theorem batchUtils_partitions : batchUtils.Partitions where
  flatten _ _ hsize := flatten_chunks hsize le_rfl
  length_le _ _ _ _ hc := length_le_of_mem_chunks hc

theorem sdk_encodesAddresses : sdk.EncodesAddresses := by
  intro key _
  show Except.ok (bech32 (Bytes.ofHex (Bytes.toHex key))) = _
  rw [Bytes.ofHex_toHex]
  rfl

/-! ## Locale -/

/-- Strings by code points. -/
def locale : LocaleCompare where
  localeCompare a b := if a < b then -1 else if a = b then 0 else 1
  consistent := by
    constructor
    · intro a b
      rcases lt_trichotomy a b with h | rfl | h
      · simp [h, h.ne', not_lt_of_gt h]
      · simp
      · simp [h, h.ne', not_lt_of_gt h]
    · have hle : ∀ a b : String,
          (if a < b then (-1 : Int) else if a = b then 0 else 1) ≤ 0 ↔ a ≤ b := by
        intro a b
        rcases lt_trichotomy a b with h | rfl | h
        · simp [h, h.le]
        · simp
        · simp [h, h.ne', not_lt_of_gt h]
      intro a b c hab hbc
      exact (hle a c).2 (((hle a b).1 hab).trans ((hle b c).1 hbc))

theorem locale_total : locale.Total := by
  intro a b h
  simp only [locale] at h
  split at h
  · cases h
  · split at h
    · assumption
    · cases h

/-! ## Elasticsearch -/

section Index

variable {D : Type} [ElasticDocument D]

/-- Hits in the order of the sort, where the order of the index breaks ties. -/
def arrange (sort : Option ElasticSort) (docs : List D) : List D :=
  match sort with
  | none => docs
  | some s =>
    let key := fun doc => (ElasticDocument.number doc s.name : Int)
    match s.order with
    | .ascending => StableSort.sortBy (fun a b => key a - key b) docs
    | .descending => StableSort.sortBy (fun a b => key b - key a) docs

def hits (query : ElasticQuery) (docs : List D) : List D :=
  arrange query.sort (docs.filter query.matches)

theorem answer_slice (query : ElasticQuery) (docs : List D) :
    query.Answer docs (query.pagination.slice (hits query docs)) := by
  refine ⟨hits query docs, ?_, ?_, rfl⟩
  · unfold hits arrange
    split
    · exact List.Perm.refl _
    · split <;> exact StableSort.sortBy_perm _ _
  · intro sort hsort
    unfold hits arrange ElasticSort.Sorted
    rw [Option.mem_def.1 hsort]
    cases hord : sort.order with
    | ascending =>
      have hcons : StableSort.Consistent fun a b : D =>
          (ElasticDocument.number a sort.name : Int) - ElasticDocument.number b sort.name :=
        ⟨fun a b => by omega, fun a b c _ _ => by omega⟩
      simp only [hord]
      exact (hcons.sortBy_pairwise _).imp fun h => by omega
    | descending =>
      have hcons : StableSort.Consistent fun a b : D =>
          (ElasticDocument.number b sort.name : Int) - ElasticDocument.number a sort.name :=
        ⟨fun a b => by omega, fun a b c _ _ => by omega⟩
      simp only [hord]
      exact (hcons.sortBy_pairwise _).imp fun h => by omega

end Index

/-- The scroll answers in one page, in the order of the index. -/
def elasticService (indices : Indices) : ElasticService where
  rounds query := .ok (query.pagination.slice (hits query indices.rounds))
  events query := .ok [indices.events.filter query.matches]
  operations query := .ok (query.pagination.slice (hits query indices.operations))

theorem elasticService_serves (indices : Indices) : (elasticService indices).Serves indices where
  rounds query := ⟨_, rfl, answer_slice query _⟩
  events query := ⟨_, rfl, by rw [List.flatten_singleton]⟩
  operations query := ⟨_, rfl, answer_slice query _⟩

theorem elasticService_fixedOrder (indices : Indices) :
    (elasticService indices).FixedOrder indices.events := by
  intro query pages h
  obtain rfl := Except.ok.inj h
  exact List.flatten_singleton

/-! ## A market -/

def contractKey (n : UInt8) : List UInt8 := List.replicate 8 0 ++ [5, 0] ++ List.replicate 22 n

def userKey (n : UInt8) : List UInt8 := List.replicate 32 n

def user (n : UInt8) : SwapAbi.Address := ⟨userKey n, List.length_replicate⟩

def wegld : SwapAbi.TokenIdentifier := ⟨"WEGLD-bd4d79", by decide⟩

def usdc : SwapAbi.TokenIdentifier := ⟨"USDC-c76f1f", by decide⟩

def config : ApiConfigService where
  oneDexSwapAddress := bech32 (contractKey 1)
  wrappedEGLDIdentifier := "WEGLD-bd4d79"
  wrappedUSDCIdentifier := "USDC-c76f1f"

def token (identifier : String) (decimals : Nat) : Token where
  identifier := identifier
  name := identifier
  ticker := identifier
  decimals := decimals
  supply := "0"
  circulatingSupply := "0"
  assets := none

def tokens : List Token := [token "WEGLD-bd4d79" 18, token "USDC-c76f1f" 6, token "MEX-455c57" 18]

/-- A pair that the adapter inverts: it reports MEX first. -/
def routerEntry : PairContractMetadata where
  first_token_id := "WEGLD-bd4d79"
  second_token_id := "MEX-455c57"
  address := bech32 (contractKey 2)

/-- A pair that it does not invert. -/
def usdcEntry : PairContractMetadata where
  first_token_id := "WEGLD-bd4d79"
  second_token_id := "USDC-c76f1f"
  address := bech32 (contractKey 3)

def oneDexPair (pair_id : Nat) (first_token_id lp_token_id : String) : OneDexRawPair where
  pair_id := pair_id
  first_token_id := first_token_id
  second_token_id := "USDC-c76f1f"
  lp_token_id := lp_token_id
  lp_token_decimal := 18
  total_fee_percentage := 100

/-- An environment over these indexes, with the pair metadata in the caches. -/
def env (indices : Indices) (routerEntries : List PairContractMetadata)
    (oneDexPairs : List OneDexRawPair) : Env where
  sdk := sdk
  locale := locale
  apiConfigService := config
  elasticService := elasticService indices
  cachedPairsMetadata := some (routerEntries.map (XExchangeService.toPairMetadata config))
  cachedOneDexPairsMetadata := some oneDexPairs
  getAllPairContractMetadata := .ok (some routerEntries)
  oneDexContractPairs := .ok oneDexPairs
  getToken identifier := .ok (tokens.find? fun token => token.identifier == identifier)
  cachedPairFeePercent _ := none
  getTotalFeePercent _ := .ok (some 300)
  getContractDeployInfo _ := { deployTxHash := none, deployedAt := none }

def round (round timestamp : Nat) : RoundDocument where
  round := round
  epoch := 1
  timestamp := timestamp
  shardId := METACHAIN

/-- Where a log stands in the chain. -/
structure Log where
  timestamp : Nat
  txHash : String
  originalTxHash : Option String
  txOrder : Nat
  order : Nat
  shardId : Nat

def document (log : Log) (identifier address : String) (topics : List String)
    (data : Option String) : ElasticEvent where
  identifier := identifier
  address := address
  data := data
  topics := topics
  order := log.order
  txOrder := log.txOrder
  shardId := log.shardId
  timestamp := log.timestamp
  originalTxHash := log.originalTxHash
  txHash := log.txHash
  logAddress := address

/-- One unit of the first token of an entry into its pair, for 500 of the second. -/
def pairSwap (entry : PairContractMetadata) (caller : List UInt8) (timestamp : Nat) :
    PairAbi.SwapEvent where
  caller := caller
  token_id_in := entry.first_token_id
  token_amount_in := 10 ^ 18
  token_id_out := entry.second_token_id
  token_amount_out := 500 * 10 ^ 18
  fee_amount := 10 ^ 15
  token_in_reserve := 1000 * 10 ^ 18
  token_out_reserve := 500000 * 10 ^ 18
  block := 7
  epoch := 1
  timestamp := timestamp

def pairSwapDocument (entry : PairContractMetadata) (caller : List UInt8) (log : Log) :
    ElasticEvent :=
  document log "swapTokensFixedInput" entry.address [SwapAbi.topicOfText "swap"]
    ((pairSwap entry caller log.timestamp).encode.map Bytes.toHex)

/-- A swap of 2 WEGLD for 6 USDC in a pair of the OneDex contract. -/
def oneDexSwap (caller : SwapAbi.Address) (pair_id : UInt32) (timestamp : Nat) :
    SwapAbi.SwapEvent where
  caller := caller
  token_in := wegld
  amount_in := 2 * 10 ^ 18
  token_in_reserve := 100 * 10 ^ 18
  token_out := usdc
  amount_out := 6 * 10 ^ 6
  token_out_reserve := 300 * 10 ^ 6
  timestamp := timestamp
  pair_id := pair_id

def oneDexSwapDocument (caller : SwapAbi.Address) (pair_id : UInt32) (log : Log) : ElasticEvent :=
  document log "swapTokensFixedInput" config.oneDexSwapAddress
    ((oneDexSwap caller pair_id log.timestamp).topics "SwapTokensFixedInputEvent") none

/-- Two rounds with a swap each; the second is made by a contract that user 3 called. -/
def market : Indices where
  rounds := [round 10 6000, round 11 6006]
  events :=
    [oneDexSwapDocument ⟨userKey 1, rfl⟩ 1
      { timestamp := 6000, txHash := "aa", originalTxHash := none, txOrder := 0, order := 0,
        shardId := 1 },
     oneDexSwapDocument ⟨contractKey 9, rfl⟩ 1
      { timestamp := 6006, txHash := "bb", originalTxHash := none, txOrder := 0, order := 0,
        shardId := 1 }]
  operations := [{ txHash := "bb", sender := bech32 (userKey 3) }]

def marketEnv : Env := env market [routerEntry] [oneDexPair 1 "WEGLD-bd4d79" "LP-1"]

/-- The two swaps as they are published. The caller of the second is user 3. -/
def marketSwap (round timestamp : Nat) (txnId maker : String) : ResponseEvent where
  block := Block.fromElasticRound (Reference.round round timestamp).toElasticRound true
  event := .swap
    { txnId := txnId
      txnIndex := 0
      eventIndex := 0
      maker := maker
      pairId := config.oneDexSwapAddress ++ "-LP-1"
      asset0In := some "2"
      asset1In := none
      asset0Out := none
      asset1Out := some "6"
      priceNative := "3"
      reserves := { asset0 := "100", asset1 := "300" } }

def marketSwaps : List ResponseEvent :=
  [marketSwap 10 6000 "aa" (bech32 (userKey 1)), marketSwap 11 6006 "bb" (bech32 (userKey 3))]

theorem market_operationsTable : OperationsTable marketEnv.elasticService market.operations :=
  (elasticService_serves market).operationsTable (List.nodup_singleton _)

/-- A transaction with two swaps. -/
def twoSwaps : Indices where
  rounds := [round 10 6000]
  events := [0, 1].map fun order => oneDexSwapDocument ⟨userKey 1, rfl⟩ 1
    { timestamp := 6000, txHash := "aa", originalTxHash := none, txOrder := 0, order := order,
      shardId := 1 }
  operations := []

def twoSwapsEnv : Env := env twoSwaps [routerEntry] [oneDexPair 1 "WEGLD-bd4d79" "LP-1"]

/-- A swap in a second that two rounds share. -/
def sameSecondSwap : ElasticEvent :=
  oneDexSwapDocument ⟨userKey 1, rfl⟩ 1
    { timestamp := 6000, txHash := "aa", originalTxHash := none, txOrder := 0, order := 0,
      shardId := 1 }

def sameSecond : Indices where
  rounds := [round 10 6000, round 11 6000]
  events := [sameSecondSwap]
  operations := []

def sameSecondEnv : Env := env sameSecond [] [oneDexPair 1 "WEGLD-bd4d79" "LP-1"]

/-- Two pairs whose lp tokens are not issued. -/
def unissuedPairs : List OneDexRawPair :=
  [oneDexPair 1 "MEX-455c57" "", oneDexPair 2 "WEGLD-bd4d79" ""]

def unissuedSwap : ElasticEvent :=
  oneDexSwapDocument ⟨userKey 1, rfl⟩ 2
    { timestamp := 6000, txHash := "aa", originalTxHash := none, txOrder := 0, order := 0,
      shardId := 1 }

def unissued : Indices where
  rounds := [round 10 6000]
  events := [unissuedSwap]
  operations := []

def unissuedEnv : Env := env unissued [] unissuedPairs

/-- A result log of transaction `aa`, the first log of its block. -/
def shardSwap (entry : PairContractMetadata) (txHash : String) (shardId : Nat) : ElasticEvent :=
  pairSwapDocument entry (userKey 1)
    { timestamp := 6000, txHash := txHash, originalTxHash := some "aa", txOrder := 0, order := 0,
      shardId := shardId }

/-- A transaction that swaps in two shards in one second. -/
def twoShards : Indices where
  rounds := [round 10 6000]
  events := [shardSwap routerEntry "bb" 2, shardSwap usdcEntry "cc" 1]
  operations := []

def twoShardsEnv : Env := env twoShards [routerEntry, usdcEntry] []

theorem twoShards_operationsTable :
    OperationsTable twoShardsEnv.elasticService twoShards.operations :=
  (elasticService_serves twoShards).operationsTable List.nodup_nil

/-- A swap event of the pair of `routerEntry` whose document has no data. -/
def noData : ElasticEvent :=
  document
    { timestamp := 6000, txHash := "dd", originalTxHash := none, txOrder := 2, order := 0,
      shardId := 1 }
    "swapTokensFixedInput" routerEntry.address [SwapAbi.topicOfText "swap"] none

end DexAdapter.Reference
