import DexAdapter.Lib.StableSort
import DexAdapter.Lib.Numeral
import DexAdapter.Lib.Nested
import DexAdapter.Lib.Rounding

/-!
# JavaScript values and the packages the service imports

The adapter rests on packages whose code is not part of the repository: the MultiversX SDK
(`@multiversx/sdk-core`, `sdk-exchange`, `sdk-nestjs-common`) and `bignumber.js`. Each function it
imports from them is a field of `Sdk`, under the package's name for it; what their documentation
promises is stated as predicates on those fields (`BigNumberLib.Exact`,
`BigNumberLib.Divides`, `BinaryUtils.Reads`, `BinaryCodec.ReadsNested`, `BatchUtils.Partitions`),
and a theorem names the ones it needs.
-/

namespace DexAdapter

/-- A thrown error, with its message. -/
structure JsError where
  message : String
  deriving DecidableEq, Repr

abbrev Result := Except JsError

/-- A number read from text: `NaN`, or a natural number. -/
inductive JsNumber where
  | nan
  | num (n : Nat)
  deriving DecidableEq, Repr

/-- The operator `===` with a natural number. `NaN` equals nothing. -/
def JsNumber.strictEq : JsNumber → Nat → Bool
  | .nan, _ => false
  | .num m, n => m == n

theorem JsNumber.strictEq_iff {x : JsNumber} {n : Nat} : x.strictEq n = true ↔ x = .num n := by
  cases x <;> simp [strictEq]

/-- `String.prototype.localeCompare`: a consistent comparator on strings. -/
structure LocaleCompare where
  localeCompare : String → String → Int
  consistent : StableSort.Consistent localeCompare

/-- It ranks any two strings, so only equal strings are tied. -/
def LocaleCompare.Total (locale : LocaleCompare) : Prop :=
  ∀ a b, locale.localeCompare a b = 0 → a = b

/-! ## `bignumber.js` -/

structure BigNumberLib where
  BigNumber : Type
  ofNat : Nat → BigNumber
  ofString : String → BigNumber
  shiftedBy : BigNumber → Int → BigNumber
  dividedBy : BigNumber → String → BigNumber
  multipliedBy : BigNumber → Nat → BigNumber
  toFixed : BigNumber → String
  toNumber : BigNumber → JsNumber
  /-- `toNumber()` of a number that need not be whole -/
  toFloat : BigNumber → Float

/-- The documented exactness of `bignumber.js`: a finite instance stands for a rational number,
shifting the point loses nothing, and `toFixed()` writes the number out in normal notation. -/
structure BigNumberLib.Exact (B : BigNumberLib) (rat : B.BigNumber → Option ℚ) : Prop where
  ofNat : ∀ n, rat (B.ofNat n) = some (n : ℚ)
  ofString : ∀ s q, Numeral.value s = some q → rat (B.ofString s) = some q
  shiftedBy : ∀ x q k, rat x = some q → rat (B.shiftedBy x k) = some (q * 10 ^ k)
  toFixed : ∀ x q, rat x = some q → 0 ≤ q → Numeral.value (B.toFixed x) = some q
  toNumber : ∀ n, n < 2 ^ 53 → B.toNumber (B.ofNat n) = .num n

/-- The documented division of `bignumber.js`: quotients have twenty decimal places, which is the
default, and are rounded down, which is the mode that `@multiversx/sdk-core` sets for the process. A
division by zero gives `Infinity`, or `NaN` for zero by zero, and `toFixed()` writes zero as `0`. -/
structure BigNumberLib.Divides (B : BigNumberLib) (rat : B.BigNumber → Option ℚ) : Prop where
  rounded : ∀ x s p q, rat x = some p → Numeral.value s = some q → 0 ≤ p → 0 < q →
    rat (B.dividedBy x s) = some (Rounding.toPlaces 20 (p / q))
  infinite : ∀ x s p, rat x = some p → 0 < p → Numeral.value s = some 0 →
    B.toFixed (B.dividedBy x s) = "Infinity"
  indeterminate : ∀ x s, rat x = some 0 → Numeral.value s = some 0 →
    B.toFixed (B.dividedBy x s) = "NaN"
  zero : ∀ x, rat x = some 0 → B.toFixed x = "0"

/-! ## `@multiversx/sdk-core` -/

abbrev AddressType : Nested.FieldType := .fixedBytes 32
abbrev TokenIdentifierType : Nested.FieldType := .text
abbrev BigUIntType : Nested.FieldType := .bigNat
abbrev U64Type : Nested.FieldType := .uint 8

/-- A `StructType`: the field definitions, in order. -/
abbrev StructType := List (String × Nested.FieldType)

/-- The `valueOf()` of a decoded struct: its fields by name. -/
abbrev DecodedStruct := List (String × Nested.FieldValue)

structure BinaryCodec where
  decodeNested : List UInt8 → StructType → Result DecodedStruct

/-- The codec reads the nested encoding of a struct back, field by field. -/
def BinaryCodec.ReadsNested (codec : BinaryCodec) : Prop :=
  ∀ (struct : StructType) (values : List Nested.FieldValue) (bytes : List UInt8),
    Nested.encodeAll (struct.map Prod.snd) values = some bytes →
      codec.decodeNested bytes struct = .ok ((struct.map Prod.fst).zip values)

/-- The codec slices the buffer of a struct: it throws only where a length or an address is cut, and
reads any other field that is cut short from the bytes that are left. -/
structure BinaryCodec.SlicesNested (codec : BinaryCodec) : Prop where
  reads : ∀ (struct : StructType) (values : List Nested.FieldValue) (bytes : List UInt8),
    Nested.sliceAll (struct.map Prod.snd) bytes = some values →
      codec.decodeNested bytes struct = .ok ((struct.map Prod.fst).zip values)
  throws : ∀ (struct : StructType) (bytes : List UInt8),
    Nested.sliceAll (struct.map Prod.snd) bytes = none →
      ∃ error, codec.decodeNested bytes struct = .error error

namespace DecodedStruct

/-- Reading a property of `undefined`. -/
def typeError : JsError := ⟨"Cannot read properties of undefined"⟩

def addressField (decoded : DecodedStruct) (name : String) : Result (List UInt8) :=
  match decoded.lookup name with
  | some (.bytes bs) => .ok bs
  | _ => .error typeError

def textField (decoded : DecodedStruct) (name : String) : Result String :=
  match decoded.lookup name with
  | some (.text t) => .ok t
  | _ => .error typeError

def natField (decoded : DecodedStruct) (name : String) : Result Nat :=
  match decoded.lookup name with
  | some (.nat n) => .ok n
  | _ => .error typeError

end DecodedStruct

/-! ## `@multiversx/sdk-nestjs-common` and `@multiversx/sdk-exchange` -/

/-- An argument `undefined` is `none`. -/
structure BinaryUtils where
  stringToHex : String → String
  hexToString : Option String → Result String
  hexToBigInt : Option String → Result Nat
  hexToNumber : Option String → JsNumber

/-- The documented reading of hexadecimal text: `hexToString` reads ASCII, `hexToBigInt` reads a
big-endian number (the empty text is zero), `hexToNumber` is `parseInt(hex, 16)`, which is exact
below `2 ^ 53` and `NaN` on the empty text. -/
structure BinaryUtils.Reads (B : BinaryUtils) : Prop where
  stringToHex : ∀ s, Bytes.IsAscii s → B.stringToHex s = Bytes.toHex (Bytes.ofAscii s)
  hexToString : ∀ s, Bytes.IsAscii s →
    B.hexToString (some (Bytes.toHex (Bytes.ofAscii s))) = .ok s
  hexToBigInt : ∀ bs, B.hexToBigInt (some (Bytes.toHex bs)) = .ok (Bytes.toNat bs)
  hexToNumber : ∀ bs, bs ≠ [] → Bytes.toNat bs < 2 ^ 53 →
    B.hexToNumber (some (Bytes.toHex bs)) = .num (Bytes.toNat bs)
  hexToNumber_empty : B.hexToNumber (some "") = .nan

structure AddressUtils where
  bech32Encode : Option String → Result String
  isSmartContractAddress : String → Bool

structure BatchUtils where
  splitArrayIntoChunks : List String → Nat → List (List String)

/-- Chunks partition the array in order, and none is longer than asked. -/
structure BatchUtils.Partitions (B : BatchUtils) : Prop where
  flatten : ∀ xs size, 0 < size → (B.splitArrayIntoChunks xs size).flatten = xs
  length_le : ∀ xs size, 0 < size → ∀ c ∈ B.splitArrayIntoChunks xs size, c.length ≤ size

/-- The event names of `PAIR_EVENTS`. -/
structure PairEvents where
  SWAP : String
  ADD_LIQUIDITY : String
  REMOVE_LIQUIDITY : String

/-- Everything the adapter imports. `bech32` is the method of `Address`. -/
structure Sdk where
  bigNumber : BigNumberLib
  codec : BinaryCodec
  bech32 : List UInt8 → String
  binaryUtils : BinaryUtils
  addressUtils : AddressUtils
  batchUtils : BatchUtils
  pairEvents : PairEvents

/-- `bech32Encode` writes the address of a public key given in hexadecimal. -/
def Sdk.EncodesAddresses (sdk : Sdk) : Prop :=
  ∀ key : List UInt8, key.length = 32 →
    sdk.addressUtils.bech32Encode (some (Bytes.toHex key)) = .ok (sdk.bech32 key)

end DexAdapter
