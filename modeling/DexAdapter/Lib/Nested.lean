import DexAdapter.Lib.Bytes

/-!
# The nested binary encoding of a struct

A struct is the concatenation of its fields. Fixed-size fields (byte strings of a known size,
unsigned integers of a known width) are written as they are; texts and naturals of any size are
preceded by their length in four bytes. `encodeAll` is partial: a field that does not fit its type
has no encoding. What encodes decodes to the same values (`decodeAll_encodeAll`).

`sliceAll` is a reader that slices a buffer without asking for its length: it fails only where a
length or a byte string is cut, and reads any other field that is cut short from the bytes that are
left. What decodes is read alike (`sliceAll_of_decodeAll`).
-/

namespace Nested

open Bytes

inductive FieldType where
  | fixedBytes (size : Nat)
  | text
  | bigNat
  | uint (width : Nat)
  deriving DecidableEq, Repr

inductive FieldValue where
  | bytes (bs : List UInt8)
  | text (t : String)
  | nat (n : Nat)
  deriving DecidableEq, Repr

/-- A byte string after its length in four bytes. -/
def lengthPrefixed (bs : List UInt8) : Option (List UInt8) :=
  if bs.length < 256 ^ 4 then some (fixed 4 bs.length ++ bs) else none

def encode : FieldType → FieldValue → Option (List UInt8)
  | .fixedBytes size, .bytes bs => if bs.length = size then some bs else none
  | .text, .text t => if IsAscii t then lengthPrefixed (ofAscii t) else none
  | .bigNat, .nat n => lengthPrefixed (ofNat n)
  | .uint width, .nat n => if n < 256 ^ width then some (fixed width n) else none
  | _, _ => none

/-- The bytes of a struct: its fields in order. -/
def encodeAll : List FieldType → List FieldValue → Option (List UInt8)
  | [], [] => some []
  | ty :: tys, v :: vs => do
    let bs ← encode ty v
    let rest ← encodeAll tys vs
    some (bs ++ rest)
  | _, _ => none

def takeBytes (n : Nat) (bs : List UInt8) : Option (List UInt8 × List UInt8) :=
  if n ≤ bs.length then some (bs.take n, bs.drop n) else none

def takePrefixed (bs : List UInt8) : Option (List UInt8 × List UInt8) := do
  let (len, rest) ← takeBytes 4 bs
  takeBytes (toNat len) rest

def decode : FieldType → List UInt8 → Option (FieldValue × List UInt8)
  | .fixedBytes size, bs => (takeBytes size bs).map fun p => (.bytes p.1, p.2)
  | .text, bs => (takePrefixed bs).map fun p => (.text (toAscii p.1), p.2)
  | .bigNat, bs => (takePrefixed bs).map fun p => (.nat (toNat p.1), p.2)
  | .uint width, bs => (takeBytes width bs).map fun p => (.nat (toNat p.1), p.2)

def decodeAll : List FieldType → List UInt8 → Option (List FieldValue × List UInt8)
  | [], bs => some ([], bs)
  | ty :: tys, bs => do
    let (v, rest) ← decode ty bs
    let (vs, rest) ← decodeAll tys rest
    some (v :: vs, rest)

/-! ## Round trip -/

theorem takeBytes_append {n : Nat} {bs rest : List UInt8} (h : bs.length = n) :
    takeBytes n (bs ++ rest) = some (bs, rest) := by
  subst h
  simp [takeBytes]

theorem takePrefixed_append {bs out rest : List UInt8} (h : lengthPrefixed bs = some out) :
    takePrefixed (out ++ rest) = some (bs, rest) := by
  unfold lengthPrefixed at h
  split at h
  · rename_i hlt
    obtain rfl := Option.some.inj h
    rw [takePrefixed, List.append_assoc, takeBytes_append (length_fixed 4 _)]
    simp only [Option.bind_eq_bind, Option.bind_some, toNat_fixed hlt]
    exact takeBytes_append rfl
  · cases h

theorem decode_encode {ty : FieldType} {v : FieldValue} {bs : List UInt8} (rest : List UInt8)
    (h : encode ty v = some bs) : decode ty (bs ++ rest) = some (v, rest) := by
  cases ty with
  | fixedBytes size =>
    cases v with
    | bytes b =>
      simp only [encode, Option.ite_none_right_eq_some, Option.some.injEq] at h
      obtain ⟨hlen, rfl⟩ := h
      rw [decode, takeBytes_append hlen, Option.map_some]
    | text | nat => cases h
  | text =>
    cases v with
    | text t =>
      simp only [encode, Option.ite_none_right_eq_some] at h
      obtain ⟨hascii, hpre⟩ := h
      rw [decode, takePrefixed_append hpre, Option.map_some, toAscii_ofAscii hascii]
    | bytes | nat => cases h
  | bigNat =>
    cases v with
    | nat n => rw [decode, takePrefixed_append h, Option.map_some, toNat_ofNat]
    | bytes | text => cases h
  | uint width =>
    cases v with
    | nat n =>
      simp only [encode, Option.ite_none_right_eq_some, Option.some.injEq] at h
      obtain ⟨hlt, rfl⟩ := h
      rw [decode, takeBytes_append (length_fixed width n), Option.map_some, toNat_fixed hlt]
    | bytes | text => cases h

/-- **A struct reads back**: what its fields encode to decodes to the same fields. -/
theorem decodeAll_encodeAll {tys : List FieldType} {vs : List FieldValue} {bs : List UInt8}
    (rest : List UInt8) (h : encodeAll tys vs = some bs) :
    decodeAll tys (bs ++ rest) = some (vs, rest) := by
  induction tys generalizing vs bs with
  | nil =>
    cases vs with
    | nil =>
      obtain rfl := Option.some.inj h
      rfl
    | cons v vs => cases h
  | cons ty tys ih =>
    cases vs with
    | nil => cases h
    | cons v vs =>
      simp only [encodeAll, Option.bind_eq_bind, Option.bind_eq_some_iff, Option.some.injEq] at h
      obtain ⟨b, hb, r, hr, rfl⟩ := h
      rw [List.append_assoc, decodeAll, decode_encode _ hb]
      simp only [Option.bind_eq_bind, Option.bind_some, ih hr]

/-! ## Slices -/

def slicePrefixed (bs : List UInt8) : Option (List UInt8 × List UInt8) := do
  let (len, rest) ← takeBytes 4 bs
  some (rest.take (toNat len), rest.drop (toNat len))

def slice : FieldType → List UInt8 → Option (FieldValue × List UInt8)
  | .fixedBytes size, bs => (takeBytes size bs).map fun p => (.bytes p.1, p.2)
  | .text, bs => (slicePrefixed bs).map fun p => (.text (toAscii p.1), p.2)
  | .bigNat, bs => (slicePrefixed bs).map fun p => (.nat (toNat p.1), p.2)
  | .uint width, bs => some (.nat (toNat (bs.take width)), bs.drop width)

def sliceAll : List FieldType → List UInt8 → Option (List FieldValue)
  | [], _ => some []
  | ty :: tys, bs => do
    let (v, rest) ← slice ty bs
    let vs ← sliceAll tys rest
    some (v :: vs)

theorem eq_slices_of_takeBytes {n : Nat} {bs : List UInt8} {p : List UInt8 × List UInt8}
    (h : takeBytes n bs = some p) : p = (bs.take n, bs.drop n) := by
  unfold takeBytes at h
  split at h
  · exact (Option.some.inj h).symm
  · cases h

theorem slicePrefixed_of_takePrefixed {bs : List UInt8} {p : List UInt8 × List UInt8}
    (h : takePrefixed bs = some p) : slicePrefixed bs = some p := by
  simp only [takePrefixed, Option.bind_eq_bind, Option.bind_eq_some_iff] at h
  obtain ⟨⟨len, rest⟩, hlen, hpayload⟩ := h
  rw [slicePrefixed, hlen, eq_slices_of_takeBytes hpayload]
  rfl

theorem slice_of_decode {ty : FieldType} {bs : List UInt8} {p : FieldValue × List UInt8}
    (h : decode ty bs = some p) : slice ty bs = some p := by
  cases ty with
  | fixedBytes size => exact h
  | text | bigNat =>
    obtain ⟨payload, hpayload, rfl⟩ := Option.map_eq_some_iff.1 h
    rw [slice, slicePrefixed_of_takePrefixed hpayload]
    rfl
  | uint width =>
    obtain ⟨payload, hpayload, rfl⟩ := Option.map_eq_some_iff.1 h
    rw [slice, eq_slices_of_takeBytes hpayload]

/-- A reader that slices reads whatever decodes. -/
theorem sliceAll_of_decodeAll {tys : List FieldType} {bs rest : List UInt8}
    {vs : List FieldValue} (h : decodeAll tys bs = some (vs, rest)) :
    sliceAll tys bs = some vs := by
  induction tys generalizing bs rest vs with
  | nil =>
    obtain rfl : [] = vs := congrArg Prod.fst (Option.some.inj h)
    rfl
  | cons ty tys ih =>
    simp only [decodeAll, Option.bind_eq_bind, Option.bind_eq_some_iff] at h
    obtain ⟨⟨v, bs'⟩, hv, ⟨vs', rest'⟩, hvs, hresult⟩ := h
    obtain rfl : v :: vs' = vs := congrArg Prod.fst (Option.some.inj hresult)
    rw [sliceAll, slice_of_decode hv]
    simp only [Option.bind_eq_bind, Option.bind_some, ih hvs]

/-- The value is of the kind that the type has. -/
def HasType : FieldType → FieldValue → Prop
  | .fixedBytes _, v => ∃ bs, v = .bytes bs
  | .text, v => ∃ t, v = .text t
  | .bigNat, v => ∃ n, v = .nat n
  | .uint _, v => ∃ n, v = .nat n

theorem hasType_of_slice {ty : FieldType} {bs : List UInt8} {p : FieldValue × List UInt8}
    (h : slice ty bs = some p) : HasType ty p.1 := by
  cases ty with
  | fixedBytes size | text | bigNat =>
    obtain ⟨payload, -, rfl⟩ := Option.map_eq_some_iff.1 h
    exact ⟨_, rfl⟩
  | uint width =>
    obtain rfl := Option.some.inj h
    exact ⟨_, rfl⟩

/-- What is read has a value for each field, cut short or not. -/
theorem hasTypes_of_sliceAll {tys : List FieldType} {bs : List UInt8} {vs : List FieldValue}
    (h : sliceAll tys bs = some vs) : List.Forall₂ HasType tys vs := by
  induction tys generalizing bs vs with
  | nil =>
    obtain rfl := Option.some.inj h
    exact .nil
  | cons ty tys ih =>
    simp only [sliceAll, Option.bind_eq_bind, Option.bind_eq_some_iff, Option.some.injEq] at h
    obtain ⟨⟨v, bs'⟩, hv, vs', hvs, rfl⟩ := h
    exact .cons (hasType_of_slice hv) (ih hvs)

end Nested
