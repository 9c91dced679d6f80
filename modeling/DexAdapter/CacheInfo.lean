import DexAdapter.Provider
import DexAdapter.TokenCache

/-!
# What is cached

`CacheInfo` has one function for each kind of thing that is cached, which gives it a key and a time
to live. `Cached` is these things. The cache takes and returns values without their types, so that
the key alone says what a value is: no two things have one key (`Cached.eq_of_key`).
-/

namespace DexAdapter

def Constants.oneHour : Nat := 60 * 60

namespace CacheInfo

def PairsMetadata : CacheInfo where
  key := "pairs-metadata"
  ttl := Constants.oneMinute

def PairFeePercent (pairAddress : String) : CacheInfo where
  key := "pair-fee-percent:" ++ pairAddress
  ttl := Constants.oneHour

def ContractDeployInfo (address : String) : CacheInfo where
  key := "contract-deploy-info:" ++ address
  ttl := Constants.oneDay

def OneDexPairsMetadata : CacheInfo where
  key := "onedex:pairs-metadata"
  ttl := Constants.oneHour

end CacheInfo

/-- A thing that is cached, one constructor for each function of `CacheInfo`. -/
inductive Cached where
  | token (identifier : String)
  | pairsMetadata
  | pairFeePercent (pairAddress : String)
  | contractDeployInfo (address : String)
  | oneDexPairsMetadata
  deriving DecidableEq, Repr

namespace Cached

def info : Cached → CacheInfo
  | token identifier => CacheInfo.Token identifier
  | pairsMetadata => CacheInfo.PairsMetadata
  | pairFeePercent pairAddress => CacheInfo.PairFeePercent pairAddress
  | contractDeployInfo address => CacheInfo.ContractDeployInfo address
  | oneDexPairsMetadata => CacheInfo.OneDexPairsMetadata

abbrev key (item : Cached) : String := item.info.key

/-- What the function that caches the thing returns. -/
@[reducible] def Value : Cached → Type
  | token _ => Option Token
  | pairsMetadata => List PairMetadata
  | pairFeePercent _ => Float
  | contractDeployInfo _ => ContractDeployInfo
  | oneDexPairsMetadata => List OneDexRawPair

/-- The function of `CacheInfo`. -/
inductive Kind where
  | token
  | pairsMetadata
  | pairFeePercent
  | contractDeployInfo
  | oneDexPairsMetadata

/-- What its keys begin with. -/
def Kind.label : Kind → String
  | token => "token:"
  | pairsMetadata => "pairs-metadata"
  | pairFeePercent => "pair-fee-percent:"
  | contractDeployInfo => "contract-deploy-info:"
  | oneDexPairsMetadata => "onedex:pairs-metadata"

/-- Six characters tell the labels apart. -/
theorem Kind.eq_of_take_label {kind kind' : Kind}
    (h : kind.label.toList.take 6 = kind'.label.toList.take 6) : kind = kind' := by
  cases kind <;> cases kind' <;> first | rfl | exact absurd h (by decide)

theorem Kind.six_le_length_label (kind : Kind) : 6 ≤ kind.label.toList.length := by
  cases kind <;> decide

def kind : Cached → Kind
  | token _ => .token
  | pairsMetadata => .pairsMetadata
  | pairFeePercent _ => .pairFeePercent
  | contractDeployInfo _ => .contractDeployInfo
  | oneDexPairsMetadata => .oneDexPairsMetadata

/-- What the thing is named by. -/
def name : Cached → String
  | token identifier => identifier
  | pairFeePercent pairAddress => pairAddress
  | contractDeployInfo address => address
  | pairsMetadata | oneDexPairsMetadata => ""

theorem toList_key (item : Cached) :
    item.key.toList = item.kind.label.toList ++ item.name.toList := by
  cases item with
  | token | pairFeePercent | contractDeployInfo => exact String.toList_append
  | pairsMetadata | oneDexPairsMetadata => exact (List.append_nil _).symm

theorem eq_of_kind {item item' : Cached} (hkind : item.kind = item'.kind)
    (hname : item.name = item'.name) : item = item' := by
  cases item <;> cases item' <;> cases hkind <;> cases hname <;> rfl

/-- **Keys are not shared.** -/
theorem eq_of_key {item item' : Cached} (h : item.key = item'.key) : item = item' := by
  have hchars := congrArg String.toList h
  rw [toList_key, toList_key] at hchars
  have hkind : item.kind = item'.kind := by
    apply Kind.eq_of_take_label
    have htake := congrArg (List.take 6) hchars
    rwa [List.take_append_of_le_length item.kind.six_le_length_label,
      List.take_append_of_le_length item'.kind.six_le_length_label] at htake
  rw [hkind] at hchars
  exact eq_of_kind hkind (String.toList_injective (List.append_cancel_left hchars))

end Cached

end DexAdapter
