import DexAdapter.DataIntegration.Service

/-!
# Pair lookups

What `/pair` answers, provider by provider, from the pairs that `getPairs` returns.
-/

namespace DexAdapter

open Collect

/-- The search finds the one member that the predicate holds of. -/
theorem find?_unique {α : Type} {l : List α} {q : α → Bool} {a : α} (ha : a ∈ l) (hq : q a = true)
    (hunique : ∀ x ∈ l, q x = true → x = a) : l.find? q = some a := by
  cases hfind : l.find? q with
  | none => exact absurd hq (List.find?_eq_none.1 hfind a ha)
  | some x => rw [hunique x (List.mem_of_find?_eq_some hfind) (List.find?_some hfind)]

namespace XExchangeService

variable {env : Env} {pairs : List XExchangePair} {pair : XExchangePair} {identifier : String}

theorem withDecimals_eq_some {metadata : PairMetadata} :
    withDecimals env metadata = .ok (some pair) ↔
      ∃ first second, env.getToken metadata.firstTokenId = .ok (some first) ∧
        env.getToken metadata.secondTokenId = .ok (some second) ∧
        pair = { metadata with
          firstTokenDecimals := first.decimals
          secondTokenDecimals := second.decimals } := by
  constructor
  · intro h
    obtain ⟨first, hfirst, h⟩ := bind_eq_ok.1 h
    obtain ⟨second, hsecond, h⟩ := bind_eq_ok.1 h
    cases first with
    | none => cases h
    | some first =>
      cases second with
      | none => cases h
      | some second =>
        exact ⟨first, second, hfirst, hsecond, (Option.some.inj (Except.ok.inj h)).symm⟩
  · rintro ⟨first, second, hfirst, hsecond, rfl⟩
    rw [withDecimals, hfirst, ok_bind, hsecond]
    rfl

/-- What `/pair` reports of a pair. -/
structure Describes (response : Pair) (pair : XExchangePair) : Prop where
  id : response.id = pair.address
  dexKey : response.dexKey = getProviderName
  asset0Id : response.asset0Id = pair.firstTokenId
  asset1Id : response.asset1Id = pair.secondTokenId

theorem describes_of_getPair {response : Pair} (hpairs : getPairs env = .ok pairs)
    (hfind : pairs.find? (fun p => p.address == identifier) = some pair)
    (h : getPair env identifier = .ok (some response)) : Describes response pair := by
  rw [getPair, hpairs, ok_bind, hfind] at h
  obtain ⟨fee, -, h⟩ := bind_eq_ok.1 h
  rw [← Option.some.inj (Except.ok.inj h)]
  exact ⟨rfl, rfl, rfl, rfl⟩

theorem getPair_of_found (hpairs : getPairs env = .ok pairs)
    (hfind : pairs.find? (fun p => p.address == identifier) = some pair)
    (hfee : Succeeds (getPairFeePercent env identifier)) :
    ∃ response, getPair env identifier = .ok (some response) ∧ Describes response pair := by
  obtain ⟨fee, hfee⟩ := hfee
  have h : ∃ response, getPair env identifier = .ok (some response) := by
    rw [getPair, hpairs, ok_bind, hfind]
    show ∃ response, (getPairFeePercent env identifier >>= _) = _
    rw [hfee]
    exact ⟨_, rfl⟩
  obtain ⟨response, h⟩ := h
  exact ⟨response, h, describes_of_getPair hpairs hfind h⟩

theorem getPair_of_not_found (hpairs : getPairs env = .ok pairs)
    (hfind : pairs.find? (fun p => p.address == identifier) = none) :
    getPair env identifier = .ok none := by
  rw [getPair, hpairs, ok_bind, hfind]
  rfl

end XExchangeService

namespace OneDexService

variable {env : Env} {pairs : List OneDexPair} {pair : OneDexPair} {address : String}

theorem toPair_eq_some {rawPair : OneDexRawPair} :
    toPair env rawPair = .ok (some pair) ↔
      ∃ first second, env.getToken rawPair.first_token_id = .ok (some first) ∧
        env.getToken rawPair.second_token_id = .ok (some second) ∧
        pair =
          { id := rawPair.pair_id
            address := pairAddress env rawPair.lp_token_id
            lpTokenId := rawPair.lp_token_id
            lpTokenDecimals := rawPair.lp_token_decimal
            firstTokenId := rawPair.first_token_id
            firstTokenDecimals := first.decimals
            secondTokenId := rawPair.second_token_id
            secondTokenDecimals := second.decimals
            pairFeePercent := rawPair.total_fee_percentage } := by
  constructor
  · intro h
    obtain ⟨first, hfirst, h⟩ := bind_eq_ok.1 h
    obtain ⟨second, hsecond, h⟩ := bind_eq_ok.1 h
    cases first with
    | none => cases h
    | some first =>
      cases second with
      | none => cases h
      | some second =>
        exact ⟨first, second, hfirst, hsecond, (Option.some.inj (Except.ok.inj h)).symm⟩
  · rintro ⟨first, second, hfirst, hsecond, rfl⟩
    rw [toPair, hfirst, ok_bind, hsecond]
    rfl

theorem getPair_of_found (hpairs : getPairs env = .ok pairs)
    (hfind : pairs.find? (fun p => p.address == address) = some pair) :
    getPair env address = .ok (some (pairResponse pair)) := by
  rw [getPair, hpairs, ok_bind, hfind]
  rfl

theorem getPair_of_not_found (hpairs : getPairs env = .ok pairs)
    (hfind : pairs.find? (fun p => p.address == address) = none) :
    getPair env address = .ok none := by
  rw [getPair, hpairs, ok_bind, hfind]
  rfl

end OneDexService

end DexAdapter
