import DexAdapter.OneDex.Attribution

/-!
# One pair for all kinds of events

The contract emits five kinds of events for a pair, and every one carries the number of the pair.
Four classes look the pair up by this number, which they do not read when it is zero; the class of
the initial deposit looks it up by the lp token, which a snapshot from before the token was issued
does not have. `resolves_iff`: an event is kept with its pair exactly when its lookup can succeed
(`Resolvable`).
-/

namespace DexAdapter.OneDexService

open Collect
open SwapAbi (topicOfText topicOfNat TokenIdentifier)

/-- The events that the contract emits for a pair. -/
inductive Emitted where
  | swapTokensFixedInput (chain : SwapAbi.SwapEvent)
  | swapTokensFixedOutput (chain : SwapAbi.SwapEvent)
  | addInitialLiquidity (chain : SwapAbi.AddInitialLiquidityEvent)
  | addLiquidity (chain : SwapAbi.LiquidityEvent)
  | removeLiquidity (chain : SwapAbi.LiquidityEvent)

namespace Emitted

def topics : Emitted → List String
  | swapTokensFixedInput chain => chain.topics "SwapTokensFixedInputEvent"
  | swapTokensFixedOutput chain => chain.topics "SwapTokensFixedOutputEvent"
  | addInitialLiquidity chain => chain.topics
  | addLiquidity chain => chain.topics "AddLiquidityEvent"
  | removeLiquidity chain => chain.topics "RemoveLiquidityEvent"

def pairId : Emitted → UInt32
  | swapTokensFixedInput chain | swapTokensFixedOutput chain => chain.pair_id
  | addInitialLiquidity chain => chain.pair_id
  | addLiquidity chain | removeLiquidity chain => chain.pair_id

/-- A swap does not carry the lp token. -/
def lpTokenId : Emitted → Option TokenIdentifier
  | swapTokensFixedInput _ | swapTokensFixedOutput _ => none
  | addInitialLiquidity chain => some chain.lp_token_id
  | addLiquidity chain | removeLiquidity chain => some chain.lp_token_id

theorem topic_pairId (e : Emitted) : e.topics[9]? = some (topicOfNat e.pairId.toNat) := by
  cases e <;> rfl

/-- The event carries the number of the pair and its issued lp token. -/
structure For (e : Emitted) (p : OneDexPair) (issued : TokenIdentifier) : Prop where
  pairId : e.pairId.toNat = p.id
  lpTokenId : ∀ token ∈ e.lpTokenId, token = issued

end Emitted

/-- A list of pairs that was read after `p` was created: its lp token may not have been issued
then. -/
structure Snapshot (pairs : List OneDexPair) (p : OneDexPair) (issued : TokenIdentifier) :
    Prop where
  mem : p ∈ pairs
  id : (pairs.map fun p => p.id).Nodup
  lpTokenId : p.lpTokenId = "" ∨ p.lpTokenId = issued.val

/-- In the snapshot the pair has this lp token, and no pair before it has. -/
def FirstWithToken (pairs : List OneDexPair) (p : OneDexPair) (lpTokenId : String) : Prop :=
  p.lpTokenId = lpTokenId ∧
    ∃ before after, pairs = before ++ p :: after ∧ ∀ q ∈ before, q.lpTokenId ≠ lpTokenId

/-- The lookup of the event's class can find the pair. -/
def Resolvable (pairs : List OneDexPair) (p : OneDexPair) (issued : TokenIdentifier) :
    Emitted → Prop
  | .addInitialLiquidity _ => FirstWithToken pairs p issued.val
  | _ => p.id ≠ 0

/-- The pair that an event's class found. -/
def eventPair : Event → OneDexPair
  | .swap event => swapPair event
  | .liquidity event => liquidityPair event

/-- The document's event is kept, and its pair is `p`. -/
def Resolves (env : Env) (pairs : List OneDexPair) (document : ElasticEvent) (p : OneDexPair) :
    Prop :=
  ∃ event, decodeRaw env pairs document = .ok (some event) ∧ eventPair event = p

/-! ## Lookups -/

theorem firstWithToken_iff {pairs : List OneDexPair} {p : OneDexPair} {lpTokenId : String} :
    pairs.find? (fun q => q.lpTokenId == lpTokenId) = some p ↔
      FirstWithToken pairs p lpTokenId := by
  rw [List.find?_eq_some_iff_append, FirstWithToken]
  simp only [beq_iff_eq, Bool.not_eq_true', beq_eq_false_iff_ne]

section Lookup

variable {sdk : Sdk} (hutils : sdk.binaryUtils.Reads) {pairs : List OneDexPair} {p : OneDexPair}
  {document : ElasticEvent} {id : UInt32}

include hutils

/-- The number finds its pair, unless it is zero, which is not read as a number. -/
theorem findPairById_iff (hmem : p ∈ pairs) (hnodup : (pairs.map fun p => p.id).Nodup)
    (htopic : document.topics[9]? = some (topicOfNat id.toNat)) (hid : id.toNat = p.id) :
    findPairById pairs (topicNumber sdk document 9) = some p ↔ p.id ≠ 0 := by
  by_cases hzero : p.id = 0
  · rw [hid, hzero] at htopic
    have hnone : findPairById pairs .nan = none :=
      List.find?_eq_none.2 (by simp [JsNumber.strictEq])
    rw [topicNumber_empty hutils htopic, hnone]
    simp [hzero]
  · have hfind : findPairById pairs (.num p.id) = some p :=
      find?_unique hmem (beq_self_eq_true p.id) fun _ hx hxid =>
        List.inj_on_of_nodup_map hnodup hx hmem (beq_iff_eq.1 hxid).symm
    rw [topicNumber_eq hutils htopic (by omega) (id.toNat_lt.trans (by decide)), hid, hfind]
    simp [hzero]

end Lookup

/-! ## Keeping -/

/-- An event is kept with the pair that its class found. -/
theorem exists_kept_iff {found : Option OneDexPair} {keep : found.isSome = true → Event}
    (hkeep : ∀ h, eventPair (keep h) = found.get h) {p : OneDexPair} :
    (∃ kept, (if h : found.isSome = true then some (keep h) else none) = some kept ∧
      eventPair kept = p) ↔ found = some p := by
  constructor
  · rintro ⟨kept, hkept, hpair⟩
    split at hkept
    · rename_i hsome
      obtain rfl := Option.some.inj hkept
      rw [← hpair, hkeep, Option.some_get]
    · cases hkept
  · rintro rfl
    exact ⟨keep rfl, dif_pos rfl, hkeep rfl⟩

theorem exists_keepSwap_iff {event : OneDexSwapEvent} {p : OneDexPair} :
    (∃ kept, keepSwap event = some kept ∧ eventPair kept = p) ↔ event.pair = some p :=
  exists_kept_iff fun _ => rfl

theorem exists_keepLiquidity_iff {event : OneDexLiquidityEvent} {p : OneDexPair} :
    (∃ kept, keepLiquidity event = some kept ∧ eventPair kept = p) ↔ event.pair = some p :=
  exists_kept_iff fun _ => rfl

/-- A run of `getEvents` that fetches the document returns its event. -/
theorem Resolves.mem_getEvents {env : Env} {pairs : List OneDexPair} {p : OneDexPair}
    {document : ElasticEvent} (h : Resolves env pairs document p) {before after : Nat}
    {documents : List ElasticEvent} {events : List Event} (hpairs : getPairs env = .ok pairs)
    (hdocuments : IndexerService.getEvents env.elasticService before after
      [env.apiConfigService.oneDexSwapAddress] (eventNames env) = .ok documents)
    (hmem : document ∈ documents) (hevents : getEvents env before after = .ok events) :
    ∃ event ∈ events, decodeRaw env pairs document = .ok (some event) ∧ eventPair event = p := by
  obtain ⟨event, hdecode, hpair⟩ := h
  rw [getEvents, hpairs, ok_bind, hdocuments, ok_bind] at hevents
  obtain ⟨-, rfl⟩ := collect_eq_ok_iff.1 hevents
  refine ⟨event, ?_, hdecode, hpair⟩
  apply List.mem_filterMap.2
  exact ⟨document, hmem, pushed_eq_some_iff.2 hdecode⟩

section Resolution

variable {env : Env} (hutils : env.sdk.binaryUtils.Reads) (haddress : env.sdk.EncodesAddresses)
  {pairs : List OneDexPair} {p : OneDexPair} {document : ElasticEvent}

include hutils haddress

theorem swap_resolves_iff {name : String} {chain : SwapAbi.SwapEvent}
    (hname : name = "SwapTokensFixedInputEvent" ∨ name = "SwapTokensFixedOutputEvent")
    (htopics : document.topics = chain.topics name) :
    Resolves env pairs document p ↔
      findPairById pairs (topicNumber env.sdk document 9) = some p := by
  obtain ⟨event, hnew, -, -, -, -, -, -, -, hpair⟩ :=
    new_swapEvent hutils haddress pairs htopics
  rw [Resolves, decodeRaw_swap hutils pairs hname (by rw [htopics]; rfl), hnew, ok_bind,
    pure_eq_ok, ← hpair, ← exists_keepSwap_iff]
  simp only [Except.ok.injEq]

theorem liquidity_resolves_iff {name : String} {eventType : EventType}
    {chain : SwapAbi.LiquidityEvent}
    (hname : (name = "AddLiquidityEvent" ∧ eventType = .addLiquidity) ∨
      (name = "RemoveLiquidityEvent" ∧ eventType = .removeLiquidity))
    (htopics : document.topics = chain.topics name) :
    Resolves env pairs document p ↔
      findPairById pairs (topicNumber env.sdk document 9) = some p := by
  obtain ⟨event, hnew, -, -, -, -, -, -, -, hpair⟩ :=
    new_liquidityEvent hutils haddress pairs eventType htopics
  rw [Resolves, decodeRaw_liquidity hutils pairs hname (by rw [htopics]; rfl), hnew, ok_bind,
    pure_eq_ok, ← hpair, ← exists_keepLiquidity_iff]
  simp only [Except.ok.injEq]

theorem initial_resolves_iff {chain : SwapAbi.AddInitialLiquidityEvent}
    (htopics : document.topics = chain.topics) :
    Resolves env pairs document p ↔ FirstWithToken pairs p chain.lp_token_id.val := by
  obtain ⟨event, hnew, -, -, -, -, -, -, -, hpair⟩ :=
    new_addInitialLiquidityEvent hutils haddress pairs htopics
  rw [Resolves, decodeRaw_initial hutils pairs (by rw [htopics]; rfl), hnew, ok_bind,
    pure_eq_ok, ← firstWithToken_iff, ← hpair, ← exists_keepLiquidity_iff]
  simp only [Except.ok.injEq]

/-- **When an event finds its pair**: for every snapshot and every event that the contract emits for
the pair, exactly when the lookup of the class can find it; and then every run of `getEvents` that
fetches the document returns the event. -/
theorem resolves_iff {issued : TokenIdentifier} (h : Snapshot pairs p issued) {e : Emitted}
    (hemitted : e.For p issued) (htopics : document.topics = e.topics) :
    (Resolves env pairs document p ↔ Resolvable pairs p issued e) ∧
    (Resolvable pairs p issued e → ∀ before after documents events,
      getPairs env = .ok pairs →
      IndexerService.getEvents env.elasticService before after
        [env.apiConfigService.oneDexSwapAddress] (eventNames env) = .ok documents →
      document ∈ documents → getEvents env before after = .ok events →
      ∃ event ∈ events,
        decodeRaw env pairs document = .ok (some event) ∧ eventPair event = p) := by
  have hfind : findPairById pairs (topicNumber env.sdk document 9) = some p ↔ p.id ≠ 0 :=
    findPairById_iff hutils h.mem h.id (by rw [htopics]; exact e.topic_pairId) hemitted.pairId
  have hiff : Resolves env pairs document p ↔ Resolvable pairs p issued e := by
    cases e with
    | swapTokensFixedInput chain =>
      exact (swap_resolves_iff hutils haddress (Or.inl rfl) htopics).trans hfind
    | swapTokensFixedOutput chain =>
      exact (swap_resolves_iff hutils haddress (Or.inr rfl) htopics).trans hfind
    | addInitialLiquidity chain =>
      rw [initial_resolves_iff hutils haddress htopics, Resolvable,
        hemitted.lpTokenId chain.lp_token_id rfl]
    | addLiquidity chain =>
      exact (liquidity_resolves_iff hutils haddress (Or.inl ⟨rfl, rfl⟩) htopics).trans hfind
    | removeLiquidity chain =>
      exact (liquidity_resolves_iff hutils haddress (Or.inr ⟨rfl, rfl⟩) htopics).trans hfind
  exact ⟨hiff, fun hresolvable before after documents events hpairs hdocuments hmem hevents =>
    (hiff.2 hresolvable).mem_getEvents hpairs hdocuments hmem hevents⟩

end Resolution

section Market

open Reference

/-- A pair of the OneDex contract in a snapshot. -/
def listedPair (id : Nat) (lpTokenId : String) : OneDexPair where
  id := id
  address := pairAddress marketEnv lpTokenId
  lpTokenId := lpTokenId
  lpTokenDecimals := 18
  firstTokenId := wegld.val
  firstTokenDecimals := 18
  secondTokenId := usdc.val
  secondTokenDecimals := 6
  pairFeePercent := 100

def issuedToken : TokenIdentifier := ⟨"ONELP-1a2b3c", by decide⟩

/-- The initial deposit into pair 1. -/
def firstDeposit : Emitted := .addInitialLiquidity
  { caller := user 1
    first_token_id := wegld
    first_token_amount := 10 ^ 18
    second_token_id := usdc
    second_token_amount := 3 * 10 ^ 6
    lp_token_id := issuedToken
    lp_token_add_amount := 10 ^ 18
    timestamp := 6000
    pair_id := 1 }

/-- A swap in pair 0. -/
def zeroSwap : Emitted := .swapTokensFixedInput (oneDexSwap (user 1) 0 6000)

def emittedDocument (e : Emitted) : ElasticEvent :=
  Reference.document
    { timestamp := 6000, txHash := "aa", originalTxHash := none, txOrder := 0, order := 0,
      shardId := 1 }
    "oneDex" config.oneDexSwapAddress e.topics none

theorem snapshot_listedPair {id : Nat} {lpTokenId : String}
    (h : lpTokenId = "" ∨ lpTokenId = issuedToken.val) :
    Snapshot [listedPair id lpTokenId] (listedPair id lpTokenId) issuedToken :=
  ⟨List.mem_singleton.2 rfl, List.nodup_singleton _, h⟩

theorem firstDeposit_for (lpTokenId : String) :
    firstDeposit.For (listedPair 1 lpTokenId) issuedToken := by
  refine ⟨rfl, fun token htoken => ?_⟩
  exact (Option.some.inj htoken).symm

theorem zeroSwap_for (lpTokenId : String) :
    zeroSwap.For (listedPair 0 lpTokenId) issuedToken := by
  refine ⟨rfl, fun token htoken => ?_⟩
  cases htoken

/-- The initial deposit does not find its pair in a snapshot from before the token was issued, and a
swap in pair 0 does not find its pair in any. -/
theorem firstDeposit_not_resolved :
    (Snapshot [listedPair 1 ""] (listedPair 1 "") issuedToken ∧
      firstDeposit.For (listedPair 1 "") issuedToken ∧
      ¬ Resolves marketEnv [listedPair 1 ""] (emittedDocument firstDeposit) (listedPair 1 "")) ∧
    (Snapshot [listedPair 0 issuedToken.val] (listedPair 0 issuedToken.val) issuedToken ∧
      zeroSwap.For (listedPair 0 issuedToken.val) issuedToken ∧
      ¬ Resolves marketEnv [listedPair 0 issuedToken.val] (emittedDocument zeroSwap)
        (listedPair 0 issuedToken.val)) := by
  refine ⟨⟨snapshot_listedPair (Or.inl rfl), firstDeposit_for _, ?_⟩,
    ⟨snapshot_listedPair (Or.inr rfl), zeroSwap_for _, ?_⟩⟩
  · rw [initial_resolves_iff binaryUtils_reads sdk_encodesAddresses rfl]
    rintro ⟨htoken, -⟩
    exact absurd htoken (by decide)
  · rw [swap_resolves_iff binaryUtils_reads sdk_encodesAddresses (Or.inl rfl) rfl,
      findPairById_iff binaryUtils_reads (List.mem_singleton.2 rfl) (List.nodup_singleton _)
        zeroSwap.topic_pairId rfl]
    intro hid
    exact hid rfl

theorem resolves_iff_firstDeposit :
    Resolves marketEnv [listedPair 1 issuedToken.val] (emittedDocument firstDeposit)
        (listedPair 1 issuedToken.val) ↔
      FirstWithToken [listedPair 1 issuedToken.val] (listedPair 1 issuedToken.val)
        issuedToken.val :=
  (resolves_iff binaryUtils_reads sdk_encodesAddresses (snapshot_listedPair (Or.inr rfl))
    (firstDeposit_for _) rfl).1

end Market

end DexAdapter.OneDexService
