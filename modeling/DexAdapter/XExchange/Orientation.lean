import DexAdapter.XExchange.Attribution
import DexAdapter.Verify.Contribution

/-!
# Two listings of one pair

The router may list a pair of wrapped EGLD as (WEGLD, X) or as (X, WEGLD). Two runs that differ in
this, and in the order of first and second token in the liquidity events of the pair, have the same
pairs up to the flag `isInverted`, which only the liquidity classes read. `presentation_eq`: they
answer `/pair` alike and convert every event alike, unless X is the wrapped USDC, which
`isPairInverted` excepts (`toPairMetadata_usdc`).
-/

namespace DexAdapter

/-- The same amounts, with first and second token exchanged. -/
def PairAbi.LiquidityEvent.exchanged (e : PairAbi.LiquidityEvent) : PairAbi.LiquidityEvent where
  caller := e.caller
  first_token_id := e.second_token_id
  first_token_amount := e.second_token_amount
  second_token_id := e.first_token_id
  second_token_amount := e.first_token_amount
  lp_token_id := e.lp_token_id
  lp_token_amount := e.lp_token_amount
  lp_supply := e.lp_supply
  first_token_reserves := e.second_token_reserves
  second_token_reserves := e.first_token_reserves
  block := e.block
  epoch := e.epoch
  timestamp := e.timestamp

/-- A run with another cache, router and index of events. -/
def Env.rerun (env : Env) (cached : Option (List PairMetadata))
    (router : Result (Option (List PairContractMetadata)))
    (events : ElasticQuery → Result (List (List ElasticEvent))) : Env :=
  { env with
    cachedPairsMetadata := cached
    getAllPairContractMetadata := router
    elasticService := { env.elasticService with events := events } }

namespace XExchangeService

open Collect

/-- The metadata, cached or not, is that of these entries of the router. -/
def Lists (env : Env) (entries : List PairContractMetadata) : Prop :=
  getPairsMetadata env = .ok (entries.map (toPairMetadata env.apiConfigService))

/-- The router's entry of the pair at `address`, with its tokens exchanged. -/
def relist (address : String) (entry : PairContractMetadata) : PairContractMetadata :=
  if entry.address = address then
    { entry with first_token_id := entry.second_token_id, second_token_id := entry.first_token_id }
  else entry

/-- The documents that `getEvents` decodes. -/
def history (env : Env) (before after : Nat) : Result (List ElasticEvent) := do
  let pairs ← getPairs env
  IndexerService.getEvents env.elasticService before after (pairs.map fun p => p.address)
    (eventNames env)

/-- A document that `decodeRaw` gives to a liquidity class. -/
def IsLiquidity (env : Env) (document : ElasticEvent) : Prop :=
  document.topics.head? ≠ some (swapTopic env) ∧
    (document.topics.head? = some (addLiquidityTopic env) ∨
      document.topics.head? = some (removeLiquidityTopic env))

/-- The same document in both runs, but for first and second token in a liquidity event of the
pair. -/
inductive Exchanged (env : Env) (address : String) : ElasticEvent → ElasticEvent → Prop where
  | same {document : ElasticEvent}
      (hkind : document.address = address → ¬ IsLiquidity env document) :
      Exchanged env address document document
  | liquidity {document : ElasticEvent} {chain : PairAbi.LiquidityEvent} {bytes bytes' : List UInt8}
      (haddress : document.address = address) (hkind : IsLiquidity env document)
      (hencode : chain.encode = some bytes) (hencode' : chain.exchanged.encode = some bytes') :
      Exchanged env address { document with data := some (Bytes.toHex bytes) }
        { document with data := some (Bytes.toHex bytes') }

/-- What the service makes of an event: when it happened, and its conversion. -/
def present (env : Env) (event : Event) : JsNumber × DexEvent :=
  ((general event).timestamp, DataIntegrationService.convert (xExchangeService env) event)

/-! ## Metadata -/

section Metadata

variable {config : ApiConfigService} {address token : String}

theorem toPairMetadata_wegld_first (h : token ≠ config.wrappedUSDCIdentifier) :
    toPairMetadata config
        { first_token_id := config.wrappedEGLDIdentifier
          second_token_id := token
          address := address } =
      { address := address
        firstTokenId := token
        secondTokenId := config.wrappedEGLDIdentifier
        isInverted := true } := by
  simp [toPairMetadata, isPairInverted, h]

theorem toPairMetadata_wegld_second (h : token ≠ config.wrappedEGLDIdentifier) :
    toPairMetadata config
        { first_token_id := token
          second_token_id := config.wrappedEGLDIdentifier
          address := address } =
      { address := address
        firstTokenId := token
        secondTokenId := config.wrappedEGLDIdentifier
        isInverted := false } := by
  simp [toPairMetadata, isPairInverted, h]

/-- With wrapped USDC the pair is presented as the router lists it. -/
theorem toPairMetadata_usdc {entry : PairContractMetadata}
    (hne : config.wrappedUSDCIdentifier ≠ config.wrappedEGLDIdentifier)
    (h : (entry.first_token_id = config.wrappedEGLDIdentifier ∧
        entry.second_token_id = config.wrappedUSDCIdentifier) ∨
      (entry.first_token_id = config.wrappedUSDCIdentifier ∧
        entry.second_token_id = config.wrappedEGLDIdentifier)) :
    toPairMetadata config entry =
      { address := entry.address
        firstTokenId := entry.first_token_id
        secondTokenId := entry.second_token_id
        isInverted := false } := by
  rcases h with ⟨hfirst, hsecond⟩ | ⟨hfirst, hsecond⟩
  · simp [toPairMetadata, isPairInverted, hfirst, hsecond]
  · simp [toPairMetadata, isPairInverted, hfirst, hne]

end Metadata

/-- The flag of the pair at `address` cleared. -/
def upright (address : String) (pair : XExchangePair) : XExchangePair :=
  if pair.address = address then { pair with isInverted := false } else pair

@[simp] theorem address_upright (address : String) (pair : XExchangePair) :
    (upright address pair).address = pair.address := by
  unfold upright
  split <;> rfl

@[simp] theorem firstTokenId_upright (address : String) (pair : XExchangePair) :
    (upright address pair).firstTokenId = pair.firstTokenId := by
  unfold upright
  split <;> rfl

@[simp] theorem secondTokenId_upright (address : String) (pair : XExchangePair) :
    (upright address pair).secondTokenId = pair.secondTokenId := by
  unfold upright
  split <;> rfl

@[simp] theorem firstTokenDecimals_upright (address : String) (pair : XExchangePair) :
    (upright address pair).firstTokenDecimals = pair.firstTokenDecimals := by
  unfold upright
  split <;> rfl

@[simp] theorem secondTokenDecimals_upright (address : String) (pair : XExchangePair) :
    (upright address pair).secondTokenDecimals = pair.secondTokenDecimals := by
  unfold upright
  split <;> rfl

theorem upright_of_ne {address : String} {pair : XExchangePair} (h : pair.address ≠ address) :
    upright address pair = pair :=
  if_neg h

/-! ## Pairs -/

section Pairs

variable {env : Env} {address token : String} {entries : List PairContractMetadata}

/-- The router lists the pair at `address` as (WEGLD, X). -/
def ListsWegldFirst (env : Env) (address token : String) (entries : List PairContractMetadata) :
    Prop :=
  ∀ entry ∈ entries, entry.address = address →
    entry.first_token_id = env.apiConfigService.wrappedEGLDIdentifier ∧
      entry.second_token_id = token

theorem withDecimals_upright {metadata metadata' : PairMetadata}
    (hfirst : metadata'.firstTokenId = metadata.firstTokenId)
    (hsecond : metadata'.secondTokenId = metadata.secondTokenId)
    (h : ∀ a b,
      ({ metadata' with firstTokenDecimals := a, secondTokenDecimals := b } : XExchangePair) =
        upright address
          { metadata with firstTokenDecimals := a, secondTokenDecimals := b }) :
    withDecimals env metadata' =
      (withDecimals env metadata).map (Option.map (upright address)) := by
  simp only [withDecimals, map_bind, hfirst, hsecond]
  congr 1
  funext first
  congr 1
  funext second
  cases first with
  | none => rfl
  | some first =>
    cases second with
    | none => rfl
    | some second => exact congrArg (fun pair => Except.ok (some pair)) (h _ _)

/-- Exchanging the tokens of the entry clears the flag of its pair. -/
theorem withDecimals_relist (hwegld : token ≠ env.apiConfigService.wrappedEGLDIdentifier)
    (husdc : token ≠ env.apiConfigService.wrappedUSDCIdentifier) {entry : PairContractMetadata}
    (hentry : entry.address = address →
      entry.first_token_id = env.apiConfigService.wrappedEGLDIdentifier ∧
        entry.second_token_id = token) :
    withDecimals env (toPairMetadata env.apiConfigService (relist address entry)) =
      (withDecimals env (toPairMetadata env.apiConfigService entry)).map
        (Option.map (upright address)) := by
  by_cases haddress : entry.address = address
  · obtain ⟨hfirst, hsecond⟩ := hentry haddress
    have hold : toPairMetadata env.apiConfigService entry =
        ⟨address, token, env.apiConfigService.wrappedEGLDIdentifier, true⟩ := by
      rw [← toPairMetadata_wegld_first husdc, ← haddress, ← hfirst, ← hsecond]
    have hnew : toPairMetadata env.apiConfigService (relist address entry) =
        ⟨address, token, env.apiConfigService.wrappedEGLDIdentifier, false⟩ := by
      rw [← toPairMetadata_wegld_second hwegld, relist, if_pos haddress, hfirst, hsecond, haddress]
    rw [hold, hnew]
    refine withDecimals_upright ?_ ?_ fun a b => ?_
    · rfl
    · rfl
    · rw [upright, if_pos rfl]
  · rw [relist, if_neg haddress]
    refine withDecimals_upright ?_ ?_ fun a b => ?_
    · rfl
    · rfl
    · exact (upright_of_ne haddress).symm

variable {cached : Option (List PairMetadata)}
  {router : Result (Option (List PairContractMetadata))}
  {events : ElasticQuery → Result (List (List ElasticEvent))}

theorem getPairs_relist (hwegld : token ≠ env.apiConfigService.wrappedEGLDIdentifier)
    (husdc : token ≠ env.apiConfigService.wrappedUSDCIdentifier)
    (hentries : ListsWegldFirst env address token entries) (hlists : Lists env entries)
    (hlists' : Lists (env.rerun cached router events) (entries.map (relist address))) :
    getPairs (env.rerun cached router events) =
      (getPairs env).map (List.map (upright address)) := by
  rw [getPairs, hlists', ok_bind, getPairs, hlists, ok_bind, map_collect, List.map_map,
    collect_map, collect_map]
  apply collect_congr
  intro entry hentry
  exact withDecimals_relist hwegld husdc (hentries entry hentry)

/-- The pair that the router lists as (WEGLD, X) is inverted. -/
theorem isInverted_of_mem (husdc : token ≠ env.apiConfigService.wrappedUSDCIdentifier)
    (hentries : ListsWegldFirst env address token entries) (hlists : Lists env entries)
    {pairs : List XExchangePair} (hpairs : getPairs env = .ok pairs) {pair : XExchangePair}
    (hpair : pair ∈ pairs) (haddress : pair.address = address) : pair.isInverted = true := by
  rw [getPairs, hlists, ok_bind, collect_map] at hpairs
  obtain ⟨-, rfl⟩ := collect_eq_ok_iff.1 hpairs
  obtain ⟨entry, hentry, hpushed⟩ := List.mem_filterMap.1 hpair
  obtain ⟨first, second, -, -, rfl⟩ := withDecimals_eq_some.1 (pushed_eq_some_iff.1 hpushed)
  obtain ⟨hfirst, hsecond⟩ := hentries entry hentry haddress
  simp [toPairMetadata, isPairInverted, hfirst, hsecond, husdc]

end Pairs

/-! ## Events -/

section Events

variable {env : Env} {address : String} {pair : XExchangePair}

/-- A swap class reads of its pair only the flag that no conversion reads. -/
theorem present_swap_upright (event : XExchangeSwapEvent) :
    present env (.swap { event with pair := upright address event.pair }) =
      present env (.swap event) := by
  simp only [present, DataIntegrationService.convert, fromSwapEvent, firstTokenId_upright,
    firstTokenDecimals_upright, secondTokenDecimals_upright]
  rfl

theorem new_swapEvent_upright {document : ElasticEvent} :
    (XExchangeSwapEvent.new env.sdk document (upright address pair)).map
        (fun event => present env (.swap event)) =
      (XExchangeSwapEvent.new env.sdk document pair).map
        (fun event => present env (.swap event)) := by
  have hnew : XExchangeSwapEvent.new env.sdk document (upright address pair) =
      (XExchangeSwapEvent.new env.sdk document pair).map
        (fun event => { event with pair := upright address pair }) := by
    simp only [XExchangeSwapEvent.new, map_bind]
    rfl
  rw [hnew]
  cases h : XExchangeSwapEvent.new env.sdk document pair with
  | error e => rfl
  | ok event =>
    obtain ⟨-, -, -, -, hpair⟩ := XExchangeSwapEvent.of_new h
    subst hpair
    exact congrArg Except.ok (present_swap_upright event)

/-- Two deposits or withdrawals with the same keys and amounts are presented alike. -/
theorem present_liquidity_congr {a b : XExchangeLiquidityEvent}
    (htype : a.type = b.type) (haddress : a.address = b.address)
    (htimestamp : a.timestamp = b.timestamp)
    (htxHash : a.txHash = b.txHash) (htxOrder : a.txOrder = b.txOrder)
    (heventOrder : a.eventOrder = b.eventOrder) (hcaller : a.caller = b.caller)
    (hfirst : a.pair.firstTokenDecimals = b.pair.firstTokenDecimals)
    (hsecond : a.pair.secondTokenDecimals = b.pair.secondTokenDecimals)
    (hamount0 : a.firstTokenAmount = b.firstTokenAmount)
    (hamount1 : a.secondTokenAmount = b.secondTokenAmount)
    (hreserve0 : a.firstTokenReserves = b.firstTokenReserves)
    (hreserve1 : a.secondTokenReserves = b.secondTokenReserves) :
    present env (.liquidity a) = present env (.liquidity b) := by
  simp only [present, DataIntegrationService.convert, fromAddRemoveLiquidityEvent, general,
    htype, haddress, htimestamp, htxHash, htxOrder, heventOrder, hcaller, hfirst, hsecond,
    hamount0, hamount1, hreserve0, hreserve1]

variable (hcodec : env.sdk.codec.ReadsNested)

include hcodec

/-- The exchange of the tokens in the event and the flag of the pair cancel out. -/
theorem newSubclass_exchanged {document : ElasticEvent} {chain : PairAbi.LiquidityEvent}
    {bytes bytes' : List UInt8} (hencode : chain.encode = some bytes)
    (hencode' : chain.exchanged.encode = some bytes') (eventType : EventType)
    (haddress : pair.address = address) (hinverted : pair.isInverted = true) :
    (XExchangeLiquidityEvent.newSubclass env.sdk
        { document with data := some (Bytes.toHex bytes') } (upright address pair) eventType).map
        (fun event => present env (.liquidity event)) =
      (XExchangeLiquidityEvent.newSubclass env.sdk
        { document with data := some (Bytes.toHex bytes) } pair eventType).map
        (fun event => present env (.liquidity event)) := by
  have hupright : (upright address pair).isInverted = false := by
    rw [upright, if_pos haddress]
  have hdata : ({ document with data := some (Bytes.toHex bytes') } : ElasticEvent).data = _ := rfl
  have hdata' : ({ document with data := some (Bytes.toHex bytes) } : ElasticEvent).data = _ := rfl
  obtain ⟨a, ha, hgeneral, hcaller, hpair, h0, h1, h2, h3⟩ :=
    new_liquidityEvent (decodeEvent_eq hcodec hdata hencode') (upright address pair) eventType
  obtain ⟨b, hb, hgeneral', hcaller', hpair', h0', h1', h2', h3'⟩ :=
    new_liquidityEvent (decodeEvent_eq hcodec hdata' hencode) pair eventType
  obtain ⟨hhash, horder, heventOrder, -, -⟩ := XExchangeLiquidityEvent.of_newSubclass ha
  obtain ⟨hhash', horder', heventOrder', -, -⟩ := XExchangeLiquidityEvent.of_newSubclass hb
  rw [hupright] at h0 h1 h2 h3
  rw [hinverted] at h0' h1' h2' h3'
  rw [ha, hb]
  apply congrArg Except.ok
  apply present_liquidity_congr
  · rw [hgeneral, hgeneral']
    rfl
  · rw [hgeneral, hgeneral']
    rfl
  · rw [hgeneral, hgeneral']
    rfl
  · exact hhash.trans hhash'.symm
  · exact horder.trans horder'.symm
  · exact heventOrder.trans heventOrder'.symm
  · exact hcaller.trans hcaller'.symm
  · rw [hpair, hpair', firstTokenDecimals_upright]
  · rw [hpair, hpair', secondTokenDecimals_upright]
  · exact h0.trans h0'.symm
  · exact h1.trans h1'.symm
  · exact h2.trans h2'.symm
  · exact h3.trans h3'.symm

end Events

/-! ## Decoding -/

section Decoding

variable {env : Env} {address : String} {pairs : List XExchangePair}

theorem find?_upright (address' : String) :
    (pairs.map (upright address)).find? (fun p => p.address == address') =
      (pairs.find? fun p => p.address == address').map (upright address) := by
  rw [List.find?_map]
  simp only [Function.comp_def, address_upright]

theorem map_push {α β γ : Type} (x : Result α) (f : α → β) (g : β → γ) :
    (x >>= fun a => pure (some (f a))).map (Option.map g) = (x.map fun a => g (f a)).map some := by
  cases x <;> rfl

theorem decodeRaw_of_isLiquidity {document : ElasticEvent} {pair : XExchangePair}
    (hfind : pairs.find? (fun p => p.address == document.address) = some pair)
    (h : IsLiquidity env document) :
    decodeRaw env pairs document =
      (XExchangeLiquidityEvent.newSubclass env.sdk document pair
        (if document.topics.head? = some (addLiquidityTopic env) then .addLiquidity
        else .removeLiquidity) >>= fun event => pure (some (.liquidity event))) := by
  obtain ⟨hswap, hkind⟩ := h
  rw [decodeRaw, hfind]
  simp only [if_neg hswap]
  by_cases hadd : document.topics.head? = some (addLiquidityTopic env)
  · rw [if_pos hadd, if_pos hadd]
    rfl
  · rw [if_neg hadd, if_neg hadd, if_pos (hkind.resolve_left hadd)]
    rfl

/-- A document of the pair that no liquidity class gets is a swap, or is skipped. -/
theorem decodeRaw_upright {document : ElasticEvent}
    (hkind : document.address = address → ¬ IsLiquidity env document) :
    (decodeRaw env (pairs.map (upright address)) document).map (Option.map (present env)) =
      (decodeRaw env pairs document).map (Option.map (present env)) := by
  rw [decodeRaw, decodeRaw, find?_upright]
  cases hfind : pairs.find? fun p => p.address == document.address with
  | none => rfl
  | some pair =>
    have hfound := List.find?_some hfind
    have hpair : pair.address = document.address := beq_iff_eq.1 hfound
    by_cases haddress : document.address = address
    · by_cases hswap : document.topics.head? = some (swapTopic env)
      · simp only [Option.map_some, if_pos hswap, map_push]
        rw [new_swapEvent_upright]
      · have hadd : ¬ document.topics.head? = some (addLiquidityTopic env) := fun h =>
          hkind haddress ⟨hswap, Or.inl h⟩
        have hremove : ¬ document.topics.head? = some (removeLiquidityTopic env) := fun h =>
          hkind haddress ⟨hswap, Or.inr h⟩
        simp only [Option.map_some, if_neg hswap, if_neg hadd, if_neg hremove]
    · rw [Option.map_some, upright_of_ne (by rwa [hpair])]

/-- One document of the history. -/
theorem decodeRaw_exchanged (hcodec : env.sdk.codec.ReadsNested)
    (hinverted : ∀ pair ∈ pairs, pair.address = address → pair.isInverted = true)
    {document document' : ElasticEvent} (h : Exchanged env address document document') :
    (decodeRaw env (pairs.map (upright address)) document').map (Option.map (present env)) =
      (decodeRaw env pairs document).map (Option.map (present env)) := by
  cases h with
  | same hkind => exact decodeRaw_upright hkind
  | @liquidity document chain bytes bytes' haddress hkind hencode hencode' =>
    have hupright : (pairs.map (upright address)).find?
        (fun p => p.address == document.address) = _ := find?_upright document.address
    cases hfind : pairs.find? fun p => p.address == document.address with
    | none =>
      rw [hfind] at hupright
      rw [decodeRaw, decodeRaw, hupright, hfind]
      rfl
    | some pair =>
      rw [hfind] at hupright
      have hfound := List.find?_some hfind
      have hpair : pair.address = address := (beq_iff_eq.1 hfound).trans haddress
      have hleft : decodeRaw env (pairs.map (upright address))
          { document with data := some (Bytes.toHex bytes') } = _ :=
        decodeRaw_of_isLiquidity hupright hkind
      have hright : decodeRaw env pairs { document with data := some (Bytes.toHex bytes) } = _ :=
        decodeRaw_of_isLiquidity hfind hkind
      rw [hleft, hright, map_push, map_push]
      congr 1
      exact newSubclass_exchanged hcodec hencode hencode' _ hpair
        (hinverted pair (List.mem_of_find?_eq_some hfind) hpair)

end Decoding

/-! ## Two runs -/

section Runs

variable {env : Env} {address token : String} {entries : List PairContractMetadata}
  {cached : Option (List PairMetadata)} {router : Result (Option (List PairContractMetadata))}
  {events : ElasticQuery → Result (List (List ElasticEvent))}

/-- Conversion and decoding read the packages of the run only. -/
theorem present_rerun : present (env.rerun cached router events) = present env := by
  funext event
  cases event <;> rfl

theorem decodeRaw_rerun (pairs : List XExchangePair) (document : ElasticEvent) :
    decodeRaw (env.rerun cached router events) pairs document = decodeRaw env pairs document :=
  rfl

theorem getEvents_of_history {before after : Nat} {documents : List ElasticEvent}
    (h : history env before after = .ok documents) :
    ∃ pairs, getPairs env = .ok pairs ∧
      getEvents env before after = collect (decodeRaw env pairs) documents := by
  obtain ⟨pairs, hpairs, hdocuments⟩ := bind_eq_ok.1 h
  refine ⟨pairs, hpairs, ?_⟩
  rw [getEvents, hpairs, ok_bind]
  dsimp only
  rw [hdocuments, ok_bind]

theorem getPair_upright
    (hpairs : getPairs (env.rerun cached router events) =
      (getPairs env).map (List.map (upright address))) (identifier : String) :
    getPair (env.rerun cached router events) identifier = getPair env identifier := by
  rw [getPair, getPair, hpairs]
  cases getPairs env with
  | error e => rfl
  | ok pairs =>
    simp only [Except.map, ok_bind, find?_upright]
    cases pairs.find? fun p => p.address == identifier with
    | none => rfl
    | some pair =>
      simp only [Option.map_some, fromCustomPair, address_upright, firstTokenId_upright,
        secondTokenId_upright]
      rfl

variable (env) in
/-- **The presentation of a WEGLD pair**: for every token but the two that the code names, a run
where the router lists the pair as (X, WEGLD), with the tokens exchanged in its liquidity events,
answers `/pair` and converts every event of the history as the run with (WEGLD, X) does. -/
theorem presentation_eq (hcodec : env.sdk.codec.ReadsNested)
    (hwegld : token ≠ env.apiConfigService.wrappedEGLDIdentifier)
    (husdc : token ≠ env.apiConfigService.wrappedUSDCIdentifier)
    (hentries : ListsWegldFirst env address token entries) (hlists : Lists env entries)
    (hlists' : Lists (env.rerun cached router events) (entries.map (relist address))) :
    (∀ identifier, getPair (env.rerun cached router events) identifier = getPair env identifier) ∧
    ∀ (before after : Nat) (documents documents' : List ElasticEvent),
      history env before after = .ok documents →
      history (env.rerun cached router events) before after = .ok documents' →
      List.Forall₂ (Exchanged env address) documents documents' →
      (getEvents (env.rerun cached router events) before after).map
          (List.map (present (env.rerun cached router events))) =
        (getEvents env before after).map (List.map (present env)) := by
  have hpairs' := getPairs_relist hwegld husdc hentries hlists hlists'
  refine ⟨getPair_upright hpairs', ?_⟩
  intro before after documents documents' hhistory hhistory' hdocuments
  obtain ⟨pairs, hpairs, hevents⟩ := getEvents_of_history hhistory
  obtain ⟨_, hupright, hevents'⟩ := getEvents_of_history hhistory'
  rw [hpairs', hpairs] at hupright
  obtain rfl := Except.ok.inj hupright
  rw [hevents, hevents', map_collect, map_collect]
  symm
  apply collect_forall₂ hdocuments
  intro document document' hexchanged
  rw [present_rerun, decodeRaw_rerun]
  exact (decodeRaw_exchanged hcodec (fun _ => isInverted_of_mem husdc hentries hlists hpairs)
    hexchanged).symm

end Runs

section Market

open Reference

/-- A run where the router lists this entry and the index holds this document. -/
def listedRun (entry : PairContractMetadata) (document : ElasticEvent) : Env :=
  marketEnv.rerun none (.ok (some [entry])) fun _ => .ok [[document]]

/-- A deposit of 1 WEGLD and 500 MEX. -/
def deposit : PairAbi.LiquidityEvent where
  caller := userKey 1
  first_token_id := "WEGLD-bd4d79"
  first_token_amount := 10 ^ 18
  second_token_id := "MEX-455c57"
  second_token_amount := 500 * 10 ^ 18
  lp_token_id := "EGLDMEX-0be9e5"
  lp_token_amount := 10 ^ 18
  lp_supply := 1000 * 10 ^ 18
  first_token_reserves := 1000 * 10 ^ 18
  second_token_reserves := 500000 * 10 ^ 18
  block := 7
  epoch := 1
  timestamp := 6000

def depositDocument (data : Option String) : ElasticEvent :=
  Reference.document
    { timestamp := 6000, txHash := "aa", originalTxHash := none, txOrder := 0, order := 0,
      shardId := 1 }
    "addLiquidity" routerEntry.address [SwapAbi.topicOfText "add_liquidity"] data

section

variable {entry : PairContractMetadata} {document : ElasticEvent} {pair : XExchangePair}
  (hpair : withDecimals marketEnv (toPairMetadata config entry) = .ok (some pair))

include hpair

theorem getPairs_listedRun : getPairs (listedRun entry document) = .ok [pair] := by
  show collect (withDecimals marketEnv) [toPairMetadata config entry] = _
  rw [collect, hpair]
  rfl

theorem history_listedRun
    (hsearched : IndexerService.isSearched [pair.address] (eventNames marketEnv) document = true) :
    history (listedRun entry document) 6000 6000 = .ok [document] := by
  rw [history, getPairs_listedRun hpair, ok_bind]
  exact congrArg Except.ok (List.filter_cons_of_pos hsearched)

theorem getPair_listedRun (haddress : pair.address = entry.address) :
    ∃ response, getPair (listedRun entry document) entry.address = .ok (some response) ∧
      response.asset0Id = pair.firstTokenId ∧ response.asset1Id = pair.secondTokenId := by
  have hfind : [pair].find? (fun p => p.address == entry.address) = some pair :=
    List.find?_cons_of_pos (beq_iff_eq.2 haddress)
  obtain ⟨response, hresponse, hdescribes⟩ :=
    getPair_of_found (getPairs_listedRun hpair) hfind ⟨_, rfl⟩
  exact ⟨response, hresponse, hdescribes.asset0Id, hdescribes.asset1Id⟩

end

/-- The pair that the adapter makes of an entry with these decimals. -/
def listedPair (entry : PairContractMetadata) (decimals0 decimals1 : Nat) : XExchangePair :=
  { toPairMetadata config entry with
    firstTokenDecimals := decimals0
    secondTokenDecimals := decimals1 }

/-- The entry with the tokens of `usdcEntry` exchanged. -/
def usdcFirst : PairContractMetadata where
  first_token_id := "USDC-c76f1f"
  second_token_id := "WEGLD-bd4d79"
  address := usdcEntry.address

/-- The listings (WEGLD, USDC) and (USDC, WEGLD) are presented with different assets. -/
theorem usdc_listings_differ :
    relist usdcEntry.address usdcEntry = usdcFirst ∧
    ∃ response response',
      getPair (listedRun usdcEntry (depositDocument none)) usdcEntry.address =
        .ok (some response) ∧
      getPair (listedRun usdcFirst (depositDocument none)) usdcEntry.address =
        .ok (some response') ∧
      response.asset0Id = "WEGLD-bd4d79" ∧ response'.asset0Id = "USDC-c76f1f" := by
  have hpair : withDecimals marketEnv (toPairMetadata config usdcEntry) =
      .ok (some (listedPair usdcEntry 18 6)) :=
    withDecimals_eq_some.2 ⟨token "WEGLD-bd4d79" 18, token "USDC-c76f1f" 6, by decide +kernel,
      by decide +kernel, rfl⟩
  have hpair' : withDecimals marketEnv (toPairMetadata config usdcFirst) =
      .ok (some (listedPair usdcFirst 6 18)) :=
    withDecimals_eq_some.2 ⟨token "USDC-c76f1f" 6, token "WEGLD-bd4d79" 18, by decide +kernel,
      by decide +kernel, rfl⟩
  obtain ⟨response, hresponse, hasset0, -⟩ := getPair_listedRun hpair rfl
  obtain ⟨response', hresponse', hasset0', -⟩ := getPair_listedRun hpair' rfl
  have hne : config.wrappedUSDCIdentifier ≠ config.wrappedEGLDIdentifier := by decide
  have hfirst : (listedPair usdcEntry 18 6).firstTokenId = "WEGLD-bd4d79" :=
    congrArg PairMetadata.firstTokenId (toPairMetadata_usdc hne (Or.inl ⟨rfl, rfl⟩))
  have hfirst' : (listedPair usdcFirst 6 18).firstTokenId = "USDC-c76f1f" :=
    congrArg PairMetadata.firstTokenId (toPairMetadata_usdc hne (Or.inr ⟨rfl, rfl⟩))
  exact ⟨if_pos rfl, response, response', hresponse, hresponse', hasset0.trans hfirst,
    hasset0'.trans hfirst'⟩

/-- The entry with the tokens of `routerEntry` exchanged. -/
def mexFirst : PairContractMetadata where
  first_token_id := "MEX-455c57"
  second_token_id := "WEGLD-bd4d79"
  address := routerEntry.address

theorem rerun_listedRun (entry entry' : PairContractMetadata) (document document' : ElasticEvent) :
    (listedRun entry document).rerun none (.ok (some [entry'])) (fun _ => .ok [[document']]) =
      listedRun entry' document' :=
  rfl

theorem present_listedRun (entry : PairContractMetadata) (document : ElasticEvent) :
    present (listedRun entry document) = present marketEnv :=
  present_rerun

theorem isSearched_depositDocument (data : Option String) :
    IndexerService.isSearched [routerEntry.address] (eventNames marketEnv)
      (depositDocument data) = true := by
  have h : IndexerService.isSearched [routerEntry.address] (eventNames marketEnv)
      (depositDocument none) = true := by decide +kernel
  exact h

theorem isLiquidity_depositDocument (data : Option String) :
    IsLiquidity marketEnv (depositDocument data) := by
  have hswap : (depositDocument none).topics.head? ≠ some (swapTopic marketEnv) := by
    decide +kernel
  have hadd : (depositDocument none).topics.head? = some (addLiquidityTopic marketEnv) := by
    decide +kernel
  exact ⟨hswap, Or.inl hadd⟩

theorem presentation_eq_deposit :
    ∃ bytes bytes', deposit.encode = some bytes ∧ deposit.exchanged.encode = some bytes' ∧
      (getEvents (listedRun mexFirst (depositDocument (some (Bytes.toHex bytes')))) 6000 6000).map
          (List.map (present marketEnv)) =
        (getEvents (listedRun routerEntry (depositDocument (some (Bytes.toHex bytes))))
          6000 6000).map (List.map (present marketEnv)) := by
  obtain ⟨bytes, hencode⟩ : ∃ bytes, deposit.encode = some bytes :=
    Option.isSome_iff_exists.1 (by decide +kernel)
  obtain ⟨bytes', hencode'⟩ : ∃ bytes, deposit.exchanged.encode = some bytes :=
    Option.isSome_iff_exists.1 (by decide +kernel)
  have hwegld : "MEX-455c57" ≠ config.wrappedEGLDIdentifier := by decide
  have husdc : "MEX-455c57" ≠ config.wrappedUSDCIdentifier := by decide
  have hrerun := rerun_listedRun routerEntry mexFirst
    (depositDocument (some (Bytes.toHex bytes))) (depositDocument (some (Bytes.toHex bytes')))
  have hentries : ListsWegldFirst
      (listedRun routerEntry (depositDocument (some (Bytes.toHex bytes)))) routerEntry.address
      "MEX-455c57" [routerEntry] := by
    intro entry hentry _
    obtain rfl := List.mem_singleton.1 hentry
    exact ⟨rfl, rfl⟩
  have hlists : Lists (listedRun routerEntry (depositDocument (some (Bytes.toHex bytes))))
      [routerEntry] := rfl
  have hrelist : [routerEntry].map (relist routerEntry.address) = [mexFirst] :=
    congrArg (fun entry => [entry]) (if_pos rfl)
  have hlists' : Lists (listedRun mexFirst (depositDocument (some (Bytes.toHex bytes'))))
      ([routerEntry].map (relist routerEntry.address)) := by
    rw [hrelist]
    rfl
  have hpair : withDecimals marketEnv (toPairMetadata config routerEntry) =
      .ok (some (listedPair routerEntry 18 18)) := withDecimals_routerEntry
  have hpair' : withDecimals marketEnv (toPairMetadata config mexFirst) =
      .ok (some (listedPair mexFirst 18 18)) :=
    withDecimals_eq_some.2 ⟨token "MEX-455c57" 18, token "WEGLD-bd4d79" 18, by decide +kernel,
      by decide +kernel, rfl⟩
  rw [← hrerun] at hlists'
  obtain ⟨-, hevents⟩ :=
    presentation_eq (listedRun routerEntry (depositDocument (some (Bytes.toHex bytes))))
      codec_readsNested hwegld husdc hentries hlists hlists'
  have hkind : IsLiquidity (listedRun routerEntry (depositDocument (some (Bytes.toHex bytes))))
      (depositDocument none) := isLiquidity_depositDocument none
  have hexchanged : Exchanged (listedRun routerEntry (depositDocument (some (Bytes.toHex bytes))))
      routerEntry.address (depositDocument (some (Bytes.toHex bytes)))
      (depositDocument (some (Bytes.toHex bytes'))) := by
    have h := Exchanged.liquidity rfl hkind hencode hencode'
    exact h
  rw [hrerun, present_listedRun, present_listedRun] at hevents
  exact ⟨bytes, bytes', hencode, hencode', hevents 6000 6000 _ _
    (history_listedRun hpair (isSearched_depositDocument _))
    (history_listedRun hpair' (isSearched_depositDocument _)) (.cons hexchanged .nil)⟩

end Market

end XExchangeService

end DexAdapter
