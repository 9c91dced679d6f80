import DexAdapter.Verify.Prices

/-!
# Documents that a class cannot decode

A document of xExchange has its fields one after the other in `data`, a document of OneDex has one
in each topic. It is `Undecodable` when its data is absent or ends before its fields do, or when
topics are missing. What becomes of it is a matter of its fields: its class throws unless these are
`Readable` (`Snapshot.constructs_iff_readable`), and an undecodable document that is readable is
reported when it is `Misread`, with zero or a shorter number for what is missing
(`Lookups.reported_iff_misread`).
-/

namespace DexAdapter

open Collect DataIntegrationService

/-! ## xExchange -/

namespace XExchangeService

/-- The struct that the class of the document decodes. -/
def structOf (env : Env) (e : ElasticEvent) : StructType :=
  if e.topics.head? = some (swapTopic env) then XExchangeSwapEvent.getStructure
  else XExchangeLiquidityEvent.getStructure

/-- The data of the document, cut into the fields of the struct, has these values. -/
def HasFields (e : ElasticEvent) (struct : StructType) (values : List Nested.FieldValue) : Prop :=
  ∃ data, e.data = some data ∧
    Nested.sliceAll (struct.map Prod.snd) (Bytes.ofHex data) = some values

/-- The reserves of a decoded swap by the assets of its pair. -/
def swapReserves (pair : XExchangePair) (chain : PairAbi.SwapEvent) : Side → Nat :=
  if pair.firstTokenId == chain.token_id_in then
    Side.pick chain.token_in_reserve chain.token_out_reserve
  else Side.pick chain.token_out_reserve chain.token_in_reserve

section Fields

variable {sdk : Sdk} {e : ElasticEvent} {pair : XExchangePair}

theorem HasFields.exists_swap {values : List Nested.FieldValue}
    (h : HasFields e XExchangeSwapEvent.getStructure values) :
    ∃ chain : PairAbi.SwapEvent, values = chain.values := by
  obtain ⟨data, -, hslices⟩ := h
  exact PairAbi.SwapEvent.exists_of_hasTypes (Nested.hasTypes_of_sliceAll hslices)

theorem HasFields.exists_liquidity {values : List Nested.FieldValue}
    (h : HasFields e XExchangeLiquidityEvent.getStructure values) :
    ∃ chain : PairAbi.LiquidityEvent, values = chain.values := by
  obtain ⟨data, -, hslices⟩ := h
  exact PairAbi.LiquidityEvent.exists_of_hasTypes (Nested.hasTypes_of_sliceAll hslices)

variable (hcodec : sdk.codec.SlicesNested)

include hcodec

theorem HasFields.decodeEvent_eq {struct : StructType} {values : List Nested.FieldValue}
    (h : HasFields e struct values) :
    decodeEvent sdk e.data struct = .ok ((struct.map Prod.fst).zip values) := by
  obtain ⟨data, hdata, hslices⟩ := h
  rw [hdata]
  exact hcodec.reads struct values _ hslices

theorem exists_hasFields {struct : StructType} {decoded : DecodedStruct}
    (h : decodeEvent sdk e.data struct = .ok decoded) : ∃ values, HasFields e struct values := by
  cases hdata : e.data with
  | none =>
    rw [hdata] at h
    cases h
  | some data =>
    rw [hdata] at h
    cases hslices : Nested.sliceAll (struct.map Prod.snd) (Bytes.ofHex data) with
    | none =>
      obtain ⟨error, herror⟩ := hcodec.throws struct _ hslices
      cases h.symm.trans herror
    | some values => exact ⟨values, data, hdata, hslices⟩

theorem succeeds_swapEvent : Succeeds (XExchangeSwapEvent.new sdk e pair) ↔
    ∃ values, HasFields e XExchangeSwapEvent.getStructure values := by
  constructor
  · rintro ⟨event, hnew⟩
    obtain ⟨decoded, hdecode, -⟩ := bind_eq_ok.1 hnew
    exact exists_hasFields hcodec hdecode
  · rintro ⟨values, hfields⟩
    obtain ⟨chain, rfl⟩ := hfields.exists_swap
    obtain ⟨event, hnew, -⟩ := new_swapEvent (hfields.decodeEvent_eq hcodec) pair
    exact ⟨event, hnew⟩

theorem succeeds_liquidityEvent {eventType : EventType} :
    Succeeds (XExchangeLiquidityEvent.newSubclass sdk e pair eventType) ↔
      ∃ values, HasFields e XExchangeLiquidityEvent.getStructure values := by
  constructor
  · rintro ⟨event, hnew⟩
    obtain ⟨_, hnew, -⟩ := bind_eq_ok.1 hnew
    obtain ⟨decoded, hdecode, -⟩ := bind_eq_ok.1 hnew
    exact exists_hasFields hcodec hdecode
  · rintro ⟨values, hfields⟩
    obtain ⟨chain, rfl⟩ := hfields.exists_liquidity
    obtain ⟨event, hnew, -⟩ := new_liquidityEvent (hfields.decodeEvent_eq hcodec) pair eventType
    exact ⟨event, hnew⟩

end Fields

section Decode

variable {env : Env} {pairs : List XExchangePair} {e : ElasticEvent} {pair : XExchangePair}
  (hpair : pairs.find? (fun p => p.address == e.address) = some pair)

include hpair

theorem decodeRaw_swap (hswap : e.topics.head? = some (swapTopic env)) :
    decodeRaw env pairs e =
      XExchangeSwapEvent.new env.sdk e pair >>= fun event => pure (some (.swap event)) := by
  simp only [decodeRaw, hpair, hswap, if_true]

theorem decodeRaw_liquidity (hswap : e.topics.head? ≠ some (swapTopic env))
    (htopic : ∃ topic ∈ eventNames env, e.topics.head? = some topic) :
    ∃ eventType, decodeRaw env pairs e =
      XExchangeLiquidityEvent.newSubclass env.sdk e pair eventType >>= fun event =>
        pure (some (.liquidity event)) := by
  simp only [decodeRaw, hpair, if_neg hswap]
  by_cases hadd : e.topics.head? = some (addLiquidityTopic env)
  · exact ⟨.addLiquidity, by rw [if_pos hadd]; rfl⟩
  · obtain ⟨topic, hmem, htopic⟩ := htopic
    have hremove : e.topics.head? = some (removeLiquidityTopic env) := by
      simp only [eventNames, List.mem_cons, List.not_mem_nil, or_false] at hmem
      rcases hmem with rfl | rfl | rfl
      · exact absurd htopic hswap
      · exact absurd htopic hadd
      · exact htopic
    exact ⟨.removeLiquidity, by rw [if_neg hadd, if_pos hremove]; rfl⟩

theorem succeeds_decodeRaw (hcodec : env.sdk.codec.SlicesNested)
    (htopic : ∃ topic ∈ eventNames env, e.topics.head? = some topic) :
    Succeeds (decodeRaw env pairs e) ↔ ∃ values, HasFields e (structOf env e) values := by
  by_cases hswap : e.topics.head? = some (swapTopic env)
  · rw [decodeRaw_swap hpair hswap, structOf, if_pos hswap, succeeds_bind_pure]
    exact succeeds_swapEvent hcodec
  · obtain ⟨eventType, hdecode⟩ := decodeRaw_liquidity hpair hswap htopic
    rw [hdecode, structOf, if_neg hswap, succeeds_bind_pure]
    exact succeeds_liquidityEvent hcodec

/-- The swap of a document with these fields. -/
theorem decodeRaw_eq_swap (hcodec : env.sdk.codec.SlicesNested) {rat}
    (hB : env.sdk.bigNumber.Exact rat) (hswap : e.topics.head? = some (swapTopic env))
    {chain : PairAbi.SwapEvent}
    (hfields : HasFields e XExchangeSwapEvent.getStructure chain.values) :
    ∃ event, decodeRaw env pairs e = .ok (some (.swap event)) ∧
      event.timestamp = numberOfNat env.sdk chain.timestamp ∧ event.pair = pair ∧
      Reads event.reserves (swapReserves pair chain) := by
  obtain ⟨event, hnew, hgeneral, -, hpair', hin, -, -, hreserveIn, hreserveOut⟩ :=
    new_swapEvent (hfields.decodeEvent_eq hcodec) pair
  refine ⟨event, ?_, by rw [hgeneral]; rfl, hpair', fun side => ?_⟩
  · rw [decodeRaw_swap hpair hswap, hnew]
    rfl
  · rw [XExchangeSwapEvent.reserves, reserveTexts, swapReserves, hpair', hin, hreserveIn,
      hreserveOut]
    split <;> cases side <;> exact value_fixedOfNat hB _

theorem decodeRaw_eq_liquidity (hcodec : env.sdk.codec.SlicesNested)
    (hswap : e.topics.head? ≠ some (swapTopic env))
    (htopic : ∃ topic ∈ eventNames env, e.topics.head? = some topic)
    {chain : PairAbi.LiquidityEvent}
    (hfields : HasFields e XExchangeLiquidityEvent.getStructure chain.values) :
    ∃ event, decodeRaw env pairs e = .ok (some (.liquidity event)) ∧
      event.timestamp = numberOfNat env.sdk chain.timestamp := by
  obtain ⟨eventType, hdecode⟩ := decodeRaw_liquidity hpair hswap htopic
  obtain ⟨event, hnew, hgeneral, -⟩ :=
    new_liquidityEvent (hfields.decodeEvent_eq hcodec) pair eventType
  refine ⟨event, ?_, by rw [hgeneral]; rfl⟩
  rw [hdecode, hnew]
  rfl

end Decode

end XExchangeService

/-! ## OneDex -/

namespace OneDexService

/-- The positions that a class decodes, and how many topics a document has when none of the topics
that the class reads is missing. -/
structure TopicLayout where
  texts : List Nat
  numbers : List Nat
  count : Nat

def swapLayout : TopicLayout where
  texts := [2, 5]
  numbers := [3, 4, 6, 7]
  count := 10

def addInitialLiquidityLayout : TopicLayout where
  texts := [2, 4, 6]
  numbers := [3, 5, 7]
  count := 9

def liquidityLayout : TopicLayout where
  texts := [2, 4, 6]
  numbers := [3, 5, 7, 10, 11, 12]
  count := 13

/-- The document is read by `OneDexSwapEvent`. -/
def IsSwap (env : Env) (e : ElasticEvent) : Prop :=
  e.topics.head? = some (swapInputTopic env) ∨ e.topics.head? = some (swapOutputTopic env)

instance (env : Env) (e : ElasticEvent) : Decidable (IsSwap env e) :=
  inferInstanceAs (Decidable (_ ∨ _))

/-- The layout of the class that reads the document. -/
def layoutOf (env : Env) (e : ElasticEvent) : TopicLayout :=
  if IsSwap env e then swapLayout
  else if IsInitial env e then addInitialLiquidityLayout
  else liquidityLayout

/-- Each topic that the class decodes is text or a number as the class wants it. The timestamp and
the pair number are not among them: without them they are `NaN`. -/
@[mk_iff] structure TopicLayout.Readable (layout : TopicLayout) (sdk : Sdk) (e : ElasticEvent) :
    Prop where
  caller : Succeeds (sdk.addressUtils.bech32Encode e.topics[1]?)
  texts : ∀ i ∈ layout.texts, Succeeds (topicString sdk e i)
  numbers : ∀ i ∈ layout.numbers, Succeeds (topicBigInt sdk e i)

section Classes

variable {sdk : Sdk} {e : ElasticEvent} {pairs : List OneDexPair}

theorem succeeds_swapEvent :
    Succeeds (OneDexSwapEvent.new sdk e pairs) ↔ swapLayout.Readable sdk e := by
  simp only [OneDexSwapEvent.new, succeeds_bind, exists_and_right, exists_eq_ok, pure_eq_ok,
    succeeds_ok, TopicLayout.readable_iff, swapLayout, List.forall_mem_cons, List.not_mem_nil,
    false_imp_iff, implies_true]
  tauto

theorem succeeds_addInitialLiquidityEvent :
    Succeeds (OneDexAddInitialLiquidityEvent.new sdk e pairs) ↔
      addInitialLiquidityLayout.Readable sdk e := by
  simp only [OneDexAddInitialLiquidityEvent.new, succeeds_bind, exists_and_right, exists_eq_ok,
    pure_eq_ok, succeeds_ok, TopicLayout.readable_iff, addInitialLiquidityLayout,
    List.forall_mem_cons, List.not_mem_nil, false_imp_iff, implies_true]
  tauto

theorem succeeds_liquidityEvent {eventType : EventType} :
    Succeeds (OneDexLiquidityEvent.new sdk e pairs eventType) ↔
      liquidityLayout.Readable sdk e := by
  simp only [OneDexLiquidityEvent.new, succeeds_bind, exists_and_right, exists_eq_ok, pure_eq_ok,
    succeeds_ok, TopicLayout.readable_iff, liquidityLayout, List.forall_mem_cons, List.not_mem_nil,
    false_imp_iff, implies_true]
  tauto

end Classes

section Decode

variable {env : Env} {pairs : List OneDexPair} {e : ElasticEvent}

theorem decodeRaw_of_isSwap (hswap : IsSwap env e) :
    decodeRaw env pairs e =
      OneDexSwapEvent.new env.sdk e pairs >>= fun event => pure (keepSwap event) :=
  if_pos hswap

theorem decodeRaw_of_isInitial (hinitial : IsInitial env e) :
    decodeRaw env pairs e =
      OneDexAddInitialLiquidityEvent.new env.sdk e pairs >>= fun event =>
        pure (keepLiquidity event) :=
  (if_neg hinitial.1).trans (if_pos hinitial.2)

theorem decodeRaw_of_topic (hswap : ¬ IsSwap env e) (hinitial : ¬ IsInitial env e)
    (htopic : ∃ topic ∈ eventNames env, e.topics.head? = some topic) :
    ∃ eventType, decodeRaw env pairs e =
      OneDexLiquidityEvent.new env.sdk e pairs eventType >>= fun event =>
        pure (keepLiquidity event) := by
  have hadd : e.topics.head? ≠ some (addInitialLiquidityTopic env) :=
    fun h => hinitial ⟨hswap, h⟩
  unfold IsSwap at hswap
  simp only [decodeRaw, if_neg hswap, if_neg hadd]
  by_cases hadd' : e.topics.head? = some (addLiquidityTopic env)
  · exact ⟨.addLiquidity, by rw [if_pos hadd']; rfl⟩
  · obtain ⟨topic, hmem, htopic⟩ := htopic
    have hremove : e.topics.head? = some (removeLiquidityTopic env) := by
      simp only [eventNames, List.mem_cons, List.not_mem_nil, or_false] at hmem
      rcases hmem with rfl | rfl | rfl | rfl | rfl
      · exact absurd (Or.inl htopic) hswap
      · exact absurd (Or.inr htopic) hswap
      · exact absurd htopic hadd
      · exact absurd htopic hadd'
      · exact htopic
    exact ⟨.removeLiquidity, by rw [if_neg hadd', if_pos hremove]; rfl⟩

theorem succeeds_decodeRaw (htopic : ∃ topic ∈ eventNames env, e.topics.head? = some topic) :
    Succeeds (decodeRaw env pairs e) ↔ (layoutOf env e).Readable env.sdk e := by
  unfold layoutOf
  by_cases hswap : IsSwap env e
  · rw [decodeRaw_of_isSwap hswap, if_pos hswap, succeeds_bind_pure]
    exact succeeds_swapEvent
  · rw [if_neg hswap]
    by_cases hinitial : IsInitial env e
    · rw [decodeRaw_of_isInitial hinitial, if_pos hinitial, succeeds_bind_pure]
      exact succeeds_addInitialLiquidityEvent
    · obtain ⟨eventType, hdecode⟩ := decodeRaw_of_topic hswap hinitial htopic
      rw [hdecode, if_neg hinitial, succeeds_bind_pure]
      exact succeeds_liquidityEvent

/-- The other classes make joins and exits. -/
theorem exists_liquidity_of_decodeRaw (hswap : ¬ IsSwap env e)
    (htopic : ∃ topic ∈ eventNames env, e.topics.head? = some topic) {event : Event}
    (h : decodeRaw env pairs e = .ok (some event)) : ∃ kept, event = .liquidity kept := by
  have hkeep : ∃ liquidityEvent, keepLiquidity liquidityEvent = some event := by
    by_cases hinitial : IsInitial env e
    · rw [decodeRaw_of_isInitial hinitial] at h
      obtain ⟨liquidityEvent, -, hev⟩ := bind_eq_ok.1 h
      exact ⟨liquidityEvent, Except.ok.inj hev⟩
    · obtain ⟨eventType, hdecode⟩ := decodeRaw_of_topic hswap hinitial htopic
      rw [hdecode] at h
      obtain ⟨liquidityEvent, -, hev⟩ := bind_eq_ok.1 h
      exact ⟨liquidityEvent, Except.ok.inj hev⟩
  obtain ⟨liquidityEvent, hkeep⟩ := hkeep
  obtain ⟨hpair, rfl⟩ := keepLiquidity_eq_some hkeep
  exact ⟨_, rfl⟩

end Decode

end OneDexService

/-! ## Documents -/

/-- The data is absent or ends before its fields do, or topics that the class reads are missing. -/
inductive Undecodable (env : Env) : Dex × ElasticEvent → Prop where
  | noData {e : ElasticEvent} (h : e.data = none) : Undecodable env (.xExchange, e)
  | truncated {e : ElasticEvent} {data : String} (hdata : e.data = some data)
      (h : Nested.decodeAll ((XExchangeService.structOf env e).map Prod.snd) (Bytes.ofHex data) =
        none) :
      Undecodable env (.xExchange, e)
  | topicsMissing {e : ElasticEvent}
      (h : e.topics.length < (OneDexService.layoutOf env e).count) : Undecodable env (.oneDex, e)

/-- The data is cut, if at all, in no length and not in the address; the topics that are decoded
are there. -/
inductive Readable (env : Env) : Dex × ElasticEvent → Prop where
  | xExchange {e : ElasticEvent} {values : List Nested.FieldValue}
      (h : XExchangeService.HasFields e (XExchangeService.structOf env e) values) :
      Readable env (.xExchange, e)
  | oneDex {e : ElasticEvent} (h : (OneDexService.layoutOf env e).Readable env.sdk e) :
      Readable env (.oneDex, e)

theorem Snapshot.exists_pair {env : Env} {s : Snapshot env} {e : ElasticEvent}
    (h : s.isSearched (.xExchange, e) = true) :
    ∃ pair, s.xPairs.find? (fun p => p.address == e.address) = some pair := by
  obtain ⟨haddress, -⟩ := head_of_isSearched h
  obtain ⟨p, hp, haddress⟩ := List.mem_map.1 haddress
  exact Option.isSome_iff_exists.1 (List.find?_isSome.2 ⟨p, hp, beq_iff_eq.2 haddress⟩)

/-- **Which classes throw**: those of documents that are not readable. -/
theorem Snapshot.constructs_iff_readable {env : Env} {s : Snapshot env}
    (hcodec : env.sdk.codec.SlicesNested) {d : Dex × ElasticEvent}
    (hsearched : s.isSearched d = true) : s.Constructs d ↔ Readable env d := by
  obtain ⟨-, htopic⟩ := head_of_isSearched hsearched
  obtain ⟨dex, e⟩ := d
  cases dex with
  | xExchange =>
    obtain ⟨pair, hpair⟩ := exists_pair hsearched
    refine (XExchangeService.succeeds_decodeRaw hpair hcodec htopic).trans ⟨?_, ?_⟩
    · rintro ⟨values, h⟩
      exact .xExchange h
    · intro hreadable
      cases hreadable with
      | xExchange h => exact ⟨_, h⟩
  | oneDex =>
    refine (OneDexService.succeeds_decodeRaw htopic).trans ⟨.oneDex, fun hreadable => ?_⟩
    cases hreadable with
    | oneDex h => exact h

/-- A topic that is missing is no number. -/
theorem lt_length_of_topicNumber {sdk : Sdk} (habsent : sdk.binaryUtils.hexToNumber none = .nan)
    {e : ElasticEvent} {i n : Nat} (h : topicNumber sdk e i = .num n) : i < e.topics.length := by
  by_contra hle
  rw [topicNumber, List.getElem?_eq_none (not_lt.1 hle), habsent] at h
  cases h

namespace Lookups

variable {env : Env} {fromBlock toBlock : Int}

/-- What is read of the document passes for an event: it names a pair and a round, and no price
that vanishes. -/
inductive Misread (l : Lookups env fromBlock toBlock) : Dex × ElasticEvent → Prop where
  | xExchangeSwap {e : ElasticEvent} {pair : XExchangePair} {chain : PairAbi.SwapEvent}
      {round : ElasticRound} (hsearched : l.isSearched (.xExchange, e) = true)
      (hpair : l.xPairs.find? (fun p => p.address == e.address) = some pair)
      (hswap : e.topics.head? = some (XExchangeService.swapTopic env))
      (hfields : XExchangeService.HasFields e XExchangeSwapEvent.getStructure chain.values)
      (hround : round ∈ l.rounds)
      (htimestamp : numberOfNat env.sdk chain.timestamp = .num round.timestamp)
      (hprice : ¬ Vanishes (Side.pick pair.firstTokenDecimals pair.secondTokenDecimals)
        (XExchangeService.swapReserves pair chain)) :
      Misread l (.xExchange, e)
  | xExchangeLiquidity {e : ElasticEvent} {chain : PairAbi.LiquidityEvent} {round : ElasticRound}
      (hsearched : l.isSearched (.xExchange, e) = true)
      (hswap : e.topics.head? ≠ some (XExchangeService.swapTopic env))
      (hfields : XExchangeService.HasFields e XExchangeLiquidityEvent.getStructure chain.values)
      (hround : round ∈ l.rounds)
      (htimestamp : numberOfNat env.sdk chain.timestamp = .num round.timestamp) :
      Misread l (.xExchange, e)
  | oneDexLiquidity {e : ElasticEvent} {p : OneDexPair} {round : ElasticRound}
      (hsearched : l.isSearched (.oneDex, e) = true) (hswap : ¬ OneDexService.IsSwap env e)
      (hinitial : ¬ OneDexService.IsInitial env e) (hp : p ∈ l.oPairs)
      (hid : topicNumber env.sdk e 9 = .num p.id) (hround : round ∈ l.rounds)
      (htimestamp : topicNumber env.sdk e 8 = .num round.timestamp) :
      Misread l (.oneDex, e)

variable {l : Lookups env fromBlock toBlock}

/-- A document that decodes is reported when there is a round, and a price. -/
theorem reported_iff_of_decodes {d : Dex × ElasticEvent} {timestamp : JsNumber} {event : DexEvent}
    (hsearched : l.isSearched d = true) (hdecodes : l.Decodes d timestamp event) :
    (∃ re, l.report d = .ok (some re)) ↔
      (∃ round ∈ l.rounds, timestamp = .num round.timestamp) ∧ isZeroPrice event = false := by
  constructor
  · rintro ⟨re, hreport⟩
    obtain ⟨timestamp', round, event', hkept, -⟩ := report_eq_some_iff.1 hreport
    obtain ⟨rfl, rfl⟩ := hkept.decodes.unique hdecodes
    exact ⟨⟨round, List.mem_of_find?_eq_some hkept.round, round_timestamp hkept.round⟩,
      hkept.priced⟩
  · rintro ⟨⟨round, hround, htimestamp⟩, hpriced⟩
    have hfound : findRound l.rounds timestamp ≠ none := fun hnone =>
      findRound_eq_none_iff.1 hnone round hround htimestamp
    obtain ⟨first, hfirst⟩ := Option.ne_none_iff_exists'.1 hfound
    exact ⟨_, report_eq_some_iff.2 ⟨timestamp, first, event,
      ⟨hsearched, hdecodes.pairFound, hdecodes, findRound_eq_some_iff.1 hfirst, hpriced⟩, rfl⟩⟩

theorem reported_xExchangeLiquidity (hcodec : env.sdk.codec.SlicesNested) {e : ElasticEvent}
    {chain : PairAbi.LiquidityEvent} (hsearched : l.isSearched (.xExchange, e) = true)
    (hswap : e.topics.head? ≠ some (XExchangeService.swapTopic env))
    (hfields : XExchangeService.HasFields e XExchangeLiquidityEvent.getStructure chain.values) :
    (∃ re, l.report (.xExchange, e) = .ok (some re)) ↔
      ∃ round ∈ l.rounds, numberOfNat env.sdk chain.timestamp = .num round.timestamp := by
  obtain ⟨pair, hpair⟩ := Snapshot.exists_pair hsearched
  obtain ⟨-, htopic⟩ := Snapshot.head_of_isSearched hsearched
  obtain ⟨event, hdecode, htimestamp⟩ :=
    XExchangeService.decodeRaw_eq_liquidity hpair hcodec hswap htopic hfields
  rw [reported_iff_of_decodes hsearched (.xExchange hdecode), ← htimestamp]
  exact and_iff_left rfl

/-- Of the documents of OneDex that lack topics, the liquidity documents that have topics 8 and 9
are reported. -/
theorem reported_oneDex (habsent : env.sdk.binaryUtils.hexToNumber none = .nan) {e : ElasticEvent}
    (hmissing : e.topics.length < (OneDexService.layoutOf env e).count)
    (hreadable : (OneDexService.layoutOf env e).Readable env.sdk e) :
    (∃ re, l.report (.oneDex, e) = .ok (some re)) ↔ l.Misread (.oneDex, e) := by
  constructor
  · rintro ⟨re, hreport⟩
    obtain ⟨timestamp, round, event, hkept, -⟩ := report_eq_some_iff.1 hreport
    obtain ⟨p, hp, hnames⟩ := hkept.pairFound
    have htimestamp : topicNumber env.sdk e 8 = .num round.timestamp := by
      rw [← round_timestamp hkept.round]
      cases hkept.decodes with
      | oneDex hdecode => exact (OneDexService.timestamp_of_decodeRaw hdecode).symm
    have hround : round ∈ l.rounds := List.mem_of_find?_eq_some hkept.round
    have htimestampThere := lt_length_of_topicNumber habsent htimestamp
    rcases hnames with ⟨hinitial, -⟩ | ⟨hinitial, hid⟩
    · -- its class reads nothing after the timestamp
      have hswap : ¬ OneDexService.IsSwap env e := hinitial.1
      rw [OneDexService.layoutOf, if_neg hswap, if_pos hinitial] at hmissing
      exact absurd hmissing (by simp only [OneDexService.addInitialLiquidityLayout]; omega)
    · have hidThere := lt_length_of_topicNumber habsent hid
      by_cases hswap : OneDexService.IsSwap env e
      · rw [OneDexService.layoutOf, if_pos hswap] at hmissing
        exact absurd hmissing (by simp only [OneDexService.swapLayout]; omega)
      · exact .oneDexLiquidity hkept.searched hswap hinitial hp hid hround htimestamp
  · rintro hmisread
    cases hmisread with
    | @oneDexLiquidity _ p round hsearched hswap hinitial hp hid hround htimestamp =>
      obtain ⟨-, htopic⟩ := Snapshot.head_of_isSearched hsearched
      obtain ⟨timestamp, event, hdecodes⟩ := Snapshot.decodes_of_pairFound hsearched
        ⟨p, hp, Or.inr ⟨hinitial, hid⟩⟩ ((OneDexService.succeeds_decodeRaw htopic).2 hreadable)
      rw [reported_iff_of_decodes hsearched hdecodes]
      cases hdecodes with
      | oneDex hdecode =>
        obtain ⟨kept, rfl⟩ := OneDexService.exists_liquidity_of_decodeRaw hswap htopic hdecode
        refine ⟨⟨round, hround, ?_⟩, rfl⟩
        exact (OneDexService.timestamp_of_decodeRaw hdecode).trans htimestamp

section Reported

variable (hcodec : env.sdk.codec.SlicesNested) {rat : env.sdk.bigNumber.BigNumber → Option ℚ}
  (hB : env.sdk.bigNumber.Exact rat) (hdivides : env.sdk.bigNumber.Divides rat)

include hcodec hB hdivides

theorem reported_xExchangeSwap {e : ElasticEvent} {pair : XExchangePair}
    {chain : PairAbi.SwapEvent} (hsearched : l.isSearched (.xExchange, e) = true)
    (hpair : l.xPairs.find? (fun p => p.address == e.address) = some pair)
    (hswap : e.topics.head? = some (XExchangeService.swapTopic env))
    (hfields : XExchangeService.HasFields e XExchangeSwapEvent.getStructure chain.values) :
    (∃ re, l.report (.xExchange, e) = .ok (some re)) ↔
      (∃ round ∈ l.rounds, numberOfNat env.sdk chain.timestamp = .num round.timestamp) ∧
        ¬ Vanishes (Side.pick pair.firstTokenDecimals pair.secondTokenDecimals)
          (XExchangeService.swapReserves pair chain) := by
  obtain ⟨event, hdecode, htimestamp, rfl, hreads⟩ :=
    XExchangeService.decodeRaw_eq_swap hpair hcodec hB hswap hfields
  rw [reported_iff_of_decodes hsearched (.xExchange hdecode), ← htimestamp]
  refine and_congr_right fun _ => ?_
  have hzero : (XExchangeService.fromSwapEvent env event).priceNative = "0" ↔ _ :=
    priceNative_eq_zero_iff hB hdivides hreads
  show ((XExchangeService.fromSwapEvent env event).priceNative == "0") = false ↔ _
  rw [beq_eq_false_iff_ne, Ne, hzero]
  rfl

/-- **Which undecodable documents are reported**: of those that are readable, the misread ones. -/
theorem reported_iff_misread (habsent : env.sdk.binaryUtils.hexToNumber none = .nan)
    {d : Dex × ElasticEvent} (hundecodable : Undecodable env d) (hreadable : Readable env d) :
    (∃ re, l.report d = .ok (some re)) ↔ l.Misread d := by
  cases hreadable with
  | oneDex hreadable =>
    cases hundecodable with
    | topicsMissing hmissing => exact reported_oneDex habsent hmissing hreadable
  | @xExchange e values hfields =>
    constructor
    · rintro ⟨re, hreport⟩
      obtain ⟨_, _, _, hkept, -⟩ := report_eq_some_iff.1 hreport
      by_cases hswap : e.topics.head? = some (XExchangeService.swapTopic env)
      · obtain ⟨pair, hpair⟩ := Snapshot.exists_pair hkept.searched
        rw [XExchangeService.structOf, if_pos hswap] at hfields
        obtain ⟨chain, rfl⟩ := hfields.exists_swap
        obtain ⟨⟨round, hround, htimestamp⟩, hprice⟩ :=
          (reported_xExchangeSwap hcodec hB hdivides hkept.searched hpair hswap hfields).1
            ⟨re, hreport⟩
        exact .xExchangeSwap hkept.searched hpair hswap hfields hround htimestamp hprice
      · rw [XExchangeService.structOf, if_neg hswap] at hfields
        obtain ⟨chain, rfl⟩ := hfields.exists_liquidity
        obtain ⟨round, hround, htimestamp⟩ :=
          (reported_xExchangeLiquidity hcodec hkept.searched hswap hfields).1 ⟨re, hreport⟩
        exact .xExchangeLiquidity hkept.searched hswap hfields hround htimestamp
    · intro hmisread
      cases hmisread with
      | xExchangeSwap hsearched hpair hswap hfields hround htimestamp hprice =>
        exact (reported_xExchangeSwap hcodec hB hdivides hsearched hpair hswap hfields).2
          ⟨⟨_, hround, htimestamp⟩, hprice⟩
      | xExchangeLiquidity hsearched hswap hfields hround htimestamp =>
        exact (reported_xExchangeLiquidity hcodec hsearched hswap hfields).2
          ⟨_, hround, htimestamp⟩

end Reported

end Lookups

end DexAdapter
