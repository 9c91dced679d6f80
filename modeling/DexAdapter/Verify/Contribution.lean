import DexAdapter.Verify.Request

/-!
# What one document contributes

A document that a provider asked for is decoded by the class its topic names, when its pair is
found. `Lookups.Kept` states when it is reported: asked for, pair found, a round at the decoded
timestamp, no swap of price zero. `Lookups.report_eq_some_iff` says that the loop reports exactly
these documents, each as its conversion in the first round of its timestamp.
-/

namespace DexAdapter

open Collect DataIntegrationService

/-- `event.originalTxHash ?? event.txHash` -/
def ElasticEvent.transactionId (e : ElasticEvent) : String := e.originalTxHash.getD e.txHash

/-- `txHash_shardId_order`, the id of a document of the events index. -/
def ElasticEvent.documentId (e : ElasticEvent) : String × Nat × Nat :=
  (e.txHash, e.shardId, e.order)

/-! ## Event classes

Every class takes the transaction and the two orders from the document, and its pair from the list
it is given. -/

section Classes

variable {sdk : Sdk} {e : ElasticEvent}

theorem XExchangeSwapEvent.of_new {pair : XExchangePair} {event : XExchangeSwapEvent}
    (h : XExchangeSwapEvent.new sdk e pair = .ok event) :
    event.txHash = e.transactionId ∧ event.txOrder = e.txOrder ∧ event.eventOrder = e.order ∧
      event.address = e.address ∧ event.pair = pair := by
  simp only [XExchangeSwapEvent.new, bind_eq_ok, pure_eq_ok, Except.ok.injEq] at h
  obtain ⟨_, -, _, -, _, -, _, -, _, -, _, -, _, -, _, -, _, -, _, -, _, -, _, -, rfl⟩ := h
  exact ⟨rfl, rfl, rfl, rfl, rfl⟩

theorem XExchangeLiquidityEvent.of_newSubclass {pair : XExchangePair} {eventType : EventType}
    {event : XExchangeLiquidityEvent}
    (h : XExchangeLiquidityEvent.newSubclass sdk e pair eventType = .ok event) :
    event.txHash = e.transactionId ∧ event.txOrder = e.txOrder ∧ event.eventOrder = e.order ∧
      event.address = e.address ∧ event.pair = pair := by
  simp only [newSubclass, XExchangeLiquidityEvent.new, bind_eq_ok, pure_eq_ok,
    Except.ok.injEq] at h
  obtain ⟨_, ⟨_, -, _, -, _, -, _, -, _, -, _, -, _, -, _, -, _, -, _, -, _, -, _, -, _, -, _, -,
    rfl⟩, _, -, _, -, rfl⟩ := h
  exact ⟨rfl, rfl, rfl, rfl, rfl⟩

variable {pairs : List OneDexPair}

theorem OneDexSwapEvent.of_new {event : OneDexSwapEvent}
    (h : OneDexSwapEvent.new sdk e pairs = .ok event) :
    event.txHash = e.transactionId ∧ event.txOrder = e.txOrder ∧ event.eventOrder = e.order ∧
      event.pair = findPairById pairs (topicNumber sdk e 9) := by
  simp only [OneDexSwapEvent.new, bind_eq_ok, pure_eq_ok, Except.ok.injEq] at h
  obtain ⟨_, -, _, -, _, -, _, -, _, -, _, -, _, -, rfl⟩ := h
  exact ⟨rfl, rfl, rfl, rfl⟩

theorem OneDexLiquidityEvent.of_new {eventType : EventType} {event : OneDexLiquidityEvent}
    (h : OneDexLiquidityEvent.new sdk e pairs eventType = .ok event) :
    event.txHash = e.transactionId ∧ event.txOrder = e.txOrder ∧ event.eventOrder = e.order ∧
      event.pair = findPairById pairs (topicNumber sdk e 9) := by
  simp only [OneDexLiquidityEvent.new, bind_eq_ok, pure_eq_ok, Except.ok.injEq] at h
  obtain ⟨_, -, _, -, _, -, _, -, _, -, _, -, _, -, _, -, _, -, _, -, rfl⟩ := h
  exact ⟨rfl, rfl, rfl, rfl⟩

theorem OneDexAddInitialLiquidityEvent.of_new {event : OneDexLiquidityEvent}
    (h : OneDexAddInitialLiquidityEvent.new sdk e pairs = .ok event) :
    event.txHash = e.transactionId ∧ event.txOrder = e.txOrder ∧ event.eventOrder = e.order ∧
      ∃ lpTokenId, topicString sdk e 6 = .ok lpTokenId ∧
        event.pair = pairs.find? fun p => p.lpTokenId == lpTokenId := by
  simp only [OneDexAddInitialLiquidityEvent.new, bind_eq_ok, pure_eq_ok, Except.ok.injEq] at h
  obtain ⟨_, -, _, -, _, -, _, -, _, -, lpTokenId, hlp, _, -, rfl⟩ := h
  exact ⟨rfl, rfl, rfl, lpTokenId, hlp, rfl⟩

end Classes

/-! ## Decoding a document -/

namespace XExchangeService

variable {env : Env} {pairs : List XExchangePair} {e : ElasticEvent}

/-- A document that decodes has a pair, which its event carries with the document's keys. -/
theorem of_decodeRaw {event : Event} (h : decodeRaw env pairs e = .ok (some event)) :
    ∃ pair, pairs.find? (fun p => p.address == e.address) = some pair ∧
      ((∃ swapEvent, event = .swap swapEvent ∧
          XExchangeSwapEvent.new env.sdk e pair = .ok swapEvent) ∨
        ∃ eventType liquidityEvent, event = .liquidity liquidityEvent ∧
          XExchangeLiquidityEvent.newSubclass env.sdk e pair eventType = .ok liquidityEvent) := by
  unfold decodeRaw at h
  split at h
  · cases h
  · rename_i pair hpair
    refine ⟨pair, hpair, ?_⟩
    split at h
    · obtain ⟨swapEvent, hnew, hev⟩ := bind_eq_ok.1 h
      rw [pure_eq_ok, Except.ok.injEq, Option.some.injEq] at hev
      exact Or.inl ⟨swapEvent, hev.symm, hnew⟩
    · split at h
      · obtain ⟨liquidityEvent, hnew, hev⟩ := bind_eq_ok.1 h
        rw [pure_eq_ok, Except.ok.injEq, Option.some.injEq] at hev
        exact Or.inr ⟨_, liquidityEvent, hev.symm, hnew⟩
      · split at h
        · obtain ⟨liquidityEvent, hnew, hev⟩ := bind_eq_ok.1 h
          rw [pure_eq_ok, Except.ok.injEq, Option.some.injEq] at hev
          exact Or.inr ⟨_, liquidityEvent, hev.symm, hnew⟩
        · cases h

/-- A document with the address of a pair and a topic of the list is not skipped. -/
theorem decodeRaw_ne_none (hpair : ∃ p ∈ pairs, p.address = e.address)
    (htopic : ∃ topic ∈ eventNames env, e.topics.head? = some topic) :
    decodeRaw env pairs e ≠ .ok none := by
  have hfind : (pairs.find? fun p => p.address == e.address) ≠ none := by
    obtain ⟨p, hp, haddress⟩ := hpair
    intro hnone
    have := List.find?_eq_none.1 hnone p hp
    simp [haddress] at this
  obtain ⟨topic, hmem, htopic⟩ := htopic
  simp only [eventNames, List.mem_cons, List.not_mem_nil, or_false] at hmem
  intro h
  unfold decodeRaw at h
  split at h
  · contradiction
  · split at h
    · obtain ⟨_, -, hev⟩ := bind_eq_ok.1 h
      cases hev
    · split at h
      · obtain ⟨_, -, hev⟩ := bind_eq_ok.1 h
        cases hev
      · split at h
        · obtain ⟨_, -, hev⟩ := bind_eq_ok.1 h
          cases hev
        · rcases hmem with rfl | rfl | rfl <;> contradiction

end XExchangeService

namespace OneDexService

variable {env : Env} {pairs : List OneDexPair} {e : ElasticEvent}

/-- The document is read by `OneDexAddInitialLiquidityEvent`. -/
def IsInitial (env : Env) (e : ElasticEvent) : Prop :=
  ¬ (e.topics.head? = some (swapInputTopic env) ∨ e.topics.head? = some (swapOutputTopic env)) ∧
    e.topics.head? = some (addInitialLiquidityTopic env)

instance (env : Env) (e : ElasticEvent) : Decidable (IsInitial env e) :=
  inferInstanceAs (Decidable (_ ∧ _))

/-- The pair a document names, by its lp token in the initial liquidity event, by its number in the
others. -/
def NamesPair (env : Env) (e : ElasticEvent) (p : OneDexPair) : Prop :=
  (IsInitial env e ∧ topicString env.sdk e 6 = .ok p.lpTokenId) ∨
    (¬ IsInitial env e ∧ topicNumber env.sdk e 9 = .num p.id)

instance (env : Env) (e : ElasticEvent) (p : OneDexPair) : Decidable (NamesPair env e p) :=
  have htopic : (topicString env.sdk e 6).toOption = some p.lpTokenId ↔
      topicString env.sdk e 6 = .ok p.lpTokenId :=
    ⟨eq_ok_of_toOption, fun h => by rw [h]; rfl⟩
  have := decidable_of_iff _ htopic
  inferInstanceAs (Decidable (_ ∨ _))

theorem findPairById_isSome {pairId : JsNumber} :
    (findPairById pairs pairId).isSome = true ↔ ∃ p ∈ pairs, pairId = .num p.id := by
  simp [findPairById, List.find?_isSome, JsNumber.strictEq_iff]

theorem keepSwap_eq_some {swapEvent : OneDexSwapEvent} {event : Event}
    (h : keepSwap swapEvent = some event) :
    ∃ hpair : swapEvent.pair.isSome = true, event = .swap ⟨swapEvent, hpair⟩ := by
  unfold keepSwap at h
  split at h
  · rename_i hpair
    exact ⟨hpair, (Option.some.inj h).symm⟩
  · cases h

theorem keepSwap_eq_none {swapEvent : OneDexSwapEvent} :
    keepSwap swapEvent = none ↔ ¬ swapEvent.pair.isSome = true := by
  unfold keepSwap
  split <;> simp_all

theorem keepLiquidity_eq_some {liquidityEvent : OneDexLiquidityEvent} {event : Event}
    (h : keepLiquidity liquidityEvent = some event) :
    ∃ hpair : liquidityEvent.pair.isSome = true, event = .liquidity ⟨liquidityEvent, hpair⟩ := by
  unfold keepLiquidity at h
  split at h
  · rename_i hpair
    exact ⟨hpair, (Option.some.inj h).symm⟩
  · cases h

theorem keepLiquidity_eq_none {liquidityEvent : OneDexLiquidityEvent} :
    keepLiquidity liquidityEvent = none ↔ ¬ liquidityEvent.pair.isSome = true := by
  unfold keepLiquidity
  split <;> simp_all

/-- The class that reads a document, by the topic of the document. -/
inductive Class (env : Env) (pairs : List OneDexPair) (e : ElasticEvent) : Option Event → Prop where
  | swap {swapEvent : OneDexSwapEvent} (hinitial : ¬ IsInitial env e)
      (hnew : OneDexSwapEvent.new env.sdk e pairs = .ok swapEvent) :
      Class env pairs e (keepSwap swapEvent)
  | initial {liquidityEvent : OneDexLiquidityEvent} (hinitial : IsInitial env e)
      (hnew : OneDexAddInitialLiquidityEvent.new env.sdk e pairs = .ok liquidityEvent) :
      Class env pairs e (keepLiquidity liquidityEvent)
  | liquidity {eventType : EventType} {liquidityEvent : OneDexLiquidityEvent}
      (hinitial : ¬ IsInitial env e)
      (hnew : OneDexLiquidityEvent.new env.sdk e pairs eventType = .ok liquidityEvent) :
      Class env pairs e (keepLiquidity liquidityEvent)

theorem class_of_decodeRaw {event : Option Event} (h : decodeRaw env pairs e = .ok event) :
    Class env pairs e event ∨
      (event = none ∧ ∀ topic ∈ eventNames env, e.topics.head? ≠ some topic) := by
  unfold decodeRaw at h
  split at h
  · rename_i hswap
    obtain ⟨swapEvent, hnew, hev⟩ := bind_eq_ok.1 h
    rw [pure_eq_ok, Except.ok.injEq] at hev
    exact Or.inl (hev ▸ .swap (fun hinitial => hinitial.1 hswap) hnew)
  · rename_i hswap
    split at h
    · rename_i hadd
      obtain ⟨liquidityEvent, hnew, hev⟩ := bind_eq_ok.1 h
      rw [pure_eq_ok, Except.ok.injEq] at hev
      exact Or.inl (hev ▸ .initial ⟨hswap, hadd⟩ hnew)
    · rename_i hadd
      have hinitial : ¬ IsInitial env e := fun hinitial => hadd hinitial.2
      split at h
      · obtain ⟨liquidityEvent, hnew, hev⟩ := bind_eq_ok.1 h
        rw [pure_eq_ok, Except.ok.injEq] at hev
        exact Or.inl (hev ▸ .liquidity hinitial hnew)
      · split at h
        · obtain ⟨liquidityEvent, hnew, hev⟩ := bind_eq_ok.1 h
          rw [pure_eq_ok, Except.ok.injEq] at hev
          exact Or.inl (hev ▸ .liquidity hinitial hnew)
        · refine Or.inr ⟨(Except.ok.inj h).symm, ?_⟩
          simp only [eventNames, List.mem_cons, List.not_mem_nil, or_false]
          rintro topic (rfl | rfl | rfl | rfl | rfl) <;> tauto

/-- A document whose pair is in the list is not skipped. -/
theorem decodeRaw_ne_none (hpair : ∃ p ∈ pairs, NamesPair env e p)
    (htopic : ∃ topic ∈ eventNames env, e.topics.head? = some topic) :
    decodeRaw env pairs e ≠ .ok none := by
  obtain ⟨p, hp, hnames⟩ := hpair
  have hbyId :
      ¬ IsInitial env e → (findPairById pairs (topicNumber env.sdk e 9)).isSome = true := by
    intro hinitial
    rcases hnames with ⟨h, -⟩ | ⟨-, hid⟩
    · exact absurd h hinitial
    · exact findPairById_isSome.2 ⟨p, hp, hid⟩
  intro h
  rcases class_of_decodeRaw h with hclass | ⟨-, hno⟩
  · generalize hev : (none : Option Event) = ev at hclass
    cases hclass with
    | swap hinitial hnew =>
      have hnone := keepSwap_eq_none.1 hev.symm
      rw [(OneDexSwapEvent.of_new hnew).2.2.2] at hnone
      exact hnone (hbyId hinitial)
    | initial hinitial hnew =>
      have hnone := keepLiquidity_eq_none.1 hev.symm
      obtain ⟨-, -, -, lpTokenId, hlp, hfind⟩ := OneDexAddInitialLiquidityEvent.of_new hnew
      rw [hfind, List.find?_isSome] at hnone
      rcases hnames with ⟨-, hlp'⟩ | ⟨h', -⟩
      · rw [hlp, Except.ok.injEq] at hlp'
        exact hnone ⟨p, hp, beq_iff_eq.2 hlp'.symm⟩
      · exact h' hinitial
    | liquidity hinitial hnew =>
      have hnone := keepLiquidity_eq_none.1 hev.symm
      rw [(OneDexLiquidityEvent.of_new hnew).2.2.2] at hnone
      exact hnone (hbyId hinitial)
  · obtain ⟨topic, hmem, htopic⟩ := htopic
    exact hno topic hmem htopic

/-- The timestamp of every class is topic 8. -/
theorem timestamp_of_decodeRaw {event : Event} (h : decodeRaw env pairs e = .ok (some event)) :
    (general event).timestamp = topicNumber env.sdk e 8 := by
  rcases class_of_decodeRaw h with hclass | ⟨hnone, -⟩
  · generalize hev : some event = ev at hclass
    cases hclass with
    | swap hinitial hnew =>
      obtain ⟨hpair, rfl⟩ := keepSwap_eq_some hev.symm
      simp only [OneDexSwapEvent.new, bind_eq_ok, pure_eq_ok, Except.ok.injEq] at hnew
      obtain ⟨_, -, _, -, _, -, _, -, _, -, _, -, _, -, rfl⟩ := hnew
      rfl
    | initial hinitial hnew =>
      obtain ⟨hpair, rfl⟩ := keepLiquidity_eq_some hev.symm
      simp only [OneDexAddInitialLiquidityEvent.new, bind_eq_ok, pure_eq_ok,
        Except.ok.injEq] at hnew
      obtain ⟨_, -, _, -, _, -, _, -, _, -, _, -, _, -, rfl⟩ := hnew
      rfl
    | liquidity hinitial hnew =>
      obtain ⟨hpair, rfl⟩ := keepLiquidity_eq_some hev.symm
      simp only [OneDexLiquidityEvent.new, bind_eq_ok, pure_eq_ok, Except.ok.injEq] at hnew
      obtain ⟨_, -, _, -, _, -, _, -, _, -, _, -, _, -, _, -, _, -, _, -, rfl⟩ := hnew
      rfl
  · cases hnone

end OneDexService

/-! ## Documents -/

namespace Snapshot

variable {env : Env} (s : Snapshot env)

def PairFound : Dex × ElasticEvent → Prop
  | (.xExchange, e) => ∃ p ∈ s.xPairs, p.address = e.address
  | (.oneDex, e) => ∃ p ∈ s.oPairs, OneDexService.NamesPair env e p

/-- The document decodes, with this timestamp, and the provider that fetched it converts it to
this event. -/
inductive Decodes : Dex × ElasticEvent → JsNumber → DexEvent → Prop where
  | xExchange {e : ElasticEvent} {event : XExchangeService.Event}
      (h : XExchangeService.decodeRaw env s.xPairs e = .ok (some event)) :
      Decodes (.xExchange, e) (XExchangeService.general event).timestamp
        (convert (xExchangeService env) event)
  | oneDex {e : ElasticEvent} {event : OneDexService.Event}
      (h : OneDexService.decodeRaw env s.oPairs e = .ok (some event)) :
      Decodes (.oneDex, e) (OneDexService.general event).timestamp
        (convert (oneDexService env) event)

variable {s}

theorem head_of_isSearched {d : Dex × ElasticEvent} (h : s.isSearched d = true) :
    d.2.address ∈ s.addresses d.1 ∧
      ∃ topic ∈ s.eventNames d.1, d.2.topics.head? = some topic := by
  unfold isSearched IndexerService.isSearched at h
  rcases ht : d.2.topics with _ | ⟨topic, topics⟩
  · simp [ht] at h
  · simp only [ht, Bool.and_eq_true, List.contains_eq_mem, decide_eq_true_eq] at h
    exact ⟨h.1, topic, h.2, rfl⟩

/-- A document that decodes has its pair. -/
theorem Decodes.pairFound {d : Dex × ElasticEvent} {timestamp : JsNumber} {event : DexEvent}
    (h : s.Decodes d timestamp event) : s.PairFound d := by
  cases h with
  | xExchange h =>
    obtain ⟨pair, hfind, -⟩ := XExchangeService.of_decodeRaw h
    exact ⟨pair, List.mem_of_find?_eq_some hfind, by simpa using List.find?_some hfind⟩
  | @oneDex e event h =>
    rcases OneDexService.class_of_decodeRaw h with hclass | ⟨hnone, -⟩
    · generalize hev : some event = ev at hclass
      cases hclass with
      | swap hinitial hnew =>
        obtain ⟨hpair, -⟩ := OneDexService.keepSwap_eq_some hev.symm
        rw [(OneDexSwapEvent.of_new hnew).2.2.2] at hpair
        obtain ⟨p, hp, hid⟩ := OneDexService.findPairById_isSome.1 hpair
        exact ⟨p, hp, Or.inr ⟨hinitial, hid⟩⟩
      | initial hinitial hnew =>
        obtain ⟨hpair, -⟩ := OneDexService.keepLiquidity_eq_some hev.symm
        obtain ⟨-, -, -, lpTokenId, hlp, hfind⟩ := OneDexAddInitialLiquidityEvent.of_new hnew
        rw [hfind, List.find?_isSome] at hpair
        obtain ⟨p, hp, heq⟩ := hpair
        obtain rfl : p.lpTokenId = lpTokenId := by simpa using heq
        exact ⟨p, hp, Or.inl ⟨hinitial, hlp⟩⟩
      | liquidity hinitial hnew =>
        obtain ⟨hpair, -⟩ := OneDexService.keepLiquidity_eq_some hev.symm
        rw [(OneDexLiquidityEvent.of_new hnew).2.2.2] at hpair
        obtain ⟨p, hp, hid⟩ := OneDexService.findPairById_isSome.1 hpair
        exact ⟨p, hp, Or.inr ⟨hinitial, hid⟩⟩
    · cases hnone

/-- No branch of a provider skips a document it asked for, when the pair is found. -/
theorem decodes_of_pairFound {d : Dex × ElasticEvent} (hsearched : s.isSearched d = true)
    (hpair : s.PairFound d) (hok : s.Constructs d) :
    ∃ timestamp event, s.Decodes d timestamp event := by
  obtain ⟨-, htopic⟩ := head_of_isSearched hsearched
  obtain ⟨dex, e⟩ := d
  cases dex with
  | xExchange =>
    obtain ⟨event, hdecode⟩ := hok
    cases event with
    | none => exact absurd hdecode (XExchangeService.decodeRaw_ne_none hpair htopic)
    | some event => exact ⟨_, _, .xExchange hdecode⟩
  | oneDex =>
    obtain ⟨event, hdecode⟩ := hok
    cases event with
    | none => exact absurd hdecode (OneDexService.decodeRaw_ne_none hpair htopic)
    | some event => exact ⟨_, _, .oneDex hdecode⟩

/-- Decoding has one result. -/
theorem Decodes.unique {d : Dex × ElasticEvent} {t t' : JsNumber} {event event' : DexEvent}
    (h : s.Decodes d t event) (h' : s.Decodes d t' event') : t = t' ∧ event = event' := by
  cases h with
  | xExchange h =>
    cases h' with
    | xExchange h' =>
      rw [h, Except.ok.injEq, Option.some.injEq] at h'
      obtain rfl := h'
      exact ⟨rfl, rfl⟩
  | oneDex h =>
    cases h' with
    | oneDex h' =>
      rw [h, Except.ok.injEq, Option.some.injEq] at h'
      obtain rfl := h'
      exact ⟨rfl, rfl⟩

/-- The converted event carries the keys of the document. -/
theorem Decodes.keys {d : Dex × ElasticEvent} {timestamp : JsNumber} {event : DexEvent}
    (h : s.Decodes d timestamp event) :
    event.fields.txnId = d.2.transactionId ∧ event.fields.txnIndex = d.2.txOrder ∧
      event.fields.eventIndex = d.2.order := by
  cases h with
  | xExchange h =>
    obtain ⟨pair, -, ⟨swapEvent, rfl, hnew⟩ | ⟨eventType, liquidityEvent, rfl, hnew⟩⟩ :=
      XExchangeService.of_decodeRaw h
    · obtain ⟨htx, horder, hevent, -⟩ := XExchangeSwapEvent.of_new hnew
      obtain ⟨hid, hindex, heventIndex, -, -⟩ := swapEventOf_keys env.sdk.bigNumber _
      exact ⟨hid.trans htx, hindex.trans horder, heventIndex.trans hevent⟩
    · obtain ⟨htx, horder, hevent, -⟩ := XExchangeLiquidityEvent.of_newSubclass hnew
      exact ⟨htx, horder, hevent⟩
  | @oneDex e event h =>
    rcases OneDexService.class_of_decodeRaw h with hclass | ⟨hnone, -⟩
    · generalize hev : some event = ev at hclass
      cases hclass with
      | swap hinitial hnew =>
        obtain ⟨hpair, rfl⟩ := OneDexService.keepSwap_eq_some hev.symm
        obtain ⟨htx, horder, hevent, -⟩ := OneDexSwapEvent.of_new hnew
        obtain ⟨hid, hindex, heventIndex, -, -⟩ := swapEventOf_keys env.sdk.bigNumber _
        exact ⟨hid.trans htx, hindex.trans horder, heventIndex.trans hevent⟩
      | initial hinitial hnew =>
        obtain ⟨hpair, rfl⟩ := OneDexService.keepLiquidity_eq_some hev.symm
        obtain ⟨htx, horder, hevent, -⟩ := OneDexAddInitialLiquidityEvent.of_new hnew
        exact ⟨htx, horder, hevent⟩
      | liquidity hinitial hnew =>
        obtain ⟨hpair, rfl⟩ := OneDexService.keepLiquidity_eq_some hev.symm
        obtain ⟨htx, horder, hevent, -⟩ := OneDexLiquidityEvent.of_new hnew
        exact ⟨htx, horder, hevent⟩
    · cases hnone

end Snapshot

theorem processEvent_eq_some {provider : IProviderService} {rounds : List ElasticRound}
    {generalEvent : ClassEvent provider} {re : ResponseEvent} :
    processEvent provider rounds generalEvent = some re ↔
      ∃ round, findRound rounds (provider.general generalEvent).timestamp = some round ∧
        isZeroPrice (convert provider generalEvent) = false ∧
        re = { block := Block.fromElasticRound round true
               event := convert provider generalEvent } := by
  unfold processEvent
  constructor
  · intro h
    split at h
    · cases h
    · rename_i round hround
      simp only [Option.ite_none_left_eq_some, Bool.not_eq_true, Option.some.injEq] at h
      exact ⟨round, hround, h.1, h.2.symm⟩
  · rintro ⟨round, hround, hprice, rfl⟩
    rw [hround]
    simp only [hprice, Bool.false_eq_true, if_false]

/-- The first of the rounds with the timestamp. -/
inductive FirstRound (timestamp : JsNumber) (round : ElasticRound) : List ElasticRound → Prop where
  | of_append (before after : List ElasticRound) (heq : timestamp = .num round.timestamp)
      (hfirst : ∀ other ∈ before, timestamp ≠ .num other.timestamp) :
      FirstRound timestamp round (before ++ round :: after)

theorem findRound_eq_some_iff {rounds : List ElasticRound} {timestamp : JsNumber}
    {round : ElasticRound} :
    findRound rounds timestamp = some round ↔ FirstRound timestamp round rounds := by
  rw [findRound, List.find?_eq_some_iff_append]
  constructor
  · rintro ⟨heq, before, after, rfl, hfirst⟩
    refine .of_append before after (JsNumber.strictEq_iff.1 heq) fun other hother h => ?_
    simpa [JsNumber.strictEq_iff.2 h] using hfirst other hother
  · rintro ⟨before, after, heq, hfirst⟩
    refine ⟨JsNumber.strictEq_iff.2 heq, before, after, rfl, fun other hother => ?_⟩
    rw [Bool.not_eq_true', ← Bool.not_eq_true, JsNumber.strictEq_iff]
    exact hfirst other hother

theorem findRound_eq_none_iff {rounds : List ElasticRound} {timestamp : JsNumber} :
    findRound rounds timestamp = none ↔ ∀ round ∈ rounds, timestamp ≠ .num round.timestamp := by
  simp only [findRound, List.find?_eq_none, JsNumber.strictEq_iff, ne_eq]

namespace Lookups

variable {env : Env} {fromBlock toBlock : Int} (l : Lookups env fromBlock toBlock)

/-- When a document is reported: its provider asked for its address and topic, its pair is found,
some round has the decoded timestamp (`round` is the first), and it is no swap of price zero. -/
structure Kept (d : Dex × ElasticEvent) (timestamp : JsNumber) (round : ElasticRound)
    (event : DexEvent) : Prop where
  searched : l.isSearched d = true
  pairFound : l.PairFound d
  decodes : l.Decodes d timestamp event
  firstRound : FirstRound timestamp round l.rounds
  priced : isZeroPrice event = false

variable {l}

theorem Kept.round {d : Dex × ElasticEvent} {timestamp : JsNumber} {round : ElasticRound}
    {event : DexEvent} (h : l.Kept d timestamp round event) :
    findRound l.rounds timestamp = some round :=
  findRound_eq_some_iff.2 h.firstRound

theorem convertRaw_eq_some {d : Dex × ElasticEvent} {re : ResponseEvent} :
    l.convertRaw d.2 d.1 = .ok (some re) ↔
      ∃ timestamp round event, l.Decodes d timestamp event ∧
        findRound l.rounds timestamp = some round ∧ isZeroPrice event = false ∧
        re = { block := Block.fromElasticRound round true, event := event } := by
  obtain ⟨dex, e⟩ := d
  constructor
  · intro h
    cases dex with
    | xExchange =>
      obtain ⟨event, hdecode, hprocess⟩ := bind_eq_ok.1 h
      obtain ⟨event, rfl, hprocessed⟩ := Option.bind_eq_some_iff.1 (Except.ok.inj hprocess)
      obtain ⟨round, hround, hprice, rfl⟩ := processEvent_eq_some.1 hprocessed
      exact ⟨_, round, _, .xExchange hdecode, hround, hprice, rfl⟩
    | oneDex =>
      obtain ⟨event, hdecode, hprocess⟩ := bind_eq_ok.1 h
      obtain ⟨event, rfl, hprocessed⟩ := Option.bind_eq_some_iff.1 (Except.ok.inj hprocess)
      obtain ⟨round, hround, hprice, rfl⟩ := processEvent_eq_some.1 hprocessed
      exact ⟨_, round, _, .oneDex hdecode, hround, hprice, rfl⟩
  · rintro ⟨timestamp, round, event, hdecodes, hround, hprice, rfl⟩
    cases hdecodes with
    | xExchange hdecode =>
      refine bind_eq_ok.2 ⟨_, hdecode, congrArg Except.ok ?_⟩
      exact processEvent_eq_some.2 ⟨round, hround, hprice, rfl⟩
    | oneDex hdecode =>
      refine bind_eq_ok.2 ⟨_, hdecode, congrArg Except.ok ?_⟩
      exact processEvent_eq_some.2 ⟨round, hround, hprice, rfl⟩

/-- **What the loop reports**: the documents that are kept, each converted, in the first round of
its timestamp. -/
theorem report_eq_some_iff {d : Dex × ElasticEvent} {re : ResponseEvent} :
    l.report d = .ok (some re) ↔
      ∃ timestamp round event, l.Kept d timestamp round event ∧
        re = { block := Block.fromElasticRound round true, event := event } := by
  unfold report
  constructor
  · intro h
    split at h
    · rename_i hsearched
      obtain ⟨timestamp, round, event, hdecodes, hround, hprice, rfl⟩ := convertRaw_eq_some.1 h
      exact ⟨timestamp, round, event,
        ⟨hsearched, hdecodes.pairFound, hdecodes, findRound_eq_some_iff.1 hround, hprice⟩, rfl⟩
    · cases h
  · rintro ⟨timestamp, round, event, hkept, rfl⟩
    rw [if_pos hkept.searched]
    exact convertRaw_eq_some.2
      ⟨timestamp, round, event, hkept.decodes, hkept.round, hkept.priced, rfl⟩

/-- A document that is reported has a class that returns. -/
theorem Kept.constructs {d : Dex × ElasticEvent} {t : JsNumber} {round : ElasticRound}
    {event : DexEvent} (h : l.Kept d t round event) : l.Constructs d :=
  l.succeeds_report.1 ⟨_, report_eq_some_iff.2 ⟨t, round, event, h, rfl⟩⟩ h.searched

section

variable (l)

/-- The document is reported, at this timestamp. -/
def ReportedAt (d : Dex × ElasticEvent) (timestamp : JsNumber) : Prop :=
  ∃ round event, l.Kept d timestamp round event

theorem pushed_eq_some_iff {d : Dex × ElasticEvent} {re : ResponseEvent} :
    pushed l.report d = some re ↔
      ∃ timestamp round event, l.Kept d timestamp round event ∧
        re = { block := Block.fromElasticRound round true, event := event } :=
  Collect.pushed_eq_some_iff.trans report_eq_some_iff

variable {l} in
theorem Kept.pushed_eq {d : Dex × ElasticEvent} {t : JsNumber} {round : ElasticRound}
    {event : DexEvent} (h : l.Kept d t round event) :
    pushed l.report d =
      some { block := Block.fromElasticRound round true, event := event } :=
  l.pushed_eq_some_iff.2 ⟨t, round, event, h, rfl⟩

theorem round_timestamp {timestamp : JsNumber} {rounds : List ElasticRound} {round : ElasticRound}
    (h : findRound rounds timestamp = some round) : timestamp = .num round.timestamp := by
  have hround : timestamp.strictEq round.timestamp = true := by simpa using List.find?_some h
  exact JsNumber.strictEq_iff.1 hround

end

end Lookups

end DexAdapter
