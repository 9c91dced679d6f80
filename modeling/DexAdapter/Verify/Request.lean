import DexAdapter.Reference

/-!
# A request as one loop

`Snapshot` is the pairs that a call reads, `Lookups` adds the rounds of its range, and `Request` the
documents that the scroll hands to each provider. The two passes of each provider (decode and
convert) and the two providers fuse into one loop over all documents: `Lookups.report` is its body,
and `Request.getEvents_eq` says that `getEvents` is this loop followed by `publish`. A request can
be repeated with other documents (`Request.handing`), which changes nothing but the list the loop
runs over.
-/

namespace DexAdapter

open Collect DataIntegrationService

/-- The provider that fetched a document. -/
inductive Dex where
  | xExchange
  | oneDex
  deriving DecidableEq, Repr

/-- The pairs of the providers, as one request reads them. -/
structure Snapshot (env : Env) where
  xPairs : List XExchangePair
  xPairs_eq : XExchangeService.getPairs env = .ok xPairs
  oPairs : List OneDexPair
  oPairs_eq : OneDexService.getPairs env = .ok oPairs

namespace Snapshot

variable {env : Env} (s : Snapshot env)

def addresses : Dex → List String
  | .xExchange => s.xPairs.map fun p => p.address
  | .oneDex => [env.apiConfigService.oneDexSwapAddress]

def eventNames (_ : Snapshot env) : Dex → List String
  | .xExchange => XExchangeService.eventNames env
  | .oneDex => OneDexService.eventNames env

def isSearched (d : Dex × ElasticEvent) : Bool :=
  IndexerService.isSearched (s.addresses d.1) (s.eventNames d.1) d.2

/-- An environment has one snapshot at most. -/
theorem eq_of_env (s s' : Snapshot env) : s = s' := by
  obtain ⟨xPairs, hx, oPairs, ho⟩ := s
  obtain ⟨xPairs', hx', oPairs', ho'⟩ := s'
  obtain rfl := Except.ok.inj (hx.symm.trans hx')
  obtain rfl := Except.ok.inj (ho.symm.trans ho')
  rfl

/-- The event class that the topic of the document names returns. -/
def Constructs : Dex × ElasticEvent → Prop
  | (.xExchange, e) => Succeeds (XExchangeService.decodeRaw env s.xPairs e)
  | (.oneDex, e) => Succeeds (OneDexService.decodeRaw env s.oPairs e)

end Snapshot

/-- What a request reads before it asks for events. -/
structure Lookups (env : Env) (fromBlock toBlock : Int) extends Snapshot env where
  rounds : List ElasticRound
  rounds_ne : rounds ≠ []
  rounds_eq : IndexerService.getRounds env.elasticService fromBlock toBlock = .ok rounds

namespace Lookups

variable {env : Env} {fromBlock toBlock : Int} (l : Lookups env fromBlock toBlock)

def after : Nat := (l.rounds.head l.rounds_ne).timestamp

def before : Nat := (l.rounds.getLast l.rounds_ne).timestamp

def query (dex : Dex) : ElasticQuery :=
  IndexerService.eventsQuery l.before l.after (l.addresses dex) (l.eventNames dex)

/-- What becomes of a document that the provider asked for: decoded by its class, converted. -/
def convertRaw (e : ElasticEvent) : Dex → Result (Option ResponseEvent)
  | .xExchange => do
    let event ← XExchangeService.decodeRaw env l.xPairs e
    pure (event.bind (processEvent (xExchangeService env) l.rounds))
  | .oneDex => do
    let event ← OneDexService.decodeRaw env l.oPairs e
    pure (event.bind (processEvent (oneDexService env) l.rounds))

/-- What one fetched document adds to the response. -/
def report (d : Dex × ElasticEvent) : Result (Option ResponseEvent) :=
  if l.isSearched d then l.convertRaw d.2 d.1 else .ok none

theorem succeeds_convertRaw {d : Dex × ElasticEvent} :
    Succeeds (l.convertRaw d.2 d.1) ↔ l.Constructs d := by
  obtain ⟨dex, e⟩ := d
  cases dex with
  | xExchange =>
    refine succeeds_bind.trans ⟨?_, ?_⟩
    · rintro ⟨event, hdecode, -⟩
      exact ⟨event, hdecode⟩
    · rintro ⟨event, hdecode⟩
      exact ⟨event, hdecode, succeeds_ok _⟩
  | oneDex =>
    refine succeeds_bind.trans ⟨?_, ?_⟩
    · rintro ⟨event, hdecode, -⟩
      exact ⟨event, hdecode⟩
    · rintro ⟨event, hdecode⟩
      exact ⟨event, hdecode, succeeds_ok _⟩

/-- The body throws when a document that the provider asked for has a class that throws. -/
theorem succeeds_report {d : Dex × ElasticEvent} :
    Succeeds (l.report d) ↔ (l.isSearched d = true → l.Constructs d) := by
  unfold report
  split
  · rename_i hsearched
    rw [l.succeeds_convertRaw]
    exact ⟨fun h _ => h, fun h => h hsearched⟩
  · rename_i hsearched
    exact ⟨fun _ h => absurd h hsearched, fun _ => succeeds_ok _⟩

/-- The two providers ask for different numbers of event names. -/
theorem query_injective : Function.Injective l.query := by
  have h : l.query .xExchange ≠ l.query .oneDex := by
    intro heq
    have hconds := congrArg ElasticQuery.mustConditions heq
    simp [query, Snapshot.eventNames, IndexerService.eventsQuery, XExchangeService.eventNames,
      OneDexService.eventNames] at hconds
  rintro (_ | _) (_ | _) heq
  · rfl
  · exact absurd heq h
  · exact absurd heq.symm h
  · rfl

end Lookups

/-- The documents that each provider receives, in the order of the loops. -/
def occurrencesOf (raw : Dex → List ElasticEvent) : List (Dex × ElasticEvent) :=
  ((raw .xExchange).map fun e => (Dex.xExchange, e)) ++
    (raw .oneDex).map fun e => (Dex.oneDex, e)

theorem mem_occurrencesOf {raw : Dex → List ElasticEvent} {d : Dex × ElasticEvent} :
    d ∈ occurrencesOf raw ↔ d.2 ∈ raw d.1 := by
  rcases d with ⟨_ | _, e⟩ <;> simp [occurrencesOf]

/-- A request whose lookups succeed, with the pages the scroll hands to each provider. -/
structure Request (env : Env) (fromBlock toBlock : Int) extends Lookups env fromBlock toBlock where
  pages : Dex → List (List ElasticEvent)
  pages_eq : ∀ dex, env.elasticService.events (toLookups.query dex) = .ok (pages dex)

namespace Request

variable {env : Env} {fromBlock toBlock : Int} (r : Request env fromBlock toBlock)

/-- The documents handed to a provider, in the order of the scroll. -/
def raw (dex : Dex) : List ElasticEvent := (r.pages dex).flatten

def occurrences : List (Dex × ElasticEvent) := occurrencesOf r.raw

theorem mem_occurrences {d : Dex × ElasticEvent} : d ∈ r.occurrences ↔ d.2 ∈ r.raw d.1 :=
  mem_occurrencesOf

/-- The scroll goes through the documents of the index that match. -/
theorem mem_raw {indices : Indices} (hserves : env.elasticService.Serves indices) {dex : Dex}
    {e : ElasticEvent} :
    e ∈ r.raw dex ↔ e ∈ indices.events ∧ (r.query dex).matches e = true := by
  obtain ⟨pages, hpages, hperm⟩ := hserves.events (r.query dex)
  rw [r.pages_eq, Except.ok.injEq] at hpages
  rw [Request.raw, hpages, hperm.mem_iff, List.mem_filter]

/-- A document that the provider asked for is fetched when its timestamp is in the range. -/
theorem mem_raw_of_isSearched {indices : Indices} (hserves : env.elasticService.Serves indices)
    {dex : Dex} {e : ElasticEvent} (hsearched : r.isSearched (dex, e) = true) :
    e ∈ r.raw dex ↔ e ∈ indices.events ∧ r.after ≤ e.timestamp ∧ e.timestamp ≤ r.before := by
  rw [r.mem_raw hserves, Lookups.query, IndexerService.matches_eventsQuery hsearched]

theorem getEvents_raw (dex : Dex) :
    IndexerService.getEvents env.elasticService r.before r.after (r.addresses dex)
        (r.eventNames dex) =
      .ok ((r.raw dex).filter
        (IndexerService.isSearched (r.addresses dex) (r.eventNames dex))) := by
  have h := r.pages_eq dex
  unfold Lookups.query at h
  rw [IndexerService.getEvents, h]
  rfl

/-! ## One loop -/

/-- The loop of a provider, then the loop of `processEvents`. -/
theorem collect_report (dex : Dex) {β : Type} (decodeRaw : ElasticEvent → Result (Option β))
    (process : β → Option ResponseEvent)
    (h : ∀ e, r.convertRaw e dex = (decodeRaw e >>= fun event => pure (event.bind process))) :
    (collect decodeRaw ((r.raw dex).filter
        (IndexerService.isSearched (r.addresses dex) (r.eventNames dex))) >>=
      fun events => pure (events.filterMap process)) =
        collect r.report ((r.raw dex).map fun e => (dex, e)) := by
  rw [collect_filterMap, collect_filter, collect_map]
  congr 1
  funext e
  rw [← h]
  rfl

theorem gatherEvents_eq :
    gatherEvents r.before r.after r.rounds (providers env) = collect r.report r.occurrences := by
  have hx : ((xExchangeService env).getEvents r.before r.after >>= fun events =>
      pure (processEvents (xExchangeService env) events r.rounds)) =
        collect r.report ((r.raw .xExchange).map fun e => (Dex.xExchange, e)) := by
    rw [← r.collect_report .xExchange _ _ fun _ => rfl]
    have hraw := r.getEvents_raw .xExchange
    simp only [Snapshot.addresses, Snapshot.eventNames] at hraw
    simp only [XExchangeService.getEvents, r.xPairs_eq, ok_bind, hraw]
    rfl
  have ho : ((oneDexService env).getEvents r.before r.after >>= fun events =>
      pure (processEvents (oneDexService env) events r.rounds)) =
        collect r.report ((r.raw .oneDex).map fun e => (Dex.oneDex, e)) := by
    rw [← r.collect_report .oneDex _ _ fun _ => rfl]
    have hraw := r.getEvents_raw .oneDex
    simp only [Snapshot.addresses, Snapshot.eventNames] at hraw
    simp only [OneDexService.getEvents, r.oPairs_eq, ok_bind, hraw]
    rfl
  rw [occurrences, occurrencesOf, collect_append, ← hx, ← ho, providers, gatherEvents]
  cases (xExchangeService env).getEvents r.before r.after with
  | error e => rfl
  | ok xEvents =>
    simp only [ok_bind, pure_eq_ok, gatherEvents, List.append_nil]

/-- **Normal form** of a request: one loop over all documents, then `publish`. -/
theorem getEvents_eq :
    getEvents env fromBlock toBlock =
      (collect r.report r.occurrences >>= fun events => pure (publish env events)) := by
  have hne := r.rounds_ne
  have hgather := r.gatherEvents_eq
  rw [DataIntegrationService.getEvents, r.rounds_eq, ok_bind]
  unfold Lookups.before Lookups.after at hgather
  rcases hr : r.rounds with _ | ⟨first, rest⟩
  · exact absurd hr hne
  · simp only [hr, List.head_cons] at hgather ⊢
    rw [← hgather]

/-! ## Requests whose events decode -/

/-- No event class throws on a document it is given. -/
def Decodable : Prop := ∀ d ∈ r.occurrences, r.isSearched d = true → r.Constructs d

theorem Decodable.report {r : Request env fromBlock toBlock} (h : r.Decodable)
    {d : Dex × ElasticEvent} (hd : d ∈ r.occurrences) : Succeeds (r.report d) :=
  r.succeeds_report.2 (h d hd)

/-- The events of a request before they are published. -/
def reported : List ResponseEvent := r.occurrences.filterMap (pushed r.report)

theorem getEvents_of_decodable (h : r.Decodable) :
    getEvents env fromBlock toBlock = .ok (publish env r.reported) := by
  rw [r.getEvents_eq, collect_eq_ok fun _ hd => h.report hd]
  rfl

theorem succeeds_getEvents : Succeeds (getEvents env fromBlock toBlock) ↔ r.Decodable := by
  rw [r.getEvents_eq, succeeds_bind]
  constructor
  · rintro ⟨events, heq, -⟩ d hd
    exact r.succeeds_report.1 (collect_isOk.1 ⟨events, heq⟩ d hd)
  · intro h
    exact ⟨_, collect_eq_ok fun _ hd => h.report hd, succeeds_ok _⟩

/-! ## The same request with other documents -/

/-- The documents of the request, with the list of one provider replaced. -/
def replaced (dex : Dex) (events : List ElasticEvent) : Dex → List ElasticEvent :=
  fun dex' => if dex' = dex then events else r.raw dex'

/-- The environment in which the scroll hands these documents to the providers of the request. -/
def handing (raw : Dex → List ElasticEvent) : Env :=
  { env with
    elasticService := { env.elasticService with
      events := fun query =>
        if query = r.query .xExchange then .ok [raw .xExchange]
        else if query = r.query .oneDex then .ok [raw .oneDex]
        else env.elasticService.events query } }

def handed (raw : Dex → List ElasticEvent) : Request (r.handing raw) fromBlock toBlock where
  rounds := r.rounds
  rounds_ne := r.rounds_ne
  rounds_eq := r.rounds_eq
  xPairs := r.xPairs
  xPairs_eq := r.xPairs_eq
  oPairs := r.oPairs
  oPairs_eq := r.oPairs_eq
  pages dex := [raw dex]
  pages_eq
    | .xExchange => if_pos rfl
    | .oneDex => by
      have hne : r.query .oneDex ≠ r.query .xExchange := fun h => by
        cases r.query_injective h
      exact (if_neg hne).trans (if_pos rfl)

theorem occurrences_handed (raw : Dex → List ElasticEvent) :
    (r.handed raw).occurrences = occurrencesOf raw := by
  simp only [occurrences, occurrencesOf, Request.raw, handed, List.flatten_cons, List.flatten_nil,
    List.append_nil]

/-- The conversions do not read the documents of the index. -/
theorem processEvent_handing (raw : Dex → List ElasticEvent) :
    (∀ event : XExchangeService.Event,
      processEvent (xExchangeService (r.handing raw)) r.rounds event =
        processEvent (xExchangeService env) r.rounds event) ∧
    ∀ event : OneDexService.Event,
      processEvent (oneDexService (r.handing raw)) r.rounds event =
        processEvent (oneDexService env) r.rounds event := by
  constructor
  · rintro (event | event) <;> rfl
  · rintro (event | event) <;> rfl

theorem report_handed (raw : Dex → List ElasticEvent) : (r.handed raw).report = r.report := by
  obtain ⟨hx, ho⟩ := r.processEvent_handing raw
  have hconvert : ∀ e dex, (r.handed raw).convertRaw e dex = r.convertRaw e dex := by
    intro e dex
    cases dex with
    | xExchange =>
      show (XExchangeService.decodeRaw env r.xPairs e >>= fun event => pure (event.bind
        (processEvent (xExchangeService (r.handing raw)) r.rounds))) = _
      rw [funext hx]
      rfl
    | oneDex =>
      show (OneDexService.decodeRaw env r.oPairs e >>= fun event => pure (event.bind
        (processEvent (oneDexService (r.handing raw)) r.rounds))) = _
      rw [funext ho]
      rfl
  funext d
  have hsearched : (r.handed raw).isSearched d = r.isSearched d := by
    obtain ⟨dex, e⟩ := d
    cases dex <;> rfl
  unfold Lookups.report
  rw [hsearched, hconvert]

/-- Only the documents change: body and publication are those of the request. -/
theorem getEvents_handing (raw : Dex → List ElasticEvent) :
    getEvents (r.handing raw) fromBlock toBlock =
      (collect r.report (occurrencesOf raw) >>= fun events => pure (publish env events)) := by
  rw [(r.handed raw).getEvents_eq, r.occurrences_handed, r.report_handed]
  rfl

end Request

theorem pages_of_getEvents {elasticService : ElasticService} {before after : Nat}
    {addresses eventNames : List String} {events : List ElasticEvent}
    (h : IndexerService.getEvents elasticService before after addresses eventNames = .ok events) :
    ∃ pages, elasticService.events
      (IndexerService.eventsQuery before after addresses eventNames) = .ok pages := by
  obtain ⟨pages, hpages, -⟩ := bind_eq_ok.1 h
  exact ⟨pages, hpages⟩

/-- The call reads its range through the rounds only. -/
theorem getEvents_congr {env : Env} {a b c d : Int}
    (h : IndexerService.getRounds env.elasticService a b =
      IndexerService.getRounds env.elasticService c d) :
    getEvents env a b = getEvents env c d := by
  rw [getEvents, getEvents, h]

theorem getEvents_of_no_rounds {env : Env} {a b : Int}
    (h : IndexerService.getRounds env.elasticService a b = .ok []) :
    getEvents env a b = .ok [] := by
  rw [getEvents, h]
  rfl

/-- A call that succeeds found no rounds, or is a request. -/
theorem request_of_getEvents {env : Env} {fromBlock toBlock : Int} {events : List ResponseEvent}
    (h : getEvents env fromBlock toBlock = .ok events) :
    (IndexerService.getRounds env.elasticService fromBlock toBlock = .ok [] ∧ events = []) ∨
      Nonempty (Request env fromBlock toBlock) := by
  obtain ⟨rounds, hrounds, h⟩ := bind_eq_ok.1 h
  rcases rounds with _ | ⟨first, rest⟩
  · exact Or.inl ⟨hrounds, (Except.ok.inj h).symm⟩
  · obtain ⟨allEvents, hgather, -⟩ := bind_eq_ok.1 h
    obtain ⟨xEvents, hx, hgather⟩ := bind_eq_ok.1 hgather
    obtain ⟨restEvents, hgather, -⟩ := bind_eq_ok.1 hgather
    obtain ⟨oEvents, ho, -⟩ := bind_eq_ok.1 hgather
    obtain ⟨xPairs, hxPairs, hx⟩ := bind_eq_ok.1 hx
    obtain ⟨xRaw, hxRaw, -⟩ := bind_eq_ok.1 hx
    obtain ⟨oPairs, hoPairs, ho⟩ := bind_eq_ok.1 ho
    obtain ⟨oRaw, hoRaw, -⟩ := bind_eq_ok.1 ho
    obtain ⟨xPages, hxPages⟩ := pages_of_getEvents hxRaw
    obtain ⟨oPages, hoPages⟩ := pages_of_getEvents hoRaw
    refine Or.inr ⟨{
      rounds := first :: rest
      rounds_ne := List.cons_ne_nil _ _
      rounds_eq := hrounds
      xPairs := xPairs
      xPairs_eq := hxPairs
      oPairs := oPairs
      oPairs_eq := hoPairs
      pages := fun
        | .xExchange => xPages
        | .oneDex => oPages
      pages_eq := ?_ }⟩
    intro dex
    cases dex with
    | xExchange => exact hxPages
    | oneDex => exact hoPages

/-- Over an index that is served, a range with rounds is a request. -/
theorem Snapshot.exists_request {env : Env} (s : Snapshot env) {indices : Indices}
    (hserves : env.elasticService.Serves indices) {fromBlock toBlock : Int}
    {rounds : List ElasticRound} (hne : rounds ≠ [])
    (hrounds : IndexerService.getRounds env.elasticService fromBlock toBlock = .ok rounds) :
    ∃ r : Request env fromBlock toBlock, r.rounds = rounds := by
  let l : Lookups env fromBlock toBlock :=
    { s with rounds := rounds, rounds_ne := hne, rounds_eq := hrounds }
  obtain ⟨xPages, hxPages, -⟩ := hserves.events (l.query .xExchange)
  obtain ⟨oPages, hoPages, -⟩ := hserves.events (l.query .oneDex)
  refine ⟨{
    l with
    pages := fun
      | .xExchange => xPages
      | .oneDex => oPages
    pages_eq := ?_ }, rfl⟩
  intro dex
  cases dex with
  | xExchange => exact hxPages
  | oneDex => exact hoPages

/-- A call that reports an event is a request whose events decode. -/
theorem decodable_of_getEvents {env : Env} {fromBlock toBlock : Int}
    (h : ((getEvents env fromBlock toBlock).toOption.getD []).isEmpty = false) :
    ∃ r : Request env fromBlock toBlock, r.Decodable := by
  cases hevents : getEvents env fromBlock toBlock with
  | error e =>
    rw [hevents] at h
    cases h
  | ok events =>
    rcases request_of_getEvents hevents with ⟨-, rfl⟩ | ⟨⟨r⟩⟩
    · rw [hevents] at h
      cases h
    · exact ⟨r, r.succeeds_getEvents.1 ⟨events, hevents⟩⟩

/-- Over the reference environment every range with a round is a request. -/
def Reference.request (indices : Indices) (routerEntries : List PairContractMetadata)
    (oneDexPairs : List OneDexRawPair) (fromBlock toBlock : Int)
    (h : ((IndexerService.roundsQuery fromBlock toBlock).pagination.slice
      (hits (IndexerService.roundsQuery fromBlock toBlock) indices.rounds)).map
        RoundDocument.toElasticRound ≠ []) :
    Request (env indices routerEntries oneDexPairs) fromBlock toBlock where
  rounds := ((IndexerService.roundsQuery fromBlock toBlock).pagination.slice
    (hits (IndexerService.roundsQuery fromBlock toBlock) indices.rounds)).map
      RoundDocument.toElasticRound
  rounds_ne := h
  rounds_eq := rfl
  xPairs := (routerEntries.map (XExchangeService.toPairMetadata config)).filterMap
    (pushed (XExchangeService.withDecimals (env indices routerEntries oneDexPairs)))
  xPairs_eq := by
    refine collect_eq_ok fun metadata _ => ?_
    unfold XExchangeService.withDecimals
    exact succeeds_bind.2 ⟨_, rfl, succeeds_bind.2 ⟨_, rfl, by split <;> exact succeeds_ok _⟩⟩
  oPairs := oneDexPairs.filterMap
    (pushed (OneDexService.toPair (env indices routerEntries oneDexPairs)))
  oPairs_eq := by
    refine collect_eq_ok fun rawPair _ => ?_
    unfold OneDexService.toPair
    exact succeeds_bind.2 ⟨_, rfl, succeeds_bind.2 ⟨_, rfl, by split <;> exact succeeds_ok _⟩⟩
  pages dex := [indices.events.filter (ElasticQuery.matches _)]
  pages_eq _ := rfl

namespace Reference

theorem marketEnv_decodable : ∃ r : Request marketEnv 10 11, r.Decodable :=
  decodable_of_getEvents (by decide +kernel)

theorem getEvents_market : DataIntegrationService.getEvents marketEnv 10 11 = .ok marketSwaps := by
  have h : (DataIntegrationService.getEvents marketEnv 10 11).toOption = some marketSwaps := by
    decide +kernel
  exact eq_ok_of_toOption h

end Reference

end DexAdapter
