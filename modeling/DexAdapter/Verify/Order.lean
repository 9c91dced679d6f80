import DexAdapter.Verify.Numbering
import DexAdapter.Verify.Request

/-!
# Order and numbering of the response

Where the timestamps of the rounds increase with the round number, what `getEvents` returns is
`Ordered`: the converted events, arranged by timestamp, index of the transaction, index of the event
and transaction hash, with block numbers that do not decrease and indices that are consecutive in
each block.
-/

namespace DexAdapter

open Collect DataIntegrationService StableSort ResponseEvent

/-- The timestamp of a round is a strictly increasing function of its number. -/
def TimestampsIncrease (rounds : List ElasticRound) : Prop :=
  ∀ r ∈ rounds, ∀ r' ∈ rounds, r.round < r'.round ↔ r.timestamp < r'.timestamp

/-- `a` may stand before `b`: the four keys, lexicographically. -/
def NotAfter (env : Env) (a b : ResponseEvent) : Prop :=
  a.stamp < b.stamp ∨ a.stamp = b.stamp ∧
    (a.txnIndex < b.txnIndex ∨ a.txnIndex = b.txnIndex ∧
      (a.eventIndex < b.eventIndex ∨ a.eventIndex = b.eventIndex ∧
        env.locale.localeCompare a.txnId b.txnId ≤ 0))

/-- The events of one block, in the order of the list. -/
def ofBlock (block : Block) (events : List ResponseEvent) : List ResponseEvent :=
  events.filter fun e => decide (e.block = block)

/-- `published` is the converted events in order, numbered block by block. -/
structure Ordered (env : Env) (events published : List ResponseEvent) : Prop where
  /-- patching the callers changes nothing but makers -/
  patched : (updateEventsCaller env events).map (setMaker "") = events.map (setMaker "")
  /-- the keys are those of the converted events: `txnIndex` is still the indexer's `txOrder` -/
  arranged : ∃ sorted : List ResponseEvent, sorted.Perm (updateEventsCaller env events) ∧
    sorted.Pairwise (NotAfter env) ∧ published.map forget = sorted.map forget
  blockNumber : published.Pairwise fun a b => a.block.blockNumber ≤ b.block.blockNumber
  consecutive : ∀ block : Block, ∃ first, (block.blockTimestamp ≠ 0 → first = 0) ∧
    (ofBlock block published).map (fun e => e.txnIndex) =
      List.range' first (ofBlock block published).length
  increasing : published.Pairwise fun a b => a.block.blockNumber < b.block.blockNumber ∨
    a.block.blockNumber = b.block.blockNumber ∧ a.txnIndex < b.txnIndex

/-! ## Blocks of rounds -/

section Rounds

variable {rounds : List ElasticRound}

/-- The block of the event is a round of the list. -/
def InRounds (rounds : List ElasticRound) (e : ResponseEvent) : Prop :=
  ∃ round ∈ rounds, e.block = Block.fromElasticRound round true

theorem inRounds_of_mem_processEvents {provider : IProviderService}
    {generalEvents : List (ClassEvent provider)} {e : ResponseEvent}
    (h : e ∈ processEvents provider generalEvents rounds) : InRounds rounds e := by
  obtain ⟨generalEvent, -, hprocess⟩ := List.mem_filterMap.1 h
  unfold processEvent at hprocess
  cases hfind : findRound rounds (provider.general generalEvent).timestamp with
  | none =>
    rw [hfind] at hprocess
    cases hprocess
  | some round =>
    simp only [hfind] at hprocess
    split at hprocess
    · cases hprocess
    · obtain rfl := Option.some.inj hprocess
      exact ⟨round, List.mem_of_find?_eq_some hfind, rfl⟩

variable (hincrease : TimestampsIncrease rounds) {a b : ResponseEvent} (ha : InRounds rounds a)
  (hb : InRounds rounds b)

include hincrease ha hb

theorem blockNumber_lt_iff : a.block.blockNumber < b.block.blockNumber ↔ a.stamp < b.stamp := by
  obtain ⟨r, hr, har⟩ := ha
  obtain ⟨r', hr', hbr⟩ := hb
  simp only [stamp, har, hbr, Block.blockNumber_fromElasticRound,
    Block.blockTimestamp_fromElasticRound]
  exact hincrease r hr r' hr'

/-- A timestamp of the list belongs to one block. -/
theorem block_eq_iff : a.block = b.block ↔ a.stamp = b.stamp := by
  refine ⟨fun h => congrArg Block.blockTimestamp h, fun h => ?_⟩
  have hlt := blockNumber_lt_iff hincrease ha hb
  have hgt := blockNumber_lt_iff hincrease hb ha
  obtain ⟨r, -, har⟩ := ha
  obtain ⟨r', -, hbr⟩ := hb
  simp only [stamp, har, hbr, Block.blockNumber_fromElasticRound,
    Block.blockTimestamp_fromElasticRound] at hlt hgt h
  have hround : r.round = r'.round := by omega
  rw [har, hbr]
  simp only [Block.fromElasticRound, if_true, hround, h]

end Rounds

/-! ## The published list -/

section Publish

variable {env : Env} {rounds : List ElasticRound}

theorem notAfter_of_compareEvents {a b : ResponseEvent} (h : compareEvents env a b ≤ 0) :
    NotAfter env a b := by
  have step : ∀ {key : ResponseEvent → Nat} {next : ResponseEvent → ResponseEvent → Int},
      lexBy key next a b ≤ 0 → key a < key b ∨ key a = key b ∧ next a b ≤ 0 := by
    intro key next hlex
    rcases Nat.lt_or_eq_of_le (key_le_of_lexBy hlex) with hlt | heq
    · exact Or.inl hlt
    · rw [lexBy, if_neg (not_not.2 heq)] at hlex
      exact Or.inr ⟨heq, hlex⟩
  rw [compareEvents_eq] at h
  rcases step h with h | ⟨hstamp, h⟩
  · exact Or.inl h
  rcases step h with h | ⟨hindex, h⟩
  · exact Or.inr ⟨hstamp, Or.inl h⟩
  · exact Or.inr ⟨hstamp, Or.inr ⟨hindex, step h⟩⟩

/-- Publishing keeps the blocks. -/
theorem inRounds_of_mem_publish {events : List ResponseEvent}
    (h : ∀ e ∈ events, InRounds rounds e) {e : ResponseEvent} (he : e ∈ publish env events) :
    InRounds rounds e := by
  have hblocks :
      ((publish env events).map fun e => e.block).Perm (events.map fun e => e.block) := by
    apply publish_map_perm
    · intro i e
      rfl
    · intro maker e
      rfl
  obtain ⟨f, hf, hblock⟩ := List.mem_map.1 (hblocks.mem_iff.1 (List.mem_map_of_mem he))
  obtain ⟨round, hround, hfr⟩ := h f hf
  exact ⟨round, hround, hblock.symm.trans hfr⟩

theorem publish_stamps (events : List ResponseEvent) :
    (publish env events).Pairwise fun a b => a.stamp ≤ b.stamp := by
  have hsorted := ((compareEvents_consistent env).sortBy_pairwise
    (updateEventsCaller env events)).imp stamp_le_of_compareEvents
  have hstamps := List.pairwise_map.2 hsorted
  rw [← renumber_stamp 0 0] at hstamps
  exact List.pairwise_map.1 hstamps

theorem publish_consecutive (events : List ResponseEvent) (s : Nat) :
    ((publish env events).filter fun e => decide (e.stamp = s)).map (fun e => e.txnIndex) =
      List.range' (if s = 0 then 1 else 0)
        ((publish env events).filter fun e => decide (e.stamp = s)).length := by
  have hsorted := ((compareEvents_consistent env).sortBy_pairwise
    (updateEventsCaller env events)).imp stamp_le_of_compareEvents
  have h := renumber_consecutive (i := 0) hsorted (fun e _ => Nat.zero_le e.stamp) s
  have hlength := congrArg List.length h
  rw [List.length_map, List.length_range'] at hlength
  unfold publish
  rw [h, hlength]

/-- The replacement of a caller touches the maker only. -/
theorem updateCaller_setMaker (transactions : List ElasticTransaction) (m : String)
    (e : ResponseEvent) : (updateCaller env transactions e).setMaker m = e.setMaker m := by
  obtain ⟨maker, h⟩ : ∃ maker, updateCaller env transactions e = e.setMaker maker :=
    updateCaller_eq_setMaker e
  rw [h, setMaker_setMaker]

/-- The events of a block are those of its timestamp. -/
theorem ofBlock_publish (hincrease : TimestampsIncrease rounds) {events : List ResponseEvent}
    (h : ∀ e ∈ events, InRounds rounds e) {e : ResponseEvent} (he : e ∈ publish env events) :
    ofBlock e.block (publish env events) =
      (publish env events).filter fun f => decide (f.stamp = e.stamp) := by
  apply List.filter_congr
  intro f hf
  apply decide_eq_decide.2
  exact block_eq_iff hincrease (inRounds_of_mem_publish h hf) (inRounds_of_mem_publish h he)

/-- **The published list is ordered**, whatever events of the rounds it is made from. -/
theorem publish_ordered (hincrease : TimestampsIncrease rounds) {events : List ResponseEvent}
    (h : ∀ e ∈ events, InRounds rounds e) : Ordered env events (publish env events) where
  patched := by
    unfold updateEventsCaller
    rw [List.map_map]
    exact List.map_congr_left fun e _ => updateCaller_setMaker _ "" e
  arranged := by
    refine ⟨_, sortBy_perm (compareEvents env) (updateEventsCaller env events), ?_, ?_⟩
    · exact ((compareEvents_consistent env).sortBy_pairwise _).imp notAfter_of_compareEvents
    · exact renumber_forget 0 0 _
  blockNumber := by
    refine (publish_stamps events).imp_of_mem fun {a b} ha hb hle => ?_
    have := blockNumber_lt_iff hincrease (inRounds_of_mem_publish h hb)
      (inRounds_of_mem_publish h ha)
    omega
  consecutive block := by
    by_cases hblock : ∃ e ∈ publish env events, e.block = block
    · obtain ⟨e, he, rfl⟩ := hblock
      refine ⟨if e.stamp = 0 then 1 else 0, fun hzero => if_neg hzero, ?_⟩
      rw [ofBlock_publish hincrease h he]
      exact publish_consecutive events e.stamp
    · have hnone : ofBlock block (publish env events) = [] := by
        refine List.filter_eq_nil_iff.2 fun e he hblock' => hblock ⟨e, he, ?_⟩
        simpa using hblock'
      exact ⟨0, fun _ => rfl, by rw [hnone]; rfl⟩
  increasing := by
    refine ((publish_stamps events).and (publish_pairwise events)).imp_of_mem
      fun {a b} ha hb hab => ?_
    have ha := inRounds_of_mem_publish h ha
    have hb := inRounds_of_mem_publish h hb
    have hlt := blockNumber_lt_iff hincrease ha hb
    have hgt := blockNumber_lt_iff hincrease hb ha
    obtain ⟨hle, hindex⟩ := hab
    rcases Nat.lt_or_eq_of_le hle with hstamp | hstamp
    · exact Or.inl (hlt.2 hstamp)
    · refine Or.inr ⟨?_, hindex hstamp⟩
      omega

end Publish

/-! ## The response -/

section Response

variable (env : Env)

/-- The converted events of the two providers. -/
def converted (rounds : List ElasticRound) (xExchangeEvents : List XExchangeService.Event)
    (oneDexEvents : List OneDexService.Event) : List ResponseEvent :=
  processEvents (xExchangeService env) xExchangeEvents rounds ++
    processEvents (oneDexService env) oneDexEvents rounds

variable {env}

theorem inRounds_of_mem_converted {rounds : List ElasticRound}
    {xExchangeEvents : List XExchangeService.Event} {oneDexEvents : List OneDexService.Event}
    {e : ResponseEvent} (h : e ∈ converted env rounds xExchangeEvents oneDexEvents) :
    InRounds rounds e := by
  rcases List.mem_append.1 h with h | h
  · exact inRounds_of_mem_processEvents h
  · exact inRounds_of_mem_processEvents h

/-- What `getEvents` returns is the published list of the events that its two providers return. -/
theorem eq_publish_converted {fromBlock toBlock : Int} {rounds : List ElasticRound}
    {published : List ResponseEvent}
    (hrounds : IndexerService.getRounds env.elasticService fromBlock toBlock = .ok rounds)
    (h : getEvents env fromBlock toBlock = .ok published) :
    ∃ xExchangeEvents oneDexEvents,
      (∀ hne : rounds ≠ [],
        XExchangeService.getEvents env (rounds.getLast hne).timestamp (rounds.head hne).timestamp =
            .ok xExchangeEvents ∧
          OneDexService.getEvents env (rounds.getLast hne).timestamp
            (rounds.head hne).timestamp = .ok oneDexEvents) ∧
      published = publish env (converted env rounds xExchangeEvents oneDexEvents) := by
  rw [DataIntegrationService.getEvents, hrounds, ok_bind] at h
  cases rounds with
  | nil =>
    refine ⟨[], [], fun hne => absurd rfl hne, ?_⟩
    exact (Except.ok.inj h).symm
  | cons first rest =>
    obtain ⟨allEvents, hgather, h⟩ := bind_eq_ok.1 h
    obtain ⟨xExchangeEvents, hx, hgather⟩ := bind_eq_ok.1 hgather
    obtain ⟨restEvents, hrest, hgather⟩ := bind_eq_ok.1 hgather
    obtain ⟨oneDexEvents, ho, hrest⟩ := bind_eq_ok.1 hrest
    refine ⟨xExchangeEvents, oneDexEvents, fun _ => ⟨hx, ho⟩, ?_⟩
    have hrest : processEvents (oneDexService env) oneDexEvents (first :: rest) = restEvents := by
      simpa only [gatherEvents, ok_bind, pure_eq_ok, List.append_nil, Except.ok.injEq] using hrest
    obtain rfl := Except.ok.inj h
    obtain rfl := Except.ok.inj hgather
    rw [converted, hrest]

/-- **Order and numbering of the response.** -/
theorem getEvents_ordered (env : Env) {rounds : List ElasticRound}
    (hincrease : TimestampsIncrease rounds) :
    (∀ xExchangeEvents oneDexEvents,
      Ordered env (converted env rounds xExchangeEvents oneDexEvents)
        (publish env (converted env rounds xExchangeEvents oneDexEvents))) ∧
    ∀ fromBlock toBlock published,
      IndexerService.getRounds env.elasticService fromBlock toBlock = .ok rounds →
      getEvents env fromBlock toBlock = .ok published →
      ∃ xExchangeEvents oneDexEvents,
        (∀ hne : rounds ≠ [],
          XExchangeService.getEvents env (rounds.getLast hne).timestamp
              (rounds.head hne).timestamp = .ok xExchangeEvents ∧
            OneDexService.getEvents env (rounds.getLast hne).timestamp
              (rounds.head hne).timestamp = .ok oneDexEvents) ∧
        published = publish env (converted env rounds xExchangeEvents oneDexEvents) := by
  constructor
  · intro xExchangeEvents oneDexEvents
    exact publish_ordered hincrease fun e he => inRounds_of_mem_converted he
  · intro fromBlock toBlock published hrounds h
    exact eq_publish_converted hrounds h

open Reference in
theorem getEvents_ordered_market :
    ∃ rounds xExchangeEvents oneDexEvents,
      IndexerService.getRounds marketEnv.elasticService 10 11 = .ok rounds ∧
      getEvents marketEnv 10 11 = .ok marketSwaps ∧
      Ordered marketEnv (converted marketEnv rounds xExchangeEvents oneDexEvents) marketSwaps := by
  obtain ⟨r, -⟩ := marketEnv_decodable
  have hrounds : r.rounds = [⟨10, 1, 6000⟩, ⟨11, 1, 6006⟩] := by
    have h := r.rounds_eq
    rw [show IndexerService.getRounds marketEnv.elasticService 10 11 =
      .ok [⟨10, 1, 6000⟩, ⟨11, 1, 6006⟩] by decide +kernel, Except.ok.injEq] at h
    exact h.symm
  have hincrease : TimestampsIncrease r.rounds := by
    rw [hrounds]
    unfold TimestampsIncrease
    decide
  obtain ⟨hordered, hresponse⟩ := getEvents_ordered marketEnv hincrease
  obtain ⟨xExchangeEvents, oneDexEvents, -, hpublished⟩ :=
    hresponse 10 11 _ r.rounds_eq getEvents_market
  refine ⟨r.rounds, xExchangeEvents, oneDexEvents, r.rounds_eq, getEvents_market, ?_⟩
  rw [hpublished]
  exact hordered xExchangeEvents oneDexEvents

end Response

end DexAdapter
