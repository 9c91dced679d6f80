import DexAdapter.Verify.History
import DexAdapter.Verify.Staleness

/-!
# Processes that work with copies of the pairs

Requests work with copies of the pairs that the cache of the processes returned, each process at its
own time. A copy that is returned long enough after a block has every pair that the block names, as
long as the router removes no pair that has events. So any two processes answer alike for blocks
that are old enough (`getEvents_eq_of_copies`), and a reader that asks for such blocks only, now
this process and now that one, has all that happened in them (`history_of_polls`).
-/

namespace DexAdapter

open Runs SharedCache ResponseEvent

variable {d : Deployment}

/-- The contracts have all pairs that events name: the router has removed none of these. -/
def World.KeepsPairs (w : World d) : Prop :=
  ∀ e ∈ w.chain.events,
    w.namedBy e { pairs := w.xExchange.list, rawPairs := w.oneDex.list } =
      w.namedBy e w.registered

/-- The world at each time. -/
structure Timeline (d : Deployment) where
  world : Nat → World d
  later : ∀ t t', t ≤ t' → (world t).Later (world t')

namespace Timeline

variable (timeline : Timeline d)

/-- The contracts answer with the pairs that they have at the time. -/
def gives : SourceHistory
  | time, .pairsMetadata, value => value = (timeline.world time).xExchange.list.map
      (XExchangeService.toPairMetadata d.apiConfigService)
  | time, .oneDexPairsMetadata, value => value = (timeline.world time).oneDex.list
  | _, _, _ => True

end Timeline

theorem XExchangeService.toPairMetadata_injective (config : ApiConfigService) :
    Function.Injective (toPairMetadata config) := by
  rintro ⟨first, second, address⟩ ⟨first', second', address'⟩ h
  simp only [toPairMetadata, PairMetadata.mk.injEq] at h
  obtain ⟨rfl, hfirst, hsecond, hinverted⟩ := h
  rw [← hinverted] at hfirst hsecond
  split at hfirst
  · rename_i hinv
    rw [if_pos hinv, if_pos hinv] at hsecond
    rw [hfirst, hsecond]
  · rename_i hinv
    rw [if_neg hinv, if_neg hinv] at hsecond
    rw [hfirst, hsecond]

/-- A request in `w` works with copies that calls of some process have returned, each so long after
`produced` that it is not of an earlier time. -/
structure WorksWith (package : CachePackage) (delay : Nat) (s : SharedCache) (produced : Nat)
    (w : World d) : Prop where
  pairs : ∃ (p i time given : Nat) (value : List PairMetadata),
    (s.processes p).calls[i]? = some (.returned .pairsMetadata time
      (.ok { item := .pairsMetadata, value := value, given := given })) ∧
    w.env.cachedPairsMetadata = some value ∧
    produced + staleness package delay .pairsMetadata ≤ time
  rawPairs : ∃ (p i time given : Nat) (value : List OneDexRawPair),
    (s.processes p).calls[i]? = some (.returned .oneDexPairsMetadata time
      (.ok { item := .oneDexPairsMetadata, value := value, given := given })) ∧
    w.env.cachedOneDexPairsMetadata = some value ∧
    produced + staleness package delay .oneDexPairsMetadata ≤ time

/-- A reader asks any processes for ranges that follow each other, each for blocks that are old
enough for the copies that the process works with. -/
inductive Polls (timeline : Timeline d) (package : CachePackage) (delay : Nat) (s : SharedCache)
    (first : Int) : World d → Int → List ResponseEvent → Prop where
  | start (w : World d) : Polls timeline package delay s first w first []
  | later {w w' : World d} {next : Int} {events : List ResponseEvent}
      (h : Polls timeline package delay s first w next events) (hsteps : World.Steps w w') :
      Polls timeline package delay s first w' next events
  | ask {w : World d} {next b : Int} {events new : List ResponseEvent} (produced : Nat)
      (h : Polls timeline package delay s first w next events) (hle : next ≤ b)
      (hpublished : w.Published b)
      (hlast : ∃ last ∈ (timeline.world produced).chain.rounds, last.shardId = METACHAIN ∧
        b ≤ last.round)
      (hproduced : (timeline.world produced).Later w)
      (hworks : WorksWith package delay s produced w)
      (hresponse : DataIntegrationController.getEvents w.env next b = .ok new) :
      Polls timeline package delay s first w (b + 1) (events ++ new)

section Copies

variable {timeline : Timeline d} {package : CachePackage} {delay produced : Nat}
  {actions : List Action} {s : SharedCache}
  (hsteps : EachStep (step package) (fun s a => s.Prompt delay ∧ AnswersAs timeline.gives s a)
    initial actions)
  (hrun : run (step package) initial actions = some s)
  (hkeeps : ∀ time, (timeline.world time).KeepsPairs) {w w' : World d} {a b : Int}
  (hlast : ∃ last ∈ (timeline.world produced).chain.rounds, last.shardId = METACHAIN ∧
    b ≤ last.round)

include hsteps hrun

/-- A value that is returned is the contract's of some time after `produced`. -/
theorem gives_of_returned {p i time given : Nat} {item : Cached} {value : item.Value}
    (hreturned : (s.processes p).calls[i]? = some
      (.returned item time (.ok { item := item, value := value, given := given })))
    (htime : produced + staleness package delay item ≤ time) :
    timeline.gives given item value ∧ produced ≤ given := by
  obtain ⟨⟨-, hgives⟩, -, hage⟩ := replied_of_run hsteps hrun hreturned
  change time ≤ given + staleness package delay item at hage
  exact ⟨hgives, by omega⟩

include hkeeps hlast

/-- Copies that are young enough have the pairs of the range. -/
theorem WorksWith.covers (h : WorksWith package delay s produced w)
    (hlater : (timeline.world produced).Later w) : w.Covers a b := by
  refine World.covers_of_read hlater hlast fun e he => PairEntries.ext ?_ ?_
  · obtain ⟨p, i, time, given, value, hreturned, hcache, htime⟩ := h.pairs
    obtain ⟨hgives, hgiven⟩ := gives_of_returned hsteps hrun hreturned htime
    have hlater := timeline.later produced given hgiven
    have hcopy : w.xExchange.used = (timeline.world given).xExchange.list := by
      obtain ⟨copy, hcopied, hvalue⟩ := Option.map_eq_some_iff.1 hcache
      have hinjective := XExchangeService.toPairMetadata_injective d.apiConfigService
      rw [CachedList.used, hcopied, Option.getD_some]
      exact List.map_injective_iff.2 hinjective (hvalue.trans hgives)
    have hkept := hkeeps given e (hlater.chain.events he)
    calc (w.xExchange.used.filter fun entry => entry.address == e.address)
      _ = (timeline.world given).xExchange.list.filter fun entry => entry.address == e.address := by
        rw [hcopy]
      _ = (timeline.world given).created.filter fun entry => entry.address == e.address :=
        congrArg PairEntries.pairs hkept
      _ = (timeline.world produced).created.filter fun entry => entry.address == e.address :=
        congrArg PairEntries.pairs (hlater.entries e he).symm
  · obtain ⟨p, i, time, given, value, hreturned, hcache, htime⟩ := h.rawPairs
    obtain ⟨hgives, hgiven⟩ := gives_of_returned hsteps hrun hreturned htime
    have hcopy : w.oneDex.used = (timeline.world given).oneDex.list := by
      have hcached : w.oneDex.cache = some value := hcache
      rw [CachedList.used, hcached, Option.getD_some]
      exact hgives
    have hentries := (timeline.later produced given hgiven).entries e he
    show ((w.oneDex.used.map OneDexRawPair.forEvents).filter _) = _
    rw [hcopy]
    exact congrArg PairEntries.rawPairs hentries.symm

/-- **Old enough blocks are answered alike** by all processes, whenever they are asked. -/
theorem getEvents_eq_of_copies (hbatch : d.sdk.batchUtils.Partitions)
    (h : WorksWith package delay s produced w) (h' : WorksWith package delay s produced w')
    (hproduced : (timeline.world produced).Later w) (hlater : w.Later w')
    (hpublished : w.Published b) :
    DataIntegrationController.getEvents w.env a b =
      DataIntegrationController.getEvents w'.env a b := by
  obtain ⟨block, hblock, hcomplete, hblockRound⟩ := hpublished
  refine World.getEvents_eq_of_agrees hbatch hlater hcomplete hblockRound hblock ?_
  exact World.agrees_of_covers hlater (h.covers hsteps hrun hkeeps hlast hproduced)
    (h'.covers hsteps hrun hkeeps hlast (hproduced.trans hlater))

omit hlast in
theorem Polls.follows {first next : Int} {events : List ResponseEvent}
    (h : Polls timeline package delay s first w next events) :
    World.Follows first w next events := by
  induction h with
  | start w => exact .start w
  | later _ hlater ih => exact ih.later hlater
  | ask produced _ hle hpublished hlast hproduced hworks hresponse ih =>
    exact ih.ask hle hpublished (hworks.covers hsteps hrun hkeeps hlast hproduced) hresponse

omit hlast in
/-- **A reader of old enough blocks** has what the chain says of them, up to the order and the index
in each block, whichever processes have answered and whatever their caches held. -/
theorem history_of_polls (hbatch : d.sdk.batchUtils.Partitions) {first next : Int}
    {events : List ResponseEvent} (h : Polls timeline package delay s first w next events)
    (htimestamps : w.withAllPairs.TimestampsAgree) :
    (events.map forget).Perm ((w.withAllPairs.history first (next - 1)).map forget) := by
  obtain ⟨count, rfl, hpublished, hblocks⟩ :=
    (h.follows hsteps hrun hkeeps).eq_withAllPairs hbatch .refl htimestamps
  exact World.concat_perm_history hbatch htimestamps hpublished hblocks

end Copies

/-! ## A process that has read the pairs -/

namespace Reference

open World SharedCache.Reference

def timeline : Timeline deployment where
  world _ := expired
  later _ _ _ := .refl _

theorem keepsPairs_timeline (time : Nat) : (timeline.world time).KeepsPairs :=
  fun _ _ => rfl

def pairsSources : Sources :=
  sources (expired.xExchange.list.map (XExchangeService.toPairMetadata deployment.apiConfigService))
    expired.oneDex.list

/-- Two hours later a process reads the pairs of both providers. -/
def readPairs : List SharedCache.Action :=
  [.wait 7200000, .get 1 .pairsMetadata, .get 1 .oneDexPairsMetadata, .readOwn 1 0, .readOwn 1 1,
    .readShared 1 0, .readShared 1 1, .answer 1 0 pairsSources, .answer 1 1 pairsSources,
    .writeOwn 1 0, .writeOwn 1 1, .writeShared 1 0, .writeShared 1 1]

theorem answersAs_readPairs :
    EachStep (step cachePackage) (fun s a => s.Prompt 0 ∧ AnswersAs timeline.gives s a) initial
      readPairs := by
  intro before a after t hcut ht
  have hprompt : EachStep (step cachePackage) (fun s _ => s.Prompt 0) initial readPairs :=
    prompt_of_heldSince (n := 2) (by decide) (by decide +kernel)
  refine ⟨hprompt before a after t hcut ht, answersAs_of_mem ?_ before a after t hcut ht⟩
  intro p i sources' hmem time item value hraw
  obtain rfl : sources' = pairsSources := by
    simp only [readPairs, List.mem_cons, List.not_mem_nil, or_false, reduceCtorEq, false_or,
      SharedCache.Action.answer.injEq] at hmem
    rcases hmem with ⟨-, -, h⟩ | ⟨-, -, h⟩ <;> exact h
  cases item with
  | pairsMetadata => exact (Except.ok.inj hraw).symm
  | oneDexPairsMetadata => exact (Except.ok.inj hraw).symm
  | token | pairFeePercent | contractDeployInfo => trivial

theorem worksWith_readPairs {s : SharedCache}
    (hrun : run (step cachePackage) initial readPairs = some s) :
    WorksWith cachePackage 0 s 0 expired.afterRequest where
  pairs := by
    obtain rfl := Option.some.inj hrun
    exact ⟨1, 0, 7200000, 7200000, _, rfl, rfl, by decide⟩
  rawPairs := by
    obtain rfl := Option.some.inj hrun
    exact ⟨1, 1, 7200000, 7200000, _, rfl, rfl, by decide⟩

theorem getEvents_eq_of_copies_readPairs :
    DataIntegrationController.getEvents expired.afterRequest.env 10 11 =
      DataIntegrationController.getEvents expired.afterRequest.warmPairsMetadata.env 10 11 := by
  have hrun : ∃ s, run (step cachePackage) initial readPairs = some s := ⟨_, rfl⟩
  obtain ⟨s, hrun⟩ := hrun
  have hworks := worksWith_readPairs hrun
  have hrequest := expired.steps_afterRequest
  refine getEvents_eq_of_copies answersAs_readPairs hrun keepsPairs_timeline
    ⟨lastRound.metachainRound, ?_, rfl, ?_⟩ batchUtils_partitions hworks
    ⟨hworks.pairs, hworks.rawPairs⟩ hrequest.later (steps_warmPairsMetadata _).later
    (published_expired.later hrequest.later)
  · exact (lastRound.mem_rounds rfl).2 (Or.inr rfl)
  · decide

theorem history_of_polls_readPairs : ∃ events,
    DataIntegrationController.getEvents expired.afterRequest.env 10 11 = .ok events ∧
      (events.map forget).Perm ((expired.afterRequest.withAllPairs.history 10 11).map forget) := by
  have hrun : ∃ s, run (step cachePackage) initial readPairs = some s := ⟨_, rfl⟩
  obtain ⟨s, hrun⟩ := hrun
  have hsome : (DataIntegrationController.getEvents expired.afterRequest.env 10 11).toOption.isSome
    = true := by decide +kernel
  obtain ⟨events, hevents⟩ := Option.isSome_iff_exists.1 hsome
  have hevents := Collect.eq_ok_of_toOption hevents
  have hlater := expired.steps_afterRequest.later
  have hlast : ∃ last ∈ expired.chain.rounds,
      last.shardId = METACHAIN ∧ (11 : Int) ≤ last.round :=
    ⟨lastRound.metachainRound, (lastRound.mem_rounds rfl).2 (Or.inr rfl), rfl, by decide⟩
  have hpolls : Polls timeline cachePackage 0 s 10 expired.afterRequest 12 ([] ++ events) :=
    (Polls.start _).ask 0 (by decide) (published_expired.later hlater) hlast hlater
      (worksWith_readPairs hrun) hevents
  have htimestamps : expired.afterRequest.withAllPairs.TimestampsAgree :=
    timestampsAgree_of_expired rfl rfl
  have hhistory := history_of_polls answersAs_readPairs hrun keepsPairs_timeline
    batchUtils_partitions hpolls htimestamps
  exact ⟨events, hevents, hhistory⟩

end Reference

end DexAdapter
