import DexAdapter.Verify.Rounds
import DexAdapter.Verify.Contribution
import DexAdapter.Verify.Numbering

/-!
# Block ranges

A block range becomes a range of timestamps, and events find their rounds by timestamp.

* The range of timestamps loses no event that has a round (`Request.reported_eq`), so a response
  depends on the rounds alone, and cutting the rounds cuts the response (`getEvents_split`).
* Two disjoint ranges share an event only in the second in which one ends and the other begins
  (`contributes_twice`).
-/

namespace DexAdapter

open Collect DataIntegrationService ResponseEvent

/-- The indexed timestamp of an event is the one inside the event. -/
def Snapshot.TimestampsAgree {env : Env} (s : Snapshot env) (events : List ElasticEvent) : Prop :=
  ∀ d timestamp event, d.2 ∈ events → s.Decodes d timestamp event → timestamp = .num d.2.timestamp

/-! ## Rounds and the timestamps of their range -/

namespace Lookups

section Range

variable {env : Env} {fromBlock toBlock : Int} (l : Lookups env fromBlock toBlock)

/-- A round of a sorted list lies between the first and the last. -/
theorem timestamp_mem_range (hsorted : l.rounds.Pairwise fun r r' => r.timestamp ≤ r'.timestamp)
    {round : ElasticRound} (h : round ∈ l.rounds) :
    l.after ≤ round.timestamp ∧ round.timestamp ≤ l.before :=
  ⟨hsorted.rel_head_of_rel_head_head h (le_refl _),
    hsorted.rel_getLast_of_rel_getLast_getLast h (le_refl _)⟩

end Range

section Cut

variable {env : Env} {a b c d : Int} {l : Lookups env a b} {l' : Lookups env c d}
  {doc : Dex × ElasticEvent} {timestamp : JsNumber} {round round' : ElasticRound} {event : DexEvent}

/-- Two ranges of one environment keep the same documents, each in the rounds it has. -/
theorem Kept.of_findRound (h : l.Kept doc timestamp round event)
    (hround : findRound l'.rounds timestamp = some round') :
    l'.Kept doc timestamp round' event := by
  have hsnapshot := Snapshot.eq_of_env l.toSnapshot l'.toSnapshot
  obtain ⟨hsearched, hpair, hdecodes, -, hpriced⟩ := h
  rw [hsnapshot] at hsearched hpair hdecodes
  exact ⟨hsearched, hpair, hdecodes, findRound_eq_some_iff.1 hround, hpriced⟩

variable (hsorted : l.rounds.Pairwise fun r r' => r.timestamp < r'.timestamp)

include hsorted

/-- The first part of the rounds keeps what the whole keeps up to its last round. -/
theorem kept_first_iff {second : List ElasticRound} (hrounds : l.rounds = l'.rounds ++ second) :
    l'.Kept doc timestamp round event ↔
      l.Kept doc timestamp round event ∧ round.timestamp ≤ l'.before := by
  have hcut := hsorted
  rw [hrounds, List.pairwise_append] at hcut
  obtain ⟨hfirst, -, hcross⟩ := hcut
  constructor
  · intro h
    refine ⟨h.of_findRound ?_, ?_⟩
    · rw [hrounds, findRound, List.find?_append]
      exact congrArg (Option.or · _) h.round
    · exact (l'.timestamp_mem_range (hfirst.imp fun h => h.le)
        (List.mem_of_find?_eq_some h.round)).2
  · rintro ⟨h, hle⟩
    refine h.of_findRound ?_
    have hround := h.round
    rw [hrounds, findRound, List.find?_append, Option.or_eq_some_iff] at hround
    rcases hround with hround | ⟨-, hround⟩
    · exact hround
    · -- a round of the second part comes after the last of the first
      have hlt := hcross _ (List.getLast_mem l'.rounds_ne) _ (List.mem_of_find?_eq_some hround)
      exact absurd hle (Nat.not_le.2 hlt)

/-- The second part of the rounds keeps the rest. -/
theorem kept_second_iff {a' b' : Int} {l₁ : Lookups env a' b'}
    (hrounds : l.rounds = l₁.rounds ++ l'.rounds) :
    l'.Kept doc timestamp round event ↔
      l.Kept doc timestamp round event ∧ ¬ round.timestamp ≤ l₁.before := by
  have hcut := hsorted
  rw [hrounds, List.pairwise_append] at hcut
  obtain ⟨hfirst, -, hcross⟩ := hcut
  have hlast := hcross _ (List.getLast_mem l₁.rounds_ne)
  constructor
  · intro h
    have hmem := List.mem_of_find?_eq_some h.round
    refine ⟨h.of_findRound ?_, Nat.not_le.2 (hlast _ hmem)⟩
    rw [hrounds, findRound, List.find?_append, Option.or_eq_some_iff]
    refine Or.inr ⟨List.find?_eq_none.2 fun r hr hfound => ?_, h.round⟩
    have hlt := hcross r hr _ hmem
    have hnum := round_timestamp h.round
    rw [hnum, JsNumber.strictEq_iff, JsNumber.num.injEq] at hfound
    omega
  · rintro ⟨h, hle⟩
    refine h.of_findRound ?_
    have hround := h.round
    rw [hrounds, findRound, List.find?_append, Option.or_eq_some_iff] at hround
    rcases hround with hround | ⟨-, hround⟩
    · exact absurd
        (l₁.timestamp_mem_range (hfirst.imp fun h => h.le) (List.mem_of_find?_eq_some hround)).2 hle
    · exact hround

theorem pushed_first {second : List ElasticRound} (hrounds : l.rounds = l'.rounds ++ second) :
    (pushed l.report doc).filter (fun e => decide (e.stamp ≤ l'.before)) =
      pushed l'.report doc := by
  refine Option.ext fun re => ?_
  rw [Option.filter_eq_some_iff, pushed_eq_some_iff, pushed_eq_some_iff, decide_eq_true_eq]
  constructor
  · rintro ⟨⟨timestamp, round, event, hkept, rfl⟩, hle⟩
    rw [stamp, Block.blockTimestamp_fromElasticRound] at hle
    exact ⟨timestamp, round, event, (kept_first_iff hsorted hrounds).2 ⟨hkept, hle⟩, rfl⟩
  · rintro ⟨timestamp, round, event, hkept, rfl⟩
    obtain ⟨hkept, hle⟩ := (kept_first_iff hsorted hrounds).1 hkept
    refine ⟨⟨timestamp, round, event, hkept, rfl⟩, ?_⟩
    rwa [stamp, Block.blockTimestamp_fromElasticRound]

theorem pushed_second {a' b' : Int} {l₁ : Lookups env a' b'}
    (hrounds : l.rounds = l₁.rounds ++ l'.rounds) :
    (pushed l.report doc).filter (fun e => !decide (e.stamp ≤ l₁.before)) =
      pushed l'.report doc := by
  refine Option.ext fun re => ?_
  rw [Option.filter_eq_some_iff, pushed_eq_some_iff, pushed_eq_some_iff, Bool.not_eq_true',
    decide_eq_false_iff_not]
  constructor
  · rintro ⟨⟨timestamp, round, event, hkept, rfl⟩, hle⟩
    rw [stamp, Block.blockTimestamp_fromElasticRound] at hle
    exact ⟨timestamp, round, event, (kept_second_iff hsorted hrounds).2 ⟨hkept, hle⟩, rfl⟩
  · rintro ⟨timestamp, round, event, hkept, rfl⟩
    obtain ⟨hkept, hle⟩ := (kept_second_iff hsorted hrounds).1 hkept
    refine ⟨⟨timestamp, round, event, hkept, rfl⟩, ?_⟩
    rwa [stamp, Block.blockTimestamp_fromElasticRound]

end Cut

end Lookups

/-! ## The range of timestamps -/

namespace Request

variable {env : Env} {indices : Indices} (hserves : env.elasticService.Serves indices)

include hserves

theorem sorted_rounds {a b : Int} (r : Request env a b) :
    r.rounds.Pairwise fun r r' => r.timestamp ≤ r'.timestamp :=
  (hserves.getRounds r.rounds_eq).2

variable {s : Snapshot env} (hagree : s.TimestampsAgree indices.events)
  {arranged : List ElasticEvent} (hfixed : env.elasticService.FixedOrder arranged)
  (harranged : arranged.Perm indices.events)

section Reported

include hagree hfixed harranged

/-- The scroll returns every document that is reported: asking for the range loses nothing. -/
theorem reported_eq {a b : Int} (r : Request env a b) :
    r.reported = (occurrencesOf fun _ => arranged).filterMap (pushed r.report) := by
  have hraw : ∀ dex, r.raw dex = arranged.filter (r.query dex).matches :=
    fun dex => hfixed _ _ (r.pages_eq dex)
  rw [s.eq_of_env r.toSnapshot] at hagree
  have hdex : ∀ dex, ((r.raw dex).map fun e => (dex, e)).filterMap (pushed r.report) =
      (arranged.map fun e => (dex, e)).filterMap (pushed r.report) := by
    intro dex
    rw [hraw, List.filterMap_map, List.filterMap_map, List.filterMap_filter]
    refine List.filterMap_congr fun e he => ?_
    split
    · rfl
    · rename_i hmatches
      symm
      refine Option.eq_none_iff_forall_ne_some.2 fun re hre => hmatches ?_
      obtain ⟨t, round, event, hkept, -⟩ := r.pushed_eq_some_iff.1 hre
      have ht := hagree _ _ _ (harranged.subset he) hkept.decodes
      rw [Lookups.round_timestamp hkept.round, JsNumber.num.injEq] at ht
      rw [Lookups.query, IndexerService.matches_eventsQuery hkept.searched, ← ht]
      exact r.timestamp_mem_range (r.sorted_rounds hserves)
        (List.mem_of_find?_eq_some hkept.round)
  rw [reported, occurrences, occurrencesOf, occurrencesOf, List.filterMap_append,
    List.filterMap_append, hdex, hdex]

end Reported

/-! ## A split range -/

variable {a b c : Int} {r : Request env a c} {r₁ : Request env a b} {r₂ : Request env (b + 1) c}
  (hrounds : r.rounds = r₁.rounds ++ r₂.rounds)
  (hsorted : r.rounds.Pairwise fun r r' => r.timestamp < r'.timestamp)

include hrounds hsorted

/-- What the halves fetch, the whole fetches. -/
theorem Decodable.halves (hdecodable : r.Decodable) : r₁.Decodable ∧ r₂.Decodable := by
  have hafter : r.after = r₁.after := by
    unfold Lookups.after
    simp only [hrounds, List.head_append_of_ne_nil r₁.rounds_ne]
  have hbefore : r.before = r₂.before := by
    unfold Lookups.before
    simp only [hrounds, List.getLast_append_of_ne_nil _ r₂.rounds_ne]
  have hcut : r₁.before ≤ r.before ∧ r.after ≤ r₂.after := by
    have hmem₁ : r₁.rounds.getLast r₁.rounds_ne ∈ r.rounds := by
      rw [hrounds]
      exact List.mem_append_left _ (List.getLast_mem _)
    have hmem₂ : r₂.rounds.head r₂.rounds_ne ∈ r.rounds := by
      rw [hrounds]
      exact List.mem_append_right _ (List.head_mem _)
    exact ⟨(r.timestamp_mem_range (hsorted.imp fun h => h.le) hmem₁).2,
      (r.timestamp_mem_range (hsorted.imp fun h => h.le) hmem₂).1⟩
  have hhalf : ∀ {a' b' : Int} (r' : Request env a' b'), r.after ≤ r'.after →
      r'.before ≤ r.before → r'.Decodable := by
    intro a' b' r' hlow hhigh d hd hsearched
    rw [Snapshot.eq_of_env r'.toSnapshot r.toSnapshot]
    have hsearched' : r.isSearched d = true := by
      rwa [Snapshot.eq_of_env r.toSnapshot r'.toSnapshot]
    refine hdecodable d ?_ hsearched'
    rw [mem_occurrences, mem_raw_of_isSearched _ hserves hsearched] at hd
    rw [mem_occurrences, mem_raw_of_isSearched _ hserves hsearched']
    exact ⟨hd.1, hlow.trans hd.2.1, hd.2.2.trans hhigh⟩
  exact ⟨hhalf r₁ hafter.le hcut.1, hhalf r₂ hcut.2 hbefore.ge⟩

include hagree hfixed harranged

/-- Cutting the rounds cuts what is reported. -/
theorem reported_split :
    (r.reported.filter fun e => decide (e.stamp ≤ r₁.before)) = r₁.reported ∧
      (r.reported.filter fun e => !decide (e.stamp ≤ r₁.before)) = r₂.reported := by
  rw [r.reported_eq hserves hagree hfixed harranged, r₁.reported_eq hserves hagree hfixed harranged,
    r₂.reported_eq hserves hagree hfixed harranged, List.filter_filterMap, List.filter_filterMap]
  exact ⟨List.filterMap_congr fun d _ => Lookups.pushed_first hsorted hrounds,
    List.filterMap_congr fun d _ => Lookups.pushed_second hsorted hrounds⟩

end Request

section Split

variable {env : Env} {indices : Indices} (hserves : env.elasticService.Serves indices)
  (hstrict : StrictRounds indices.rounds)
  (hoperations : (indices.operations.map fun t => t.txHash).Nodup)
  (hbatch : env.sdk.batchUtils.Partitions) {arranged : List ElasticEvent}
  (hfixed : env.elasticService.FixedOrder arranged) (harranged : arranged.Perm indices.events)
  (s : Snapshot env) (hagree : s.TimestampsAgree indices.events)

include hserves hstrict hoperations hbatch hfixed harranged hagree

omit hstrict in
/-- A range whose halves both have rounds. -/
theorem publish_reported_split {a b c : Int} {r : Request env a c} {r₁ : Request env a b}
    {r₂ : Request env (b + 1) c} (hrounds : r.rounds = r₁.rounds ++ r₂.rounds)
    (hsorted : r.rounds.Pairwise fun r r' => r.timestamp < r'.timestamp)
    (hpositive : ∀ round ∈ r.rounds, 0 < round.timestamp) :
    publish env r.reported = publish env r₁.reported ++ publish env r₂.reported := by
  obtain ⟨hfst, hsnd⟩ := Request.reported_split hserves hagree hfixed harranged hrounds hsorted
  have hpos : ∀ e ∈ r.reported, e.stamp ≠ 0 := by
    intro e he
    obtain ⟨d, -, hpushed⟩ := List.mem_filterMap.1 he
    obtain ⟨timestamp, round, event, hkept, rfl⟩ := r.pushed_eq_some_iff.1 hpushed
    rw [stamp, Block.blockTimestamp_fromElasticRound]
    exact (hpositive round (List.mem_of_find?_eq_some hkept.round)).ne'
  rw [publish_split (hserves.operationsTable hoperations) hbatch hpos r₁.before, hfst, hsnd]

omit hstrict in
/-- A call over a range whose halves both have rounds returns the halves. -/
theorem getEvents_of_halves {a b c : Int} {r : Request env a c} {r₁ : Request env a b}
    {r₂ : Request env (b + 1) c} (hrounds : r.rounds = r₁.rounds ++ r₂.rounds)
    (hsorted : r.rounds.Pairwise fun r r' => r.timestamp < r'.timestamp)
    (hpositive : ∀ round ∈ r.rounds, 0 < round.timestamp) {events : List ResponseEvent}
    (hevents : DataIntegrationService.getEvents env a c = .ok events) :
    ∃ first second, DataIntegrationService.getEvents env a b = .ok first ∧
      DataIntegrationService.getEvents env (b + 1) c = .ok second ∧ events = first ++ second := by
  have hdecodable := r.succeeds_getEvents.1 ⟨events, hevents⟩
  obtain ⟨hdecodable₁, hdecodable₂⟩ := hdecodable.halves hserves hrounds hsorted
  rw [r.getEvents_of_decodable hdecodable, Except.ok.injEq] at hevents
  refine ⟨_, _, r₁.getEvents_of_decodable hdecodable₁, r₂.getEvents_of_decodable hdecodable₂, ?_⟩
  rw [← hevents]
  exact publish_reported_split hserves hoperations hbatch hfixed harranged s hagree hrounds
    hsorted hpositive

/-- **Splitting a range** loses and duplicates nothing. -/
theorem getEvents_split {a b c : Int} (hab : a ≤ b) (hbc : b < c) (hrange : c - a ≤ 1000) :
    (∀ events, DataIntegrationController.getEvents env a c = .ok events →
      ∃ first second, DataIntegrationController.getEvents env a b = .ok first ∧
        DataIntegrationController.getEvents env (b + 1) c = .ok second ∧
        events = first ++ second) ∧
    ((∀ d, d.2 ∈ indices.events → s.isSearched d = true → s.Constructs d) →
      Succeeds (DataIntegrationController.getEvents env a c)) := by
  have hfst : b - a ≤ 1000 := by omega
  have hsnd : c - (b + 1) ≤ 1000 := by omega
  rw [DataIntegrationController.getEvents_of_le hrange,
    DataIntegrationController.getEvents_of_le hfst, DataIntegrationController.getEvents_of_le hsnd]
  obtain ⟨first, second, hfirst, hsecond, hwhole, hsorted, hpositive⟩ :=
    hstrict.getRounds_append hserves hab hbc hrange
  constructor
  · intro events hevents
    by_cases hnil₁ : first = []
    · -- no rounds in the first half
      subst hnil₁
      rw [getEvents_congr (hwhole.trans hsecond.symm)] at hevents
      exact ⟨[], events, getEvents_of_no_rounds hfirst, hevents, rfl⟩
    · by_cases hnil₂ : second = []
      · -- no rounds in the second half
        subst hnil₂
        rw [List.append_nil] at hwhole
        rw [getEvents_congr (hwhole.trans hfirst.symm)] at hevents
        exact ⟨events, [], hevents, getEvents_of_no_rounds hsecond, events.append_nil.symm⟩
      · have hne : first ++ second ≠ [] := List.append_ne_nil_of_left_ne_nil hnil₁ _
        obtain ⟨r, hr⟩ := s.exists_request hserves hne hwhole
        obtain ⟨r₁, hr₁⟩ := s.exists_request hserves hnil₁ hfirst
        obtain ⟨r₂, hr₂⟩ := s.exists_request hserves hnil₂ hsecond
        have hrounds : r.rounds = r₁.rounds ++ r₂.rounds := by rw [hr, hr₁, hr₂]
        rw [← hr] at hsorted hpositive
        exact getEvents_of_halves hserves hoperations hbatch hfixed harranged s hagree hrounds
          hsorted hpositive hevents
  · intro hconstructs
    by_cases hnil : first ++ second = []
    · rw [hnil] at hwhole
      exact ⟨[], getEvents_of_no_rounds hwhole⟩
    · obtain ⟨r, -⟩ := s.exists_request hserves hnil hwhole
      refine r.succeeds_getEvents.2 fun d hd hsearched => ?_
      rw [Snapshot.eq_of_env r.toSnapshot s] at hsearched ⊢
      rw [r.mem_occurrences, r.mem_raw hserves] at hd
      exact hconstructs d hd.1 hsearched

end Split

section Market

open Reference

/-- The OneDex swaps of the market carry their timestamps, and no xExchange pair has their
address. -/
theorem market_timestampsAgree (s : Snapshot marketEnv) : s.TimestampsAgree market.events := by
  have hsnapshot : s.xPairs = _ :=
    congrArg (fun s => s.xPairs) (s.eq_of_env
      (request market [routerEntry] [oneDexPair 1 "WEGLD-bd4d79" "LP-1"] 10 11
        (by decide +kernel)).toSnapshot)
  rintro ⟨dex, e⟩ timestamp event he hdecodes
  cases hdecodes with
  | xExchange h =>
    obtain ⟨p, hp, haddress⟩ := (Snapshot.Decodes.xExchange h).pairFound
    have hother : ∀ p ∈ s.xPairs, ∀ e ∈ market.events, p.address ≠ e.address := by
      rw [hsnapshot]
      decide +kernel
    exact absurd haddress (hother p hp e he)
  | oneDex h =>
    have htopics : ∀ e ∈ market.events, topicNumber sdk e 8 = .num e.timestamp := by
      decide +kernel
    rw [OneDexService.timestamp_of_decodeRaw h]
    exact htopics e he

theorem market_strictRounds : StrictRounds market.rounds where
  nodup := by decide
  positive := by decide
  increasing := by decide

theorem getEvents_split_market :
    ∃ first second, DataIntegrationController.getEvents marketEnv 10 10 = .ok first ∧
      DataIntegrationController.getEvents marketEnv 11 11 = .ok second ∧
      DataIntegrationController.getEvents marketEnv 10 11 = .ok (first ++ second) := by
  obtain ⟨r, hdecodable⟩ := marketEnv_decodable
  obtain ⟨hsplit, -⟩ := getEvents_split (elasticService_serves market) market_strictRounds
    (List.nodup_singleton _) batchUtils_partitions (elasticService_fixedOrder market)
    (List.Perm.refl _) r.toSnapshot (market_timestampsAgree _) (a := 10) (b := 10) (c := 11)
    (by decide) (by decide) (by decide)
  obtain ⟨events, hevents⟩ := r.succeeds_getEvents.2 hdecodable
  obtain ⟨first, second, hfirst, hsecond, rfl⟩ := hsplit events hevents
  exact ⟨first, second, hfirst, hsecond, hevents⟩

end Market

/-! ## Disjoint ranges -/

/-- Timestamps do not decrease with the round number; rounds may share a second. -/
def NonDecreasing (rounds : List RoundDocument) : Prop :=
  ∀ doc ∈ rounds, ∀ doc' ∈ rounds, doc.shardId = METACHAIN → doc'.shardId = METACHAIN →
    doc.round ≤ doc'.round → doc.timestamp ≤ doc'.timestamp

/-- The call returns, and the document is one of those it reports, with this timestamp. -/
def Contributes (env : Env) (a b : Int) (doc : Dex × ElasticEvent) (timestamp : JsNumber) : Prop :=
  ∃ r : Request env a b, r.Decodable ∧ doc ∈ r.occurrences ∧ r.ReportedAt doc timestamp

/-- **Disjoint ranges** share a document only when the last round of the first range and the first
round of the second have its timestamp. -/
theorem contributes_twice {env : Env} {indices : Indices}
    (hserves : env.elasticService.Serves indices) (hmonotone : NonDecreasing indices.rounds)
    {a b c d : Int} (hdisjoint : b < c) {doc : Dex × ElasticEvent} {timestamp timestamp' : JsNumber}
    (h : Contributes env a b doc timestamp) (h' : Contributes env c d doc timestamp') :
    ∃ rounds rounds' last first,
      IndexerService.getRounds env.elasticService a b = .ok rounds ∧ rounds.getLast? = some last ∧
      IndexerService.getRounds env.elasticService c d = .ok rounds' ∧ rounds'.head? = some first ∧
      timestamp = .num last.timestamp ∧ timestamp = .num first.timestamp := by
  obtain ⟨r, -, -, round, event, hkept⟩ := h
  obtain ⟨r', -, -, round', event', hkept'⟩ := h'
  have hsame : timestamp = timestamp' := by
    have hdecodes' := hkept'.decodes
    rw [Snapshot.eq_of_env r'.toSnapshot r.toSnapshot] at hdecodes'
    exact (hkept.decodes.unique hdecodes').1
  have hnum := Lookups.round_timestamp hkept.round
  have hnum' := Lookups.round_timestamp hkept'.round
  rw [← hsame, hnum, JsNumber.num.injEq] at hnum'
  have hlast := (r.timestamp_mem_range (r.sorted_rounds hserves)
    (List.mem_of_find?_eq_some hkept.round)).2
  have hfirst := (r'.timestamp_mem_range (r'.sorted_rounds hserves)
    (List.mem_of_find?_eq_some hkept'.round)).1
  -- every round of the first range is at most every round of the second
  have hcross : r.before ≤ r'.after := by
    obtain ⟨doc, hdoc, hmeta, -, hle, heq⟩ :=
      (hserves.getRounds r.rounds_eq).1 _ (List.getLast_mem r.rounds_ne)
    obtain ⟨doc', hdoc', hmeta', hge, -, heq'⟩ :=
      (hserves.getRounds r'.rounds_eq).1 _ (List.head_mem r'.rounds_ne)
    have hmono := hmonotone doc hdoc doc' hdoc' hmeta hmeta' (by omega)
    unfold Lookups.before Lookups.after
    rw [← heq, ← heq']
    exact hmono
  refine ⟨r.rounds, r'.rounds, _, _, r.rounds_eq, List.getLast?_eq_some_getLast r.rounds_ne,
    r'.rounds_eq, List.head?_eq_some_head r'.rounds_ne, ?_, ?_⟩
  · rw [hnum, JsNumber.num.injEq]
    unfold Lookups.before Lookups.after at *
    omega
  · rw [hnum, JsNumber.num.injEq]
    unfold Lookups.before Lookups.after at *
    omega

section SameSecond

open Reference

/-- The one swap is reported in each round of its second. -/
theorem sameSecond_swap {a b : Int} (r : Request sameSecondEnv a b)
    (hreport : (r.report (.oneDex, sameSecondSwap)).toOption.join.isSome = true)
    (hrange : r.after ≤ 6000 ∧ 6000 ≤ r.before) :
    ∃ timestamp, Contributes sameSecondEnv a b (.oneDex, sameSecondSwap) timestamp := by
  obtain ⟨re, hre⟩ := Option.isSome_iff_exists.1 hreport
  obtain ⟨timestamp, round, event, hkept, -⟩ := Lookups.report_eq_some_iff.1
    (eq_ok_of_toOption (Option.join_eq_some_iff.1 hre))
  refine ⟨timestamp, r, ?_, ?_, round, event, hkept⟩
  · rintro ⟨dex, e⟩ hd hsearched
    rw [r.mem_occurrences, r.mem_raw (elasticService_serves sameSecond)] at hd
    obtain rfl := List.mem_singleton.1 hd.1
    cases dex with
    | xExchange =>
      -- there are no xExchange pairs
      have hnone := Except.ok.inj r.xPairs_eq
      unfold Snapshot.isSearched Snapshot.addresses at hsearched
      rw [← hnone] at hsearched
      cases hsearched
    | oneDex => exact hkept.constructs
  · rw [r.mem_occurrences,
      r.mem_raw_of_isSearched (elasticService_serves sameSecond) hkept.searched]
    exact ⟨List.mem_cons_self, hrange⟩

/-- Rounds 10 and 11 fall in one second. -/
theorem sameSecond_contributes :
    (∃ timestamp, Contributes sameSecondEnv 10 10 (.oneDex, sameSecondSwap) timestamp) ∧
      ∃ timestamp, Contributes sameSecondEnv 11 11 (.oneDex, sameSecondSwap) timestamp :=
  ⟨sameSecond_swap
    (request sameSecond [] [oneDexPair 1 "WEGLD-bd4d79" "LP-1"] 10 10 (by decide +kernel))
    (by decide +kernel) (by decide +kernel),
  sameSecond_swap
    (request sameSecond [] [oneDexPair 1 "WEGLD-bd4d79" "LP-1"] 11 11 (by decide +kernel))
    (by decide +kernel) (by decide +kernel)⟩

theorem sameSecond_nonDecreasing : NonDecreasing sameSecond.rounds := by
  unfold NonDecreasing
  decide

theorem sameSecond_twice :
    sameSecondEnv.elasticService.Serves sameSecond ∧ NonDecreasing sameSecond.rounds ∧
      ∃ doc timestamp timestamp', Contributes sameSecondEnv 10 10 doc timestamp ∧
        Contributes sameSecondEnv 11 11 doc timestamp' := by
  obtain ⟨⟨timestamp, h⟩, ⟨timestamp', h'⟩⟩ := sameSecond_contributes
  exact ⟨elasticService_serves sameSecond, sameSecond_nonDecreasing, _, timestamp, timestamp',
    h, h'⟩

theorem contributes_twice_sameSecond :
    ∃ rounds rounds' last first,
      IndexerService.getRounds sameSecondEnv.elasticService 10 10 = .ok rounds ∧
      rounds.getLast? = some last ∧
      IndexerService.getRounds sameSecondEnv.elasticService 11 11 = .ok rounds' ∧
      rounds'.head? = some first ∧ last.timestamp = first.timestamp := by
  obtain ⟨⟨timestamp, h⟩, ⟨timestamp', h'⟩⟩ := sameSecond_contributes
  obtain ⟨rounds, rounds', last, first, hrounds, hlast, hrounds', hfirst, heq, heq'⟩ :=
    contributes_twice (elasticService_serves sameSecond) sameSecond_nonDecreasing (by decide) h h'
  rw [heq, JsNumber.num.injEq] at heq'
  exact ⟨rounds, rounds', last, first, hrounds, hlast, hrounds', hfirst, heq'⟩

end SameSecond

end DexAdapter
