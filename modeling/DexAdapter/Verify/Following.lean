import DexAdapter.Lib.Segments
import DexAdapter.Verify.Ranges
import DexAdapter.Verify.Repeatable

/-!
# Following the chain

A reader learns a block that is published, asks for the blocks up to it, and goes on from there
later, while rounds are produced, documents are indexed, the pairs of the contracts change and
copies of them come and go.

* A response is those of its blocks, one after the other (`World.getEvents_blocks`).
* What a reader has collected, range after range, is what the blocks answer at the end, as long as
  every request worked with the pairs of its range (`World.Follows.eq_blocks`), so that two readers
  have the same (`World.Follows.same_events`).
-/

namespace DexAdapter

open Collect DataIntegrationService ResponseEvent Segments

namespace StrictRounds

variable {rounds : List RoundDocument} (h : StrictRounds rounds) {doc doc' : RoundDocument}
  (hdoc : doc ∈ rounds) (hmeta : doc.shardId = METACHAIN) (hdoc' : doc' ∈ rounds)
  (hmeta' : doc'.shardId = METACHAIN)

include h hdoc hmeta hdoc' hmeta'

theorem eq_of_round (hround : doc.round = doc'.round) : doc = doc' :=
  List.inj_on_of_nodup_map h.nodup (List.mem_filter.2 ⟨hdoc, by simpa using hmeta⟩)
    (List.mem_filter.2 ⟨hdoc', by simpa using hmeta'⟩) hround

/-- Rounds of the metachain with one timestamp are one. -/
theorem eq_of_timestamp (htimestamp : doc.timestamp = doc'.timestamp) : doc = doc' :=
  h.eq_of_round hdoc hmeta hdoc' hmeta'
    (le_antisymm (h.round_le hdoc hmeta hdoc' hmeta' htimestamp.le)
      (h.round_le hdoc' hmeta' hdoc hmeta htimestamp.ge))

theorem round_lt_iff : doc.round < doc'.round ↔ doc.timestamp < doc'.timestamp := by
  refine ⟨h.increasing doc hdoc doc' hdoc' hmeta hmeta', fun hlt => ?_⟩
  refine lt_of_le_of_ne (h.round_le hdoc hmeta hdoc' hmeta' hlt.le) fun hround => ?_
  rw [h.eq_of_round hdoc hmeta hdoc' hmeta' hround] at hlt
  exact lt_irrefl _ hlt

end StrictRounds

namespace Request

variable {env : Env} {indices : Indices} (hserves : env.elasticService.Serves indices)
  {a b c : Int} {r : Request env a c} {r₁ : Request env a b} {r₂ : Request env (b + 1) c}
  (hrounds : r.rounds = r₁.rounds ++ r₂.rounds)
  (hsorted : r.rounds.Pairwise fun r r' => r.timestamp < r'.timestamp)
  (hround : ∀ e ∈ indices.events, r.inRange e = true →
    ∃ round ∈ r.rounds, round.timestamp = e.timestamp)

include hserves hrounds hsorted hround

/-- Where every document of the range has a round, the halves fetch what the whole fetches. -/
theorem decodable_of_halves (h₁ : r₁.Decodable) (h₂ : r₂.Decodable) : r.Decodable := by
  have hsnapshot₁ := Snapshot.eq_of_env r.toSnapshot r₁.toSnapshot
  have hsnapshot₂ := Snapshot.eq_of_env r.toSnapshot r₂.toSnapshot
  have hcut := hsorted
  rw [hrounds, List.pairwise_append] at hcut
  obtain ⟨hsorted₁, hsorted₂, -⟩ := hcut
  intro doc hdoc hsearched
  rw [mem_occurrences, mem_raw_of_isSearched _ hserves hsearched] at hdoc
  obtain ⟨hevent, hrange⟩ := hdoc
  obtain ⟨round, hmem, htimestamp⟩ := hround _ hevent (Lookups.inRange_iff.2 hrange)
  rw [hrounds, List.mem_append] at hmem
  rcases hmem with hmem | hmem
  · have hbetween := r₁.timestamp_mem_range (hsorted₁.imp fun h => h.le) hmem
    rw [htimestamp] at hbetween
    rw [hsnapshot₁] at hsearched ⊢
    refine h₁ doc ?_ hsearched
    rw [mem_occurrences, mem_raw_of_isSearched _ hserves hsearched]
    exact ⟨hevent, hbetween⟩
  · have hbetween := r₂.timestamp_mem_range (hsorted₂.imp fun h => h.le) hmem
    rw [htimestamp] at hbetween
    rw [hsnapshot₂] at hsearched ⊢
    refine h₂ doc ?_ hsearched
    rw [mem_occurrences, mem_raw_of_isSearched _ hserves hsearched]
    exact ⟨hevent, hbetween⟩

end Request

/-- A range that is answered is not too long. -/
theorem range_le_of_getEvents {env : Env} {a b : Int} {events : List ResponseEvent}
    (h : DataIntegrationController.getEvents env a b = .ok events) : b - a ≤ 1000 := by
  by_contra hlt
  rw [DataIntegrationController.getEvents_of_lt (by omega)] at h
  cases h

namespace World

variable {d : Deployment} {w w' : World d} {a b c : Int}

/-! ## Published blocks -/

/-- The index is complete up to a block of the chain that is not before `b`. -/
def Published (w : World d) (b : Int) : Prop :=
  ∃ block : Nat, b ≤ block ∧ w.elastic.contents.CompleteUpTo w.chain.toIndices block ∧
    ∃ last ∈ w.chain.rounds, last.shardId = METACHAIN ∧ last.round = block

theorem Published.of_le (h : w.Published c) (hle : b ≤ c) : w.Published b := by
  obtain ⟨block, hblock, hcomplete, hlast⟩ := h
  exact ⟨block, hle.trans hblock, hcomplete, hlast⟩

theorem Published.later (h : w.Published b) (hlater : w.Later w') : w'.Published b := by
  obtain ⟨block, hblock, hcomplete, hlast⟩ := h
  have hcomplete' := hcomplete.later hlater.chain hlater.index hlast
  obtain ⟨last, hmem, hmeta, hround⟩ := hlast
  exact ⟨block, hblock, hcomplete', last, hlater.chain.rounds hmem, hmeta, hround⟩

/-- The rounds of a published range are all that the chain has there. -/
theorem mem_of_getRounds (hpublished : w.Published b) (hrange : b - a ≤ 1000)
    {rounds : List ElasticRound}
    (h : IndexerService.getRounds w.env.elasticService a b = .ok rounds) {round : ElasticRound} :
    round ∈ rounds ↔ ∃ doc ∈ w.chain.rounds, doc.shardId = METACHAIN ∧ a ≤ doc.round ∧
      (doc.round : Int) ≤ b ∧ doc.toElasticRound = round := by
  obtain ⟨block, hblock, hcomplete, -⟩ := hpublished
  obtain ⟨hits, hhits, hperm, -⟩ := w.within.strictRounds.getRounds_eq w.elastic.serves hrange
  have hrounds : rounds = hits.map RoundDocument.toElasticRound :=
    Except.ok.inj (h.symm.trans hhits)
  rw [hrounds, List.mem_map]
  constructor
  · rintro ⟨doc, hdoc, rfl⟩
    obtain ⟨hindexed, hmeta, hge, hle⟩ := mem_hits hperm hdoc
    exact ⟨doc, w.within.rounds.subset hindexed, hmeta, hge, hle, rfl⟩
  · rintro ⟨doc, hdoc, hmeta, hge, hle, rfl⟩
    have hindexed := hcomplete.rounds doc hdoc hmeta (by omega)
    refine ⟨doc, hperm.mem_iff.2 (List.mem_filter.2 ⟨hindexed, ?_⟩), rfl⟩
    exact IndexerService.matches_roundsQuery.2 ⟨hmeta, hge, hle⟩

/-- A document of a published range has its round there. -/
theorem exists_round_mem (hpublished : w.Published b) (hrange : b - a ≤ 1000)
    (r : Request w.env a b) {e : ElasticEvent} (he : e ∈ w.elastic.contents.events)
    (hin : r.inRange e = true) : ∃ round ∈ r.rounds, round.timestamp = e.timestamp := by
  obtain ⟨doc, hdoc, hmeta, hge, hle, htimestamp⟩ := exists_round r (w.within.events.subset he) hin
  have hmem := (mem_of_getRounds hpublished hrange r.rounds_eq).2
    ⟨doc, hdoc, hmeta, hge, hle, rfl⟩
  exact ⟨doc.toElasticRound, hmem, htimestamp⟩

/-! ## A range and its blocks -/

/-- The documents carry the timestamps of their events. -/
def TimestampsAgree (w : World d) : Prop :=
  w.snapshot.TimestampsAgree w.elastic.contents.events

/-- What a reader gets for a range: the events of the response, if there is one. -/
def response (w : World d) (a b : Int) : Option (List ResponseEvent) :=
  (DataIntegrationController.getEvents w.env a b).toOption

section Blocks

variable (hbatch : d.sdk.batchUtils.Partitions) (htimestamps : w.TimestampsAgree)

include hbatch htimestamps

/-- Two ranges that follow each other and have rounds. -/
theorem toOption_getEvents_of_halves {r : Request w.env a c} {r₁ : Request w.env a b}
    {r₂ : Request w.env (b + 1) c} (hrounds : r.rounds = r₁.rounds ++ r₂.rounds)
    (hsorted : r.rounds.Pairwise fun r r' => r.timestamp < r'.timestamp)
    (hpositive : ∀ round ∈ r.rounds, 0 < round.timestamp)
    (hround : ∀ e ∈ w.elastic.contents.events, r.inRange e = true →
      ∃ round ∈ r.rounds, round.timestamp = e.timestamp) :
    (getEvents w.env a c).toOption =
      append (getEvents w.env a b).toOption (getEvents w.env (b + 1) c).toOption := by
  have hserves := w.elastic.serves
  refine Option.ext fun events => ?_
  rw [append_eq_some]
  constructor
  · intro h
    obtain ⟨first, second, hfirst, hsecond, rfl⟩ := getEvents_of_halves hserves
      w.within.operations_nodup hbatch w.elastic.fixedOrder (List.Perm.refl _) w.snapshot
      htimestamps hrounds hsorted hpositive (eq_ok_of_toOption h)
    rw [hfirst, hsecond]
    exact ⟨first, second, rfl, rfl, rfl⟩
  · rintro ⟨first, second, hfirst, hsecond, rfl⟩
    have hfirst := eq_ok_of_toOption hfirst
    have hsecond := eq_ok_of_toOption hsecond
    have hdecodable := Request.decodable_of_halves hserves hrounds hsorted hround
      (r₁.succeeds_getEvents.1 ⟨first, hfirst⟩) (r₂.succeeds_getEvents.1 ⟨second, hsecond⟩)
    obtain ⟨events, hevents⟩ := r.succeeds_getEvents.2 hdecodable
    obtain ⟨first', second', hfirst', hsecond', rfl⟩ := getEvents_of_halves hserves
      w.within.operations_nodup hbatch w.elastic.fixedOrder (List.Perm.refl _) w.snapshot
      htimestamps hrounds hsorted hpositive hevents
    obtain rfl := Except.ok.inj (hfirst.symm.trans hfirst')
    obtain rfl := Except.ok.inj (hsecond.symm.trans hsecond')
    rw [hevents]
    rfl

/-- A published range is its two parts, and fails when one of them does. -/
theorem response_cut (hpublished : w.Published c) (hab : a ≤ b) (hbc : b < c)
    (hrange : c - a ≤ 1000) :
    w.response a c = append (w.response a b) (w.response (b + 1) c) := by
  unfold response
  rw [DataIntegrationController.getEvents_of_le hrange,
    DataIntegrationController.getEvents_of_le (by omega),
    DataIntegrationController.getEvents_of_le (by omega)]
  obtain ⟨first, second, hfirst, hsecond, hwhole, hsorted, hpositive⟩ :=
    w.within.strictRounds.getRounds_append w.elastic.serves hab hbc hrange
  by_cases hnil₁ : first = []
  · -- no rounds in the first part
    subst hnil₁
    have hwhole : getEvents w.env a c = getEvents w.env (b + 1) c :=
      getEvents_congr (hwhole.trans hsecond.symm)
    have hfirst : getEvents w.env a b = .ok [] := getEvents_of_no_rounds hfirst
    rw [hwhole, hfirst]
    exact (nil_append _).symm
  · by_cases hnil₂ : second = []
    · -- no rounds in the second part
      subst hnil₂
      rw [List.append_nil] at hwhole
      have hwhole : getEvents w.env a c = getEvents w.env a b :=
        getEvents_congr (hwhole.trans hfirst.symm)
      have hsecond : getEvents w.env (b + 1) c = .ok [] := getEvents_of_no_rounds hsecond
      rw [hwhole, hsecond]
      exact (append_nil _).symm
    · have hne : first ++ second ≠ [] := List.append_ne_nil_of_left_ne_nil hnil₁ _
      obtain ⟨r, hr⟩ := w.snapshot.exists_request w.elastic.serves hne hwhole
      obtain ⟨r₁, hr₁⟩ := w.snapshot.exists_request w.elastic.serves hnil₁ hfirst
      obtain ⟨r₂, hr₂⟩ := w.snapshot.exists_request w.elastic.serves hnil₂ hsecond
      rw [← hr] at hsorted hpositive
      exact toOption_getEvents_of_halves hbatch htimestamps (by rw [hr, hr₁, hr₂]) hsorted
        hpositive fun e he => exists_round_mem hpublished hrange r he

/-- **A range is its blocks**: the response for a published range is those for its blocks, one after
the other, and there is none exactly when there is none for some block. -/
theorem getEvents_blocks {count : Nat} (hpublished : w.Published (a + count))
    (hcount : count ≤ 1000) :
    w.response a (a + count) = concat (fun n => w.response n n) a (count + 1) := by
  apply concat_of_cut
  intro k hk
  exact response_cut hbatch htimestamps (hpublished.of_le (by omega)) (by omega) (by omega)
    (by omega)

end Blocks

/-! ## Readers -/

/-- The same moment without copies, and with a router that has removed no pair: a request reads all
pairs of the contracts. -/
def withAllPairs (w : World d) : World d :=
  { w with xExchange := (w.xExchange.change w.created).expire, oneDex := w.oneDex.expire }

theorem later_withAllPairs (w : World d) : w.Later w.withAllPairs :=
  { Later.refl w with }

theorem covers_withAllPairs (w : World d) (a b : Int) : w.withAllPairs.Covers a b :=
  fun _ _ _ _ _ _ _ _ => rfl

theorem Covers.of_le {a' b' : Int} (h : w.Covers a b) (ha : a ≤ a') (hb : b' ≤ b) :
    w.Covers a' b' :=
  fun doc hdoc hmeta hge hle => h doc hdoc hmeta (ha.trans hge) (hle.trans hb)

/-- A reader has the events of the blocks from `first` on, before block `next`: it asked for ranges
that follow each other, each when it was published and when the copies of the pairs in use had the
pairs of the range, as they are registered. -/
inductive Follows (first : Int) : World d → Int → List ResponseEvent → Prop where
  | start (w : World d) : Follows first w first []
  | later {w w' : World d} {next : Int} {events : List ResponseEvent}
      (h : Follows first w next events) (hsteps : Steps w w') : Follows first w' next events
  | ask {w : World d} {next b : Int} {events new : List ResponseEvent}
      (h : Follows first w next events) (hle : next ≤ b) (hpublished : w.Published b)
      (hcovers : w.Covers next b)
      (hresponse : DataIntegrationController.getEvents w.env next b = .ok new) :
      Follows first w (b + 1) (events ++ new)

namespace Follows

/-- What a reader has is published. -/
theorem published {first next : Int} {events : List ResponseEvent}
    (h : Follows first w next events) : next = first ∨ w.Published (next - 1) := by
  induction h with
  | start w => exact Or.inl rfl
  | later _ hsteps ih => exact ih.imp_right fun hpublished => hpublished.later hsteps.later
  | ask _ _ hpublished => exact Or.inr (hpublished.of_le (by omega))

variable (hbatch : d.sdk.batchUtils.Partitions) {first next : Int} {events : List ResponseEvent}

include hbatch

/-- **What a reader has** is what the blocks answer at any later time at which the copies of the
pairs have the pairs of all these blocks. -/
theorem eq_blocks (h : Follows first w next events) (hlater : w.Later w')
    (htimestamps : w'.TimestampsAgree) (hcovers : w'.Covers first (next - 1)) :
    ∃ count : Nat, next = first + count ∧
      concat (fun n => w'.response n n) first count = some events := by
  induction h with
  | start w => exact ⟨0, by omega, rfl⟩
  | later _ hsteps ih => exact ih (hsteps.later.trans hlater) hcovers
  | @ask w next b events new h hle hpublished hpolled hresponse ih =>
    obtain ⟨count, rfl, hevents⟩ := ih hlater (hcovers.of_le (le_refl _) (by omega))
    obtain ⟨more, rfl⟩ : ∃ more : Nat, b = first + count + more :=
      ⟨(b - (first + count)).toNat, by omega⟩
    have hrange := range_le_of_getEvents hresponse
    -- the range answers at the end as it answered the reader
    have hagrees : w.Agrees w' (first + count) (first + count + more) :=
      agrees_of_covers hlater hpolled (hcovers.of_le (by omega) (by omega))
    obtain ⟨block, hblock, hcomplete, hlast⟩ := hpublished
    have hsame := getEvents_eq_of_agrees hbatch hlater hcomplete hlast hblock hagrees
    have hnew : w'.response (first + count) (first + count + more) = some new := by
      unfold response
      rw [← hsame, hresponse]
      rfl
    rw [getEvents_blocks hbatch htimestamps
      (Published.later ⟨block, hblock, hcomplete, hlast⟩ hlater) (by omega)] at hnew
    refine ⟨count + (more + 1), by omega, ?_⟩
    rw [concat_add, hevents, hnew]
    rfl

/-- What a reader has is what its blocks answer with all pairs, now or later. -/
theorem eq_withAllPairs {w₁ : World d} (h : Follows first w₁ next events) (hsteps : Steps w₁ w)
    (htimestamps : w.withAllPairs.TimestampsAgree) :
    ∃ count : Nat, next = first + count ∧
      (∀ k < count, w.withAllPairs.Published (first + k)) ∧
      concat (fun n => w.withAllPairs.response n n) first count = some events := by
  have hlater : w₁.Later w.withAllPairs := hsteps.later.trans w.later_withAllPairs
  obtain ⟨count, rfl, hblocks⟩ :=
    h.eq_blocks hbatch hlater htimestamps (w.covers_withAllPairs _ _)
  refine ⟨count, rfl, fun k hk => ?_, hblocks⟩
  rcases h.published with hnext | hpublished
  · omega
  · exact (hpublished.of_le (by omega)).later hlater

/-- **Two readers** that started at one block and have come to one block have the same events,
whatever ranges they asked for, and when. -/
theorem same_events {w₁ w₂ : World d} {events₁ events₂ : List ResponseEvent}
    (h₁ : Follows first w₁ next events₁) (h₂ : Follows first w₂ next events₂)
    (hsteps₁ : Steps w₁ w) (hsteps₂ : Steps w₂ w) (htimestamps : w.withAllPairs.TimestampsAgree) :
    events₁ = events₂ := by
  obtain ⟨count₁, hcount₁, -, hevents₁⟩ := h₁.eq_withAllPairs hbatch hsteps₁ htimestamps
  obtain ⟨count₂, hcount₂, -, hevents₂⟩ := h₂.eq_withAllPairs hbatch hsteps₂ htimestamps
  obtain rfl : count₁ = count₂ := by omega
  exact Option.some.inj (hevents₁.symm.trans hevents₂)

end Follows

end World

/-! ## Readers of the run with an old copy

After the old copy has expired, one reader asks for the two blocks one by one, and another for both
at once. -/

namespace Reference

open World

theorem published_expired : expired.Published 11 := by
  refine ⟨11, le_refl _, published_complete _, lastRound.metachainRound, ?_, rfl, rfl⟩
  exact (lastRound.mem_rounds rfl).2 (Or.inr rfl)

/-- The swap carries its timestamp, and no xExchange pair has been created. -/
theorem timestampsAgree_of_expired {w : World deployment}
    (hevents : w.elastic.contents.events = expired.elastic.contents.events)
    (hcreated : w.created = []) : w.withAllPairs.TimestampsAgree := by
  rintro ⟨dex, e⟩ timestamp event he hdecodes
  change e ∈ w.elastic.contents.events at he
  rw [hevents] at he
  obtain rfl := List.mem_singleton.1 he
  cases hdecodes with
  | xExchange h =>
    obtain ⟨p, hp, -⟩ := (Snapshot.Decodes.xExchange h).pairFound
    change p ∈ w.created.map deployment.xExchangePair at hp
    rw [hcreated] at hp
    cases hp
  | oneDex h =>
    rw [OneDexService.timestamp_of_decodeRaw h]
    change topicNumber deployment.sdk sameSecondSwap 8 = .num sameSecondSwap.timestamp
    decide +kernel

theorem timestampsAgree_expired : expired.withAllPairs.TimestampsAgree :=
  timestampsAgree_of_expired rfl rfl

def answer (a b : Int) : List ResponseEvent :=
  ((DataIntegrationController.getEvents expired.env a b).toOption).getD []

theorem getEvents_answer {a b : Int}
    (h : (DataIntegrationController.getEvents expired.env a b).toOption.isSome = true) :
    DataIntegrationController.getEvents expired.env a b = .ok (answer a b) := by
  obtain ⟨events, hevents⟩ := Option.isSome_iff_exists.1 h
  rw [answer, hevents]
  exact eq_ok_of_toOption hevents

theorem covers_expired : expired.Covers 10 11 := by
  refine covers_of_read (.refl _) ⟨lastRound.metachainRound, ?_, rfl, by decide⟩ fun _ _ => rfl
  exact (lastRound.mem_rounds rfl).2 (Or.inr rfl)

theorem getEvents_isSome_expired :
    (DataIntegrationController.getEvents expired.env 10 10).toOption.isSome = true ∧
      (DataIntegrationController.getEvents expired.env 11 11).toOption.isSome = true ∧
      (DataIntegrationController.getEvents expired.env 10 11).toOption.isSome = true := by
  decide +kernel

theorem follows_byBlock : Follows 10 expired 12 (answer 10 10 ++ answer 11 11) := by
  obtain ⟨hfirst, hsecond, -⟩ := getEvents_isSome_expired
  have hblock := (Follows.start expired).ask (le_refl 10) (published_expired.of_le (by decide))
    (covers_expired.of_le (le_refl _) (by decide)) (getEvents_answer hfirst)
  rw [List.nil_append] at hblock
  exact hblock.ask (le_refl _) published_expired (covers_expired.of_le (by decide) (le_refl _))
    (getEvents_answer hsecond)

theorem follows_atOnce : Follows 10 expired 12 (answer 10 11) := by
  obtain ⟨-, -, hboth⟩ := getEvents_isSome_expired
  have hblocks := (Follows.start expired).ask (show (10 : Int) ≤ 11 by decide) published_expired
    covers_expired (getEvents_answer hboth)
  rw [List.nil_append] at hblocks
  exact hblocks

theorem follows_same_events_expired : answer 10 10 ++ answer 11 11 = answer 10 11 :=
  follows_byBlock.same_events batchUtils_partitions follows_atOnce .refl .refl
    timestampsAgree_expired

end Reference

end DexAdapter
