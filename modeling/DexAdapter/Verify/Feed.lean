import DexAdapter.Verify.Following
import DexAdapter.Verify.Order

/-!
# What a reader collects is in order

A reader asks for one range after another, whatever the copies of the pairs are and whether the
blocks are published. Over all its requests the block numbers do not decrease, and the events of a
block are numbered 0, 1, 2, …: block number and `txnIndex` grow strictly along the whole list
(`World.Collects.keys_increase`).
-/

namespace DexAdapter

open Collect DataIntegrationService ResponseEvent

namespace ResponseEvent

def blockNumber (e : ResponseEvent) : Nat := e.block.blockNumber

end ResponseEvent

/-- The events of the block with a number. -/
def ofNumber (n : Nat) (events : List ResponseEvent) : List ResponseEvent :=
  events.filter fun e => decide (e.blockNumber = n)

/-- Blocks stand in their order, and each is numbered without a gap. -/
structure Numbered (events : List ResponseEvent) : Prop where
  blocks : events.Pairwise fun e e' => e.blockNumber ≤ e'.blockNumber
  indices : ∀ n, (ofNumber n events).map (fun e => e.txnIndex) =
    List.range (ofNumber n events).length

namespace Numbered

theorem nil : Numbered [] where
  blocks := List.Pairwise.nil
  indices _ := rfl

theorem ofNumber_eq_nil {events : List ResponseEvent} {n : Nat}
    (h : ∀ e ∈ events, e.blockNumber ≠ n) : ofNumber n events = [] :=
  List.filter_eq_nil_iff.2 fun e he => by simpa using h e he

/-- Lists of blocks that follow each other. -/
theorem append {events new : List ResponseEvent} {next : Int} (h : Numbered events)
    (hnew : Numbered new) (hlt : ∀ e ∈ events, (e.blockNumber : Int) < next)
    (hge : ∀ e ∈ new, next ≤ (e.blockNumber : Int)) : Numbered (events ++ new) where
  blocks := by
    refine List.pairwise_append.2 ⟨h.blocks, hnew.blocks, fun e he e' he' => ?_⟩
    have := hlt e he
    have := hge e' he'
    omega
  indices n := by
    have hcut : ofNumber n (events ++ new) = ofNumber n events ++ ofNumber n new :=
      List.filter_append _ _
    rcases lt_or_ge (n : Int) next with hn | hn
    · have hnone : ofNumber n new = [] := by
        refine ofNumber_eq_nil fun e he heq => ?_
        have := hge e he
        omega
      rw [hcut, hnone, List.append_nil]
      exact h.indices n
    · have hnone : ofNumber n events = [] := by
        refine ofNumber_eq_nil fun e he heq => ?_
        have := hlt e he
        omega
      rw [hcut, hnone, List.nil_append]
      exact hnew.indices n

/-- Block number and `txnIndex` grow strictly. -/
theorem increasing {events : List ResponseEvent} (h : Numbered events) :
    events.Pairwise fun e e' => e.blockNumber < e'.blockNumber ∨
      e.blockNumber = e'.blockNumber ∧ e.txnIndex < e'.txnIndex := by
  have hindices : events.Pairwise fun e e' =>
      e.blockNumber = e'.blockNumber → e.txnIndex < e'.txnIndex := by
    refine List.pairwise_iff_forall_sublist.2 fun {e e'} hsub heq => ?_
    have hblock : [e, e'].Sublist (ofNumber e.blockNumber events) := by
      have hfilter := hsub.filter fun f => decide (f.blockNumber = e.blockNumber)
      simpa [ofNumber, heq] using hfilter
    have hrange := hblock.map fun f => f.txnIndex
    rw [h.indices] at hrange
    exact List.rel_of_pairwise_cons (List.pairwise_lt_range.sublist hrange) List.mem_cons_self
  exact (h.blocks.and hindices).imp fun {e e'} ⟨hle, hindex⟩ =>
    (Nat.lt_or_eq_of_le hle).imp_right fun heq => ⟨heq, hindex heq⟩

end Numbered

namespace World

variable {d : Deployment} {w : World d} {a b : Int}

/-! ## One response -/

/-- A list of rounds of the metachain from `a` to `b`. -/
def RoundsIn (w : World d) (a b : Int) (rounds : List ElasticRound) : Prop :=
  ∀ round ∈ rounds, ∃ doc ∈ w.chain.rounds, doc.shardId = METACHAIN ∧ a ≤ doc.round ∧
    (doc.round : Int) ≤ b ∧ doc.toElasticRound = round

theorem RoundsIn.increase {rounds : List ElasticRound} (h : w.RoundsIn a b rounds) :
    TimestampsIncrease rounds := by
  intro round hround round' hround'
  obtain ⟨doc, hdoc, hmeta, -, -, rfl⟩ := h round hround
  obtain ⟨doc', hdoc', hmeta', -, -, rfl⟩ := h round' hround'
  exact w.chain.strictRounds.round_lt_iff hdoc hmeta hdoc' hmeta'

theorem RoundsIn.positive {rounds : List ElasticRound} (h : w.RoundsIn a b rounds)
    {round : ElasticRound} (hround : round ∈ rounds) : 0 < round.timestamp := by
  obtain ⟨doc, hdoc, hmeta, -, -, rfl⟩ := h round hround
  exact w.chain.strictRounds.positive doc hdoc hmeta

/-- A response has events of rounds that it read, in order. -/
theorem ordered_of_getEvents {events : List ResponseEvent}
    (h : DataIntegrationController.getEvents w.env a b = .ok events) :
    ∃ rounds converted, w.RoundsIn a b rounds ∧ (∀ e ∈ events, InRounds rounds e) ∧
      Ordered w.env converted events := by
  have hrange := range_le_of_getEvents h
  rw [DataIntegrationController.getEvents_of_le hrange] at h
  obtain ⟨hits, hhits, hperm, -⟩ := w.within.strictRounds.getRounds_eq w.elastic.serves hrange
  have hrounds : w.RoundsIn a b (hits.map RoundDocument.toElasticRound) := by
    intro round hround
    obtain ⟨doc, hdoc, rfl⟩ := List.mem_map.1 hround
    obtain ⟨hdoc, hmeta, hge, hle⟩ := mem_hits hperm hdoc
    exact ⟨doc, w.within.rounds.subset hdoc, hmeta, hge, hle, rfl⟩
  obtain ⟨xExchangeEvents, oneDexEvents, -, rfl⟩ := eq_publish_converted hhits h
  have hconverted : ∀ e ∈ converted w.env (hits.map RoundDocument.toElasticRound)
      xExchangeEvents oneDexEvents, InRounds (hits.map RoundDocument.toElasticRound) e :=
    fun e he => inRounds_of_mem_converted he
  exact ⟨_, _, hrounds, fun e he => inRounds_of_mem_publish hconverted he,
    publish_ordered hrounds.increase hconverted⟩

theorem numbered_of_ordered {events published : List ResponseEvent} {rounds : List ElasticRound}
    (hrounds : w.RoundsIn a b rounds) (hin : ∀ e ∈ published, InRounds rounds e)
    (h : Ordered w.env events published) : Numbered published where
  blocks := h.blockNumber
  indices n := by
    by_cases hn : ∃ e ∈ published, e.blockNumber = n
    · obtain ⟨e, he, rfl⟩ := hn
      have hblock : ofNumber e.blockNumber published = ofBlock e.block published := by
        refine List.filter_congr fun f hf => decide_eq_decide.2 ?_
        have hlt := blockNumber_lt_iff hrounds.increase (hin e he) (hin f hf)
        have hgt := blockNumber_lt_iff hrounds.increase (hin f hf) (hin e he)
        rw [block_eq_iff hrounds.increase (hin f hf) (hin e he)]
        change f.block.blockNumber = e.block.blockNumber ↔ _
        omega
      obtain ⟨first, hfirst, hindices⟩ := h.consecutive e.block
      obtain ⟨round, hround, heround⟩ := hin e he
      have hzero : first = 0 := by
        refine hfirst ?_
        rw [heround, Block.blockTimestamp_fromElasticRound]
        exact (hrounds.positive hround).ne'
      rw [hblock, hindices, hzero, List.range_eq_range']
    · have hnone : ofNumber n published = [] :=
        Numbered.ofNumber_eq_nil fun e he heq => hn ⟨e, he, heq⟩
      rw [hnone]
      rfl

/-- A response is numbered, and its blocks are those asked for. -/
theorem numbered_of_getEvents {events : List ResponseEvent}
    (h : DataIntegrationController.getEvents w.env a b = .ok events) :
    Numbered events ∧ ∀ e ∈ events, a ≤ e.blockNumber ∧ (e.blockNumber : Int) ≤ b := by
  obtain ⟨rounds, converted, hrounds, hin, hordered⟩ := ordered_of_getEvents h
  refine ⟨numbered_of_ordered hrounds hin hordered, fun e he => ?_⟩
  obtain ⟨round, hround, heround⟩ := hin e he
  obtain ⟨doc, -, -, hge, hle, rfl⟩ := hrounds round hround
  rw [ResponseEvent.blockNumber, heround, Block.blockNumber_fromElasticRound]
  exact ⟨hge, hle⟩

/-! ## All responses -/

/-- A reader asks for ranges, each after the one before, and has the events of all responses.
Block `next` is the first after these ranges. -/
inductive Collects : World d → Int → List ResponseEvent → Prop where
  | start (w : World d) (next : Int) : Collects w next []
  | later {w w' : World d} {next : Int} {events : List ResponseEvent}
      (h : Collects w next events) (hsteps : Steps w w') : Collects w' next events
  | ask {w : World d} {next a b : Int} {events new : List ResponseEvent}
      (h : Collects w next events) (ha : next ≤ a) (hb : a ≤ b)
      (hresponse : DataIntegrationController.getEvents w.env a b = .ok new) :
      Collects w (b + 1) (events ++ new)

theorem Follows.collects {first next : Int} {events : List ResponseEvent}
    (h : Follows first w next events) : Collects w next events := by
  induction h with
  | start w => exact .start w first
  | later _ hsteps ih => exact ih.later hsteps
  | ask _ hle _ _ hresponse ih => exact ih.ask (le_refl _) hle hresponse

theorem Collects.numbered {next : Int} {events : List ResponseEvent}
    (h : Collects w next events) :
    Numbered events ∧ ∀ e ∈ events, (e.blockNumber : Int) < next := by
  induction h with
  | start w next => exact ⟨.nil, by simp⟩
  | later _ _ ih => exact ih
  | @ask w next a b events new _ ha hb hresponse ih =>
    obtain ⟨hevents, hlt⟩ := ih
    obtain ⟨hnew, hin⟩ := numbered_of_getEvents hresponse
    refine ⟨hevents.append hnew hlt fun e he => ha.trans (hin e he).1, fun e he => ?_⟩
    rcases List.mem_append.1 he with he | he
    · have := hlt e he
      omega
    · have := (hin e he).2
      omega

/-- **All that a reader collects is numbered** over all its requests, so that block number and
`txnIndex` are a key of its events, in their order. -/
theorem Collects.keys_increase {next : Int} {events : List ResponseEvent}
    (h : Collects w next events) :
    Numbered events ∧ events.Pairwise fun e e' => e.blockNumber < e'.blockNumber ∨
      e.blockNumber = e'.blockNumber ∧ e.txnIndex < e'.txnIndex :=
  ⟨h.numbered.1, h.numbered.1.increasing⟩

end World

theorem Reference.keys_increase_byBlock :
    Numbered (answer 10 10 ++ answer 11 11) ∧
      (answer 10 10 ++ answer 11 11).Pairwise fun e e' => e.blockNumber < e'.blockNumber ∨
        e.blockNumber = e'.blockNumber ∧ e.txnIndex < e'.txnIndex :=
  World.Collects.keys_increase follows_byBlock.collects

end DexAdapter
