import Mathlib.Data.Int.Interval
import DexAdapter.DataIntegration.Service

/-!
# Rounds of a block range

`getRounds` answers with the metachain's documents of the range in the order of their timestamps.
Where timestamps grow with the round number, the rounds of a range are those of its first part
followed by those of its second part (`StrictRounds.getRounds_append`).
-/

namespace DexAdapter

open Collect DataIntegrationService

/-- The metachain's documents: at most one a round, with positive timestamps that grow with the
round number. -/
structure StrictRounds (rounds : List RoundDocument) : Prop where
  nodup : ((rounds.filter fun doc => doc.shardId = METACHAIN).map fun doc => doc.round).Nodup
  positive : ∀ doc ∈ rounds, doc.shardId = METACHAIN → 0 < doc.timestamp
  increasing : ∀ doc ∈ rounds, ∀ doc' ∈ rounds, doc.shardId = METACHAIN →
    doc'.shardId = METACHAIN → doc.round < doc'.round → doc.timestamp < doc'.timestamp

/-- Distinct integers of an interval are no more than the interval has. -/
theorem length_le_of_nodup_interval {l : List Int} {a c : Int} (hnodup : l.Nodup)
    (hmem : ∀ x ∈ l, a ≤ x ∧ x ≤ c) : l.length ≤ (c + 1 - a).toNat := by
  have hsub : l.toFinset ⊆ Finset.Icc a c := by
    intro x hx
    exact Finset.mem_Icc.2 (hmem x (List.mem_toFinset.1 hx))
  have hcard := Finset.card_le_card hsub
  rwa [List.toFinset_card_of_nodup hnodup, Int.card_Icc] at hcard

/-- Two predicates that divide a third divide the list it selects. -/
theorem filter_perm_append {α : Type} {p q m : α → Bool} {l : List α}
    (hp : ∀ x ∈ l, p x = true ↔ m x = true ∧ q x = false)
    (hq : ∀ x ∈ l, q x = true → m x = true) : (l.filter m).Perm (l.filter p ++ l.filter q) := by
  have hfst : l.filter p = (l.filter m).filter fun x => !q x := by
    rw [List.filter_filter]
    refine List.filter_congr fun x hx => Bool.eq_iff_iff.2 ?_
    rw [hp x hx, Bool.and_eq_true, Bool.not_eq_true', and_comm]
  have hsnd : l.filter q = (l.filter m).filter fun x => !(!q x) := by
    rw [List.filter_filter]
    refine List.filter_congr fun x hx => Bool.eq_iff_iff.2 ?_
    rw [Bool.and_eq_true, Bool.not_not]
    exact ⟨fun h => ⟨h, hq x hx h⟩, fun h => h.1⟩
  rw [hfst, hsnd]
  exact (List.filter_append_perm _ _).symm

theorem mem_hits {rounds hits : List RoundDocument} {a c : Int}
    (hperm : hits.Perm (rounds.filter (IndexerService.roundsQuery a c).matches))
    {d : RoundDocument} (hd : d ∈ hits) :
    d ∈ rounds ∧ d.shardId = METACHAIN ∧ a ≤ d.round ∧ (d.round : Int) ≤ c := by
  obtain ⟨hd, hmatches⟩ := List.mem_filter.1 (hperm.mem_iff.1 hd)
  exact ⟨hd, IndexerService.matches_roundsQuery.1 hmatches⟩

/-- Rounds are the metachain's documents of the range, earliest first, whatever the timestamps. -/
theorem ElasticService.Serves.getRounds {elasticService : ElasticService} {indices : Indices}
    (hserves : elasticService.Serves indices) {a c : Int} {rounds : List ElasticRound}
    (h : IndexerService.getRounds elasticService a c = .ok rounds) :
    (∀ round ∈ rounds, ∃ doc ∈ indices.rounds, doc.shardId = METACHAIN ∧ a ≤ doc.round ∧
      (doc.round : Int) ≤ c ∧ doc.toElasticRound = round) ∧
    rounds.Pairwise fun r r' => r.timestamp ≤ r'.timestamp := by
  obtain ⟨answer, hanswer, hits, hperm, hsorted, rfl⟩ :=
    hserves.rounds (IndexerService.roundsQuery a c)
  rw [IndexerService.getRounds, hanswer] at h
  obtain rfl := Except.ok.inj h
  have hsub : List.Sublist ((IndexerService.roundsQuery a c).pagination.slice hits) hits :=
    (List.take_sublist _ _).trans (List.drop_sublist _ _)
  constructor
  · intro round hround
    obtain ⟨doc, hdoc, rfl⟩ := List.mem_map.1 hround
    obtain ⟨hmem, hmeta, hge, hle⟩ := mem_hits hperm (hsub.subset hdoc)
    exact ⟨doc, hmem, hmeta, hge, hle, rfl⟩
  · exact List.pairwise_map.2 ((IndexerService.sorted_roundsQuery hsorted).sublist hsub)

namespace StrictRounds

/-- A range has at most one document a round. -/
theorem nodup_matches {rounds : List RoundDocument} (hstrict : StrictRounds rounds) (a c : Int) :
    ((rounds.filter (IndexerService.roundsQuery a c).matches).map fun doc => doc.round).Nodup := by
  refine hstrict.nodup.sublist (List.Sublist.map _ ?_)
  have hmetachain : rounds.filter (IndexerService.roundsQuery a c).matches =
      (rounds.filter fun d => decide (d.shardId = METACHAIN)).filter
        (IndexerService.roundsQuery a c).matches := by
    rw [List.filter_filter]
    refine List.filter_congr fun d _ => Bool.eq_iff_iff.2 ?_
    rw [Bool.and_eq_true, decide_eq_true_eq]
    exact ⟨fun h => ⟨h, (IndexerService.matches_roundsQuery.1 h).1⟩, fun h => h.1⟩
  rw [hmetachain]
  exact List.filter_sublist

/-- Rounds that are not earlier in time are not earlier in number. -/
theorem round_le {rounds : List RoundDocument} (hstrict : StrictRounds rounds)
    {doc doc' : RoundDocument} (hdoc : doc ∈ rounds) (hmeta : doc.shardId = METACHAIN)
    (hdoc' : doc' ∈ rounds) (hmeta' : doc'.shardId = METACHAIN)
    (h : doc.timestamp ≤ doc'.timestamp) : doc.round ≤ doc'.round := by
  by_contra hlt
  have := hstrict.increasing doc' hdoc' doc hdoc hmeta' hmeta (by omega)
  omega

variable {elasticService : ElasticService} {indices : Indices}
  (hserves : elasticService.Serves indices) (hstrict : StrictRounds indices.rounds)

include hserves hstrict

/-- A range that fits in a page is answered with all its rounds, earliest first. -/
theorem getRounds_eq {a c : Int} (hrange : c - a ≤ 1000) :
    ∃ hits : List RoundDocument,
      IndexerService.getRounds elasticService a c = .ok (hits.map RoundDocument.toElasticRound) ∧
      hits.Perm (indices.rounds.filter (IndexerService.roundsQuery a c).matches) ∧
      hits.Pairwise fun d d' => d.timestamp < d'.timestamp := by
  obtain ⟨answer, hanswer, hits, hperm, hsorted, rfl⟩ :=
    hserves.rounds (IndexerService.roundsQuery a c)
  have hnodup : (hits.map fun d => d.round).Nodup :=
    (hperm.map _).nodup_iff.2 (hstrict.nodup_matches a c)
  have hpage : hits.length ≤ 10000 := by
    have hcast : (hits.map fun d => (d.round : Int)).Nodup := by
      have := hnodup.map Int.ofNat_injective
      rwa [List.map_map] at this
    have hlength := length_le_of_nodup_interval (a := a) (c := c) hcast (by
      intro x hx
      obtain ⟨d, hd, rfl⟩ := List.mem_map.1 hx
      exact (mem_hits hperm hd).2.2)
    rw [List.length_map] at hlength
    omega
  refine ⟨hits, ?_, hperm, ?_⟩
  · have hslice : (IndexerService.roundsQuery a c).pagination.slice hits = hits :=
      List.take_of_length_le hpage
    rw [IndexerService.getRounds, hanswer, hslice]
    rfl
  · have hle := IndexerService.sorted_roundsQuery hsorted
    refine (hle.and (List.pairwise_map.1 hnodup)).imp_of_mem fun {d d'} hd hd' h => ?_
    obtain ⟨hd, hmeta, -⟩ := mem_hits hperm hd
    obtain ⟨hd', hmeta', -⟩ := mem_hits hperm hd'
    rcases Nat.lt_or_gt_of_ne h.2 with hlt | hgt
    · exact hstrict.increasing d hd d' hd' hmeta hmeta' hlt
    · have := hstrict.increasing d' hd' d hd hmeta' hmeta hgt
      omega

/-- The rounds of a range are those of the documents in it. -/
theorem getRounds_congr {elasticService' : ElasticService} {indices' : Indices}
    (hserves' : elasticService'.Serves indices') (hstrict' : StrictRounds indices'.rounds)
    {a c : Int} (hrange : c - a ≤ 1000)
    (h : indices.rounds.filter (IndexerService.roundsQuery a c).matches =
      indices'.rounds.filter (IndexerService.roundsQuery a c).matches) :
    IndexerService.getRounds elasticService a c = IndexerService.getRounds elasticService' a c := by
  obtain ⟨hits, hrounds, hperm, hsorted⟩ := hstrict.getRounds_eq hserves hrange
  obtain ⟨hits', hrounds', hperm', hsorted'⟩ := hstrict'.getRounds_eq hserves' hrange
  rw [h] at hperm
  have heq : hits = hits' :=
    (hperm.trans hperm'.symm).eq_of_pairwise (fun d d' _ _ h h' => absurd h (Nat.lt_asymm h'))
      hsorted hsorted'
  rw [hrounds, hrounds', heq]

/-- **Rounds of a split range.** -/
theorem getRounds_append {a b c : Int} (hab : a ≤ b) (hbc : b < c) (hrange : c - a ≤ 1000) :
    ∃ first second : List ElasticRound,
      IndexerService.getRounds elasticService a b = .ok first ∧
      IndexerService.getRounds elasticService (b + 1) c = .ok second ∧
      IndexerService.getRounds elasticService a c = .ok (first ++ second) ∧
      ((first ++ second).Pairwise fun r r' => r.timestamp < r'.timestamp) ∧
      ∀ r ∈ first ++ second, 0 < r.timestamp := by
  obtain ⟨hits₁, hrounds₁, hperm₁, hsorted₁⟩ :=
    hstrict.getRounds_eq hserves (a := a) (c := b) (by omega)
  obtain ⟨hits₂, hrounds₂, hperm₂, hsorted₂⟩ :=
    hstrict.getRounds_eq hserves (a := b + 1) (c := c) (by omega)
  obtain ⟨hits, hrounds, hperm, hsorted⟩ := hstrict.getRounds_eq hserves hrange
  have happend : (hits₁ ++ hits₂).Pairwise fun d d' => d.timestamp < d'.timestamp := by
    refine List.pairwise_append.2 ⟨hsorted₁, hsorted₂, fun d hd d' hd' => ?_⟩
    obtain ⟨hd, hmeta, -, hle⟩ := mem_hits hperm₁ hd
    obtain ⟨hd', hmeta', hge, -⟩ := mem_hits hperm₂ hd'
    exact hstrict.increasing d hd d' hd' hmeta hmeta' (by omega)
  have hsplit : hits.Perm (hits₁ ++ hits₂) := by
    refine hperm.trans (List.Perm.trans ?_ (hperm₁.append hperm₂).symm)
    refine filter_perm_append (fun d _ => ?_) fun d _ => ?_
    · rw [← Bool.not_eq_true, IndexerService.matches_roundsQuery,
        IndexerService.matches_roundsQuery, IndexerService.matches_roundsQuery]
      omega
    · rw [IndexerService.matches_roundsQuery, IndexerService.matches_roundsQuery]
      omega
  have heq : hits = hits₁ ++ hits₂ :=
    hsplit.eq_of_pairwise (fun d d' _ _ h h' => absurd h (Nat.lt_asymm h')) hsorted happend
  refine ⟨_, _, hrounds₁, hrounds₂, ?_, ?_, ?_⟩
  · rw [hrounds, heq, List.map_append]
  · rw [← List.map_append]
    exact List.pairwise_map.2 happend
  · intro r hr
    rw [← List.map_append, ← heq] at hr
    obtain ⟨d, hd, rfl⟩ := List.mem_map.1 hr
    obtain ⟨hd, hmeta, -⟩ := mem_hits hperm hd
    exact hstrict.positive d hd hmeta

end StrictRounds

end DexAdapter
