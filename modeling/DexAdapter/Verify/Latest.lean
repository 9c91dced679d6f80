import DexAdapter.Verify.History

/-!
# The latest block

`getLatestRound` skips the newest round of the index and answers with the one before it. While the
chain and the index grow the answer never goes back, and once there is one there always is
(`World.getLatestBlock_mono`).
-/

namespace DexAdapter

open Collect DataIntegrationService

namespace World

variable {d : Deployment} {w w' : World d}

/-- The rounds of the metachain in the index, newest first; the latest block is the second. -/
structure NewestFirst (w : World d) (hits : List RoundDocument) : Prop where
  perm : hits.Perm (w.elastic.contents.rounds.filter IndexerService.latestRoundQuery.matches)
  sorted : hits.Pairwise fun doc doc' => doc'.timestamp < doc.timestamp

theorem NewestFirst.mem {hits : List RoundDocument} (h : w.NewestFirst hits) {doc : RoundDocument} :
    doc ∈ hits ↔ doc ∈ w.elastic.contents.rounds ∧ doc.shardId = METACHAIN := by
  rw [h.perm.mem_iff, List.mem_filter, IndexerService.matches_latestRoundQuery]

theorem getLatestBlock_eq (w : World d) :
    ∃ hits, w.NewestFirst hits ∧ getLatestBlock w.env = match hits[1]? with
      | some doc => .ok (Block.fromElasticRound doc.toElasticRound false)
      | none => .error DecodedStruct.typeError := by
  obtain ⟨answer, hanswer, hits, hperm, hsorted, rfl⟩ :=
    w.elastic.serves.rounds IndexerService.latestRoundQuery
  have hstrict := w.within.strictRounds
  have hnodup : hits.Nodup := by
    have hmetachain : w.elastic.contents.rounds.filter IndexerService.latestRoundQuery.matches =
        w.elastic.contents.rounds.filter fun doc => decide (doc.shardId = METACHAIN) := by
      refine List.filter_congr fun doc _ => Bool.eq_iff_iff.2 ?_
      rw [IndexerService.matches_latestRoundQuery, decide_eq_true_eq]
    rw [hperm.nodup_iff, hmetachain]
    exact hstrict.nodup.of_map _
  refine ⟨hits, ⟨hperm, ?_⟩, ?_⟩
  · have hle : hits.Pairwise fun doc doc' => doc'.timestamp ≤ doc.timestamp := hsorted _ rfl
    refine (hle.and hnodup).imp_of_mem fun {doc doc'} hdoc hdoc' h => ?_
    obtain ⟨hdoc, hmatches⟩ := List.mem_filter.1 (hperm.mem_iff.1 hdoc)
    obtain ⟨hdoc', hmatches'⟩ := List.mem_filter.1 (hperm.mem_iff.1 hdoc')
    refine lt_of_le_of_ne h.1 fun heq => h.2 ?_
    exact hstrict.eq_of_timestamp hdoc (IndexerService.matches_latestRoundQuery.1 hmatches) hdoc'
      (IndexerService.matches_latestRoundQuery.1 hmatches') heq.symm
  · have hhead : (IndexerService.latestRoundQuery.pagination.slice hits).head? = hits[1]? := by
      rcases hits with _ | ⟨newest, _ | ⟨doc, rest⟩⟩ <;> rfl
    rw [getLatestBlock, IndexerService.getLatestRound]
    have hrounds : w.env.elasticService.rounds IndexerService.latestRoundQuery = _ := hanswer
    rw [hrounds, ok_bind, hhead]
    cases hits[1]? <;> rfl

/-- **The latest block never goes back.** -/
theorem getLatestBlock_mono (hsteps : Steps w w') {block : Block}
    (h : getLatestBlock w.env = .ok block) :
    ∃ block', getLatestBlock w'.env = .ok block' ∧ block.blockNumber ≤ block'.blockNumber := by
  obtain ⟨hits, hnewest, hlatest⟩ := w.getLatestBlock_eq
  obtain ⟨hits', hnewest', hlatest'⟩ := w'.getLatestBlock_eq
  have hsub : hits ⊆ hits' := by
    intro doc hdoc
    obtain ⟨hdoc, hmeta⟩ := hnewest.mem.1 hdoc
    exact hnewest'.mem.2 ⟨hsteps.later.index.rounds.subset hdoc, hmeta⟩
  rcases hits with _ | ⟨newest, _ | ⟨doc, rest⟩⟩
  · cases hlatest.symm.trans h
  · cases hlatest.symm.trans h
  · obtain rfl := Except.ok.inj (hlatest.symm.trans h)
    have hlt : doc.timestamp < newest.timestamp :=
      List.rel_of_pairwise_cons hnewest.sorted List.mem_cons_self
    have hmem : doc ∈ hits' := hsub (List.mem_cons_of_mem _ List.mem_cons_self)
    have hmem' : newest ∈ hits' := hsub List.mem_cons_self
    rcases hits' with _ | ⟨newest', _ | ⟨doc', rest'⟩⟩
    · cases hmem
    · obtain rfl := List.mem_singleton.1 hmem
      obtain rfl := List.mem_singleton.1 hmem'
      exact absurd hlt (lt_irrefl _)
    · have htail : ∀ x ∈ doc' :: rest', x.timestamp ≤ doc'.timestamp := by
        intro x hx
        rcases List.mem_cons.1 hx with rfl | hx
        · exact le_refl _
        · exact (List.rel_of_pairwise_cons hnewest'.sorted.of_cons hx).le
      -- one of the two old rounds is not the newest
      have hle : doc.timestamp ≤ doc'.timestamp := by
        rcases List.mem_cons.1 hmem with rfl | hmem
        · rcases List.mem_cons.1 hmem' with rfl | hmem'
          · exact absurd hlt (lt_irrefl _)
          · exact hlt.le.trans (htail newest hmem')
        · exact htail doc hmem
      obtain ⟨hdoc, hmeta⟩ := hnewest'.mem.1 hmem
      obtain ⟨hdoc', hmeta'⟩ := hnewest'.mem.1 (List.mem_cons_of_mem _ List.mem_cons_self)
      refine ⟨_, hlatest', ?_⟩
      rw [Block.blockNumber_fromElasticRound, Block.blockNumber_fromElasticRound]
      exact w'.within.strictRounds.round_le hdoc hmeta hdoc' hmeta' hle

end World

/-! ## A run that goes on

Round 12 is produced after the two rounds of the run with an old copy, and indexed later. -/

namespace Reference

def nextRound : Production expired.chain :=
  production expired.chain (round 12 6012).toElasticRound [] (by decide) (by decide +kernel)
    List.nodup_nil (by simp)

def continued : World deployment :=
  { expired with
    chain := expired.chain.produce nextRound, within := expired.within.produce nextRound }

def indexed : World deployment :=
  { continued with
    elastic := elastic continued.chain.toIndices
    within := ⟨List.Subperm.refl _, List.Subperm.refl _, List.Subperm.refl _⟩ }

theorem steps_indexed : World.Steps expired indexed := by
  have hproduced : World.Steps expired continued := .single (.produce nextRound)
  refine hproduced.tail (.index _ ?_ _)
  exact ⟨List.sublist_append_left _ _, List.sublist_append_left _ _, List.sublist_append_left _ _⟩

theorem getLatestBlock_mono_indexed :
    ∃ block', getLatestBlock indexed.env = .ok block' ∧ 10 ≤ block'.blockNumber :=
  World.getLatestBlock_mono steps_indexed getLatestBlock_published

end Reference

end DexAdapter
