import DexAdapter.Verify.Rounds
import DexAdapter.Verify.Contribution

/-!
# The chain

`Chain` is everything the chain has produced, as the documents that an index can hold. Each step
adds one round of the metachain with its events and their transactions (`Production`). Rounds and
timestamps grow, an event has the timestamp of its round, and a transaction is known with its first
event; the structure carries what follows from that. `Chain.Later` is what a chain can become.
-/

namespace DexAdapter

structure Chain extends Indices where
  strictRounds : StrictRounds rounds
  events_nodup : events.Nodup
  round_of_event : ∀ e ∈ events, ∃ doc ∈ rounds, doc.shardId = METACHAIN ∧
    doc.timestamp = e.timestamp
  operations_nodup : (operations.map fun t => t.txHash).Nodup

/-- What the next round adds. -/
structure Production (chain : Chain) where
  round : ElasticRound
  /-- the rounds of the other shards -/
  shardRounds : List RoundDocument
  events : List ElasticEvent
  operations : List ElasticTransaction
  positive : 0 < round.timestamp
  grows : ∀ doc ∈ chain.rounds, doc.shardId = METACHAIN →
    doc.round < round.round ∧ doc.timestamp < round.timestamp
  shards : ∀ doc ∈ shardRounds, doc.shardId ≠ METACHAIN
  events_nodup : events.Nodup
  events_timestamp : ∀ e ∈ events, e.timestamp = round.timestamp
  operations_nodup : (operations.map fun t => t.txHash).Nodup
  operations_fresh : ∀ t ∈ operations, ∀ t' ∈ chain.operations, t'.txHash ≠ t.txHash
  /-- the transaction of an event is there before the event -/
  operations_first : ∀ t ∈ operations, ∀ e ∈ chain.events, t.txHash ≠ e.transactionId

namespace Production

variable {chain : Chain} (p : Production chain)

/-- The round as the metachain saw it. -/
def metachainRound : RoundDocument := { p.round with shardId := METACHAIN }

def rounds : List RoundDocument := chain.rounds ++ p.metachainRound :: p.shardRounds

theorem mem_rounds {doc : RoundDocument} (hmeta : doc.shardId = METACHAIN) :
    doc ∈ p.rounds ↔ doc ∈ chain.rounds ∨ doc = p.metachainRound := by
  have hshard : doc ∉ p.shardRounds := fun h => p.shards doc h hmeta
  simp only [rounds, List.mem_append, List.mem_cons, hshard, or_false]

/-- An event that is there is older than the round. -/
theorem timestamp_lt {e : ElasticEvent} (he : e ∈ chain.events) :
    e.timestamp < p.round.timestamp := by
  obtain ⟨doc, hdoc, hmeta, htimestamp⟩ := chain.round_of_event e he
  rw [← htimestamp]
  exact (p.grows doc hdoc hmeta).2

theorem strictRounds : StrictRounds p.rounds where
  nodup := by
    have hshards : p.shardRounds.filter (fun doc => decide (doc.shardId = METACHAIN)) = [] := by
      refine List.filter_eq_nil_iff.2 fun doc hdoc => ?_
      simpa using p.shards doc hdoc
    rw [rounds, List.filter_append, List.filter_cons_of_pos (by simp [metachainRound]), hshards,
      List.map_append, List.nodup_append]
    refine ⟨chain.strictRounds.nodup, List.nodup_singleton _, ?_⟩
    rintro x hx y hy rfl
    obtain ⟨doc, hdoc, rfl⟩ := List.mem_map.1 hx
    obtain ⟨hdoc, hmeta⟩ := List.mem_filter.1 hdoc
    have hround : doc.round = p.round.round := by simpa [metachainRound] using hy
    exact absurd hround (p.grows doc hdoc (by simpa using hmeta)).1.ne
  positive doc hdoc hmeta := by
    rcases (p.mem_rounds hmeta).1 hdoc with hdoc | rfl
    · exact chain.strictRounds.positive doc hdoc hmeta
    · exact p.positive
  increasing doc hdoc doc' hdoc' hmeta hmeta' hlt := by
    rcases (p.mem_rounds hmeta).1 hdoc with hdoc | rfl
    · rcases (p.mem_rounds hmeta').1 hdoc' with hdoc' | rfl
      · exact chain.strictRounds.increasing doc hdoc doc' hdoc' hmeta hmeta' hlt
      · exact (p.grows doc hdoc hmeta).2
    · rcases (p.mem_rounds hmeta').1 hdoc' with hdoc' | rfl
      · exact absurd hlt (Nat.lt_asymm (p.grows doc' hdoc' hmeta').1)
      · exact absurd hlt (Nat.lt_irrefl _)

end Production

namespace Chain

def empty : Chain where
  rounds := []
  events := []
  operations := []
  strictRounds := ⟨List.nodup_nil, by simp, by simp⟩
  events_nodup := List.nodup_nil
  round_of_event := by simp
  operations_nodup := List.nodup_nil

def produce (chain : Chain) (p : Production chain) : Chain where
  rounds := p.rounds
  events := chain.events ++ p.events
  operations := chain.operations ++ p.operations
  strictRounds := p.strictRounds
  events_nodup := by
    refine List.nodup_append.2 ⟨chain.events_nodup, p.events_nodup, ?_⟩
    rintro e he _ he' rfl
    exact absurd (p.events_timestamp e he') (p.timestamp_lt he).ne
  round_of_event e he := by
    rcases List.mem_append.1 he with he | he
    · obtain ⟨doc, hdoc, hround⟩ := chain.round_of_event e he
      exact ⟨doc, List.mem_append_left _ hdoc, hround⟩
    · exact ⟨p.metachainRound, (p.mem_rounds rfl).2 (Or.inr rfl), rfl,
        (p.events_timestamp e he).symm⟩
  operations_nodup := by
    rw [List.map_append]
    refine List.nodup_append.2 ⟨chain.operations_nodup, p.operations_nodup, ?_⟩
    rintro hash hhash _ hhash' rfl
    obtain ⟨t', ht', rfl⟩ := List.mem_map.1 hhash
    obtain ⟨t, ht, heq⟩ := List.mem_map.1 hhash'
    exact p.operations_fresh t ht t' ht' heq.symm

/-- `chain'` has what `chain` has, and what it adds is later than all of it. -/
structure Later (chain chain' : Chain) : Prop where
  rounds : chain.rounds ⊆ chain'.rounds
  events : chain.events ⊆ chain'.events
  operations : chain.operations ⊆ chain'.operations
  round_later : ∀ doc ∈ chain'.rounds, doc.shardId = METACHAIN → doc ∈ chain.rounds ∨
    ∀ old ∈ chain.rounds, old.shardId = METACHAIN → old.round < doc.round
  event_later : ∀ e ∈ chain'.events, e ∈ chain.events ∨
    ∀ old ∈ chain.rounds, old.shardId = METACHAIN → old.timestamp < e.timestamp
  operation_later : ∀ t ∈ chain'.operations, t ∈ chain.operations ∨
    ∀ e ∈ chain.events, t.txHash ≠ e.transactionId

theorem Later.refl (chain : Chain) : chain.Later chain where
  rounds := List.Subset.refl _
  events := List.Subset.refl _
  operations := List.Subset.refl _
  round_later _ hdoc _ := Or.inl hdoc
  event_later _ he := Or.inl he
  operation_later _ ht := Or.inl ht

theorem Later.trans {chain₁ chain₂ chain₃ : Chain} (h : chain₁.Later chain₂)
    (h' : chain₂.Later chain₃) : chain₁.Later chain₃ where
  rounds := List.Subset.trans h.rounds h'.rounds
  events := List.Subset.trans h.events h'.events
  operations := List.Subset.trans h.operations h'.operations
  round_later doc hdoc hmeta := by
    rcases h'.round_later doc hdoc hmeta with hdoc | hlater
    · exact h.round_later doc hdoc hmeta
    · exact Or.inr fun old hold => hlater old (h.rounds hold)
  event_later e he := by
    rcases h'.event_later e he with he | hlater
    · exact h.event_later e he
    · exact Or.inr fun old hold => hlater old (h.rounds hold)
  operation_later t ht := by
    rcases h'.operation_later t ht with ht | hlater
    · exact h.operation_later t ht
    · exact Or.inr fun e he => hlater e (h.events he)

theorem later_produce (chain : Chain) (p : Production chain) : chain.Later (chain.produce p) where
  rounds := List.subset_append_left _ _
  events := List.subset_append_left _ _
  operations := List.subset_append_left _ _
  round_later doc hdoc hmeta := by
    rcases (p.mem_rounds hmeta).1 hdoc with hdoc | rfl
    · exact Or.inl hdoc
    · exact Or.inr fun old hold hmeta' => (p.grows old hold hmeta').1
  event_later e he := by
    rcases List.mem_append.1 he with he | he
    · exact Or.inl he
    · refine Or.inr fun old hold hmeta => ?_
      rw [p.events_timestamp e he]
      exact (p.grows old hold hmeta).2
  operation_later t ht := by
    rcases List.mem_append.1 ht with ht | ht
    · exact Or.inl ht
    · exact Or.inr (p.operations_first t ht)

end Chain

/-! ## An index of the chain -/

/-- Each document is indexed once. -/
structure Indices.Within (index : Indices) (chain : Indices) : Prop where
  rounds : index.rounds.Subperm chain.rounds
  events : index.events.Subperm chain.events
  operations : index.operations.Subperm chain.operations

/-- Documents are added, and those that are there keep their order. -/
structure Indices.Grows (index index' : Indices) : Prop where
  rounds : index.rounds.Sublist index'.rounds
  events : index.events.Sublist index'.events
  operations : index.operations.Sublist index'.operations

theorem Indices.Grows.refl (index : Indices) : index.Grows index :=
  ⟨List.Sublist.refl _, List.Sublist.refl _, List.Sublist.refl _⟩

theorem Indices.Grows.trans {i₁ i₂ i₃ : Indices} (h : i₁.Grows i₂) (h' : i₂.Grows i₃) :
    i₁.Grows i₃ :=
  ⟨h.rounds.trans h'.rounds, h.events.trans h'.events, h.operations.trans h'.operations⟩

/-- The index has all that happened up to a round. -/
structure Indices.CompleteUpTo (index : Indices) (chain : Indices) (block : Nat) : Prop where
  rounds : ∀ doc ∈ chain.rounds, doc.shardId = METACHAIN → doc.round ≤ block →
    doc ∈ index.rounds
  events : ∀ doc ∈ chain.rounds, doc.shardId = METACHAIN → doc.round ≤ block →
    ∀ e ∈ chain.events, e.timestamp = doc.timestamp → e ∈ index.events
  operations : ∀ doc ∈ chain.rounds, doc.shardId = METACHAIN → doc.round ≤ block →
    ∀ e ∈ chain.events, e.timestamp = doc.timestamp →
      ∀ t ∈ chain.operations, t.txHash = e.transactionId → t ∈ index.operations

namespace Indices.Within

variable {index : Indices} {chain : Chain} (h : index.Within chain.toIndices)

include h

theorem strictRounds : StrictRounds index.rounds where
  nodup := by
    obtain ⟨rounds, hperm, hsub⟩ := h.rounds.filter fun doc => decide (doc.shardId = METACHAIN)
    exact (hperm.map _).nodup_iff.1 (chain.strictRounds.nodup.sublist (hsub.map _))
  positive doc hdoc := chain.strictRounds.positive doc (h.rounds.subset hdoc)
  increasing doc hdoc doc' hdoc' :=
    chain.strictRounds.increasing doc (h.rounds.subset hdoc) doc' (h.rounds.subset hdoc')

theorem events_nodup : index.events.Nodup := by
  obtain ⟨events, hperm, hsub⟩ := h.events
  exact hperm.nodup_iff.1 (chain.events_nodup.sublist hsub)

theorem operations_nodup : (index.operations.map fun t => t.txHash).Nodup := by
  obtain ⟨operations, hperm, hsub⟩ := h.operations
  exact (hperm.map _).nodup_iff.1 (chain.operations_nodup.sublist (hsub.map _))

theorem produce (p : Production chain) : index.Within (chain.produce p).toIndices where
  rounds := h.rounds.trans (List.sublist_append_left _ _).subperm
  events := h.events.trans (List.sublist_append_left _ _).subperm
  operations := h.operations.trans (List.sublist_append_left _ _).subperm

end Indices.Within

namespace Chain

variable (chain : Chain) {doc : RoundDocument} {e : ElasticEvent}

/-- An event that is not later than a round is of a round up to it. -/
theorem exists_round_le (hdoc : doc ∈ chain.rounds) (hmeta : doc.shardId = METACHAIN)
    (he : e ∈ chain.events) (hle : e.timestamp ≤ doc.timestamp) :
    ∃ doc' ∈ chain.rounds, doc'.shardId = METACHAIN ∧ doc'.timestamp = e.timestamp ∧
      doc'.round ≤ doc.round := by
  obtain ⟨doc', hdoc', hmeta', htimestamp⟩ := chain.round_of_event e he
  exact ⟨doc', hdoc', hmeta', htimestamp,
    chain.strictRounds.round_le hdoc' hmeta' hdoc hmeta (by omega)⟩

end Chain

namespace Chain.Later

variable {chain chain' : Chain} (h : chain.Later chain') {doc : RoundDocument} {e : ElasticEvent}

include h

theorem round_old {block : Nat}
    (hlast : ∃ last ∈ chain.rounds, last.shardId = METACHAIN ∧ last.round = block)
    (hdoc : doc ∈ chain'.rounds) (hmeta : doc.shardId = METACHAIN) (hle : doc.round ≤ block) :
    doc ∈ chain.rounds := by
  rcases h.round_later doc hdoc hmeta with hdoc | hlater
  · exact hdoc
  · obtain ⟨last, hlast, hmeta', rfl⟩ := hlast
    have := hlater last hlast hmeta'
    omega

theorem event_old (hdoc : doc ∈ chain.rounds) (hmeta : doc.shardId = METACHAIN)
    (he : e ∈ chain'.events) (hle : e.timestamp ≤ doc.timestamp) : e ∈ chain.events := by
  rcases h.event_later e he with he | hlater
  · exact he
  · have := hlater doc hdoc hmeta
    omega

theorem operation_old (he : e ∈ chain.events) {t : ElasticTransaction}
    (ht : t ∈ chain'.operations) (hhash : t.txHash = e.transactionId) : t ∈ chain.operations := by
  rcases h.operation_later t ht with ht | hlater
  · exact ht
  · exact absurd hhash (hlater e he)

end Chain.Later

/-- An index that has all up to a round has it at any later time, too. -/
theorem Indices.CompleteUpTo.later {index index' : Indices} {chain chain' : Chain} {block : Nat}
    (h : index.CompleteUpTo chain.toIndices block) (hlater : chain.Later chain')
    (hgrows : index.Grows index')
    (hlast : ∃ last ∈ chain.rounds, last.shardId = METACHAIN ∧ last.round = block) :
    index'.CompleteUpTo chain'.toIndices block where
  rounds doc hdoc hmeta hle :=
    hgrows.rounds.subset (h.rounds doc (hlater.round_old hlast hdoc hmeta hle) hmeta hle)
  events doc hdoc hmeta hle e he htimestamp := by
    have hdoc := hlater.round_old hlast hdoc hmeta hle
    have he := hlater.event_old hdoc hmeta he htimestamp.le
    exact hgrows.events.subset (h.events doc hdoc hmeta hle e he htimestamp)
  operations doc hdoc hmeta hle e he htimestamp t ht hhash := by
    have hdoc := hlater.round_old hlast hdoc hmeta hle
    have he := hlater.event_old hdoc hmeta he htimestamp.le
    have ht := hlater.operation_old he ht hhash
    exact hgrows.operations.subset (h.operations doc hdoc hmeta hle e he htimestamp t ht hhash)

namespace Indices.CompleteUpTo

variable {index index' : Indices} {chain chain' : Chain} {block : Nat}
  (hcomplete : index.CompleteUpTo chain.toIndices block) (hlater : chain.Later chain')
  (hwithin : index'.Within chain'.toIndices) {doc : RoundDocument} {e : ElasticEvent}

include hcomplete hlater hwithin

/-- A later index has no more rounds up to the block. -/
theorem round_mem (hlast : ∃ last ∈ chain.rounds, last.shardId = METACHAIN ∧ last.round = block)
    (hdoc : doc ∈ index'.rounds) (hmeta : doc.shardId = METACHAIN) (hle : doc.round ≤ block) :
    doc ∈ index.rounds :=
  hcomplete.rounds doc (hlater.round_old hlast (hwithin.rounds.subset hdoc) hmeta hle) hmeta hle

/-- Nor more events. -/
theorem event_mem (hdoc : doc ∈ chain.rounds) (hmeta : doc.shardId = METACHAIN)
    (hle : doc.round ≤ block) (he : e ∈ index'.events) (htimestamp : e.timestamp ≤ doc.timestamp) :
    e ∈ index.events := by
  have he := hlater.event_old hdoc hmeta (hwithin.events.subset he) htimestamp
  obtain ⟨doc', hdoc', hmeta', heq, hround⟩ := chain.exists_round_le hdoc hmeta he htimestamp
  exact hcomplete.events doc' hdoc' hmeta' (hround.trans hle) e he heq.symm

/-- Nor more transactions of its events. -/
theorem operation_mem (hdoc : doc ∈ chain.rounds) (hmeta : doc.shardId = METACHAIN)
    (hle : doc.round ≤ block) (he : e ∈ chain.events) (htimestamp : e.timestamp ≤ doc.timestamp)
    {t : ElasticTransaction} (ht : t ∈ index'.operations) (hhash : t.txHash = e.transactionId) :
    t ∈ index.operations := by
  have ht := hlater.operation_old he (hwithin.operations.subset ht) hhash
  obtain ⟨doc', hdoc', hmeta', heq, hround⟩ := chain.exists_round_le hdoc hmeta he htimestamp
  exact hcomplete.operations doc' hdoc' hmeta' (hround.trans hle) e he heq.symm t ht hhash

end Indices.CompleteUpTo

end DexAdapter
