import DexAdapter.Lib.Collect
import DexAdapter.Entities

/-!
# The indexer

`IndexerService` asks Elasticsearch for rounds, events and operations. A query is a record of its
conditions on named fields, its sort and its page; `ElasticService` answers queries.
`ElasticService.Serves` states what an answer is for given contents of the indexes: a page of the
matching documents in the order asked for, where the documents that the order leaves tied stand in
no promised order.
-/

namespace DexAdapter

/-! ## Queries -/

structure Pagination where
  from' : Nat
  size : Nat
  deriving DecidableEq, Repr

inductive ElasticSortOrder where
  | ascending
  | descending
  deriving DecidableEq, Repr

structure ElasticSort where
  name : String
  order : ElasticSortOrder
  deriving DecidableEq, Repr

/-- `should` is `QueryType.Should` of one `MatchQuery` a value, all on the same field. Without a
value it is a query without a clause, which every document matches. -/
inductive ElasticCondition where
  | matchQuery (name value : String)
  | should (name : String) (values : List String)
  | range (name : String) (upper lower : Int)
  deriving DecidableEq, Repr

structure ElasticQuery where
  pagination : Pagination
  mustConditions : List ElasticCondition
  sort : Option ElasticSort
  deriving DecidableEq, Repr

/-- The fields of a document that queries name: a number field also matches its decimal text. -/
class ElasticDocument (D : Type) where
  texts : D → String → List String
  number : D → String → Nat

instance : ElasticDocument RoundDocument where
  texts doc name := if name = "shardId" then [toString doc.shardId]
    else if name = "timestamp" then [toString doc.timestamp] else []
  number doc name := if name = "round" then doc.round
    else if name = "timestamp" then doc.timestamp else 0

instance : ElasticDocument ElasticEvent where
  texts doc name := if name = "address" then [doc.address]
    else if name = "topics" then doc.topics else []
  number doc name := if name = "timestamp" then doc.timestamp else 0

instance : ElasticDocument ElasticTransaction where
  texts doc name := if name = "_id" then [doc.txHash] else []
  number _ _ := 0

section Matching

variable {D : Type} [ElasticDocument D]

def ElasticCondition.matches : ElasticCondition → D → Bool
  | .matchQuery name value, doc => (ElasticDocument.texts doc name).contains value
  | .should name values, doc =>
    values.isEmpty || values.any fun value => (ElasticDocument.texts doc name).contains value
  | .range name upper lower, doc =>
    decide ((ElasticDocument.number doc name : Int) ≤ upper) &&
      decide (lower ≤ (ElasticDocument.number doc name : Int))

def ElasticQuery.matches (query : ElasticQuery) (doc : D) : Bool :=
  query.mustConditions.all fun condition => condition.matches doc

end Matching

/-- `getList` on the three indexes, and `getScrollableList` on the events, whose answer comes in
pages. -/
structure ElasticService where
  rounds : ElasticQuery → Result (List RoundDocument)
  events : ElasticQuery → Result (List (List ElasticEvent))
  operations : ElasticQuery → Result (List ElasticTransaction)

/-- The shard id of the metachain. -/
def METACHAIN : Nat := 4294967295

namespace IndexerService

variable (elasticService : ElasticService)

def latestRoundQuery : ElasticQuery where
  pagination := { from' := 1, size := 2 }
  mustConditions := [.matchQuery "shardId" (toString METACHAIN)]
  sort := some { name := "timestamp", order := .descending }

/-- `const [round] = list`, so `none` is `undefined`. -/
def getLatestRound : Result (Option ElasticRound) := do
  let rounds ← elasticService.rounds latestRoundQuery
  pure (rounds.head?.map RoundDocument.toElasticRound)

def roundQuery (timestamp : Nat) : ElasticQuery where
  pagination := { from' := 0, size := 1 }
  mustConditions := [.matchQuery "timestamp" (toString timestamp)]
  sort := none

/-- An error is logged and answered with `undefined`. -/
def getRound (timestamp : Nat) : Option ElasticRound :=
  match elasticService.rounds (roundQuery timestamp) with
  | .ok rounds => rounds.head?.map RoundDocument.toElasticRound
  | .error _ => none

def roundsQuery (fromRound toRound : Int) : ElasticQuery where
  pagination := { from' := 0, size := 10000 }
  mustConditions := [.matchQuery "shardId" (toString METACHAIN), .range "round" toRound fromRound]
  sort := some { name := "timestamp", order := .ascending }

def getRounds (fromRound toRound : Int) : Result (List ElasticRound) := do
  let rounds ← elasticService.rounds (roundsQuery fromRound toRound)
  pure (rounds.map RoundDocument.toElasticRound)

/-- `withDateRangeFilter` is the range condition on the timestamp. The package leaves it out when
both bounds are zero; the bounds are timestamps of rounds, which are positive
(`StrictRounds.positive`). -/
def eventsQuery (before after : Nat) (addresses eventNames : List String) : ElasticQuery where
  pagination := { from' := 0, size := 10000 }
  mustConditions := [.should "address" addresses, .should "topics" eventNames,
    .range "timestamp" before after]
  sort := some { name := "timestamp", order := .descending }

/-- The filter on the documents the scroll returned. -/
def isSearched (addresses eventNames : List String) (event : ElasticEvent) : Bool :=
  let isSearchedAddress := addresses.contains event.address
  let isSearchedEvent := match event.topics with
    | [] => false
    | topic :: _ => eventNames.contains topic
  isSearchedAddress && isSearchedEvent

def getEvents (before after : Nat) (addresses eventNames : List String) :
    Result (List ElasticEvent) := do
  let pages ← elasticService.events (eventsQuery before after addresses eventNames)
  let eventsRaw := pages.flatten
  pure (eventsRaw.filter (isSearched addresses eventNames))

def txDetailsQuery (txHashes : List String) : ElasticQuery where
  pagination := { from' := 0, size := 10000 }
  mustConditions := [.should "_id" txHashes]
  sort := none

/-- An error is logged and answered with no transactions. -/
def getTxDetails (txHashes : List String) : List ElasticTransaction :=
  match elasticService.operations (txDetailsQuery txHashes) with
  | .ok transactions => transactions
  | .error _ => []

end IndexerService

/-! ## Contents of the indexes -/

structure Indices where
  rounds : List RoundDocument
  events : List ElasticEvent
  operations : List ElasticTransaction

def Pagination.slice {D : Type} (page : Pagination) (docs : List D) : List D :=
  (docs.drop page.from').take page.size

section Answers

variable {D : Type} [ElasticDocument D]

/-- The documents stand in the order of the sort. -/
def ElasticSort.Sorted (sort : ElasticSort) (docs : List D) : Prop :=
  match sort.order with
  | .ascending => docs.Pairwise fun a b =>
      ElasticDocument.number a sort.name ≤ ElasticDocument.number b sort.name
  | .descending => docs.Pairwise fun a b =>
      ElasticDocument.number b sort.name ≤ ElasticDocument.number a sort.name

/-- `answer` is the page of some arrangement of the matching documents in the order asked for. -/
def ElasticQuery.Answer (query : ElasticQuery) (contents answer : List D) : Prop :=
  ∃ hits : List D, hits.Perm (contents.filter query.matches) ∧
    (∀ sort ∈ query.sort, sort.Sorted hits) ∧ answer = query.pagination.slice hits

end Answers

/-- Elasticsearch answers for these contents: lists are pages of the hits, and a scroll goes
through all of them. -/
structure ElasticService.Serves (elasticService : ElasticService) (indices : Indices) : Prop where
  rounds : ∀ query, ∃ answer, elasticService.rounds query = .ok answer ∧
    query.Answer indices.rounds answer
  events : ∀ query, ∃ pages, elasticService.events query = .ok pages ∧
    pages.flatten.Perm (indices.events.filter query.matches)
  operations : ∀ query, ∃ answer, elasticService.operations query = .ok answer ∧
    query.Answer indices.operations answer

/-! ## What the queries ask for -/

theorem toString_nat_inj {m n : Nat} (h : toString m = toString n) : m = n := by
  have hv := Numeral.value_toString m
  rw [h, Numeral.value_toString, Option.some.injEq] at hv
  exact (Nat.cast_injective hv).symm

namespace IndexerService

theorem toString_metachain {doc : RoundDocument} :
    toString METACHAIN = toString doc.shardId ↔ doc.shardId = METACHAIN :=
  ⟨fun h => (toString_nat_inj h).symm, fun h => by rw [h]⟩

theorem matches_latestRoundQuery {doc : RoundDocument} :
    latestRoundQuery.matches doc = true ↔ doc.shardId = METACHAIN := by
  simp only [ElasticQuery.matches, latestRoundQuery, List.all_cons, List.all_nil,
    ElasticCondition.matches, ElasticDocument.texts, if_true, List.contains_eq_mem,
    List.mem_singleton, toString_metachain, Bool.and_true, decide_eq_true_eq]

theorem matches_roundsQuery {fromRound toRound : Int} {doc : RoundDocument} :
    (roundsQuery fromRound toRound).matches doc = true ↔
      doc.shardId = METACHAIN ∧ fromRound ≤ doc.round ∧ (doc.round : Int) ≤ toRound := by
  simp only [ElasticQuery.matches, roundsQuery, List.all_cons, List.all_nil,
    ElasticCondition.matches, ElasticDocument.texts, ElasticDocument.number, if_true,
    List.contains_eq_mem, List.mem_singleton, toString_metachain, Bool.and_true,
    Bool.and_eq_true, decide_eq_true_eq]
  tauto

theorem sorted_roundsQuery {fromRound toRound : Int} {hits : List RoundDocument}
    (h : ∀ sort ∈ (roundsQuery fromRound toRound).sort, sort.Sorted hits) :
    hits.Pairwise fun a b => a.timestamp ≤ b.timestamp :=
  h _ rfl

/-- The conditions on address and topics lose nothing that the filter keeps. -/
theorem matches_eventsQuery {before after : Nat} {addresses eventNames : List String}
    {doc : ElasticEvent} (h : isSearched addresses eventNames doc = true) :
    (eventsQuery before after addresses eventNames).matches doc = true ↔
      after ≤ doc.timestamp ∧ doc.timestamp ≤ before := by
  unfold isSearched at h
  rcases hd : doc.topics with _ | ⟨topic, topics⟩
  · simp [hd] at h
  · simp only [hd, Bool.and_eq_true, List.contains_eq_mem, decide_eq_true_eq] at h
    obtain ⟨haddress, htopic⟩ := h
    simp [ElasticQuery.matches, eventsQuery, ElasticCondition.matches, ElasticDocument.texts,
      ElasticDocument.number, hd]
    tauto

theorem matches_txDetailsQuery {txHashes : List String} (h : txHashes ≠ [])
    {doc : ElasticTransaction} :
    (txDetailsQuery txHashes).matches doc = true ↔ doc.txHash ∈ txHashes := by
  simp [ElasticQuery.matches, txDetailsQuery, ElasticCondition.matches, ElasticDocument.texts, h]

end IndexerService

/-- The scroll returns documents in one fixed relative order. -/
def ElasticService.FixedOrder (elasticService : ElasticService) (arranged : List ElasticEvent) :
    Prop :=
  ∀ query pages, elasticService.events query = .ok pages →
    pages.flatten = arranged.filter query.matches

end DexAdapter
