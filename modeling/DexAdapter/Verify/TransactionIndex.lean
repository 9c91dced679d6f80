import Mathlib.Data.List.Pairwise
import DexAdapter.Verify.Contribution
import DexAdapter.Verify.Numbering

/-!
# Does `txnIndex` identify the transaction?

The numbering pass advances with every event, not with every transaction, so in a block no two
events share an index. `identifies_iff` says when the index still identifies the transaction:
exactly when no transaction has two reported events in one block.
-/

namespace DexAdapter

open Collect DataIntegrationService ResponseEvent

/-- In a block, events have one index exactly when they have one transaction, and the events of a
transaction stand together in the order of their `eventIndex`. -/
structure IdentifiesTransactions (events : List ResponseEvent) : Prop where
  index : ∀ e ∈ events, ∀ f ∈ events, e.block = f.block →
    (e.txnIndex = f.txnIndex ↔ e.txnId = f.txnId)
  contiguous : ∀ before e between f after, events = before ++ e :: (between ++ f :: after) →
    e.block = f.block → e.txnId = f.txnId →
      (∀ g ∈ between, g.block = e.block ∧ g.txnId = e.txnId) ∧ e.eventIndex < f.eventIndex

/-- The transaction of an event, in its block. -/
def ResponseEvent.transaction (e : ResponseEvent) : Block × String := (e.block, e.txnId)

theorem transaction_setTxnIndex (i : Nat) (e : ResponseEvent) :
    (e.setTxnIndex i).transaction = e.transaction := by
  unfold transaction ResponseEvent.txnId
  rw [fields_setTxnIndex, block_setTxnIndex]

theorem transaction_setMaker (maker : String) (e : ResponseEvent) :
    (e.setMaker maker).transaction = e.transaction := by
  unfold transaction ResponseEvent.txnId
  rw [fields_setMaker, block_setMaker]

/-- Where every event of a block has its own index, indices identify transactions exactly when no
transaction has two events in a block. -/
theorem identifies_iff_nodup {events : List ResponseEvent}
    (h : events.Pairwise fun a b => a.stamp = b.stamp → a.txnIndex < b.txnIndex) :
    IdentifiesTransactions events ↔ (events.map transaction).Nodup := by
  constructor
  · intro hidentifies
    refine List.pairwise_map.2 (h.imp_of_mem fun {a b} ha hb hlt heq => ?_)
    obtain ⟨hblock, htxn⟩ := Prod.mk.inj heq
    have hindex := (hidentifies.index a ha b hb hblock).2 htxn
    have := hlt (congrArg Block.blockTimestamp hblock)
    omega
  · intro hnodup
    refine ⟨fun e he f hf hblock => ⟨fun hindex => ?_, fun htxn => ?_⟩, ?_⟩
    · -- two events of a block with one index are one event
      let distinct : ResponseEvent → ResponseEvent → Prop :=
        fun a b => a.block = b.block → a.txnIndex ≠ b.txnIndex
      have hsymm : Std.Symm distinct := ⟨fun a b hab hblock => (hab hblock.symm).symm⟩
      have hdistinct : events.Pairwise distinct := h.imp fun {a b} hlt hblock => by
        have := hlt (congrArg Block.blockTimestamp hblock)
        omega
      by_contra htxn
      have hne : e ≠ f := fun heq => htxn (by rw [heq])
      exact hdistinct.forall he hf hne hblock hindex
    · have heq : e = f := List.inj_on_of_nodup_map hnodup he hf (Prod.ext hblock htxn)
      rw [heq]
    · rintro before e between f after rfl hblock htxn
      exfalso
      rw [List.map_append, List.map_cons, List.map_append, List.map_cons] at hnodup
      have hcons := (List.nodup_append.1 hnodup).2.1
      refine (List.nodup_cons.1 hcons).1 ?_
      rw [show transaction e = transaction f from Prod.ext hblock htxn]
      exact List.mem_append_right _ List.mem_cons_self

namespace Lookups

variable {env : Env} {fromBlock toBlock : Int} (l : Lookups env fromBlock toBlock)

/-- Reported documents share a transaction and a block exactly when their events do. -/
theorem transaction_eq_iff {d d' : Dex × ElasticEvent} {t t' : JsNumber}
    {round round' : ElasticRound} {event event' : DexEvent} (h : l.Kept d t round event)
    (h' : l.Kept d' t' round' event') :
    transaction { block := Block.fromElasticRound round true, event := event } =
        transaction { block := Block.fromElasticRound round' true, event := event' } ↔
      t = t' ∧ d.2.transactionId = d'.2.transactionId := by
  have htxn := h.decodes.keys.1
  have htxn' := h'.decodes.keys.1
  constructor
  · intro heq
    obtain ⟨hblock, hid⟩ := Prod.mk.inj heq
    refine ⟨?_, htxn.symm.trans (hid.trans htxn')⟩
    have hstamp := congrArg Block.blockTimestamp hblock
    rw [Block.blockTimestamp_fromElasticRound, Block.blockTimestamp_fromElasticRound] at hstamp
    rw [round_timestamp h.round, round_timestamp h'.round, hstamp]
  · rintro ⟨rfl, hid⟩
    obtain rfl := Option.some.inj (h.round.symm.trans h'.round)
    exact Prod.ext rfl (htxn.trans (hid.trans htxn'.symm))

end Lookups

namespace Request

variable {env : Env} {fromBlock toBlock : Int} (r : Request env fromBlock toBlock)

/-- No two documents of one transaction are reported at one timestamp. -/
def OneEventPerTransaction : Prop :=
  r.occurrences.Pairwise fun d d' => ∀ timestamp, r.ReportedAt d timestamp →
    r.ReportedAt d' timestamp → d.2.transactionId ≠ d'.2.transactionId

theorem nodup_transaction_iff :
    (r.reported.map transaction).Nodup ↔ r.OneEventPerTransaction := by
  rw [List.Nodup, List.pairwise_map, reported, List.pairwise_filterMap]
  refine List.Pairwise.iff fun {d d'} => ?_
  constructor
  · rintro h timestamp ⟨round, event, hkept⟩ ⟨round', event', hkept'⟩ hid
    exact h _ hkept.pushed_eq _ hkept'.pushed_eq
      ((r.transaction_eq_iff hkept hkept').2 ⟨rfl, hid⟩)
  · rintro h re hre re' hre' heq
    obtain ⟨t, round, event, hkept, rfl⟩ := r.pushed_eq_some_iff.1 hre
    obtain ⟨t', round', event', hkept', rfl⟩ := r.pushed_eq_some_iff.1 hre'
    obtain ⟨rfl, hid⟩ := (r.transaction_eq_iff hkept hkept').1 heq
    exact h t ⟨round, event, hkept⟩ ⟨round', event', hkept'⟩ hid

end Request

/-- **When `txnIndex` identifies the transaction**: exactly when no transaction has two reported
events in one block. -/
theorem identifies_iff {env : Env} {fromBlock toBlock : Int} {events : List ResponseEvent}
    (h : getEvents env fromBlock toBlock = .ok events) :
    IdentifiesTransactions events ↔
      ∀ r : Request env fromBlock toBlock, r.OneEventPerTransaction := by
  have hrequest : ∀ r : Request env fromBlock toBlock,
      IdentifiesTransactions events ↔ r.OneEventPerTransaction := by
    intro r
    have hevents := r.getEvents_of_decodable (r.succeeds_getEvents.1 ⟨events, h⟩)
    rw [h, Except.ok.injEq] at hevents
    rw [hevents, identifies_iff_nodup (publish_pairwise _), ← r.nodup_transaction_iff]
    exact (publish_map_perm transaction_setTxnIndex transaction_setMaker r.reported).nodup_iff
  constructor
  · intro hidentifies r
    exact (hrequest r).1 hidentifies
  · intro hall
    rcases request_of_getEvents h with ⟨-, rfl⟩ | ⟨⟨r⟩⟩
    · exact (identifies_iff_nodup List.Pairwise.nil).2 List.nodup_nil
    · exact (hrequest r).2 (hall r)

section TwoSwaps

open Reference

/-- The two events of the transaction differ in `txnIndex`. -/
theorem twoSwaps_events :
    ∃ a b, getEvents twoSwapsEnv 10 10 = .ok [a, b] ∧ a.block = b.block ∧ a.txnId = b.txnId ∧
      a.txnIndex ≠ b.txnIndex := by
  let block : Block := { blockNumber := 10, blockTimestamp := 6000, metadata := none }
  have hkeys : ((getEvents twoSwapsEnv 10 10).toOption.map fun events =>
      events.map fun e => (e.block, e.txnId, e.txnIndex)) =
        some [(block, "aa", 0), (block, "aa", 1)] := by
    decide +kernel
  obtain ⟨events, hevents, hkeys⟩ := Option.map_eq_some_iff.1 hkeys
  obtain ⟨a, rest, rfl, ha, hrest⟩ := List.map_eq_cons_iff.1 hkeys
  obtain ⟨b, rest, rfl, hb, hrest⟩ := List.map_eq_cons_iff.1 hrest
  obtain rfl := List.map_eq_nil_iff.1 hrest
  simp only [Prod.mk.injEq] at ha hb
  refine ⟨a, b, eq_ok_of_toOption hevents, ha.1.trans hb.1.symm, ha.2.1.trans hb.2.1.symm, ?_⟩
  rw [ha.2.2, hb.2.2]
  exact zero_ne_one

theorem twoSwaps_not_identified :
    (twoSwaps.events.map fun e => e.documentId).Nodup ∧
      ∃ events, getEvents twoSwapsEnv 10 10 = .ok events ∧ ¬ IdentifiesTransactions events := by
  obtain ⟨a, b, hevents, hblock, htxn, hindex⟩ := twoSwaps_events
  refine ⟨by decide, [a, b], hevents, fun hidentifies => hindex ?_⟩
  exact (hidentifies.index a List.mem_cons_self b (List.mem_cons_of_mem _ List.mem_cons_self)
    hblock).2 htxn

theorem identifies_iff_twoSwaps :
    ∃ events, getEvents twoSwapsEnv 10 10 = .ok events ∧ (IdentifiesTransactions events ↔
      ∀ r : Request twoSwapsEnv 10 10, r.OneEventPerTransaction) := by
  obtain ⟨a, b, hevents, -⟩ := twoSwaps_events
  exact ⟨[a, b], hevents, identifies_iff hevents⟩

end TwoSwaps

end DexAdapter
