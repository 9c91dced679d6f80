import DexAdapter.Verify.Callers

/-!
# Sorting and numbering

What `getEvents` does with the merged list after the callers are patched: a stable sort by
(timestamp, index of the transaction, index of the event, transaction hash), then a pass that
numbers the events of each timestamp.

* The pass writes `txnIndex` and nothing else (`renumber_forget`), restarts at every timestamp
  (`renumber_append`), and counts up inside one (`renumber_pairwise`).
* Cutting the events at a timestamp cuts the published list (`publish_split`).
* Two arrival orders publish the same list exactly when they agree on ties
  (`publish_eq_publish_iff`).
-/

namespace DexAdapter

open DataIntegrationService StableSort

namespace ResponseEvent

abbrev stamp (e : ResponseEvent) : Nat := e.block.blockTimestamp

/-- An event without its index in the response. -/
def forget (e : ResponseEvent) : ResponseEvent := e.setTxnIndex 0

@[simp] theorem forget_setTxnIndex (i : Nat) (e : ResponseEvent) :
    (e.setTxnIndex i).forget = e.forget :=
  setTxnIndex_setTxnIndex i 0 e

theorem eq_of_forget {e f : ResponseEvent} (h : e.forget = f.forget)
    (hi : e.txnIndex = f.txnIndex) : e = f := by
  rw [← e.setTxnIndex_txnIndex, ← f.setTxnIndex_txnIndex, ← setTxnIndex_setTxnIndex 0 e.txnIndex,
    ← setTxnIndex_setTxnIndex 0 f.txnIndex, hi]
  exact congrArg _ h

end ResponseEvent

open ResponseEvent

/-! ## The comparator -/

section Compare

variable (env : Env)

theorem compareEvents_eq :
    compareEvents env =
      lexBy stamp (lexBy (fun e => e.txnIndex) (lexBy (fun e => e.eventIndex)
        fun a b => env.locale.localeCompare a.txnId b.txnId)) := rfl

theorem compareEvents_consistent : Consistent (compareEvents env) := by
  have htxnId : Consistent fun a b : ResponseEvent =>
      env.locale.localeCompare a.txnId b.txnId :=
    ⟨fun a b => env.locale.consistent.neg_iff _ _, fun a b c => env.locale.consistent.trans _ _ _⟩
  rw [compareEvents_eq]
  exact ((htxnId.lexBy _).lexBy _).lexBy _

variable {env}

/-- Two events are tied when the comparator sees no difference. -/
theorem compareEvents_eq_zero {a b : ResponseEvent} :
    compareEvents env a b = 0 ↔
      a.stamp = b.stamp ∧ a.txnIndex = b.txnIndex ∧ a.eventIndex = b.eventIndex ∧
        env.locale.localeCompare a.txnId b.txnId = 0 := by
  rw [compareEvents_eq, lexBy_eq_zero, lexBy_eq_zero, lexBy_eq_zero]

theorem stamp_le_of_compareEvents {a b : ResponseEvent} (h : compareEvents env a b ≤ 0) :
    a.stamp ≤ b.stamp := by
  rw [compareEvents_eq] at h
  exact key_le_of_lexBy h

theorem compareEvents_of_stamp_lt {a b : ResponseEvent} (h : a.stamp < b.stamp) :
    compareEvents env a b ≤ 0 ∧ 0 < compareEvents env b a := by
  have hneg := (compareEvents_consistent env).neg_iff a b
  have hlt : compareEvents env a b < 0 := by
    unfold compareEvents
    rw [if_pos (Nat.ne_of_lt h)]
    show (a.stamp : Int) - b.stamp < 0
    omega
  exact ⟨hlt.le, hneg.1 hlt⟩

end Compare

/-! ## The numbering pass -/

section Renumber

theorem renumber_forget (i t : Nat) (events : List ResponseEvent) :
    (renumber i t events).map forget = events.map forget := by
  induction events generalizing i t with
  | nil => rfl
  | cons e rest ih => simp only [renumber, List.map_cons, forget_setTxnIndex, ih]

theorem renumber_stamp (i t : Nat) (events : List ResponseEvent) :
    (renumber i t events).map stamp = events.map stamp := by
  have h := congrArg (List.map stamp) (renumber_forget i t events)
  rw [List.map_map, List.map_map] at h
  exact h

/-- The counter starts anew when the first event has another timestamp. -/
theorem renumber_restart {i t j u : Nat} {events : List ResponseEvent}
    (ht : ∀ e ∈ events, e.stamp ≠ t) (hu : ∀ e ∈ events, e.stamp ≠ u) :
    renumber i t events = renumber j u events := by
  cases events with
  | nil => rfl
  | cons e rest =>
    have ht := ht e List.mem_cons_self
    have hu := hu e List.mem_cons_self
    simp only [renumber, if_pos ht, if_pos hu]

/-- A cut between timestamps cuts the numbering. -/
theorem renumber_append {i t : Nat} {xs ys : List ResponseEvent} (hzero : ∀ y ∈ ys, y.stamp ≠ 0)
    (ht : ∀ y ∈ ys, y.stamp ≠ t) (hcut : ∀ x ∈ xs, ∀ y ∈ ys, y.stamp ≠ x.stamp) :
    renumber i t (xs ++ ys) = renumber i t xs ++ renumber 0 0 ys := by
  induction xs generalizing i t with
  | nil => exact renumber_restart ht hzero
  | cons x xs ih =>
    simp only [List.cons_append, renumber]
    rw [ih (hcut x List.mem_cons_self) fun z hz => hcut z (List.mem_cons_of_mem _ hz)]

/-- Inside the timestamp the pass stands at, the indices grow beyond the counter. -/
theorem lt_txnIndex_of_renumber {i t : Nat} {events : List ResponseEvent}
    (hsorted : events.Pairwise fun a b => a.stamp ≤ b.stamp) (hge : ∀ e ∈ events, t ≤ e.stamp)
    {f : ResponseEvent} (hf : f ∈ renumber i t events) (ht : f.stamp = t) : i < f.txnIndex := by
  induction events generalizing i with
  | nil => cases hf
  | cons e rest ih =>
    obtain ⟨hle, hrest⟩ := List.pairwise_cons.1 hsorted
    -- an event of the current timestamp comes before every other timestamp
    have he : e.stamp = t := by
      have hmem : f.stamp ∈ (renumber i t (e :: rest)).map stamp := List.mem_map_of_mem hf
      rw [renumber_stamp] at hmem
      obtain ⟨g, hg, hgs⟩ := List.mem_map.1 hmem
      have hge := hge e List.mem_cons_self
      rcases List.mem_cons.1 hg with rfl | hg
      · omega
      · have := hle g hg
        omega
    have hcounter : (if e.block.blockTimestamp ≠ t then 0 else i + 1) = i + 1 :=
      if_neg (not_not.2 he)
    simp only [renumber, hcounter] at hf
    rcases List.mem_cons.1 hf with rfl | hf
    · simp
    · have hlt := ih hrest (fun g hg => hge g (List.mem_cons_of_mem _ hg)) (i := i + 1) (by
        rwa [show e.block.blockTimestamp = t from he] at hf)
      omega

/-- The indices of one timestamp grow strictly along the list. -/
theorem renumber_pairwise (i t : Nat) {events : List ResponseEvent}
    (hsorted : events.Pairwise fun a b => a.stamp ≤ b.stamp) :
    (renumber i t events).Pairwise fun a b => a.stamp = b.stamp → a.txnIndex < b.txnIndex := by
  induction events generalizing i t with
  | nil => exact List.Pairwise.nil
  | cons e rest ih =>
    obtain ⟨hle, hrest⟩ := List.pairwise_cons.1 hsorted
    simp only [renumber]
    refine List.pairwise_cons.2 ⟨fun f hf hstamp => ?_, ih _ _ hrest⟩
    simpa using lt_txnIndex_of_renumber hrest hle hf hstamp.symm

/-- The indices of one timestamp are consecutive. The pass starts a timestamp at zero, or goes on
from its counter when it stands at that timestamp already. -/
theorem renumber_consecutive {i t : Nat} {events : List ResponseEvent}
    (hsorted : events.Pairwise fun a b => a.stamp ≤ b.stamp) (hge : ∀ e ∈ events, t ≤ e.stamp)
    (s : Nat) :
    ((renumber i t events).filter fun e => decide (e.stamp = s)).map (fun e => e.txnIndex) =
      List.range' (if s = t then i + 1 else 0)
        (events.filter fun e => decide (e.stamp = s)).length := by
  induction events generalizing i t with
  | nil => rfl
  | cons e rest ih =>
    obtain ⟨hle, hrest⟩ := List.pairwise_cons.1 hsorted
    simp only [renumber]
    obtain ⟨k, hk⟩ : ∃ k, (if e.block.blockTimestamp ≠ t then 0 else i + 1) = k := ⟨_, rfl⟩
    have ih := ih (i := k) hrest hle
    have hstamp : (e.setTxnIndex k).stamp = e.stamp := rfl
    rw [hk]
    by_cases hes : e.stamp = s
    · have hstart : k = if s = t then i + 1 else 0 := by
        rw [← hk, ← hes]
        by_cases het : e.stamp = t
        · rw [if_pos het]
          exact if_neg (not_not.2 het)
        · rw [if_neg het]
          exact if_pos het
      rw [if_pos hes.symm] at ih
      simp only [List.filter_cons, hstamp, decide_eq_true hes, if_true, List.map_cons,
        List.length_cons, List.range'_succ, txnIndex_setTxnIndex, ← hstart]
      congr 1
    · simp only [List.filter_cons, hstamp, hes, decide_false, Bool.false_eq_true, if_false, ih,
        Ne.symm hes]
      by_cases hst : s = t
      · -- the pass has left the timestamp it stood at, and no later event has it
        have hnone : rest.filter (fun e => decide (e.stamp = s)) = [] := by
          refine List.filter_eq_nil_iff.2 fun f hf => ?_
          have := hle f hf
          have := hge e List.mem_cons_self
          simp only [decide_eq_true_eq]
          omega
        rw [hnone, List.length_nil, List.range'_zero, List.range'_zero]
      · rw [if_neg hst]

end Renumber

/-! ## Sorted lists that differ in ties only -/

section Sorted

variable {env : Env}

/-- Arrangements of the same events that are both sorted carry the same indices place by place. -/
theorem map_txnIndex_of_perm {l₁ l₂ : List ResponseEvent} (hperm : l₁.Perm l₂)
    (h₁ : l₁.Pairwise fun a b => compareEvents env a b ≤ 0)
    (h₂ : l₂.Pairwise fun a b => compareEvents env a b ≤ 0) :
    l₁.map (fun e => e.txnIndex) = l₂.map fun e => e.txnIndex := by
  let before : Nat × Nat → Nat × Nat → Prop := fun p q => p.1 < q.1 ∨ p.1 = q.1 ∧ p.2 ≤ q.2
  let key : ResponseEvent → Nat × Nat := fun e => (e.stamp, e.txnIndex)
  have hkey : ∀ {a b : ResponseEvent}, compareEvents env a b ≤ 0 → before (key a) (key b) := by
    intro a b hab
    rcases Nat.lt_or_eq_of_le (stamp_le_of_compareEvents hab) with hlt | heq
    · exact Or.inl hlt
    · rw [compareEvents_eq, lexBy, if_neg (not_not.2 heq)] at hab
      have hindex : a.txnIndex ≤ b.txnIndex := key_le_of_lexBy hab
      exact Or.inr ⟨heq, hindex⟩
  have hkeys : l₁.map key = l₂.map key := by
    refine List.Perm.eq_of_pairwise ?_ (List.pairwise_map.2 (h₁.imp hkey))
      (List.pairwise_map.2 (h₂.imp hkey)) (hperm.map key)
    rintro ⟨t, i⟩ ⟨t', i'⟩ - - hab hba
    simp only [before] at hab hba
    rw [Prod.mk.injEq]
    omega
  have hindex := congrArg (List.map Prod.snd) hkeys
  rw [List.map_map, List.map_map] at hindex
  exact hindex

theorem eq_of_map_forget {l₁ l₂ : List ResponseEvent} (hforget : l₁.map forget = l₂.map forget)
    (hindex : l₁.map (fun e => e.txnIndex) = l₂.map fun e => e.txnIndex) : l₁ = l₂ := by
  induction l₁ generalizing l₂ with
  | nil =>
    cases l₂ with
    | nil => rfl
    | cons b l₂ => cases hforget
  | cons a l₁ ih =>
    cases l₂ with
    | nil => cases hforget
    | cons b l₂ =>
      simp only [List.map_cons, List.cons.injEq] at hforget hindex
      rw [eq_of_forget hforget.1 hindex.1, ih hforget.2 hindex.2]

end Sorted

/-! ## The published list -/

section Publish

variable {env : Env} {table : List ElasticTransaction}

@[simp] theorem stamp_updateCaller (e : ResponseEvent) :
    (updateCaller env table e).stamp = e.stamp := by
  obtain ⟨maker, h⟩ : ∃ maker, updateCaller env table e = e.setMaker maker :=
    updateCaller_eq_setMaker e
  rw [h]
  rfl

/-- A function of an event that sees neither the maker nor the index takes the same values on the
published events. -/
theorem publish_map_perm {β : Type} {g : ResponseEvent → β}
    (hindex : ∀ i e, g (setTxnIndex i e) = g e) (hmaker : ∀ maker e, g (setMaker maker e) = g e)
    (events : List ResponseEvent) : ((publish env events).map g).Perm (events.map g) := by
  have hforget : ∀ l : List ResponseEvent, (l.map forget).map g = l.map g := by
    intro l
    rw [List.map_map]
    exact List.map_congr_left fun e _ => hindex 0 e
  have hupdate : ∀ (transactions : List ElasticTransaction) (l : List ResponseEvent),
      (l.map (updateCaller env transactions)).map g = l.map g := by
    intro transactions l
    rw [List.map_map]
    refine List.map_congr_left fun e _ => ?_
    obtain ⟨maker, h⟩ : ∃ maker, updateCaller env transactions e = e.setMaker maker :=
      updateCaller_eq_setMaker e
    rw [Function.comp_apply, h, hmaker]
  unfold publish updateEventsCaller
  rw [← hforget, renumber_forget, hforget]
  exact ((sortBy_perm _ _).map g).trans (by rw [hupdate])

theorem length_publish (events : List ResponseEvent) :
    (publish env events).length = events.length := by
  have hperm : ((publish env events).map fun _ => ()).Perm (events.map fun _ => ()) :=
    publish_map_perm (fun _ _ => rfl) (fun _ _ => rfl) events
  simpa using hperm.length_eq

theorem publish_pairwise (events : List ResponseEvent) :
    (publish env events).Pairwise fun a b => a.stamp = b.stamp → a.txnIndex < b.txnIndex :=
  renumber_pairwise 0 0
    (((compareEvents_consistent env).sortBy_pairwise _).imp stamp_le_of_compareEvents)

variable (htable : OperationsTable env.elasticService table)
  (hbatch : env.sdk.batchUtils.Partitions)

include htable hbatch

theorem publish_eq (events : List ResponseEvent) :
    publish env events =
      renumber 0 0 (sortBy (compareEvents env) (events.map (updateCaller env table))) := by
  rw [publish, htable.updateEventsCaller_eq hbatch]

/-- Nothing is lost or added: the published events are the patched ones, in another order and with
other indices. -/
theorem publish_perm (events : List ResponseEvent) :
    ((publish env events).map forget).Perm
      ((events.map (updateCaller env table)).map forget) := by
  rw [publish_eq htable hbatch, renumber_forget]
  exact (sortBy_perm _ _).map _

/-- A cut at a timestamp cuts the published list. -/
theorem publish_split {events : List ResponseEvent} (hpos : ∀ e ∈ events, e.stamp ≠ 0) (t : Nat) :
    publish env events = publish env (events.filter fun e => decide (e.stamp ≤ t)) ++
      publish env (events.filter fun e => !decide (e.stamp ≤ t)) := by
  have hbefore : ∀ a ∈ events.map (updateCaller env table),
      ∀ b ∈ events.map (updateCaller env table), decide (a.stamp ≤ t) = true →
        decide (b.stamp ≤ t) = false → compareEvents env a b ≤ 0 ∧ 0 < compareEvents env b a := by
    intro a _ b _ ha hb
    rw [decide_eq_true_eq] at ha
    rw [decide_eq_false_iff_not] at hb
    exact compareEvents_of_stamp_lt (by omega)
  have hcut := sortBy_split (fun e : ResponseEvent => decide (e.stamp ≤ t)) hbefore
  have hmem : ∀ {p : ResponseEvent → Bool} {e : ResponseEvent},
      e ∈ sortBy (compareEvents env) ((events.map (updateCaller env table)).filter p) →
        p e = true ∧ e.stamp ≠ 0 := by
    intro p e he
    obtain ⟨he, hp⟩ := List.mem_filter.1 (mem_sortBy.1 he)
    obtain ⟨f, hf, rfl⟩ := List.mem_map.1 he
    refine ⟨hp, ?_⟩
    rw [stamp_updateCaller]
    exact hpos f hf
  have hfilter : ∀ p : Nat → Bool,
      (events.map (updateCaller env table)).filter (fun e => p e.stamp) =
        (events.filter fun e => p e.stamp).map (updateCaller env table) := by
    intro p
    rw [List.filter_map]
    congr 1
    refine List.filter_congr fun e _ => ?_
    simp only [Function.comp_apply, stamp_updateCaller]
  rw [publish_eq htable hbatch, hcut, renumber_append]
  · rw [hfilter fun s => decide (s ≤ t), hfilter fun s => !decide (s ≤ t),
      publish_eq htable hbatch, publish_eq htable hbatch]
  · exact fun y hy => (hmem hy).2
  · exact fun y hy => (hmem hy).2
  · intro x hx y hy
    have hx := (hmem hx).1
    have hy := (hmem hy).1
    simp only [decide_eq_true_eq, Bool.not_eq_true', decide_eq_false_iff_not] at hx hy
    omega

/-- **Arrival order**: two arrangements of the same events publish the same list exactly when they
hold every group of tied events in the same order. -/
theorem publish_eq_publish_iff {events events' : List ResponseEvent}
    (hperm : events.Perm events') :
    publish env events = publish env events' ↔
      ∀ a, tied (compareEvents env) a (events.map (updateCaller env table)) =
        tied (compareEvents env) a (events'.map (updateCaller env table)) := by
  have hcons := compareEvents_consistent env
  rw [publish_eq htable hbatch, publish_eq htable hbatch, ← hcons.sortBy_eq_iff]
  refine ⟨fun h => ?_, fun h => by rw [h]⟩
  have hsorted := hcons.sortBy_pairwise
  have hsortedPerm : (sortBy (compareEvents env) (events.map (updateCaller env table))).Perm
      (sortBy (compareEvents env) (events'.map (updateCaller env table))) :=
    (sortBy_perm _ _).trans ((hperm.map _).trans (sortBy_perm _ _).symm)
  refine eq_of_map_forget ?_ (map_txnIndex_of_perm hsortedPerm (hsorted _) (hsorted _))
  rw [← renumber_forget 0 0, h, renumber_forget]

end Publish

end DexAdapter
