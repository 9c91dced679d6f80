import DexAdapter.Verify.Staleness

/-!
# When the jobs are on time

The times to live bound how old what a call returns may be. The jobs are there to do better: where a
key is written to the shared cache at least every `sharedLife` and deleted in a process at least
every `ownLife`, what the process returns is not older than these, whatever the times to live
(`SharedCache.returned_fresh`).
-/

namespace DexAdapter

open Runs TwoLevelCache

namespace SharedCache

variable {package : CachePackage} {s : SharedCache} {actions : List Action}

/-- The time of a step that writes the key to the shared cache. -/
def renewals (item : Cached) (s : SharedCache) : Action → List Nat
  | .writeShared q j =>
    match (s.processes q).calls[j]? with
    | some (.setting answer { shared := true, .. } _) =>
      if answer.item = item then [s.now] else []
    | _ => []
  | _ => []

/-- The time of a step in which the process deletes the key. -/
def deletions (p : Nat) (item : Cached) (s : SharedCache) : Action → List Nat
  | .deleteLocal q j =>
    match (s.processes q).calls[j]? with
    | some (.deleting (key :: _)) => if q = p ∧ key = item.key then [s.now] else []
    | _ => []
  | _ => []

/-- The last of the times; a run starts at 0 with empty caches. -/
def last (times : List Nat) : Nat := times.getLastD 0

/-- At every moment of the run, the last time observed is at most `life` ago. -/
def Recurs (package : CachePackage) (observe : SharedCache → Action → List Nat) (life : Nat)
    (actions : List Action) : Prop :=
  ∀ before after t, actions = before ++ after → run (step package) initial before = some t →
    t.now ≤ last (logOf (step package) observe initial before) + life

/-! ## Steps -/

theorem last_append (times : List Nat) {new : List Nat} {s : SharedCache}
    (hnew : new = [] ∨ new = [s.now]) :
    last (times ++ new) = last times ∧ new = [] ∨ last (times ++ new) = s.now ∧ new = [s.now] := by
  rcases hnew with rfl | rfl
  · exact Or.inl ⟨by rw [List.append_nil], rfl⟩
  · exact Or.inr ⟨by simp [last], rfl⟩

theorem renewals_cases (item : Cached) (s : SharedCache) (a : Action) :
    renewals item s a = [] ∨ renewals item s a = [s.now] := by
  unfold renewals
  split
  · split
    · split
      · exact Or.inr rfl
      · exact Or.inl rfl
    · exact Or.inl rfl
  · exact Or.inl rfl

theorem deletions_cases (p : Nat) (item : Cached) (s : SharedCache) (a : Action) :
    deletions p item s a = [] ∨ deletions p item s a = [s.now] := by
  unfold deletions
  split
  · split
    · split
      · exact Or.inr rfl
      · exact Or.inl rfl
    · exact Or.inl rfl
  · exact Or.inl rfl

/-- After a renewal the entry is new. -/
theorem writtenAt_of_renewals {item : Cached} {t u : SharedCache} {a : Action}
    (h : t.step package a = some u) (hnew : renewals item t a = [t.now])
    {e : TtlCache.Entry Answer} (he : u.levels.shared item = some e) : t.now ≤ e.writtenAt := by
  cases a with
  | writeShared q j =>
    obtain ⟨call, call', w, hcall, hwrite, rfl⟩ := writeShared_eq_some.1 h
    simp only [renewals, hcall] at hnew
    split at hnew
    · rename_i answer own job heq
      obtain rfl := Option.some.inj heq
      split at hnew
      · rename_i hitem
        cases hwrite
        subst hitem
        simp only [levels, TtlCache.set_self, Option.some.injEq] at he
        rw [← he]
      · cases hnew
    · cases hnew
  | _ => cases hnew

/-- After a deletion there is no entry. -/
theorem own_of_deletions {p : Nat} {item : Cached} {t u : SharedCache} {a : Action}
    (h : t.step package a = some u) (hnew : deletions p item t a = [t.now]) :
    u.levels.own p item = none := by
  cases a with
  | deleteLocal q j =>
    obtain ⟨call, hcall, hu⟩ := Option.bind_eq_some_iff.1 h
    simp only [deletions, hcall] at hnew
    split at hnew
    · rename_i key keys heq
      obtain rfl := Option.some.inj heq
      split at hnew
      · rename_i hkey
        obtain ⟨rfl, rfl⟩ := hkey
        obtain rfl := Option.some.inj hu
        simp only [levels, update_self]
        exact Function.update_self _ _ _
      · cases hnew
    · cases hnew
  | _ => cases hnew

/-- The entries under a key were written after it was renewed and deleted last. -/
structure Renewed (package : CachePackage) (p : Nat) (item : Cached) (renewed deleted : List Nat)
    (s : SharedCache) : Prop where
  renewed_le : last renewed ≤ s.now
  deleted_le : last deleted ≤ s.now
  written : WrittenSince (last renewed) (last deleted) p item s.levels

theorem Renewed.step {p : Nat} {item : Cached} {renewed deleted : List Nat} {t u : SharedCache}
    {a : Action} (h : Renewed package p item renewed deleted t) (hu : t.step package a = some u) :
    Renewed package p item (renewed ++ renewals item t a) (deleted ++ deletions p item t a) u := by
  have heffect := effect_anything hu
  have hnow : t.now ≤ u.now := heffect.now
  have hold := h.written.step h.renewed_le h.deleted_le heffect
  have hrenewed := last_append renewed (renewals_cases item t a)
  have hdeleted := last_append deleted (deletions_cases p item t a)
  refine ⟨?_, ?_, ?_, ?_⟩
  · rcases hrenewed with ⟨hlast, -⟩ | ⟨hlast, -⟩
    · exact hlast ▸ h.renewed_le.trans hnow
    · exact hlast ▸ hnow
  · rcases hdeleted with ⟨hlast, -⟩ | ⟨hlast, -⟩
    · exact hlast ▸ h.deleted_le.trans hnow
    · exact hlast ▸ hnow
  · intro e he
    rcases hrenewed with ⟨hlast, -⟩ | ⟨hlast, hnew⟩
    · exact hlast ▸ hold.shared e he
    · exact hlast ▸ writtenAt_of_renewals hu hnew he
  · intro e he
    rcases hdeleted with ⟨hlast, -⟩ | ⟨-, hnew⟩
    · exact hlast ▸ hold.own e he
    · rw [own_of_deletions hu hnew] at he
      cases he

/-- The state after `before`, when the key was renewed and deleted on time. -/
structure OnTime (package : CachePackage) (delay sharedLife ownLife p : Nat) (item : Cached)
    (before : List Action) (s : SharedCache) : Prop where
  renewed : Renewed package p item (logOf (step package) (renewals item) initial before)
    (logOf (step package) (deletions p item) initial before) s
  aged : Aged (rules package anything) delay sharedLife ownLife p item s.levels

theorem OnTime.of_initial {delay sharedLife ownLife p : Nat} {item : Cached} :
    OnTime package delay sharedLife ownLife p item [] initial where
  renewed := ⟨Nat.le_refl _, Nat.le_refl _, .of_empty initial_empty⟩
  aged := .of_empty initial_empty

theorem OnTime.step {delay sharedLife ownLife p : Nat} {item : Cached} {before : List Action}
    {a : Action} {t u : SharedCache} (h : OnTime package delay sharedLife ownLife p item before t)
    (ht : run (step package) initial before = some t) (hprompt : t.Prompt delay)
    (hrenewals : t.now ≤ last (logOf (step package) (renewals item) initial before) + sharedLife)
    (hdeletions : t.now ≤ last (logOf (step package) (deletions p item) initial before) + ownLife)
    (hu : t.step package a = some u) :
    OnTime package delay sharedLife ownLife p item (before ++ [a]) u where
  renewed := by
    rw [logOf_concat ht, logOf_concat ht]
    exact h.renewed.step hu
  aged := h.aged.step hprompt (h.renewed.written.livesFor hrenewals hdeletions) (effect_anything hu)

/-- **What a call returns when the jobs are on time** is not older than the time between two writes
of its key, that between two deletions in its process, and those for which it was held. -/
theorem returned_fresh {delay sharedLife ownLife p i time : Nat} {item : Cached} {answer : Answer}
    (hprompt : EachStep (step package) (fun s _ => s.Prompt delay) initial actions)
    (hrenewals : Recurs package (renewals item) sharedLife actions)
    (hdeletions : Recurs package (deletions p item) ownLife actions)
    (h : run (step package) initial actions = some s)
    (hreturned : (s.processes p).calls[i]? = some (.returned item time (.ok answer))) :
    time ≤ answer.given + (sharedLife + ownLife + 2 * delay) := by
  have honTime : OnTime package delay sharedLife ownLife p item actions s :=
    run_prefix_induction .of_initial (fun before a after t u hcut ht honTime hu =>
      honTime.step ht (hprompt before a after t hcut ht) (hrenewals before _ t hcut ht)
        (hdeletions before _ t hcut ht) hu) h
  let reply : Reply Cached Answer := { call := i, key := item, value := answer, time := time }
  exact honTime.aged.replied reply hreturned rfl

/-- Whether the times recur in a run is a matter of its states. -/
theorem recurs_of_take {observe : SharedCache → Action → List Nat} {life : Nat}
    (h : ∀ k < actions.length + 1, (stateAfter package (actions.take k)).now ≤
      last (logOf (step package) observe initial (actions.take k)) + life) :
    Recurs package observe life actions := by
  rintro before after t rfl ht
  have hk := h before.length (by rw [List.length_append]; omega)
  rw [List.take_left', ← eq_stateAfter ht] at hk
  · exact hk
  · rfl

namespace Reference

def usdcMetadata : PairMetadata where
  address := "erd1usdc"
  firstTokenId := "WEGLD-bd4d79"
  secondTokenId := "USDC-c76f1f"
  isInverted := false

/-- Process 1 deletes the key when a job has written it at 5, and again at 12 when a job has written
it at 11. Between them it reads the key, and again at 14. -/
def renewing : List Action :=
  [.wait 5, .warmPairsMetadata 0, .answer 0 0 (sources [metadata] []), .writeShared 0 0,
    .writeOwn 0 0, .emit 0 0, .receive 1 0, .deleteLocal 1 0, .get 1 .pairsMetadata, .readOwn 1 1,
    .readShared 1 1, .writeOwn 1 1, .wait 6, .warmPairsMetadata 0,
    .answer 0 1 (sources [metadata, usdcMetadata] []), .writeShared 0 1, .writeOwn 0 1, .emit 0 1,
    .wait 1, .receive 1 0, .deleteLocal 1 2, .wait 2, .get 1 .pairsMetadata, .readOwn 1 3,
    .readShared 1 3, .writeOwn 1 3]

/-- What the router answers at 11. -/
def renewedAnswer : Answer where
  item := .pairsMetadata
  value := [metadata, usdcMetadata]
  given := 11

theorem returned_fresh_renewing :
    ((stateAfter cachePackage renewing).processes 1).calls[3]? =
      some (.returned .pairsMetadata 14 (.ok renewedAnswer)) ∧
    14 ≤ renewedAnswer.given + (6 + 7 + 2 * 0) := by
  have hrun : run (step cachePackage) initial renewing = some (stateAfter cachePackage renewing) :=
    rfl
  have hreturned : ((stateAfter cachePackage renewing).processes 1).calls[3]? =
    some (.returned .pairsMetadata 14 (.ok renewedAnswer)) := rfl
  have hprompt : EachStep (step cachePackage) (fun s _ => s.Prompt 0) initial renewing :=
    prompt_of_heldSince (n := 2) (by decide) (by decide +kernel)
  exact ⟨hreturned, returned_fresh hprompt (recurs_of_take (by decide +kernel))
    (recurs_of_take (by decide +kernel)) hrun hreturned⟩

end Reference

end SharedCache

end DexAdapter
