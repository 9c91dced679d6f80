import DexAdapter.Verify.TokenSteps

/-!
# How long "not found" is cached

`getToken` writes `null` for a minute, `warmTokens` writes whatever it is answered for a day. So
"not found" is forgotten after a minute exactly in the runs in which `warmTokens` never writes the
answer 404 (`notFoundIsShort_iff`).
-/

namespace DexAdapter

open Runs

namespace TokenCache

/-- The step writes `null` under this key. -/
def WritesNotFound (s : TokenCache) (a : Action) (key : String) : Prop :=
  ∃ i w, a = .write i ∧ s.pendingWrite i = some w ∧ w.key = key ∧ w.answer.token = none

/-- The step writes `null` in a call of `warmTokens`. -/
def WarmsNotFound (s : TokenCache) (a : Action) : Prop :=
  ∃ i tokenId token rest, a = .write i ∧ s.calls[i]? = some (.warmWriting tokenId token rest) ∧
    token.token = none

/-- "Not found" is never cached for long in the run. -/
structure NotFoundIsShort (actions : List Action) : Prop where
  /-- wherever the run is cut, an entry `null` has a time to live of a minute at most -/
  ttl : ∀ before after s, actions = before ++ after → run step initial before = some s →
    ∀ key e, s.cache key = some e → e.value.token = none →
      e.ttl ≤ milliseconds Constants.oneMinute
  /-- more than a minute after the last write of `null`, the cache does not answer `null` -/
  forgotten : ∀ before between after s s', actions = before ++ (between ++ after) →
    run step initial before = some s → run step s between = some s' →
    ∀ key, EachStep step (fun t a => ¬ t.WritesNotFound a key) s between →
      s.now + milliseconds Constants.oneMinute < s'.now →
      ∀ answer, TtlCache.get s'.cache s'.now key = some answer → answer.token ≠ none

/-! ## Steps that do not warm "not found" -/

/-- A write of `null` is for a minute, or it is a write of `warmTokens`. -/
theorem ttl_of_pendingWrite {s : TokenCache} {i : Nat} {w : CacheWrite}
    (hw : s.pendingWrite i = some w) (hnull : w.answer.token = none) :
    w.ttl = Constants.oneMinute ∨ s.WarmsNotFound (.write i) := by
  obtain ⟨call, hcall, hw⟩ := pendingWrite_eq_some.1 hw
  cases call with
  | writing identifier tokenRaw =>
    obtain rfl := Option.some.inj hw
    left
    simp only at hnull
    simp [hnull]
  | warmWriting tokenId token rest =>
    obtain rfl := Option.some.inj hw
    exact Or.inr ⟨i, tokenId, token, rest, rfl, hcall, hnull⟩
  | reading | asking | returned | warming => cases hw

/-- Entries are written in the past, and `null` for a minute at most. -/
def ShortNulls (s : TokenCache) : Prop :=
  ∀ key e, s.cache key = some e →
    e.writtenAt ≤ s.now ∧ (e.value.token = none → e.ttl ≤ milliseconds Constants.oneMinute)

theorem shortNulls_step {s s' : TokenCache} {a : Action} (hinv : s.ShortNulls)
    (hwarm : ¬ s.WarmsNotFound a) (h : s.step a = some s') : s'.ShortNulls := by
  have heffect := stepEffect h
  intro key e he
  rcases heffect.entry key e he with hold | ⟨i, w, rfl, hw, rfl, rfl⟩
  · obtain ⟨hwritten, httl⟩ := hinv key e hold
    exact ⟨hwritten.trans heffect.now, httl⟩
  · refine ⟨heffect.now, fun hnull => ?_⟩
    rcases ttl_of_pendingWrite hw hnull with hminute | hwarms
    · exact le_of_eq (congrArg milliseconds hminute)
    · exact absurd hwarms hwarm

theorem shortNulls_run {actions : List Action} {s : TokenCache}
    (hwarm : EachStep step (fun t a => ¬ t.WarmsNotFound a) initial actions)
    (h : run step initial actions = some s) : s.ShortNulls := by
  apply hwarm.induction ?_ ?_ h
  · intro key e he
    cases he
  · intro t a u hinv hstep hu
    exact shortNulls_step hinv hstep hu

/-- Without writes of `null`, an entry `null` has been there all along. -/
theorem entry_of_no_write {s s' : TokenCache} {between : List Action} {key : String}
    (hquiet : EachStep step (fun t a => ¬ t.WritesNotFound a key) s between)
    (h : run step s between = some s') :
    ∀ e, s'.cache key = some e → e.value.token = none → s.cache key = some e := by
  apply hquiet.induction (I := fun t => ∀ e, t.cache key = some e → e.value.token = none →
    s.cache key = some e) ?_ ?_ h
  · intro e he _
    exact he
  · intro t a u ih hstep hu e he hnull
    rcases (stepEffect hu).entry key e he with hold | ⟨i, w, rfl, hw, hkey, rfl⟩
    · exact ih e hold hnull
    · exact absurd ⟨i, w, rfl, hw, hkey, hnull⟩ hstep

/-! ## Steps that do -/

/-- A 404 answer that `warmTokens` writes is cached for a day. -/
theorem cache_of_warmsNotFound {s s' : TokenCache} {a : Action} (hwarms : s.WarmsNotFound a)
    (h : s.step a = some s') :
    ∃ key e, s'.cache key = some e ∧ e.value.token = none ∧
      e.ttl = milliseconds Constants.oneDay := by
  obtain ⟨i, tokenId, token, rest, rfl, hcall, hnull⟩ := hwarms
  obtain ⟨t, hact, rfl⟩ := step_eq_some.1 h
  obtain ⟨call, w, hcall', hw, rfl⟩ := write_eq_some.1 hact
  obtain rfl := Option.some.inj (hcall.symm.trans hcall')
  obtain rfl := Option.some.inj hw
  exact ⟨_, _, TtlCache.set_self, hnull, rfl⟩

/-- **How long "not found" is cached**: a minute at most, exactly when `warmTokens` never writes
the answer 404. -/
theorem notFoundIsShort_iff {actions : List Action} {s : TokenCache}
    (h : run step initial actions = some s) :
    NotFoundIsShort actions ↔
      EachStep step (fun t a => ¬ t.WarmsNotFound a) initial actions := by
  constructor
  · intro hshort before a after t hcut ht hwarms
    have hcut' : actions = (before ++ [a]) ++ after := by rw [hcut]; simp
    rw [hcut'] at h
    obtain ⟨u, hu, -⟩ := run_split h
    obtain ⟨t', ht', hstep⟩ := run_concat.1 hu
    obtain rfl := Option.some.inj (ht.symm.trans ht')
    obtain ⟨key, e, he, hnull, httl⟩ := cache_of_warmsNotFound hwarms hstep
    have hle := hshort.ttl _ _ u hcut' hu key e he hnull
    rw [httl] at hle
    exact absurd hle (by decide)
  · intro hwarm
    refine ⟨?_, ?_⟩
    · rintro before after t rfl ht key e he hnull
      exact (shortNulls_run hwarm.left ht key e he).2 hnull
    · rintro before between after t u rfl ht hu key hquiet hlate answer hget hnull
      obtain ⟨e, he, hlive, rfl⟩ := TtlCache.get_eq_some.1 hget
      have hold := entry_of_no_write hquiet hu e he hnull
      obtain ⟨hwritten, httl⟩ := shortNulls_run hwarm.left ht key e hold
      have httl := httl hnull
      unfold TtlCache.Entry.Live at hlive
      omega

namespace Reference

/-- `warmTokens` is answered 404 for a token, and two minutes pass. -/
def warmRun : List Action :=
  [.warmTokens ["MEX-455c57"], .query 0 .notFound, .write 0, .wait 120000]

/-- `getToken` is answered 404 for a token, and two minutes pass. -/
def getRun : List Action :=
  [.getToken "MEX-455c57", .read 0, .query 0 .notFound, .write 0, .wait 120000]

/-- Where `warmRun` ends. -/
def warmed : TokenCache where
  now := 120000
  steps := 4
  cache := TtlCache.set initial.cache 0 (CacheInfo.Token "MEX-455c57").key
    { token := none, given := 1 } (milliseconds Constants.oneDay)
  calls := [.warming []]

def warmedEntry : TtlCache.Entry TokenAnswer where
  value := { token := none, given := 1 }
  writtenAt := 0
  ttl := milliseconds Constants.oneDay

/-- Two minutes after the write, the cache still answers `null`. -/
theorem warmRun_not_short :
    ¬ NotFoundIsShort warmRun ∧ run step initial warmRun = some warmed ∧
      TtlCache.get warmed.cache warmed.now (CacheInfo.Token "MEX-455c57").key =
        some { token := none, given := 1 } := by
  have hrun : run step initial warmRun = some warmed := rfl
  have hentry : warmed.cache (CacheInfo.Token "MEX-455c57").key = some warmedEntry := by
    simp only [warmed, warmedEntry, TtlCache.set_self]
  refine ⟨?_, hrun, ?_⟩
  · intro hshort
    have hle := hshort.ttl warmRun [] warmed (List.append_nil _).symm hrun _ _ hentry rfl
    exact absurd hle (by decide)
  · exact TtlCache.get_eq_some.2 ⟨warmedEntry, hentry, by decide, rfl⟩

theorem notFoundIsShort_iff_getRun :
    ∃ s, run step initial getRun = some s ∧ (NotFoundIsShort getRun ↔
      EachStep step (fun t a => ¬ t.WarmsNotFound a) initial getRun) :=
  ⟨_, rfl, notFoundIsShort_iff rfl⟩

end Reference

end TokenCache

end DexAdapter
