import DexAdapter.Verify.TokenSteps

/-!
# Answers that go back in time

A call holds the API's answer until it writes it, and writes it over whatever is there. The cache
goes back only where calls overlap: another call for the token asked later and wrote sooner
(`overlap_of_goesBack`).
-/

namespace DexAdapter

open Runs

namespace TokenCache

/-- Call `i` comes to write an answer that the API gave before the unexpired one in the cache. -/
def GoesBack (s : TokenCache) (i : Nat) : Prop :=
  ∃ w e, s.pendingWrite i = some w ∧ s.cache w.key = some e ∧ e.Live s.now ∧
    w.answer.given < e.value.given

/-- At place `written` of the run, call `j` writes `answer` under `key`. -/
def WrittenAt (actions : List Action) (key : String) (answer : TokenAnswer) (j written : Nat) :
    Prop :=
  actions[written]? = some (.write j) ∧ ∃ t w, run step initial (actions.take written) = some t ∧
    t.pendingWrite j = some w ∧ w.key = key ∧ w.answer = answer

/-- At place `asked` of the run, the API gives call `i` its last answer. -/
def AskedAt (actions : List Action) (i asked : Nat) : Prop :=
  (∃ response, actions[asked]? = some (.query i response)) ∧
    ∀ k response, asked < k → actions[k]? ≠ some (.query i response)

/-! ## Places in a run -/

section Places

variable {actions : List Action} {a x : Action} {k : Nat}

theorem getElem?_concat_of_some (h : actions[k]? = some x) : (actions ++ [a])[k]? = some x := by
  obtain ⟨hlt, -⟩ := List.getElem?_eq_some_iff.1 h
  rw [List.getElem?_append_left hlt, h]

theorem of_getElem?_concat (h : (actions ++ [a])[k]? = some x) :
    actions[k]? = some x ∨ (k = actions.length ∧ a = x) := by
  rw [List.getElem?_append] at h
  split at h
  · exact Or.inl h
  · rename_i hge
    obtain ⟨hlt, hx⟩ := List.getElem?_eq_some_iff.1 h
    rw [List.length_singleton] at hlt
    simp only [List.getElem_singleton] at hx
    exact Or.inr ⟨by omega, hx⟩

theorem WrittenAt.concat {key : String} {answer : TokenAnswer} {j written : Nat}
    (h : WrittenAt actions key answer j written) :
    WrittenAt (actions ++ [a]) key answer j written := by
  obtain ⟨hwrite, t, w, ht, hw⟩ := h
  obtain ⟨hlt, -⟩ := List.getElem?_eq_some_iff.1 hwrite
  refine ⟨getElem?_concat_of_some hwrite, t, w, ?_, hw⟩
  rw [List.take_append_of_le_length hlt.le]
  exact ht

theorem AskedAt.concat {i asked : Nat} (h : AskedAt actions i asked)
    (ha : ∀ response, a ≠ .query i response) : AskedAt (actions ++ [a]) i asked := by
  obtain ⟨⟨response, hasked⟩, hlast⟩ := h
  refine ⟨⟨response, getElem?_concat_of_some hasked⟩, ?_⟩
  intro k response' hk hquery
  rcases of_getElem?_concat hquery with hquery | ⟨-, rfl⟩
  · exact hlast k response' hk hquery
  · exact ha response' rfl

theorem askedAt_length {i : Nat} {response : TokenResponse} :
    AskedAt (actions ++ [.query i response]) i actions.length := by
  refine ⟨⟨response, by simp⟩, ?_⟩
  intro k response' hk hquery
  obtain ⟨hlt, -⟩ := List.getElem?_eq_some_iff.1 hquery
  rw [List.length_append, List.length_singleton] at hlt
  omega

end Places

/-! ## Stamps are places -/

/-- The answers in the state were given and written in the run. -/
structure Stamped (actions : List Action) (s : TokenCache) : Prop where
  steps : s.steps = actions.length
  entry : ∀ key e, s.cache key = some e → ∃ j written, WrittenAt actions key e.value j written
  pending : ∀ i w, s.pendingWrite i = some w → AskedAt actions i w.answer.given

theorem stamped_step {actions : List Action} {s s' : TokenCache} {a : Action}
    (hrun : run step initial actions = some s) (hinv : Stamped actions s)
    (h : s.step a = some s') : Stamped (actions ++ [a]) s' := by
  have heffect := stepEffect h
  refine ⟨?_, ?_, ?_⟩
  · rw [heffect.steps, hinv.steps, List.length_append, List.length_singleton]
  · intro key e he
    rcases heffect.entry key e he with hold | ⟨i, w, rfl, hw, hkey, rfl⟩
    · obtain ⟨j, written, hwritten⟩ := hinv.entry key e hold
      exact ⟨j, written, hwritten.concat⟩
    · refine ⟨i, actions.length, by simp, s, w, ?_, hw, hkey, rfl⟩
      rw [List.take_left]
      exact hrun
  · intro i w hw
    rcases heffect.pending i w hw with ⟨hold, hother⟩ | ⟨response, rfl, hgiven⟩
    · exact (hinv.pending i w hold).concat hother
    · rw [hgiven, hinv.steps]
      exact askedAt_length

theorem stamped_run {actions : List Action} {s : TokenCache}
    (h : run step initial actions = some s) : Stamped actions s := by
  apply run_induction ?_ ?_ h
  · refine ⟨rfl, ?_, ?_⟩
    · intro key e he
      cases he
    · intro i w hw
      cases hw
  · intro actions t a u ht hinv hu
    exact stamped_step ht hinv hu

/-- **The cache goes back only where calls overlap**: another call for the token was answered after
call `i` was, and has written before call `i` writes. -/
theorem overlap_of_goesBack {actions : List Action} {s : TokenCache}
    (h : run step initial actions = some s) {i : Nat} (hback : s.GoesBack i) :
    ∃ w, s.pendingWrite i = some w ∧ ∃ j answer written, j ≠ i ∧
      AskedAt actions i w.answer.given ∧
      (∃ response, actions[answer.given]? = some (.query j response)) ∧
      WrittenAt actions w.key answer j written ∧
      w.answer.given < answer.given ∧ answer.given < written := by
  obtain ⟨w, e, hw, he, -, hlt⟩ := hback
  have hstamped := stamped_run h
  have hasked := hstamped.pending i w hw
  obtain ⟨j, written, hwritten⟩ := hstamped.entry w.key e he
  obtain ⟨t, w', ht, hw', -, hanswer⟩ := hwritten.2
  obtain ⟨⟨response, hquery⟩, -⟩ := (stamped_run ht).pending j w' hw'
  rw [hanswer] at hquery
  -- the call that wrote the entry was answered in the part of the run before it wrote
  have hbefore : e.value.given < written := by
    obtain ⟨hlt, -⟩ := List.getElem?_eq_some_iff.1 hquery
    rw [List.length_take] at hlt
    omega
  rw [List.getElem?_take_of_lt hbefore] at hquery
  refine ⟨w, hw, j, e.value, written, ?_, hasked, ⟨response, hquery⟩, hwritten, hlt, hbefore⟩
  rintro rfl
  exact hasked.2 e.value.given response hlt hquery

namespace Reference

def mex : Token where
  identifier := "MEX-455c57"
  name := "MEX"
  ticker := "MEX-455c57"
  decimals := 18
  supply := "0"
  circulatingSupply := "0"
  assets := none

/-- Two requests miss; the token is issued between their answers, and the later answer is written
first. -/
def raceRun : List Action :=
  [.getToken "MEX-455c57", .getToken "MEX-455c57", .read 0, .read 1, .query 0 .notFound,
    .query 1 (.token mex), .write 1]

/-- Where `raceRun` ends: the first request is about to write. -/
def raced : TokenCache where
  now := 0
  steps := 7
  cache := TtlCache.set initial.cache 0 (CacheInfo.Token "MEX-455c57").key
    { token := some mex, given := 5 } (milliseconds Constants.oneDay)
  calls := [.writing "MEX-455c57" { token := none, given := 4 }, .returned (.ok (some mex))]

/-- What the second request wrote. -/
def racedEntry : TtlCache.Entry TokenAnswer where
  value := { token := some mex, given := 5 }
  writtenAt := 0
  ttl := milliseconds Constants.oneDay

/-- What the first request is about to write over it. -/
def racedWrite : CacheWrite where
  key := (CacheInfo.Token "MEX-455c57").key
  answer := { token := none, given := 4 }
  ttl := Constants.oneMinute

theorem raced_cache : raced.cache racedWrite.key = some racedEntry := by
  simp only [raced, racedEntry, racedWrite, TtlCache.set_self]

theorem raced_goesBack : run step initial raceRun = some raced ∧ raced.GoesBack 0 :=
  ⟨rfl, racedWrite, racedEntry, rfl, raced_cache, by decide, by decide⟩

/-- The older "not found" replaces the token. -/
theorem raceRun_goesBack :
    ∃ s s', run step initial raceRun = some s ∧ s.GoesBack 0 ∧ step s (.write 0) = some s' ∧
      TtlCache.get s.cache s.now racedWrite.key = some racedEntry.value ∧
      s'.cache racedWrite.key = some
        { value := racedWrite.answer
          writtenAt := 0
          ttl := milliseconds Constants.oneMinute } := by
  obtain ⟨hrun, hback⟩ := raced_goesBack
  refine ⟨raced, _, hrun, hback, rfl, ?_, ?_⟩
  · exact TtlCache.get_eq_some.2 ⟨racedEntry, raced_cache, by decide, rfl⟩
  · show TtlCache.set raced.cache raced.now racedWrite.key racedWrite.answer
      (milliseconds Constants.oneMinute) racedWrite.key = _
    exact TtlCache.set_self

theorem overlap_of_goesBack_raced :
    ∃ w, raced.pendingWrite 0 = some w ∧ ∃ j answer written, j ≠ 0 ∧
      WrittenAt raceRun w.key answer j written ∧ w.answer.given < answer.given := by
  obtain ⟨hrun, hback⟩ := raced_goesBack
  obtain ⟨w, hw, j, answer, written, hne, -, -, hwritten, hlt, -⟩ := overlap_of_goesBack hrun hback
  exact ⟨w, hw, j, answer, written, hne, hwritten, hlt⟩

end Reference

end TokenCache

end DexAdapter
