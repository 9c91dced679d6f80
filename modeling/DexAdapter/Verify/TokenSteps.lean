import DexAdapter.TokenCache

/-!
# What a step does to the token cache

`stepEffect` says it once for all steps: an entry is there before or is the step's own write, and a
call comes to a write only when the API answers it.
-/

namespace DexAdapter

namespace TokenCache

/-! ## Calls and their writes -/

/-- The write that call `i` comes to next. -/
def pendingWrite (s : TokenCache) (i : Nat) : Option CacheWrite :=
  s.calls[i]?.bind TokenCall.nextWrite

theorem pendingWrite_eq_some {s : TokenCache} {i : Nat} {w : CacheWrite} :
    s.pendingWrite i = some w ↔ ∃ call, s.calls[i]? = some call ∧ call.nextWrite = some w :=
  Option.bind_eq_some_iff

theorem move_eq_some {s s' : TokenCache} {i : Nat} {next : TokenCall → Option TokenCall} :
    s.move i next = some s' ↔ ∃ call call', s.calls[i]? = some call ∧ next call = some call' ∧
      s' = { s with calls := s.calls.set i call' } := by
  unfold move
  cases hcall : s.calls[i]? with
  | none => simp
  | some call =>
    cases hnext : next call with
    | none => simp [hnext]
    | some call' => simp [hnext, eq_comm]

theorem write_eq_some {s s' : TokenCache} {i : Nat} :
    s.act (.write i) = some s' ↔ ∃ call w, s.calls[i]? = some call ∧ call.nextWrite = some w ∧
      s' = { s with
        cache := TtlCache.set s.cache s.now w.key w.answer (milliseconds w.ttl)
        calls := s.calls.set i call.afterWrite } := by
  simp only [act]
  cases hcall : s.calls[i]? with
  | none => simp
  | some call =>
    cases hw : call.nextWrite with
    | none => simp [hw]
    | some w => simp [hw, eq_comm]

/-- The effect of a step on the clock, the cache and the writes to come. -/
structure StepEffect (s : TokenCache) (a : Action) (s' : TokenCache) : Prop where
  steps : s'.steps = s.steps + 1
  now : s.now ≤ s'.now
  /-- an entry was there before, or is written by the step -/
  entry : ∀ key e, s'.cache key = some e → s.cache key = some e ∨
    ∃ i w, a = .write i ∧ s.pendingWrite i = some w ∧ w.key = key ∧
      e = { value := w.answer, writtenAt := s.now, ttl := milliseconds w.ttl }
  /-- a write that a call comes to was there before, or the call is answered by the step -/
  pending : ∀ i w, s'.pendingWrite i = some w →
    (s.pendingWrite i = some w ∧ ∀ response, a ≠ .query i response) ∨
      ∃ response, a = .query i response ∧ w.answer.given = s.steps

/-- Calls other than `i` keep their writes when call `i` moves on. -/
theorem pendingWrite_set {s s' : TokenCache} {i : Nat} {call : TokenCall}
    (hcalls : s'.calls = s.calls.set i call) {j : Nat} {w : CacheWrite}
    (h : s'.pendingWrite j = some w) :
    (j ≠ i ∧ s.pendingWrite j = some w) ∨ (j = i ∧ call.nextWrite = some w) := by
  obtain ⟨call', hcall', hw⟩ := pendingWrite_eq_some.1 h
  rw [hcalls] at hcall'
  by_cases hij : i = j
  · subst hij
    rw [List.getElem?_set, if_pos rfl] at hcall'
    split at hcall'
    · obtain rfl := Option.some.inj hcall'
      exact Or.inr ⟨rfl, hw⟩
    · cases hcall'
  · rw [List.getElem?_set_ne hij] at hcall'
    exact Or.inl ⟨Ne.symm hij, pendingWrite_eq_some.2 ⟨call', hcall', hw⟩⟩

theorem pendingWrite_append {s s' : TokenCache} {call : TokenCall}
    (hcalls : s'.calls = s.calls ++ [call]) (hcall : call.nextWrite = none) {j : Nat}
    {w : CacheWrite} (h : s'.pendingWrite j = some w) : s.pendingWrite j = some w := by
  obtain ⟨call', hcall', hw⟩ := pendingWrite_eq_some.1 h
  rw [hcalls, List.getElem?_append] at hcall'
  split at hcall'
  · exact pendingWrite_eq_some.2 ⟨call', hcall', hw⟩
  · have hmem := List.mem_of_getElem? hcall'
    obtain rfl := List.mem_singleton.1 hmem
    rw [hcall] at hw
    cases hw

theorem nextWrite_afterRead (identifier : String) (cached : Option TokenAnswer) :
    (TokenCall.afterRead identifier cached).nextWrite = none := by
  cases cached with
  | none => rfl
  | some cachedToken => rfl

theorem nextWrite_afterAnswer {call call' : TokenCall} {given : Nat} {response : TokenResponse}
    (h : call.afterAnswer given response = some call') {w : CacheWrite}
    (hw : call'.nextWrite = some w) : w.answer.given = given := by
  cases call with
  | asking identifier =>
    cases response with
    | token | notFound =>
      obtain rfl := Option.some.inj h
      obtain rfl := Option.some.inj hw
      rfl
    | failed error =>
      obtain rfl := Option.some.inj h
      cases hw
  | warming tokens =>
    cases tokens with
    | nil => cases h
    | cons tokenId rest =>
      cases response with
      | token | notFound =>
        obtain rfl := Option.some.inj h
        obtain rfl := Option.some.inj hw
        rfl
      | failed error =>
        obtain rfl := Option.some.inj h
        cases hw
  | reading | writing | returned | warmWriting => cases h

theorem nextWrite_afterWrite {call : TokenCall} {w : CacheWrite} (h : call.nextWrite = some w) :
    call.afterWrite.nextWrite = none ∧ ∀ error, (call.afterFailedWrite error).nextWrite = none := by
  cases call with
  | writing | warmWriting => exact ⟨rfl, fun _ => rfl⟩
  | reading | asking | returned | warming => cases h

theorem step_eq_some {s s' : TokenCache} {a : Action} :
    s.step a = some s' ↔ ∃ t, s.act a = some t ∧ s' = { t with steps := s.steps + 1 } := by
  unfold step
  rw [Option.map_eq_some_iff]
  constructor
  · rintro ⟨t, ht, rfl⟩
    exact ⟨t, ht, rfl⟩
  · rintro ⟨t, ht, rfl⟩
    exact ⟨t, ht, rfl⟩

/-- A call that moves on without an answer comes to no write. -/
theorem stepEffect_of_move {s t : TokenCache} {a : Action} {i : Nat}
    {next : TokenCall → Option TokenCall} (hmove : s.move i next = some t)
    (hnext : ∀ call call' w, next call = some call' → call'.nextWrite = some w →
      ∃ response, a = .query i response ∧ w.answer.given = s.steps)
    (hquery : ∀ j response, a = .query j response → j = i) :
    StepEffect s a { t with steps := s.steps + 1 } := by
  obtain ⟨call, call', hcall, hcall', rfl⟩ := move_eq_some.1 hmove
  refine ⟨rfl, le_rfl, fun key e he => Or.inl he, ?_⟩
  intro j w hw
  rcases pendingWrite_set rfl hw with ⟨hne, hold⟩ | ⟨rfl, hnew⟩
  · refine Or.inl ⟨hold, ?_⟩
    rintro response rfl
    exact hne (hquery j response rfl)
  · exact Or.inr (hnext call call' w hcall' hnew)

/-- A write stores what the call holds, and the call comes to no other write by it. -/
theorem stepEffect_of_write {s t : TokenCache} {i : Nat} (hact : s.act (.write i) = some t) :
    StepEffect s (.write i) { t with steps := s.steps + 1 } := by
  obtain ⟨call, w, hcall, hw, rfl⟩ := write_eq_some.1 hact
  refine ⟨rfl, le_rfl, ?_, ?_⟩
  · intro key e he
    rcases TtlCache.of_set_eq_some he with ⟨rfl, rfl⟩ | ⟨-, he⟩
    · exact Or.inr ⟨i, w, rfl, pendingWrite_eq_some.2 ⟨call, hcall, hw⟩, rfl, rfl⟩
    · exact Or.inl he
  · intro j w' hw'
    rcases pendingWrite_set rfl hw' with ⟨-, hold⟩ | ⟨rfl, hnew⟩
    · exact Or.inl ⟨hold, by simp⟩
    · rw [(nextWrite_afterWrite hw).1] at hnew
      cases hnew

/-- **What a step can do.** -/
theorem stepEffect {s s' : TokenCache} {a : Action} (h : s.step a = some s') :
    StepEffect s a s' := by
  obtain ⟨t, hact, rfl⟩ := step_eq_some.1 h
  cases a with
  | wait ms =>
    obtain rfl := Option.some.inj hact
    refine ⟨rfl, Nat.le_add_right _ _, fun key e he => Or.inl he, ?_⟩
    intro j w hw
    exact Or.inl ⟨hw, by simp⟩
  | forget key =>
    obtain rfl := Option.some.inj hact
    refine ⟨rfl, le_rfl, fun other e he => Or.inl (TtlCache.of_forget_eq_some he).2, ?_⟩
    intro j w hw
    exact Or.inl ⟨hw, by simp⟩
  | getToken | warmTokens =>
    obtain rfl := Option.some.inj hact
    refine ⟨rfl, le_rfl, fun key e he => Or.inl he, ?_⟩
    intro j w hw
    exact Or.inl ⟨pendingWrite_append rfl rfl hw, by simp⟩
  | read i =>
    apply stepEffect_of_move hact
    · intro call call' w hnext hw
      cases call with
      | reading identifier =>
        obtain rfl := Option.some.inj hnext
        rw [nextWrite_afterRead] at hw
        cases hw
      | asking | writing | returned | warming | warmWriting => cases hnext
    · intro j response h
      cases h
  | query i response =>
    apply stepEffect_of_move hact
    · intro call call' w hnext hw
      exact ⟨response, rfl, nextWrite_afterAnswer hnext hw⟩
    · intro j response' h
      cases h
      rfl
  | failWrite i error =>
    apply stepEffect_of_move hact
    · intro call call' w hnext hw
      obtain ⟨w', hw', rfl⟩ := Option.map_eq_some_iff.1 hnext
      rw [(nextWrite_afterWrite hw').2] at hw
      cases hw
    · intro j response h
      cases h
  | write i => exact stepEffect_of_write hact

end TokenCache

end DexAdapter
