import DexAdapter.Lib.TwoLevelCache
import DexAdapter.SharedCache

/-!
# What a step does to the shared cache

The cache of the code has texts as keys and takes values of any type. Read by the things that are
cached, it is a cache in two levels (`SharedCache.levels`), and every step of a call does what such
a cache may do (`SharedCache.effect`). A process holds an answer from the moment it is given until
it is written.
-/

namespace DexAdapter

open TtlCache TwoLevelCache

/-- The answer that the call is about to write. -/
def Call.held : Call → Option (Held Cached Answer)
  | copying item answer since =>
    some { key := item, value := answer, made := false, since := since }
  | setting answer _ _ =>
    some { key := answer.item, value := answer, made := true, since := answer.given }
  | _ => none

namespace SharedCache

def levels (s : SharedCache) : TwoLevelCache.State Nat Cached Answer where
  now := s.now
  shared item := s.shared item.key
  own p item := (s.processes p).cache item.key
  holds p h := ∃ call ∈ (s.processes p).calls, call.held = some h
  replied p r := (s.processes p).calls[r.call]? = some (.returned r.key r.time (.ok r.value))

/-- What the sources answer, and when. -/
abbrev SourceHistory := Nat → (item : Cached) → item.Value → Prop

def rules (package : CachePackage) (Gives : SourceHistory) :
    Rules Cached Answer where
  given := Answer.given
  Answers item answer := answer.item = item ∧ Gives answer.given answer.item answer.value
  sharedTtl item := TokenCache.milliseconds item.info.ttl
  ownTtl item := package.ownMilliseconds item.info.ttl

/-! ## Calls that move on -/

/-- What a call of process `p` comes to: the answer it holds was held, or is given by the source or
read in the shared cache in this step, and what it returns was at hand. -/
structure Advances (Gives : SourceHistory) (s : SharedCache) (p : Nat)
    (call call' : Call) : Prop where
  held : ∀ h, call'.held = some h → call.held = some h ∨
    (h.since = s.now ∧ h.value.given = s.now ∧ h.value.item = h.key ∧
      Gives h.value.given h.value.item h.value.value) ∨
      (h.since = s.now ∧ h.made = false ∧
        ∃ e, s.shared h.key.key = some e ∧ e.Live s.now ∧ h.value = e.value)
  replied : ∀ item time answer, call' = .returned item time (.ok answer) → time = s.now ∧
    ((∃ e, (s.processes p).cache item.key = some e ∧ e.Live s.now ∧ answer = e.value) ∨
      ∃ h, call.held = some h ∧ h.key = item ∧ h.value = answer)

section Advances

variable {Gives : SourceHistory} {s : SharedCache} {p : Nat}

theorem advances_afterOwn {item : Cached} :
    Advances Gives s p (.reading item)
      (.afterOwn s.now item (TtlCache.get (s.processes p).cache s.now item.key)) := by
  cases hget : TtlCache.get (s.processes p).cache s.now item.key with
  | none =>
    refine ⟨fun h hheld => ?_, fun _ _ _ hreturned => ?_⟩
    · cases hheld
    · cases hreturned
  | some answer =>
    obtain ⟨e, he, hlive, rfl⟩ := get_eq_some.1 hget
    refine ⟨fun h hheld => ?_, fun item' time answer hreturned => ?_⟩
    · cases hheld
    · cases hreturned
      exact ⟨rfl, Or.inl ⟨e, he, hlive, rfl⟩⟩

theorem advances_afterShared {item : Cached} :
    Advances Gives s p (.missed item)
      (.afterShared s.now item (TtlCache.get s.shared s.now item.key)) := by
  cases hget : TtlCache.get s.shared s.now item.key with
  | none =>
    refine ⟨fun h hheld => ?_, fun _ _ _ hreturned => ?_⟩
    · cases hheld
    · cases hreturned
  | some answer =>
    obtain ⟨e, he, hlive, rfl⟩ := get_eq_some.1 hget
    refine ⟨fun h hheld => ?_, fun _ _ _ hreturned => ?_⟩
    · obtain rfl := Option.some.inj hheld
      exact Or.inr (Or.inr ⟨rfl, rfl, e, he, hlive, rfl⟩)
    · cases hreturned

/-- A call that comes to hold nothing and has not returned a value. -/
theorem advances_of_none {call call' : Call} (hheld : call'.held = none)
    (hreturned : ∀ item time answer, call' ≠ .returned item time (.ok answer)) :
    Advances Gives s p call call' where
  held h hh := by
    rw [hheld] at hh
    cases hh
  replied item time answer h := absurd h (hreturned item time answer)

theorem advances_afterError {call : Call} {item : Cached} {error : JsError} {job : Job} :
    Advances Gives s p call (.afterError s.now item error job) := by
  unfold Call.afterError
  split
  · exact advances_of_none rfl (by simp)
  · exact advances_of_none rfl (by simp)

/-- What the source has given. -/
theorem advances_setting {call : Call} {item : Cached} {value : item.Value} {left : Writes}
    {job : Option Job} (hgives : Gives s.now item value) :
    Advances Gives s p call
      (.setting { item := item, value := value, given := s.now } left job) where
  held h hheld := by
    obtain rfl := Option.some.inj hheld
    exact Or.inr (Or.inl ⟨rfl, rfl, rfl, hgives⟩)
  replied _ _ _ hreturned := by cases hreturned

theorem advances_afterAnswer {call call' : Call} {sources : Sources}
    (hgives : ∀ item value, sources.raw item = .ok value → Gives s.now item value)
    (h : call.afterAnswer s.now sources = some call') : Advances Gives s p call call' := by
  unfold Call.afterAnswer at h
  split at h
  · split at h
    · rename_i hraw
      obtain rfl := Option.some.inj h
      exact advances_setting (hgives _ _ hraw)
    · obtain rfl := Option.some.inj h
      exact advances_of_none rfl (by simp)
  · split at h
    · rename_i hraw
      obtain rfl := Option.some.inj h
      exact advances_setting (hgives _ _ hraw)
    · obtain rfl := Option.some.inj h
      exact advances_afterError
  · cases h

theorem advances_afterFailure {call call' : Call} {error : JsError}
    (h : call.afterFailure s.now error = some call') : Advances Gives s p call call' := by
  unfold Call.afterFailure at h
  split at h
  · obtain rfl := Option.some.inj h
    exact advances_of_none rfl (by simp)
  · obtain rfl := Option.some.inj h
    exact advances_of_none rfl (by simp)
  · obtain rfl := Option.some.inj h
    exact advances_of_none rfl (by simp)
  · obtain rfl := Option.some.inj h
    exact advances_of_none rfl (by simp)
  · obtain rfl := Option.some.inj h
    exact advances_afterError
  · cases h

/-- A call that returns what it holds. -/
theorem advances_returned (call : Call) {h : Held Cached Answer} (hheld : call.held = some h) :
    Advances Gives s p call (.returned h.key s.now (.ok h.value)) where
  held _ hh := by cases hh
  replied _ _ _ hreturned := by
    cases hreturned
    exact ⟨rfl, Or.inr ⟨h, hheld, rfl, rfl⟩⟩

theorem advances_afterWrite {answer : Answer} {left left' : Writes} {job : Option Job} :
    Advances Gives s p (.setting answer left job) (.afterWrite s.now answer left' job) := by
  unfold Call.afterWrite
  split
  · exact ⟨fun h hheld => Or.inl hheld, fun _ _ _ hreturned => by cases hreturned⟩
  · cases job with
    | none => exact advances_returned (.setting answer left none) rfl
    | some job => exact advances_of_none rfl (by simp)

end Advances

/-! ## The effect of a step -/

section Effect

variable {package : CachePackage} {Gives : SourceHistory}
  {s s' : SharedCache} {p i : Nat}

/-- A call of a state is there before, or is one that a call has come to, or is new. -/
def CallOf (Gives : SourceHistory) (s : SharedCache) (p i : Nat)
    (call : Call) : Prop :=
  (s.processes p).calls[i]? = some call ∨
    (∃ call₀, (s.processes p).calls[i]? = some call₀ ∧ Advances Gives s p call₀ call) ∨
      (call.held = none ∧ ∀ item time answer, call ≠ .returned item time (.ok answer))

theorem effect_of_calls (hnow : s.now ≤ s'.now)
    (hshared : ∀ item e, s'.levels.shared item = some e → s.levels.shared item = some e ∨
      ∃ p h, s.levels.holds p h ∧ h.made = true ∧ h.key = item ∧ e.value = h.value ∧
        e.writtenAt = s.now ∧ e.ttl ≤ (rules package Gives).sharedTtl item)
    (hown : ∀ p item e, s'.levels.own p item = some e → s.levels.own p item = some e ∨
      ∃ h, s.levels.holds p h ∧ h.key = item ∧ e.value = h.value ∧ e.writtenAt = s.now ∧
        e.ttl ≤ (rules package Gives).ownTtl item)
    (hcalls : ∀ p i call, (s'.processes p).calls[i]? = some call → CallOf Gives s p i call) :
    Effect (rules package Gives) s.levels s'.levels where
  now := hnow
  shared := hshared
  own := hown
  holds p h := by
    rintro ⟨call, hmem, hheld⟩
    obtain ⟨i, hi⟩ := List.mem_iff_getElem?.1 hmem
    rcases hcalls p i call hi with hold | ⟨call₀, hcall₀, hadvances⟩ | ⟨hnone, -⟩
    · exact Or.inl ⟨call, List.mem_of_getElem? hold, hheld⟩
    · exact (hadvances.held h hheld).imp_left fun h₀ => ⟨call₀, List.mem_of_getElem? hcall₀, h₀⟩
    · rw [hnone] at hheld
      cases hheld
  replied p r hr := by
    rcases hcalls p r.call _ hr with hold | ⟨call₀, hcall₀, hadvances⟩ | ⟨-, hnone⟩
    · exact Or.inl hold
    · obtain ⟨htime, hfrom⟩ := hadvances.replied _ _ _ rfl
      refine Or.inr ⟨htime, hfrom.imp_right ?_⟩
      rintro ⟨h, hheld, hkey⟩
      exact ⟨h, ⟨call₀, List.mem_of_getElem? hcall₀, hheld⟩, hkey⟩
    · exact absurd rfl (hnone _ _ _)

/-- The caches do not gain an entry. -/
theorem effect_of_subset (hnow : s.now ≤ s'.now)
    (hshared : ∀ key e, s'.shared key = some e → s.shared key = some e)
    (hown : ∀ p key e, (s'.processes p).cache key = some e → (s.processes p).cache key = some e)
    (hcalls : ∀ p i call, (s'.processes p).calls[i]? = some call → CallOf Gives s p i call) :
    Effect (rules package Gives) s.levels s'.levels :=
  effect_of_calls hnow (fun item e he => Or.inl (hshared item.key e he))
    (fun p item e he => Or.inl (hown p item.key e he)) hcalls

theorem update_self {f : Process → Process} :
    (s.update p f).processes p = f (s.processes p) := Function.update_self _ _ _

theorem update_of_ne {f : Process → Process} {q : Nat} (h : q ≠ p) :
    (s.update p f).processes q = s.processes q := Function.update_of_ne h _ _

/-- One call moves on, and the others stay. -/
theorem callOf_set {call call' : Call} (hcall : (s.processes p).calls[i]? = some call)
    (hadvances : Advances Gives s p call call') {j : Nat} {call₁ : Call}
    (h : ((s.processes p).calls.set i call')[j]? = some call₁) : CallOf Gives s p j call₁ := by
  by_cases hij : i = j
  · subst hij
    rw [List.getElem?_set, if_pos rfl] at h
    split at h
    · obtain rfl := Option.some.inj h
      exact Or.inr (Or.inl ⟨call, hcall, hadvances⟩)
    · cases h
  · rw [List.getElem?_set_ne hij] at h
    exact Or.inl h

/-- A new call that holds nothing. -/
theorem callOf_append {call : Call} (hheld : call.held = none)
    (hreturned : ∀ item time answer, call ≠ .returned item time (.ok answer)) {j : Nat}
    {call₁ : Call} (h : ((s.processes p).calls ++ [call])[j]? = some call₁) :
    CallOf Gives s p j call₁ := by
  rw [List.getElem?_append] at h
  split at h
  · exact Or.inl h
  · obtain rfl := List.mem_singleton.1 (List.mem_of_getElem? h)
    exact Or.inr (Or.inr ⟨hheld, hreturned⟩)

/-- The calls after one process has changed. -/
theorem callOf_update {f : Process → Process}
    (hcalls : ∀ i call, (f (s.processes p)).calls[i]? = some call → CallOf Gives s p i call)
    {q j : Nat} {call : Call} (h : ((s.update p f).processes q).calls[j]? = some call) :
    CallOf Gives s q j call := by
  by_cases hq : q = p
  · subst hq
    rw [update_self] at h
    exact hcalls j call h
  · rw [update_of_ne hq] at h
    exact Or.inl h

/-- The caches after one process has changed. -/
theorem own_of_update {f : Process → Process}
    (hown : ∀ key e, (f (s.processes p)).cache key = some e →
      (s.processes p).cache key = some e)
    {q : Nat} {key : String} {e : Entry Answer}
    (he : ((s.update p f).processes q).cache key = some e) :
    (s.processes q).cache key = some e := by
  by_cases hq : q = p
  · subst hq
    rw [update_self] at he
    exact hown key e he
  · rwa [update_of_ne hq] at he

/-- A step that changes one process, whose cache gains no entry. -/
theorem effect_of_update {f : Process → Process} (hs' : s' = s.update p f)
    (hown : ∀ key e, (f (s.processes p)).cache key = some e →
      (s.processes p).cache key = some e)
    (hcalls : ∀ i call, (f (s.processes p)).calls[i]? = some call → CallOf Gives s p i call) :
    Effect (rules package Gives) s.levels s'.levels := by
  subst hs'
  exact effect_of_subset (Nat.le_refl _) (fun _ _ he => he) (fun _ _ _ => own_of_update hown)
    fun _ _ _ => callOf_update hcalls

theorem effect_of_begin {call : Call} (hheld : call.held = none)
    (hreturned : ∀ item time answer, call ≠ .returned item time (.ok answer)) :
    Effect (rules package Gives) s.levels (s.begin p call).levels :=
  effect_of_update rfl (fun _ _ he => he) fun _ _ h => callOf_append hheld hreturned h

theorem move_eq_some {next : Call → Option Call} :
    s.move p i next = some s' ↔ ∃ call call', (s.processes p).calls[i]? = some call ∧
      next call = some call' ∧
      s' = s.update p fun process => { process with calls := process.calls.set i call' } := by
  unfold move
  cases hcall : (s.processes p).calls[i]? with
  | none => simp
  | some call =>
    cases hnext : next call with
    | none => simp [hnext]
    | some call' => simp [hnext, eq_comm]

theorem effect_of_move {next : Call → Option Call} (h : s.move p i next = some s')
    (hnext : ∀ call call', next call = some call' → Advances Gives s p call call') :
    Effect (rules package Gives) s.levels s'.levels := by
  obtain ⟨call, call', hcall, hcall', rfl⟩ := move_eq_some.1 h
  exact effect_of_update rfl (fun _ _ he => he) fun _ _ h =>
    callOf_set hcall (hnext call call' hcall') h

/-! ## Writes -/

/-- A call writes what it holds. -/
structure WritesHeld (Gives : SourceHistory) (s : SharedCache) (p : Nat)
    (call call' : Call) (w : Write) : Prop where
  held : ∃ h, call.held = some h ∧ h.key = w.item ∧ h.value = w.answer
  ttl : w.ttl ≤ w.item.info.ttl
  advances : Advances Gives s p call call'

theorem writesHeld_of_ownWrite {call call' : Call} {w : Write}
    (h : ownWrite s.now call = some (w, call')) : WritesHeld Gives s p call call' w := by
  unfold ownWrite at h
  split at h
  · rename_i item answer since
    cases h
    exact ⟨⟨_, rfl, rfl, rfl⟩, Nat.le_refl _,
      advances_returned (.copying item answer since) rfl⟩
  · cases h
    exact ⟨⟨_, rfl, rfl, rfl⟩, Call.settingTtl_le _ _, advances_afterWrite⟩
  · cases h

/-- What goes to the shared cache is an answer of the source. -/
theorem writesHeld_of_sharedWrite {call call' : Call} {w : Write}
    (h : sharedWrite s.now call = some (w, call')) :
    WritesHeld Gives s p call call' w ∧ ∀ h, call.held = some h → h.made = true := by
  unfold sharedWrite at h
  split at h
  · cases h
    refine ⟨⟨⟨_, rfl, rfl, rfl⟩, Call.settingTtl_le _ _, advances_afterWrite⟩, fun h hheld => ?_⟩
    obtain rfl := Option.some.inj hheld
    rfl
  · cases h

theorem writeOwn_eq_some :
    s.step package (.writeOwn p i) = some s' ↔ ∃ call call' w,
      (s.processes p).calls[i]? = some call ∧ ownWrite s.now call = some (w, call') ∧
      s' = s.update p fun process =>
        { process with
          cache := TtlCache.set process.cache s.now w.item.key w.answer
            (package.ownMilliseconds w.ttl)
          calls := process.calls.set i call' } := by
  simp only [step]
  cases hcall : (s.processes p).calls[i]? with
  | none => simp
  | some call =>
    cases hwrite : ownWrite s.now call with
    | none => simp [hwrite]
    | some wcall =>
      obtain ⟨w, call'⟩ := wcall
      simp [hwrite, eq_comm, and_assoc]

theorem writeShared_eq_some :
    s.step package (.writeShared p i) = some s' ↔ ∃ call call' w,
      (s.processes p).calls[i]? = some call ∧ sharedWrite s.now call = some (w, call') ∧
      s' = { s.update p fun process => { process with calls := process.calls.set i call' } with
        shared := TtlCache.set s.shared s.now w.item.key w.answer
          (TokenCache.milliseconds w.ttl) } := by
  simp only [step]
  cases hcall : (s.processes p).calls[i]? with
  | none => simp
  | some call =>
    cases hwrite : sharedWrite s.now call with
    | none => simp [hwrite]
    | some wcall =>
      obtain ⟨w, call'⟩ := wcall
      simp [hwrite, eq_comm, and_assoc]

theorem effect_of_writeOwn (h : s.step package (.writeOwn p i) = some s') :
    Effect (rules package Gives) s.levels s'.levels := by
  obtain ⟨call, call', w, hcall, hwrite, rfl⟩ := writeOwn_eq_some.1 h
  obtain ⟨⟨held, hheld, hkey, hvalue⟩, httl, hadvances⟩ := writesHeld_of_ownWrite hwrite (p := p)
  refine effect_of_calls (Nat.le_refl _) (fun _ _ he => Or.inl he) ?_ fun _ _ _ =>
    callOf_update fun _ _ => callOf_set hcall hadvances
  intro q item e he
  by_cases hq : q = p
  · subst hq
    simp only [levels, update_self] at he
    rcases of_set_eq_some he with ⟨hitem, rfl⟩ | ⟨-, hold⟩
    · obtain rfl := Cached.eq_of_key hitem
      refine Or.inr ⟨held, ⟨call, List.mem_of_getElem? hcall, hheld⟩, hkey, hvalue.symm, rfl, ?_⟩
      exact package.mono _ _ httl
    · exact Or.inl hold
  · simp only [levels, update_of_ne hq] at he
    exact Or.inl he

theorem effect_of_writeShared (h : s.step package (.writeShared p i) = some s') :
    Effect (rules package Gives) s.levels s'.levels := by
  obtain ⟨call, call', w, hcall, hwrite, rfl⟩ := writeShared_eq_some.1 h
  obtain ⟨⟨⟨held, hheld, hkey, hvalue⟩, httl, hadvances⟩, hmade⟩ :=
    writesHeld_of_sharedWrite hwrite (p := p)
  refine effect_of_calls (Nat.le_refl _) ?_ ?_ ?_
  · intro item e he
    rcases of_set_eq_some he with ⟨hitem, rfl⟩ | ⟨-, hold⟩
    · obtain rfl := Cached.eq_of_key hitem
      refine Or.inr ⟨p, held, ⟨call, List.mem_of_getElem? hcall, hheld⟩, hmade held hheld, hkey,
        hvalue.symm, rfl, ?_⟩
      exact Nat.mul_le_mul_left _ httl
    · exact Or.inl hold
  · intro q item e he
    exact Or.inl (own_of_update
      (f := fun process => { process with calls := process.calls.set i call' })
      (fun _ _ he => he) he)
  · intro q j call₁ hcall₁
    exact callOf_update (f := fun process => { process with calls := process.calls.set i call' })
      (fun _ _ => callOf_set hcall hadvances) hcall₁

/-! ## All steps -/

theorem emit_eq_some :
    s.step package (.emit p i) = some s' ↔ ∃ call call' cacheKeys,
      (s.processes p).calls[i]? = some call ∧ emitted call = some (cacheKeys, call') ∧
      s' = (s.update p fun process =>
        { process with calls := process.calls.set i call' }).broadcast cacheKeys := by
  simp only [step]
  cases hcall : (s.processes p).calls[i]? with
  | none => simp
  | some call =>
    cases hemitted : emitted call with
    | none => simp [hemitted]
    | some wcall =>
      obtain ⟨cacheKeys, call'⟩ := wcall
      simp [hemitted, eq_comm, and_assoc]

theorem effect_of_emit (h : s.step package (.emit p i) = some s') :
    Effect (rules package Gives) s.levels s'.levels := by
  obtain ⟨call, call', cacheKeys, hcall, hemitted, rfl⟩ := emit_eq_some.1 h
  have hadvances : Advances Gives s p call call' := by
    unfold emitted at hemitted
    split at hemitted
    · cases hemitted
      exact advances_of_none rfl (by simp)
    · cases hemitted
  refine effect_of_subset (Nat.le_refl _) (fun _ _ he => he) ?_ ?_
  · intro q key e he
    exact own_of_update
      (f := fun process => { process with calls := process.calls.set i call' })
      (fun _ _ he => he) he
  · intro q j call₁ hcall₁
    exact callOf_update (f := fun process => { process with calls := process.calls.set i call' })
      (fun _ _ => callOf_set hcall hadvances) hcall₁

/-- The sources answer as they do. -/
def AnswersAs (Gives : SourceHistory) (s : SharedCache) (a : Action) :
    Prop :=
  ∀ p i sources, a = .answer p i sources →
    ∀ item value, sources.raw item = .ok value → Gives s.now item value

/-- **What a step can do** is what a step of a cache in two levels may do. -/
theorem effect {a : Action} (hgives : AnswersAs Gives s a) (h : s.step package a = some s') :
    Effect (rules package Gives) s.levels s'.levels := by
  cases a with
  | wait ms =>
    obtain rfl := Option.some.inj h
    exact effect_of_subset (Nat.le_add_right _ _) (fun _ _ he => he) (fun _ _ _ he => he)
      fun _ _ _ hcall => Or.inl hcall
  | forget p key =>
    obtain rfl := Option.some.inj h
    exact effect_of_update rfl (fun _ _ he => (of_forget_eq_some he).2)
      fun _ _ hcall => Or.inl hcall
  | forgetShared key =>
    obtain rfl := Option.some.inj h
    exact effect_of_subset (Nat.le_refl _) (fun _ _ he => (of_forget_eq_some he).2)
      (fun _ _ _ he => he) fun _ _ _ hcall => Or.inl hcall
  | get | warmPairsMetadata | warmOneDexPairsMetadata | warmTokens | warmPairFees =>
    obtain rfl := Option.some.inj h
    exact effect_of_begin rfl (by simp [Call.get, Call.warmPairsMetadata,
      Call.warmOneDexPairsMetadata, Call.warmTokens, Call.warmPairFees])
  | readOwn p i =>
    refine effect_of_move h fun call call' hnext => ?_
    split at hnext
    · obtain rfl := Option.some.inj hnext
      exact advances_afterOwn
    · cases hnext
  | readShared p i =>
    refine effect_of_move h fun call call' hnext => ?_
    split at hnext
    · obtain rfl := Option.some.inj hnext
      exact advances_afterShared
    · cases hnext
  | answer p i sources =>
    exact effect_of_move h fun call call' hnext =>
      advances_afterAnswer (hgives p i sources rfl) hnext
  | writeOwn p i => exact effect_of_writeOwn h
  | writeShared p i => exact effect_of_writeShared h
  | skipCopy p i =>
    refine effect_of_move h fun call call' hnext => ?_
    split at hnext
    · rename_i item answer since
      obtain rfl := Option.some.inj hnext
      exact advances_returned (.copying item answer since) rfl
    · cases hnext
  | fail p i error => exact effect_of_move h fun call call' hnext => advances_afterFailure hnext
  | emit p i => exact effect_of_emit h
  | receive p i =>
    obtain ⟨keys, -, hs'⟩ := Option.bind_eq_some_iff.1 h
    obtain rfl := Option.some.inj hs'
    exact effect_of_update rfl (fun _ _ he => he) fun _ _ => callOf_append rfl (by simp)
  | lose p i =>
    obtain rfl := Option.some.inj h
    exact effect_of_update rfl (fun _ _ he => he) fun _ _ hcall => Or.inl hcall
  | deleteLocal p i =>
    obtain ⟨call, hcall, hs'⟩ := Option.bind_eq_some_iff.1 h
    split at hs'
    · obtain rfl := Option.some.inj hs'
      exact effect_of_update rfl (fun _ _ he => (of_forget_eq_some he).2) fun _ _ =>
        callOf_set hcall (advances_of_none rfl (by simp))
    · cases hs'

end Effect

end SharedCache

end DexAdapter
