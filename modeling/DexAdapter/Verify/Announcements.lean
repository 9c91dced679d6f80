import DexAdapter.Reference
import DexAdapter.Verify.Staleness

/-!
# What the jobs ask for, write and announce

A job asks the sources for its keys one by one, writes the answers, and tells all processes which
keys it has written. Whatever the other calls do meanwhile, and whichever of its own steps fail, it
asks for each of its keys once, in order, and announces the keys whose `set` has come to an end,
all of them and no others (`SharedCache.job_announces`). `warmTokens` asks for every token of a
pair, once (`SharedCache.warmTokens_covers`).
-/

namespace DexAdapter

open Runs

/-- What is observed of a job. -/
inductive JobEvent where
  /-- the source has answered, or thrown -/
  | asked (item : Cached)
  /-- `set` has come to its end -/
  | written (key : String)
  | announced (keys : List String)

namespace JobEvent

@[simp] def asked? : JobEvent → Option Cached
  | asked item => some item
  | _ => none

@[simp] def written? : JobEvent → Option String
  | written key => some key
  | _ => none

@[simp] def announced? : JobEvent → Option (List String)
  | announced keys => some keys
  | _ => none

end JobEvent

namespace Call

/-- What is observed of a job when it takes a step at this point. -/
def events (call : Call) : SharedCache.Action → List JobEvent
  | .answer _ _ _ =>
    match call with
    | warming { batches := (item :: _) :: _, .. } => [.asked item]
    | _ => []
  | .emit _ _ =>
    match call with
    | warming { cacheKeys, batches := [] :: _, .. } => [.announced cacheKeys]
    | _ => []
  | .writeOwn _ _ =>
    match call with
    | setting answer { own := true, shared := false } (some _) => [.written answer.item.key]
    | _ => []
  | .writeShared _ _ =>
    match call with
    | setting answer { own := false, shared := true } (some _) => [.written answer.item.key]
    | _ => []
  | _ => []

/-- The keys that a job has not asked for yet. -/
def left : Call → List Cached
  | warming job | setting _ _ (some job) => job.batches.flatten
  | _ => []

/-- The keys that a job has written since its last message. -/
def unannounced : Call → List String
  | warming job | setting _ _ (some job) => job.cacheKeys
  | _ => []

/-- The key that a job writes now. -/
def writing : Call → List String
  | setting answer _ (some _) => [answer.item.key]
  | _ => []

/-- The points at which a job can be. One that does not catch errors has one key in all. -/
inductive OfJob : Call → Prop where
  | warming {job : Job} (hend : job.batches = [] → job.cacheKeys = [])
      (hone : job.catches = true ∨ job.batches.flatten.length + job.cacheKeys.length ≤ 1) :
      OfJob (warming job)
  | setting {answer : Answer} {left : Writes} {job : Job} (hbatches : job.batches ≠ [])
      (hleft : left.own = true ∨ left.shared = true)
      (hone : job.catches = true ∨ job.batches.flatten.length + job.cacheKeys.length = 0) :
      OfJob (setting answer left (some job))
  | thrown {item : Cached} {time : Nat} {error : JsError} :
      OfJob (returned item time (.error error))

/-- The jobs when they start, with their keys. -/
inductive Starts : Call → List Cached → Prop where
  | warmPairsMetadata : Starts warmPairsMetadata [.pairsMetadata]
  | warmOneDexPairsMetadata : Starts warmOneDexPairsMetadata [.oneDexPairsMetadata]
  | warmTokens {batchUtils : BatchUtils} (hbatch : batchUtils.Partitions)
      (xExchangePairsMetadata : List PairMetadata) (oneDexPairsMetadata : List OneDexRawPair) :
      Starts (warmTokens batchUtils xExchangePairsMetadata oneDexPairsMetadata)
        ((tokensOf xExchangePairsMetadata oneDexPairsMetadata).map .token)
  | warmPairFees (pairsMetadata : List PairMetadata) :
      Starts (warmPairFees pairsMetadata)
        (pairsMetadata.map fun metadata => .pairFeePercent metadata.address)

end Call

namespace SharedCache

/-- The call that takes the step. -/
def Action.target : Action → Option (Nat × Nat)
  | readOwn p i | readShared p i | answer p i _ | writeOwn p i | writeShared p i | skipCopy p i
  | fail p i _ | emit p i | deleteLocal p i => some (p, i)
  | _ => none

/-- What is observed of call `i` of process `p`. -/
def observed (p i : Nat) (s : SharedCache) (a : Action) : List JobEvent :=
  if a.target = some (p, i) then
    match (s.processes p).calls[i]? with
    | some call => call.events a
    | none => []
  else []

/-- How far a job with these keys has come. -/
structure JobAt (items : List Cached) (log : List JobEvent) (call : Call) : Prop where
  asked : log.filterMap JobEvent.asked? ++ call.left = items
  announced : (log.filterMap JobEvent.announced?).flatten ++ call.unannounced =
    log.filterMap JobEvent.written?
  written : (log.filterMap JobEvent.written? ++ call.writing).Sublist
    ((log.filterMap JobEvent.asked?).map Cached.key)
  ofJob : call.OfJob

variable {package : CachePackage} {s s' : SharedCache} {p i : Nat}

/-! ## The steps of a job -/

namespace JobAt

variable {items : List Cached} {log : List JobEvent} {call call' : Call} {now : Nat}

/-- A job that has been answered for a key without a value. -/
theorem afterError {item : Cached} {error : JsError} {job : Job}
    (hasked : log.filterMap JobEvent.asked? ++ job.batches.flatten = items)
    (hannounced : (log.filterMap JobEvent.announced?).flatten ++ job.cacheKeys =
      log.filterMap JobEvent.written?)
    (hwritten : (log.filterMap JobEvent.written?).Sublist
      ((log.filterMap JobEvent.asked?).map Cached.key))
    (hbatches : job.batches ≠ [])
    (hone : job.catches = true ∨ job.batches.flatten.length + job.cacheKeys.length = 0) :
    JobAt items log (.afterError now item error job) := by
  unfold Call.afterError
  split
  · rename_i hcatches
    exact ⟨hasked, hannounced, by simpa [Call.writing] using hwritten,
      .warming (fun h => absurd h hbatches) (Or.inl hcatches)⟩
  · rename_i hcatches
    have hnone := hone.resolve_left hcatches
    have hleft : job.batches.flatten = [] := List.length_eq_zero_iff.1 (by omega)
    have hkeys : job.cacheKeys = [] := List.length_eq_zero_iff.1 (by omega)
    rw [hleft] at hasked
    rw [hkeys] at hannounced
    exact ⟨hasked, hannounced, by simpa [Call.writing] using hwritten, .thrown⟩

/-- The source answers. -/
theorem answered {sources : Sources} (h : JobAt items log call)
    (hanswer : call.afterAnswer now sources = some call') :
    JobAt items (log ++ call.events (.answer p i sources)) call' := by
  obtain ⟨hasked, hannounced, hwritten, hjob⟩ := h
  cases hjob with
  | setting | thrown => cases hanswer
  | @warming job hend hone =>
    obtain ⟨catches, cacheKeys, batches⟩ := job
    rcases batches with _ | ⟨_ | ⟨item, rest⟩, batches⟩
    · cases hanswer
    · cases hanswer
    · have hasked' : (log ++ [JobEvent.asked item]).filterMap JobEvent.asked? ++
          (rest :: batches).flatten = items := by
        simpa [List.filterMap_cons, Call.left] using hasked
      have hannounced' : ((log ++ [JobEvent.asked item]).filterMap JobEvent.announced?).flatten ++
          cacheKeys = (log ++ [JobEvent.asked item]).filterMap JobEvent.written? := by
        simpa [List.filterMap_cons, Call.unannounced] using hannounced
      have hwritten' : ((log ++ [JobEvent.asked item]).filterMap JobEvent.written? ++
          [item.key]).Sublist
            (((log ++ [JobEvent.asked item]).filterMap JobEvent.asked?).map Cached.key) := by
        have hwritten : (log.filterMap JobEvent.written?).Sublist
            ((log.filterMap JobEvent.asked?).map Cached.key) := by
          simpa [Call.writing] using hwritten
        simpa [List.filterMap_cons] using
          hwritten.append (List.Sublist.refl [item.key])
      have hone' : catches = true ∨ (rest :: batches).flatten.length + cacheKeys.length = 0 := by
        refine hone.imp_right fun hlength => ?_
        simp only [List.flatten_cons, List.cons_append, List.length_cons] at hlength ⊢
        omega
      simp only [Call.afterAnswer] at hanswer
      split at hanswer
      · obtain rfl := Option.some.inj hanswer
        exact ⟨hasked', hannounced', hwritten', .setting (by simp) (Or.inl rfl) hone'⟩
      · obtain rfl := Option.some.inj hanswer
        exact afterError hasked' hannounced' ((List.sublist_append_left _ _).trans hwritten')
          (by simp) hone'

/-- A step of `set`, of which something is left before. -/
theorem wrote {answer : Answer} {left left' : Writes} {job : Job} {event : List JobEvent}
    (h : JobAt items log (.setting answer left (some job)))
    (hevent : event = if left'.own || left'.shared then [] else [.written answer.item.key]) :
    JobAt items (log ++ event) (.afterWrite now answer left' (some job)) := by
  obtain ⟨hasked, hannounced, hwritten, hjob⟩ := h
  unfold Call.afterWrite
  obtain ⟨hbatches, hone⟩ : job.batches ≠ [] ∧
      (job.catches = true ∨ job.batches.flatten.length + job.cacheKeys.length = 0) := by
    cases hjob with
    | setting hbatches _ hone => exact ⟨hbatches, hone⟩
  split
  · rename_i hleft
    rw [if_pos hleft] at hevent
    rw [hevent, List.append_nil]
    exact ⟨hasked, hannounced, hwritten, .setting hbatches (by simpa using hleft) hone⟩
  · rename_i hleft
    rw [if_neg hleft] at hevent
    subst hevent
    refine ⟨?_, ?_, ?_, .warming (fun h => absurd h hbatches) (hone.imp_right fun h => ?_)⟩
    · simpa [List.filterMap_cons, Call.left] using hasked
    · have hannounced : (log.filterMap JobEvent.announced?).flatten ++ job.cacheKeys =
          log.filterMap JobEvent.written? := hannounced
      simp [List.filterMap_cons, Call.unannounced, ← hannounced]
    · simpa [List.filterMap_cons, Call.writing] using hwritten
    · simp only [List.length_append, List.length_singleton]
      omega

/-- `set` throws. -/
theorem failed {error : JsError} (h : JobAt items log call)
    (hfail : call.afterFailure now error = some call') : JobAt items log call' := by
  obtain ⟨hasked, hannounced, hwritten, hjob⟩ := h
  cases hjob with
  | warming | thrown => cases hfail
  | setting hbatches _ hone =>
    obtain rfl := Option.some.inj hfail
    exact afterError hasked hannounced ((List.sublist_append_left _ _).trans hwritten) hbatches
      hone

/-- The end of a batch. -/
theorem emitted {cacheKeys : List String} (h : JobAt items log call)
    (hemitted : emitted call = some (cacheKeys, call')) :
    JobAt items (log ++ call.events (.emit p i)) call' := by
  obtain ⟨hasked, hannounced, hwritten, hjob⟩ := h
  cases hjob with
  | setting | thrown => cases hemitted
  | @warming job hend hone =>
    obtain ⟨catches, cacheKeys, batches⟩ := job
    rcases batches with _ | ⟨_ | ⟨item, rest⟩, batches⟩
    · cases hemitted
    · cases hemitted
      refine ⟨?_, ?_, ?_, .warming (fun _ => rfl) (hone.imp_right fun h => ?_)⟩
      · simpa [Call.events, List.filterMap_cons, Call.left] using hasked
      · simpa [Call.events, List.filterMap_cons, Call.unannounced] using
          hannounced
      · simpa [Call.events, List.filterMap_cons, Call.writing] using hwritten
      · simp only [List.flatten_cons, List.nil_append, List.length_nil] at h ⊢
        omega
    · cases hemitted

theorem of_starts (h : call.Starts items) : JobAt items [] call := by
  cases h with
  | warmPairsMetadata | warmOneDexPairsMetadata =>
    exact ⟨rfl, rfl, List.nil_sublist _, .warming (fun _ => rfl) (Or.inr (le_refl _))⟩
  | warmTokens hbatch =>
    refine ⟨?_, rfl, List.nil_sublist _, .warming (fun _ => rfl) (Or.inl rfl)⟩
    show (List.map _ _).flatten = _
    rw [← List.map_flatten, hbatch.flatten _ _ (by decide)]
  | warmPairFees =>
    exact ⟨List.append_nil _, rfl, List.nil_sublist _, .warming (fun _ => rfl) (Or.inl rfl)⟩

end JobAt

/-! ## Runs -/

theorem calls_update {f : Process → Process} {q : Nat} {call : Call}
    (hf : p = q → (f (s.processes q)).calls[i]? = some call)
    (hcall : (s.processes p).calls[i]? = some call) :
    ((s.update q f).processes p).calls[i]? = some call := by
  by_cases hpq : p = q
  · subst hpq
    rw [update_self]
    exact hf rfl
  · rwa [update_of_ne hpq]

theorem calls_append {call call₁ : Call} {q : Nat} (hcall : (s.processes p).calls[i]? = some call)
    (hpq : p = q) : ((s.processes q).calls ++ [call₁])[i]? = some call := by
  subst hpq
  rw [List.getElem?_append_left (List.getElem?_eq_some_iff.1 hcall).1]
  exact hcall

theorem calls_set {call call₁ : Call} {q j : Nat} (hcall : (s.processes p).calls[i]? = some call)
    (hne : (q, j) ≠ (p, i)) (hpq : p = q) :
    ((s.processes q).calls.set j call₁)[i]? = some call := by
  subst hpq
  rw [List.getElem?_set_ne fun hij => hne (by rw [hij])]
  exact hcall

theorem calls_set_self {call call₁ : Call} {f : Process → Process}
    (hcall : (s.processes p).calls[i]? = some call)
    (hf : (f (s.processes p)).calls = (s.processes p).calls.set i call₁) :
    ((s.update p f).processes p).calls[i]? = some call₁ := by
  rw [update_self, hf, List.getElem?_set_self (List.getElem?_eq_some_iff.1 hcall).1]

/-- The other calls are where they were. -/
theorem call_of_step {a : Action} {call : Call} (h : s.step package a = some s')
    (ha : a.target ≠ some (p, i)) (hcall : (s.processes p).calls[i]? = some call) :
    (s'.processes p).calls[i]? = some call := by
  cases a with
  | wait | forgetShared =>
    obtain rfl := Option.some.inj h
    exact hcall
  | forget q key =>
    obtain rfl := Option.some.inj h
    exact calls_update (fun hpq => hpq ▸ hcall) hcall
  | lose q j =>
    obtain rfl := Option.some.inj h
    exact calls_update (fun hpq => hpq ▸ hcall) hcall
  | get | warmPairsMetadata | warmOneDexPairsMetadata | warmTokens | warmPairFees =>
    obtain rfl := Option.some.inj h
    exact calls_update (calls_append hcall) hcall
  | readOwn q j | readShared q j | answer q j | skipCopy q j | fail q j =>
    obtain ⟨call₀, call₁, -, -, rfl⟩ := move_eq_some.1 h
    exact calls_update (calls_set hcall fun heq => ha (congrArg some heq)) hcall
  | writeOwn q j =>
    obtain ⟨call₀, call₁, w, -, -, rfl⟩ := writeOwn_eq_some.1 h
    exact calls_update (calls_set hcall fun heq => ha (congrArg some heq)) hcall
  | writeShared q j =>
    obtain ⟨call₀, call₁, w, -, -, rfl⟩ := writeShared_eq_some.1 h
    exact calls_update (f := fun process => { process with calls := process.calls.set j call₁ })
      (calls_set hcall fun heq => ha (congrArg some heq)) hcall
  | emit q j =>
    obtain ⟨call₀, call₁, cacheKeys, -, -, rfl⟩ := emit_eq_some.1 h
    exact calls_update (f := fun process => { process with calls := process.calls.set j call₁ })
      (calls_set hcall fun heq => ha (congrArg some heq)) hcall
  | receive q j =>
    obtain ⟨keys, -, hs'⟩ := Option.bind_eq_some_iff.1 h
    obtain rfl := Option.some.inj hs'
    exact calls_update (calls_append hcall) hcall
  | deleteLocal q j =>
    obtain ⟨call₀, -, hs'⟩ := Option.bind_eq_some_iff.1 h
    split at hs'
    · obtain rfl := Option.some.inj hs'
      exact calls_update (calls_set hcall fun heq => ha (congrArg some heq)) hcall
    · cases hs'

/-- A step of the job itself. -/
theorem jobAt_of_target {items : List Cached} {log : List JobEvent} {a : Action} {call : Call}
    (hcall : (s.processes p).calls[i]? = some call) (hjob : JobAt items log call)
    (h : s.step package a = some s') (ha : a.target = some (p, i)) :
    ∃ call', (s'.processes p).calls[i]? = some call' ∧
      JobAt items (log ++ call.events a) call' := by
  cases a with
  | wait | forget | forgetShared | get | warmPairsMetadata | warmOneDexPairsMetadata | warmTokens
      | warmPairFees | receive | lose => cases ha
  | readOwn | readShared | skipCopy =>
    cases ha
    obtain ⟨call₀, call', hcall₀, hnext, -⟩ := move_eq_some.1 h
    obtain rfl := Option.some.inj (hcall.symm.trans hcall₀)
    cases hjob.ofJob <;> cases hnext
  | answer =>
    cases ha
    obtain ⟨call₀, call', hcall₀, hnext, rfl⟩ := move_eq_some.1 h
    obtain rfl := Option.some.inj (hcall.symm.trans hcall₀)
    exact ⟨call', calls_set_self hcall rfl, hjob.answered hnext⟩
  | fail q j error =>
    cases ha
    obtain ⟨call₀, call', hcall₀, hnext, rfl⟩ := move_eq_some.1 h
    obtain rfl := Option.some.inj (hcall.symm.trans hcall₀)
    refine ⟨call', calls_set_self hcall rfl, ?_⟩
    have hnone : log ++ call.events (.fail p i error) = log := List.append_nil _
    rw [hnone]
    exact hjob.failed hnext
  | writeOwn =>
    cases ha
    obtain ⟨call₀, call', w, hcall₀, hwrite, rfl⟩ := writeOwn_eq_some.1 h
    obtain rfl := Option.some.inj (hcall.symm.trans hcall₀)
    refine ⟨call', calls_set_self hcall rfl, ?_⟩
    cases hjob.ofJob with
    | warming | thrown => cases hwrite
    | @setting answer left job _ _ _ =>
      obtain ⟨own, shared⟩ := left
      cases own with
      | false => cases hwrite
      | true =>
        cases hwrite
        exact hjob.wrote (by cases shared <;> rfl)
  | writeShared =>
    cases ha
    obtain ⟨call₀, call', w, hcall₀, hwrite, rfl⟩ := writeShared_eq_some.1 h
    obtain rfl := Option.some.inj (hcall.symm.trans hcall₀)
    refine ⟨call', calls_set_self (f := fun process =>
      { process with calls := process.calls.set i call' }) hcall rfl, ?_⟩
    cases hjob.ofJob with
    | warming | thrown => cases hwrite
    | @setting answer left job _ _ _ =>
      obtain ⟨own, shared⟩ := left
      cases shared with
      | false => cases hwrite
      | true =>
        cases hwrite
        exact hjob.wrote (by cases own <;> rfl)
  | emit =>
    cases ha
    obtain ⟨call₀, call', cacheKeys, hcall₀, hemitted, rfl⟩ := emit_eq_some.1 h
    obtain rfl := Option.some.inj (hcall.symm.trans hcall₀)
    exact ⟨call', calls_set_self (f := fun process =>
      { process with calls := process.calls.set i call' }) hcall rfl, hjob.emitted hemitted⟩
  | deleteLocal =>
    cases ha
    obtain ⟨call₀, hcall₀, hs'⟩ := Option.bind_eq_some_iff.1 h
    obtain rfl := Option.some.inj (hcall.symm.trans hcall₀)
    cases hjob.ofJob <;> cases hs'

/-- What a step does to a job and to its log. -/
theorem jobAt_step {items : List Cached} {log : List JobEvent} {a : Action}
    (hjob : ∃ call, (s.processes p).calls[i]? = some call ∧ JobAt items log call)
    (h : s.step package a = some s') :
    ∃ call, (s'.processes p).calls[i]? = some call ∧
      JobAt items (log ++ observed p i s a) call := by
  obtain ⟨call, hcall, hjob⟩ := hjob
  by_cases ha : a.target = some (p, i)
  · rw [observed, if_pos ha, hcall]
    exact jobAt_of_target hcall hjob h ha
  · refine ⟨call, call_of_step h ha hcall, ?_⟩
    rw [observed, if_neg ha, List.append_nil]
    exact hjob

theorem jobAt_of_run {items : List Cached} {call₀ : Call} {actions : List Action}
    (hstarts : call₀.Starts items) (hcall : (s.processes p).calls[i]? = some call₀)
    (h : run (step package) s actions = some s') :
    ∃ call, (s'.processes p).calls[i]? = some call ∧
      JobAt items (logOf (step package) (observed p i) s actions) call :=
  run_log_induction (P := fun log t => ∃ call, (t.processes p).calls[i]? = some call ∧
    JobAt items log call) ⟨call₀, hcall, .of_starts hstarts⟩
    (fun _ _ _ _ hjob hstep => jobAt_step hjob hstep) h

/-- **A job over any run**: it asks for its keys in order, each once, and announces those whose
`set` has ended, except for the ones that its next message has. -/
theorem job_announces {items : List Cached} {call₀ : Call} {actions : List Action}
    (hstarts : call₀.Starts items) (hcall : (s.processes p).calls[i]? = some call₀)
    (h : run (step package) s actions = some s') :
    ∃ call, (s'.processes p).calls[i]? = some call ∧
      let log := logOf (step package) (observed p i) s actions
      log.filterMap JobEvent.asked? ++ call.left = items ∧
        (log.filterMap JobEvent.announced?).flatten ++ call.unannounced =
          log.filterMap JobEvent.written? ∧
        (log.filterMap JobEvent.written?).Sublist
          ((log.filterMap JobEvent.asked?).map Cached.key) := by
  obtain ⟨call, hcall', hat⟩ := jobAt_of_run hstarts hcall h
  exact ⟨call, hcall', hat.asked, hat.announced,
    (List.sublist_append_left _ _).trans hat.written⟩

/-! ## The tokens of the pairs -/

/-- A pair of one of the lists has the token. -/
def HasToken (xExchangePairsMetadata : List PairMetadata) (oneDexPairsMetadata : List OneDexRawPair)
    (tokenId : String) : Prop :=
  (∃ pair ∈ xExchangePairsMetadata, tokenId = pair.firstTokenId ∨ tokenId = pair.secondTokenId) ∨
    ∃ pair ∈ oneDexPairsMetadata, tokenId = pair.first_token_id ∨ tokenId = pair.second_token_id

theorem mem_tokensOf {xExchangePairsMetadata : List PairMetadata}
    {oneDexPairsMetadata : List OneDexRawPair} {tokenId : String} :
    tokenId ∈ Call.tokensOf xExchangePairsMetadata oneDexPairsMetadata ↔
      HasToken xExchangePairsMetadata oneDexPairsMetadata tokenId := by
  simp only [Call.tokensOf, HasToken, List.mem_reverse, List.mem_dedup, List.mem_append,
    List.mem_flatMap, List.mem_cons, List.not_mem_nil, or_false]

theorem nodup_tokensOf (xExchangePairsMetadata : List PairMetadata)
    (oneDexPairsMetadata : List OneDexRawPair) :
    (Call.tokensOf xExchangePairsMetadata oneDexPairsMetadata).Nodup :=
  List.nodup_reverse.2 (List.nodup_dedup _)

/-- **`warmTokens` at its end** has asked for the tokens of all pairs, each once, and has announced
what it has written. -/
theorem warmTokens_covers {batchUtils : BatchUtils} (hbatch : batchUtils.Partitions)
    {xExchangePairsMetadata : List PairMetadata} {oneDexPairsMetadata : List OneDexRawPair}
    {actions : List Action} {job : Job}
    (hcall : (s.processes p).calls[i]? =
      some (.warmTokens batchUtils xExchangePairsMetadata oneDexPairsMetadata))
    (h : run (step package) s actions = some s')
    (hjob : (s'.processes p).calls[i]? = some (.warming job)) (hend : job.batches = []) :
    let log := logOf (step package) (observed p i) s actions
    (log.filterMap JobEvent.asked?).Nodup ∧
      (∀ item, item ∈ log.filterMap JobEvent.asked? ↔ ∃ tokenId, item = .token tokenId ∧
        HasToken xExchangePairsMetadata oneDexPairsMetadata tokenId) ∧
      (log.filterMap JobEvent.announced?).flatten = log.filterMap JobEvent.written? ∧
      (log.filterMap JobEvent.written?).Sublist
        ((log.filterMap JobEvent.asked?).map Cached.key) := by
  intro log
  obtain ⟨call, hcall', hat⟩ := jobAt_of_run (.warmTokens hbatch _ _) hcall h
  obtain rfl := Option.some.inj (hjob.symm.trans hcall')
  obtain ⟨hasked, hannounced, hwritten, hofJob⟩ := hat
  have hkeys : job.cacheKeys = [] := by
    cases hofJob with
    | warming hempty _ => exact hempty hend
  have hasked : log.filterMap JobEvent.asked? =
      (Call.tokensOf xExchangePairsMetadata oneDexPairsMetadata).map Cached.token := by
    simpa [Call.left, hend] using hasked
  refine ⟨?_, fun item => ?_, ?_, ?_⟩
  · rw [hasked]
    exact (nodup_tokensOf _ _).map fun _ _ heq => Cached.token.inj heq
  · rw [hasked, List.mem_map]
    constructor
    · rintro ⟨tokenId, hmem, rfl⟩
      exact ⟨tokenId, rfl, mem_tokensOf.1 hmem⟩
    · rintro ⟨tokenId, rfl, htoken⟩
      exact ⟨tokenId, mem_tokensOf.2 htoken, rfl⟩
  · simpa [Call.unannounced, hkeys] using hannounced
  · simpa [Call.writing] using hwritten

/-! ## A job that has no token -/

namespace Reference

/-- The tokens of a pair are not found, and the job is the only call. -/
def warming : List Action :=
  [.answer 0 0 (sources [] []), .writeShared 0 0, .writeOwn 0 0, .answer 0 0 (sources [] []),
    .writeOwn 0 0, .writeShared 0 0, .emit 0 0]

def started : SharedCache :=
  initial.begin 0 (.warmTokens DexAdapter.Reference.batchUtils [metadata] [])

def warmed : SharedCache := (run (step cachePackage) started warming).getD started

theorem started_calls : (started.processes 0).calls[0]? =
    some (.warmTokens DexAdapter.Reference.batchUtils [metadata] []) := rfl

theorem job_announces_warming : ∃ call, (warmed.processes 0).calls[0]? = some call ∧
    let log := logOf (step cachePackage) (observed 0 0) started warming
    log.filterMap JobEvent.asked? ++ call.left =
        [.token "MEX-455c57", .token "WEGLD-bd4d79"] ∧
      (log.filterMap JobEvent.announced?).flatten ++ call.unannounced =
        log.filterMap JobEvent.written? ∧
      (log.filterMap JobEvent.written?).Sublist
        ((log.filterMap JobEvent.asked?).map Cached.key) := by
  have hrun : run (step cachePackage) started warming = some warmed := rfl
  exact job_announces (.warmTokens DexAdapter.Reference.batchUtils_partitions [metadata] [])
    started_calls hrun

theorem warmTokens_covers_warming :
    let log := logOf (step cachePackage) (observed 0 0) started warming
    (log.filterMap JobEvent.asked?).Nodup ∧
      (∀ item, item ∈ log.filterMap JobEvent.asked? ↔
        ∃ tokenId, item = .token tokenId ∧ HasToken [metadata] [] tokenId) ∧
      (log.filterMap JobEvent.announced?).flatten = log.filterMap JobEvent.written? ∧
      (log.filterMap JobEvent.written?).Sublist
        ((log.filterMap JobEvent.asked?).map Cached.key) := by
  have hrun : run (step cachePackage) started warming = some warmed := rfl
  have hjob : (warmed.processes 0).calls[0]? =
    some (.warming { catches := true, cacheKeys := [], batches := [] }) := rfl
  exact warmTokens_covers DexAdapter.Reference.batchUtils_partitions started_calls hrun hjob rfl

end Reference

end SharedCache

end DexAdapter
