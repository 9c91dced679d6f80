import DexAdapter.Verify.SharedCacheSteps

/-!
# How old what a call returns is

* What a call returns, its own source has given, and not earlier than the two times to live before,
  and the two times for which calls held the answer on its way (`returned_read`).
* Once a process has deleted a key after a job wrote it, what it returns for the key is not older
  than what the job wrote. What can still be older are the answers that its calls, or those of other
  processes, hold at these moments (`returned_newer`).
-/

namespace DexAdapter

open Runs TwoLevelCache

namespace SharedCache

variable {package : CachePackage} {Gives : SourceHistory} {s : SharedCache}
  {actions : List Action}

/-! ## Runs -/

/-- No call holds an answer for longer than `delay`. -/
def Prompt (delay : Nat) (s : SharedCache) : Prop := TwoLevelCache.Prompt delay s.levels

theorem initial_empty : initial.levels.Empty where
  shared _ := rfl
  own _ _ := rfl
  holds := by
    rintro p h ⟨call, hcall, -⟩
    cases hcall
  replied p r hr := by cases hr

/-- What every step of a cache in two levels keeps, the steps of a run keep. -/
theorem levels_induction {I : TwoLevelCache.State Nat Cached Answer → Prop}
    {P : SharedCache → Action → Prop} {s t : SharedCache}
    (hsteps : EachStep (step package) (fun s a => P s a ∧ AnswersAs Gives s a) s actions)
    (hinit : I s.levels)
    (hstep : ∀ (t : SharedCache) (a : Action) (u : SharedCache), P t a → I t.levels →
      Effect (rules package Gives) t.levels u.levels → I u.levels)
    (h : run (step package) s actions = some t) : I t.levels :=
  hsteps.induction (I := fun s => I s.levels) hinit
    (fun t a u hinv hP hu => hstep t a u hP.1 hinv (effect hP.2 hu)) h

/-- For how long what a call returns may have been out of date. -/
def staleness (package : CachePackage) (delay : Nat) (item : Cached) : Nat :=
  TokenCache.milliseconds item.info.ttl + package.ownMilliseconds item.info.ttl + 2 * delay

section Returned

variable {delay p i time : Nat} {item : Cached} {answer : Answer}
  (hsteps : EachStep (step package) (fun s a => s.Prompt delay ∧ AnswersAs Gives s a)
    initial actions)
  (h : run (step package) initial actions = some s)
  (hreturned : (s.processes p).calls[i]? = some (.returned item time (.ok answer)))

include hsteps h hreturned

theorem replied_of_run : (answer.item = item ∧ Gives answer.given answer.item answer.value) ∧
    answer.given ≤ time ∧ time ≤ answer.given + staleness package delay item := by
  have hprovenance : Provenance (rules package Gives) s.levels :=
    levels_induction hsteps (.of_empty initial_empty) (fun _ _ _ _ => Provenance.step) h
  have hpast : Past (rules package Gives) s.levels :=
    levels_induction hsteps (.of_empty initial_empty) (fun _ _ _ _ => Past.step) h
  have haged : AgedByTtl (rules package Gives) delay p item s.levels :=
    levels_induction hsteps (.of_empty initial_empty)
      (fun _ _ _ hprompt haged => haged.step hprompt) h
  let reply : Reply Cached Answer := { call := i, key := item, value := answer, time := time }
  have hreply : s.levels.replied p reply := hreturned
  exact ⟨hprovenance.replied p reply hreply, hpast.replied p reply hreply,
    haged.aged.replied reply hreply rfl⟩

/-- **What a call returns** is what its own source gave at some time not long before. -/
theorem returned_read :
    ∃ value, answer = { item := item, value := value, given := answer.given } ∧
      Gives answer.given item value ∧ answer.given ≤ time ∧
      time ≤ answer.given + staleness package delay item := by
  obtain ⟨⟨hitem, hgives⟩, hpast, hage⟩ := replied_of_run hsteps h hreturned
  obtain ⟨item', value, given⟩ := answer
  obtain rfl : item' = item := hitem
  exact ⟨value, rfl, hgives, hpast, hage⟩

end Returned

/-! ## After a key is deleted -/

/-- Everything the sources answer. -/
def anything : SourceHistory := fun _ _ _ => True

theorem effect_anything {s s' : SharedCache} {a : Action} (h : s.step package a = some s') :
    Effect (rules package anything) s.levels s'.levels :=
  effect (fun _ _ _ _ _ _ _ => trivial) h

/-- What the calls of all processes hold of the sources was given at `given` or later. -/
def NoOlderSetting (s : SharedCache) (item : Cached) (given : Nat) : Prop :=
  ∀ p answer left job, .setting answer left job ∈ (s.processes p).calls → answer.item = item →
    given ≤ answer.given

/-- So was what the calls of the process are about to copy from the shared cache. -/
def NoOlderCopying (s : SharedCache) (p : Nat) (item : Cached) (given : Nat) : Prop :=
  ∀ answer since, .copying item answer since ∈ (s.processes p).calls → given ≤ answer.given

theorem held_eq_some {call : Call} {h : Held Cached Answer} (hheld : call.held = some h) :
    (∃ left job, call = .setting h.value left job ∧ h.value.item = h.key ∧ h.made = true) ∨
      call = .copying h.key h.value h.since ∧ h.made = false := by
  cases call with
  | setting answer left job =>
    obtain rfl := Option.some.inj hheld
    exact Or.inl ⟨left, job, rfl, rfl, rfl⟩
  | copying item answer since =>
    obtain rfl := Option.some.inj hheld
    exact Or.inr ⟨rfl, rfl⟩
  | reading | missed | asking | returned | warming | deleting => cases hheld

variable {s₁ s₂ : SharedCache} {p i : Nat} {answer : Answer} {left : Writes} {job : Option Job}

/-- A write to the shared cache, when no call holds an older answer. -/
theorem sharedNewer_of_writeShared (hpast : Past (rules package anything) s₁.levels)
    (hcall : (s₁.processes p).calls[i]? = some (.setting answer left job))
    (hsetting : s₁.NoOlderSetting answer.item answer.given)
    (h : s₁.step package (.writeShared p i) = some s₂) :
    SharedNewer (rules package anything) answer.item answer.given s₂.levels := by
  have heffect := effect_anything h
  have hgiven : answer.given ≤ s₁.now :=
    hpast.holds p { key := answer.item, value := answer, made := true, since := answer.given }
      ⟨_, List.mem_of_getElem? hcall, rfl⟩
  refine ⟨hgiven.trans heffect.now, ?_, ?_⟩
  · obtain ⟨call, call', w, hcall', hwrite, rfl⟩ := writeShared_eq_some.1 h
    obtain rfl := Option.some.inj (hcall.symm.trans hcall')
    obtain ⟨own, shared⟩ := left
    cases shared with
    | false => cases hwrite
    | true =>
      cases hwrite
      intro e he
      simp only [levels, TtlCache.set_self, Option.some.injEq] at he
      rw [← he]
      exact le_refl _
  · intro q held hheld hmade hkey
    rcases heffect.holds q held hheld with ⟨call₁, hmem, hheld₁⟩ | ⟨-, hnow, -⟩ | ⟨-, hread, -⟩
    · rcases held_eq_some hheld₁ with ⟨left₁, job₁, rfl, hitem, -⟩ | ⟨-, hcopied⟩
      · exact hsetting q held.value left₁ job₁ hmem (hitem.trans hkey)
      · rw [hmade] at hcopied
        cases hcopied
    · rw [hnow]
      exact hgiven
    · rw [hmade] at hread
      cases hread

/-- A deletion in a process whose calls do not hold an older copy. -/
theorem newer_of_deleteLocal {item : Cached} {given : Nat} {keys : List String}
    (hnewer : SharedNewer (rules package anything) item given s₁.levels)
    (hcall : (s₁.processes p).calls[i]? = some (.deleting (item.key :: keys)))
    (hcopying : s₁.NoOlderCopying p item given)
    (h : s₁.step package (.deleteLocal p i) = some s₂) :
    Newer (rules package anything) p item given s₂.levels := by
  have heffect := effect_anything h
  refine ⟨hnewer.step heffect, ?_, ?_⟩
  · obtain ⟨call, hcall', hs₂⟩ := Option.bind_eq_some_iff.1 h
    obtain rfl := Option.some.inj (hcall.symm.trans hcall')
    obtain rfl := Option.some.inj hs₂
    intro e he
    simp only [levels, update_self] at he
    exact absurd rfl (TtlCache.of_forget_eq_some he).1
  · intro held hheld hkey
    rcases heffect.holds p held hheld with ⟨call₁, hmem, hheld₁⟩ | ⟨-, hnow, -⟩ |
      ⟨-, -, e, he, -, hvalue⟩
    · rcases held_eq_some hheld₁ with ⟨left₁, job₁, rfl, hitem, hmade⟩ | ⟨rfl, -⟩
      · exact hnewer.made p held ⟨_, hmem, hheld₁⟩ hmade hkey
      · rw [hkey] at hmem
        exact hcopying held.value held.since hmem
    · rw [hnow]
      exact hnewer.now
    · subst hkey
      rw [hvalue]
      exact hnewer.shared e he

theorem sharedNewer_of_run {item : Cached} {given : Nat}
    (hnewer : SharedNewer (rules package anything) item given s₁.levels)
    (h : run (step package) s₁ actions = some s₂) :
    SharedNewer (rules package anything) item given s₂.levels :=
  run_induction (P := fun _ s => SharedNewer (rules package anything) item given s.levels) hnewer
    (fun _ _ _ _ _ hnewer hstep => hnewer.step (effect_anything hstep)) h

/-- A process that has nothing older returns nothing older. -/
theorem given_le_of_run {item : Cached} {given : Nat}
    (hnewer : Newer (rules package anything) p item given s₁.levels)
    (h : run (step package) s₁ actions = some s₂) {r : Reply Cached Answer}
    (hr : s₂.levels.replied p r) (hitem : r.key = item) :
    s₁.levels.replied p r ∨ given ≤ r.value.given := by
  have hrun : Newer (rules package anything) p item given s₂.levels ∧
      ∀ r, s₂.levels.replied p r → r.key = item →
        s₁.levels.replied p r ∨ given ≤ r.value.given := by
    refine run_induction (P := fun _ s => Newer (rules package anything) p item given s.levels ∧
      ∀ r, s.levels.replied p r → r.key = item →
        s₁.levels.replied p r ∨ given ≤ r.value.given) ⟨hnewer, fun r hr _ => Or.inl hr⟩ ?_ h
    rintro before t a u - ⟨hnewer, hreplied⟩ hstep
    have heffect := effect_anything hstep
    refine ⟨hnewer.step heffect, fun r hr hitem => ?_⟩
    rcases hnewer.of_replied heffect hr hitem with hold | hgiven
    · exact hreplied r hold hitem
    · exact Or.inr hgiven
  exact hrun.2 r hr hitem

/-- **After a write is announced**: a process that deletes a key which has been written returns
nothing for it that is older than what was written, ever again, unless some call held an older
answer of the source at the write, or a call of the process an older copy at the deletion. -/
theorem returned_newer {before between after : List Action} {s₃ s₄ s₅ : SharedCache}
    {q j k : Nat} {keys : List String} {time : Nat} {answer' : Answer}
    (hbefore : run (step package) initial before = some s₁)
    (hcall : (s₁.processes q).calls[j]? = some (.setting answer left job))
    (hsetting : s₁.NoOlderSetting answer.item answer.given)
    (hwrite : s₁.step package (.writeShared q j) = some s₂)
    (hbetween : run (step package) s₂ between = some s₃)
    (hmessage : (s₃.processes p).calls[k]? = some (.deleting (answer.item.key :: keys)))
    (hcopying : s₃.NoOlderCopying p answer.item answer.given)
    (hdelete : s₃.step package (.deleteLocal p k) = some s₄)
    (hafter : run (step package) s₄ after = some s₅)
    (hreturned : (s₅.processes p).calls[i]? = some (.returned answer.item time (.ok answer'))) :
    (s₄.processes p).calls[i]? = some (.returned answer.item time (.ok answer')) ∨
      answer.given ≤ answer'.given := by
  have hpast : Past (rules package anything) s₁.levels :=
    run_induction (P := fun _ s => Past (rules package anything) s.levels)
      (.of_empty initial_empty)
      (fun _ _ _ _ _ hpast hstep => hpast.step (effect_anything hstep)) hbefore
  have hshared :=
    sharedNewer_of_run (sharedNewer_of_writeShared hpast hcall hsetting hwrite) hbetween
  have hnewer := newer_of_deleteLocal hshared hmessage hcopying hdelete
  let reply : Reply Cached Answer :=
    { call := i, key := answer.item, value := answer', time := time }
  exact given_le_of_run hnewer hafter (r := reply) hreturned rfl

/-! ## Given runs -/

/-- The process that takes the step. -/
def Action.process : Action → Option Nat
  | .wait _ | .forgetShared _ => none
  | .forget p _ | .get p _ | .warmPairsMetadata p | .warmOneDexPairsMetadata p
  | .warmTokens p _ _ _ | .warmPairFees p _ | .readOwn p _ | .readShared p _ | .answer p _ _
  | .writeOwn p _ | .writeShared p _ | .skipCopy p _ | .fail p _ _ | .emit p _ | .receive p _
  | .lose p _ | .deleteLocal p _ => some p

/-- The calls of the other processes are where they were. -/
theorem calls_of_step {s s' : SharedCache} {a : Action} {q : Nat}
    (h : s.step package a = some s') (hq : a.process ≠ some q) :
    (s'.processes q).calls = (s.processes q).calls := by
  have hother : ∀ {p : Nat} {t : SharedCache} {f : Process → Process}, some p ≠ some q →
      ((t.update p f).processes q).calls = (t.processes q).calls := fun hp =>
    congrArg Process.calls (update_of_ne fun hqp => hp (congrArg some hqp.symm))
  cases a with
  | wait | forgetShared =>
    obtain rfl := Option.some.inj h
    rfl
  | forget | lose | get | warmPairsMetadata | warmOneDexPairsMetadata | warmTokens
      | warmPairFees =>
    obtain rfl := Option.some.inj h
    exact hother hq
  | readOwn | readShared | answer | skipCopy | fail =>
    obtain ⟨_, _, -, -, rfl⟩ := move_eq_some.1 h
    exact hother hq
  | writeOwn =>
    obtain ⟨_, _, _, -, -, rfl⟩ := writeOwn_eq_some.1 h
    exact hother hq
  | writeShared =>
    obtain ⟨_, call', _, -, -, rfl⟩ := writeShared_eq_some.1 h
    exact hother (f := fun process => { process with calls := process.calls.set _ call' }) hq
  | emit =>
    obtain ⟨_, call', _, -, -, rfl⟩ := emit_eq_some.1 h
    exact hother (f := fun process => { process with calls := process.calls.set _ call' }) hq
  | receive =>
    obtain ⟨_, -, hs'⟩ := Option.bind_eq_some_iff.1 h
    obtain rfl := Option.some.inj hs'
    exact hother hq
  | deleteLocal =>
    obtain ⟨_, -, hs'⟩ := Option.bind_eq_some_iff.1 h
    split at hs'
    · obtain rfl := Option.some.inj hs'
      exact hother hq
    · cases hs'

/-- A process that takes no step has no calls. -/
theorem quiet_of_run {p : Nat} (h : run (step package) initial actions = some s)
    (hquiet : ∀ a ∈ actions, a.process ≠ some p) : (s.processes p).calls = [] := by
  have hrun := run_induction (P := fun actions t => (∀ a ∈ actions, a.process ≠ some p) →
      (t.processes p).calls = []) (fun _ => rfl) ?_ h
  · exact hrun hquiet
  · intro before t a u _ ih hu hne
    rw [calls_of_step hu (hne a (by simp))]
    exact ih fun b hb => hne b (List.mem_append_left _ hb)

/-- Where the run leads. -/
def stateAfter (package : CachePackage) (actions : List Action) : SharedCache :=
  (run (step package) initial actions).getD initial

theorem eq_stateAfter (h : run (step package) initial actions = some s) :
    s = stateAfter package actions := by
  rw [stateAfter, h, Option.getD_some]

/-- Since when the first `n` processes hold what they hold. -/
def heldSince (n : Nat) (s : SharedCache) : List Nat :=
  (List.range n).flatMap fun p =>
    (s.processes p).calls.filterMap fun call => call.held.map Held.since

/-- Whether a run of the first `n` processes is prompt is a matter of its states. -/
theorem prompt_of_heldSince {n delay : Nat}
    (hprocess : ∀ a ∈ actions, ∀ p ∈ a.process, p < n)
    (hheld : ∀ k < actions.length, ∀ since ∈ heldSince n (stateAfter package (actions.take k)),
      (stateAfter package (actions.take k)).now ≤ since + delay) :
    EachStep (step package) (fun s _ => s.Prompt delay) initial actions := by
  rintro before a after t rfl ht p held ⟨call, hmem, hcall⟩
  have hk := hheld before.length (by simp)
  rw [List.take_left', ← eq_stateAfter ht] at hk
  · refine hk held.since (List.mem_flatMap.2 ⟨p, ?_, ?_⟩)
    · rw [List.mem_range]
      by_contra hp
      have hquiet : (t.processes p).calls = [] :=
        quiet_of_run ht fun a ha hsome => hp (hprocess a (List.mem_append_left _ ha) p hsome)
      rw [hquiet] at hmem
      cases hmem
    · exact List.mem_filterMap.2 ⟨call, hmem, by rw [hcall, Option.map_some]⟩
  · rfl

/-- The sources answer in a run as they do in the steps that it has. -/
theorem answersAs_of_mem
    (hanswers : ∀ p i sources, .answer p i sources ∈ actions →
      ∀ time item value, sources.raw item = .ok value → Gives time item value) :
    EachStep (step package) (AnswersAs Gives) initial actions := by
  rintro before a after t hcut - p i sources rfl item value hraw
  refine hanswers p i sources ?_ t.now item value hraw
  rw [hcut]
  exact List.mem_append_right _ List.mem_cons_self

namespace Reference

/-- The package keeps a value in a process as long as in the shared cache. -/
def cachePackage : CachePackage where
  ownMilliseconds := TokenCache.milliseconds
  mono _ _ h := Nat.mul_le_mul_left _ h

def metadata : PairMetadata where
  address := "erd1pair"
  firstTokenId := "MEX-455c57"
  secondTokenId := "WEGLD-bd4d79"
  isInverted := true

/-- The contracts answer with these pairs, and nothing else is answered. -/
def sources (pairsMetadata : List PairMetadata) (oneDexPairsMetadata : List OneDexRawPair) :
    Sources where
  tokens _ := .notFound
  accounts _ := .error ⟨"no answer"⟩
  pairsMetadata := .ok pairsMetadata
  pairFees _ := .error ⟨"No response"⟩
  oneDexPairsMetadata := .ok oneDexPairsMetadata

def gives (pairsMetadata : List PairMetadata) : SourceHistory
  | _, .pairsMetadata, value => value = pairsMetadata
  | _, _, _ => True

/-- What the router answers at 5. -/
def announcedAnswer : Answer where
  item := .pairsMetadata
  value := [metadata]
  given := 5

/-- A request of process 1 is answered by the router at 5. At 8 one of process 2 reads the answer in
the shared cache, which process 2 copies at 10 and reads in its own cache at 14. -/
def filling : List Action :=
  [.wait 5, .get 1 .pairsMetadata, .readOwn 1 0, .readShared 1 0,
    .answer 1 0 (sources [metadata] []), .writeShared 1 0, .writeOwn 1 0, .wait 3,
    .get 2 .pairsMetadata, .readOwn 2 0, .readShared 2 0, .wait 2, .writeOwn 2 0, .wait 4,
    .get 2 .pairsMetadata, .readOwn 2 1]

theorem answersAs_filling :
    EachStep (step cachePackage) (fun s a => s.Prompt 2 ∧ AnswersAs (gives [metadata]) s a) initial
      filling := by
  intro before a after t hcut ht
  have hprompt : EachStep (step cachePackage) (fun s _ => s.Prompt 2) initial filling :=
    prompt_of_heldSince (n := 3) (by decide) (by decide +kernel)
  refine ⟨hprompt before a after t hcut ht, answersAs_of_mem ?_ before a after t hcut ht⟩
  intro p i sources' hmem time item value hraw
  simp only [filling, List.mem_cons, List.not_mem_nil, or_false, reduceCtorEq, false_or,
    Action.answer.injEq] at hmem
  obtain ⟨-, -, rfl⟩ := hmem
  cases item with
  | pairsMetadata => exact (Except.ok.inj hraw).symm
  | token | pairFeePercent | contractDeployInfo | oneDexPairsMetadata => trivial

theorem returned_read_filling :
    ((stateAfter cachePackage filling).processes 2).calls[1]? =
      some (.returned .pairsMetadata 14 (.ok announcedAnswer)) ∧
    ∃ value, announcedAnswer = { item := .pairsMetadata, value := value, given := 5 } ∧
      gives [metadata] 5 .pairsMetadata value ∧ 5 ≤ 14 ∧
      14 ≤ 5 + staleness cachePackage 2 .pairsMetadata := by
  have hreturned : ((stateAfter cachePackage filling).processes 2).calls[1]? =
    some (.returned .pairsMetadata 14 (.ok announcedAnswer)) := rfl
  have hrun : run (step cachePackage) initial filling = some (stateAfter cachePackage filling) :=
    rfl
  exact ⟨hreturned, returned_read answersAs_filling hrun hreturned⟩

/-- A job is answered at 5. -/
def announced : List Action :=
  [.wait 5, .warmPairsMetadata 0, .answer 0 0 (sources [metadata] [])]

def written : List Action := announced ++ [.writeShared 0 0]

/-- Process 1 is told, after the job has left the batch. -/
def told : List Action := written ++ [.writeOwn 0 0, .emit 0 0, .receive 1 0]

def deleted : List Action := told ++ [.deleteLocal 1 0]

/-- Then it asks for the key. -/
def asked : List Action :=
  deleted ++ [.get 1 .pairsMetadata, .readOwn 1 1, .readShared 1 1, .skipCopy 1 1]

theorem noOlderSetting_announced :
    (stateAfter cachePackage announced).NoOlderSetting .pairsMetadata 5 := by
  rintro (_ | p) answer left job hmem -
  · obtain ⟨rfl, -⟩ := Call.setting.inj (List.mem_singleton.1 hmem)
    exact le_refl _
  · cases hmem

theorem noOlderCopying_told : (stateAfter cachePackage told).NoOlderCopying 1 .pairsMetadata 5 := by
  intro answer since hmem
  cases List.mem_singleton.1 hmem

theorem returned_newer_announced :
    ((stateAfter cachePackage asked).processes 1).calls[1]? =
      some (.returned .pairsMetadata 5 (.ok announcedAnswer)) ∧ 5 ≤ announcedAnswer.given := by
  have hbefore : run (step cachePackage) initial announced =
    some (stateAfter cachePackage announced) := rfl
  have hcall : ((stateAfter cachePackage announced).processes 0).calls[0]? =
    some (.setting announcedAnswer { own := true, shared := true }
      (some { catches := false, cacheKeys := [], batches := [[]] })) := rfl
  have hwrite : step cachePackage (stateAfter cachePackage announced) (.writeShared 0 0) =
    some (stateAfter cachePackage written) := rfl
  have hbetween : run (step cachePackage) (stateAfter cachePackage written)
    [.writeOwn 0 0, .emit 0 0, .receive 1 0] = some (stateAfter cachePackage told) := rfl
  have hmessage : ((stateAfter cachePackage told).processes 1).calls[0]? =
    some (.deleting [announcedAnswer.item.key]) := rfl
  have hdelete : step cachePackage (stateAfter cachePackage told) (.deleteLocal 1 0) =
    some (stateAfter cachePackage deleted) := rfl
  have hafter : run (step cachePackage) (stateAfter cachePackage deleted)
    [.get 1 .pairsMetadata, .readOwn 1 1, .readShared 1 1, .skipCopy 1 1] =
    some (stateAfter cachePackage asked) := rfl
  have hreturned : ((stateAfter cachePackage asked).processes 1).calls[1]? =
    some (.returned announcedAnswer.item 5 (.ok announcedAnswer)) := rfl
  refine ⟨hreturned, ?_⟩
  rcases returned_newer hbefore hcall noOlderSetting_announced hwrite hbetween hmessage
    noOlderCopying_told hdelete hafter hreturned with hold | hgiven
  · cases hold
  · exact hgiven

end Reference

end SharedCache

end DexAdapter
