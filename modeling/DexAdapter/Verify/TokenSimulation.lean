import DexAdapter.Verify.TokenSteps
import DexAdapter.Verify.SharedCacheSteps

/-!
# Tokens in the cache of the processes

`TokenCache` has the calls for tokens alone, over a cache in one level. `SharedCache` can follow it:
one process makes the same calls, its own cache loses what is written to it, and the shared cache
has the same entries (`simulates_of_run`). So whatever can happen to tokens in the one model can
happen in the other.
-/

namespace List.Forall₂

variable {α β : Type} {R : α → β → Prop} {xs : List α} {ys : List β}

theorem exists_getElem? (h : Forall₂ R xs ys) {i : Nat} {x : α} (hx : xs[i]? = some x) :
    ∃ y, ys[i]? = some y ∧ R x y := by
  obtain ⟨hlength, hrel⟩ := forall₂_iff_get.1 h
  obtain ⟨hi, rfl⟩ := getElem?_eq_some_iff.1 hx
  exact ⟨ys[i], getElem?_eq_getElem (hlength ▸ hi), hrel i hi (hlength ▸ hi)⟩

theorem set (h : Forall₂ R xs ys) {x : α} {y : β} (hxy : R x y) (i : Nat) :
    Forall₂ R (xs.set i x) (ys.set i y) := by
  induction h generalizing i with
  | nil => exact .nil
  | cons hhead htail ih =>
    cases i with
    | zero => exact .cons hxy htail
    | succ i => exact .cons hhead (ih i)

end List.Forall₂

namespace DexAdapter

open Runs TtlCache

namespace TokenCache

/-! ## The same calls and entries -/

/-- The same answer; the two models note in their own ways when it was given. -/
inductive SameAnswer (identifier : String) : TokenAnswer → Answer → Prop where
  | of_token (token : Option Token) (given given' : Nat) :
      SameAnswer identifier { token := token, given := given }
        { item := .token identifier, value := token, given := given' }

inductive SameEntry (key : String) : Entry TokenAnswer → Entry Answer → Prop where
  | of_answer {identifier : String} {tokenRaw : TokenAnswer} {answer : Answer}
      (hkey : (CacheInfo.Token identifier).key = key) (h : SameAnswer identifier tokenRaw answer)
      (writtenAt ttl : Nat) :
      SameEntry key { value := tokenRaw, writtenAt := writtenAt, ttl := ttl }
        { value := answer, writtenAt := writtenAt, ttl := ttl }

/-- A call at the same point. A write to the cache of the process is behind it. -/
inductive SameCall : TokenCall → Call → Prop where
  | reading (identifier : String) : SameCall (.reading identifier) (.reading (.token identifier))
  | asking (identifier : String) : SameCall (.asking identifier) (.asking (.token identifier))
  | writing {identifier : String} {tokenRaw : TokenAnswer} {answer : Answer}
      (h : SameAnswer identifier tokenRaw answer) :
      SameCall (.writing identifier tokenRaw)
        (.setting answer { own := false, shared := true } none)
  | returned {identifier : String} {tokenRaw : TokenAnswer} {answer : Answer}
      (h : SameAnswer identifier tokenRaw answer) (time : Nat) :
      SameCall (.returned (.ok tokenRaw.token)) (.returned (.token identifier) time (.ok answer))
  | thrown (identifier : String) (time : Nat) (error : JsError) :
      SameCall (.returned (.error error)) (.returned (.token identifier) time (.error error))
  | warming {tokens : List String} {job : Job} (hcatches : job.catches = true)
      (hbatches : job.batches.flatten = tokens.map .token) :
      SameCall (.warming tokens) (.warming job)
  | warmWriting {tokenId : String} {token : TokenAnswer} {answer : Answer} {rest : List String}
      {job : Job} (h : SameAnswer tokenId token answer) (hcatches : job.catches = true)
      (hbatches : job.batches.flatten = rest.map .token) :
      SameCall (.warmWriting tokenId token rest)
        (.setting answer { own := false, shared := true } (some job))

/-- Process `p` makes the calls, keeps nothing, and the shared cache has the entries. -/
structure Simulates (p : Nat) (s : TokenCache) (t : SharedCache) : Prop where
  now : t.now = s.now
  entries : ∀ key, Option.Rel (SameEntry key) (s.cache key) (t.shared key)
  own : ∀ key, (t.processes p).cache key = none
  calls : List.Forall₂ SameCall s.calls (t.processes p).calls

section Simulates

variable {package : CachePackage} {p i : Nat} {s : TokenCache} {t : SharedCache}

/-- A call moves on in both. -/
theorem Simulates.set (h : Simulates p s t) {call : TokenCall} {call' : Call}
    (hcall : SameCall call call') {t' : SharedCache} (hnow : t'.now = t.now)
    (hshared : t'.shared = t.shared) (hown : ∀ key, (t'.processes p).cache key = none)
    (hcalls : (t'.processes p).calls = (t.processes p).calls.set i call') :
    Simulates p { s with calls := s.calls.set i call } t' where
  now := hnow.trans h.now
  entries := by
    rw [hshared]
    exact h.entries
  own := hown
  calls := by
    rw [hcalls]
    exact h.calls.set hcall i

/-- A call of the process moves on, and nothing else happens. -/
theorem Simulates.move (h : Simulates p s t) {call : TokenCall} {call' : Call}
    (hcall : SameCall call call') :
    Simulates p { s with calls := s.calls.set i call }
      (t.update p fun process => { process with calls := process.calls.set i call' }) :=
  h.set hcall rfl rfl (fun key => by rw [SharedCache.update_self]; exact h.own key)
    (by rw [SharedCache.update_self])

/-- What a call of `getToken` finds in the shared cache. -/
theorem Simulates.get (h : Simulates p s t) (identifier : String) :
    Option.Rel (SameAnswer identifier)
      (TtlCache.get s.cache s.now (CacheInfo.Token identifier).key)
      (TtlCache.get t.shared t.now (CacheInfo.Token identifier).key) := by
  have hentry := h.entries (CacheInfo.Token identifier).key
  unfold TtlCache.get
  rw [h.now]
  generalize s.cache (CacheInfo.Token identifier).key = e at hentry
  generalize t.shared (CacheInfo.Token identifier).key = e' at hentry
  cases hentry with
  | none => exact .none
  | some hentry =>
    obtain ⟨hkey, hanswer, writtenAt, ttl⟩ := hentry
    obtain rfl := Cached.token.inj (Cached.eq_of_key (show (Cached.token _).key = _ from hkey))
    by_cases hlive : s.now < writtenAt + ttl
    · simp only [if_pos (show Entry.Live s.now { value := _, writtenAt, ttl } from hlive)]
      exact .some hanswer
    · simp only [if_neg (show ¬ Entry.Live s.now { value := _, writtenAt, ttl } from hlive)]
      exact .none

theorem Simulates.get_eq_none (h : Simulates p s t) {identifier : String}
    (hs : TtlCache.get s.cache s.now (CacheInfo.Token identifier).key = none) :
    TtlCache.get t.shared t.now (CacheInfo.Token identifier).key = none := by
  have hget := h.get identifier
  rw [hs] at hget
  generalize TtlCache.get t.shared t.now (CacheInfo.Token identifier).key = found at hget
  cases hget
  rfl

theorem Simulates.get_eq_some (h : Simulates p s t) {identifier : String} {tokenRaw : TokenAnswer}
    (hs : TtlCache.get s.cache s.now (CacheInfo.Token identifier).key = some tokenRaw) :
    ∃ answer, TtlCache.get t.shared t.now (CacheInfo.Token identifier).key = some answer ∧
      SameAnswer identifier tokenRaw answer := by
  have hget := h.get identifier
  rw [hs] at hget
  generalize TtlCache.get t.shared t.now (CacheInfo.Token identifier).key = found at hget
  cases hget with
  | some hsame => exact ⟨_, rfl, hsame⟩

theorem Simulates.wait (h : Simulates p s t) (ms : Nat) :
    Simulates p { s with now := s.now + ms } { t with now := t.now + ms } where
  now := congrArg (· + ms) h.now
  entries := h.entries
  own := h.own
  calls := h.calls

theorem Simulates.forget (h : Simulates p s t) (key : String) :
    Simulates p { s with cache := TtlCache.forget s.cache key }
      { t with shared := TtlCache.forget t.shared key } where
  now := h.now
  entries other := by
    by_cases hkey : other = key
    · subst hkey
      simp only [TtlCache.forget, Function.update_self]
      exact .none
    · simp only [TtlCache.forget, Function.update_of_ne hkey]
      exact h.entries other
  own := h.own
  calls := h.calls

theorem Simulates.begin (h : Simulates p s t) {call : TokenCall} {call' : Call}
    (hcall : SameCall call call') :
    Simulates p { s with calls := s.calls ++ [call] } (t.begin p call') where
  now := h.now
  entries := h.entries
  own key := by
    rw [SharedCache.begin, SharedCache.update_self]
    exact h.own key
  calls := by
    rw [SharedCache.begin, SharedCache.update_self]
    exact List.rel_append h.calls (.cons hcall .nil)

/-! ## Steps -/

/-- Call `i` of the process has come to `call`. -/
def after (t : SharedCache) (p i : Nat) (call : Call) : SharedCache :=
  t.update p fun process => { process with calls := process.calls.set i call }

@[simp] theorem calls_after (call : Call) :
    ((after t p i call).processes p).calls = (t.processes p).calls.set i call := by
  rw [after, SharedCache.update_self]

theorem getElem?_after {call : Call} (h : (t.processes p).calls[i]? = some call) (call' : Call) :
    ((after t p i call').processes p).calls[i]? = some call' := by
  obtain ⟨hi, -⟩ := List.getElem?_eq_some_iff.1 h
  rw [calls_after]
  exact List.getElem?_set_self hi

@[simp] theorem own_after (call : Call) :
    ((after t p i call).processes p).cache = (t.processes p).cache := by
  rw [after, SharedCache.update_self]

theorem Simulates.read (h : Simulates p s t) {identifier : String}
    (hcall : s.calls[i]? = some (.reading identifier)) :
    ∃ t', Reaches (SharedCache.step package) t t' ∧
      Simulates p { s with calls := s.calls.set i (.afterRead identifier
        (TtlCache.get s.cache s.now (CacheInfo.Token identifier).key)) } t' := by
  obtain ⟨_, hcall', hsame⟩ := h.calls.exists_getElem? hcall
  cases hsame
  let t₁ := after t p i (.missed (.token identifier))
  have hcall₁ : (t₁.processes p).calls[i]? = some (.missed (.token identifier)) :=
    getElem?_after hcall' _
  have hown : TtlCache.get (t.processes p).cache t.now (Cached.token identifier).key = none := by
    rw [TtlCache.get, h.own]
  have hread : SharedCache.step package t (.readOwn p i) = some t₁ :=
    SharedCache.move_eq_some.2 ⟨_, _, hcall', by simp only [hown, Call.afterOwn], rfl⟩
  cases hs : TtlCache.get s.cache s.now (CacheInfo.Token identifier).key with
  | none =>
    have hshared := h.get_eq_none hs
    have hmiss : SharedCache.step package t₁ (.readShared p i) =
        some (after t₁ p i (.asking (.token identifier))) :=
      SharedCache.move_eq_some.2 ⟨_, _, hcall₁,
        congrArg (fun x => some (Call.afterShared t.now _ x)) hshared, rfl⟩
    refine ⟨_, (Reaches.of_step hread).trans (.of_step hmiss), ?_⟩
    exact h.set (.asking identifier) rfl rfl
      (fun key => by rw [own_after, own_after]; exact h.own key)
      (by rw [calls_after, calls_after, List.set_set])
  | some tokenRaw =>
    obtain ⟨answer, hshared, hsame⟩ := h.get_eq_some hs
    let t₂ := after t₁ p i (.copying (.token identifier) answer t.now)
    have hhit : SharedCache.step package t₁ (.readShared p i) = some t₂ :=
      SharedCache.move_eq_some.2 ⟨_, _, hcall₁,
        congrArg (fun x => some (Call.afterShared t.now _ x)) hshared, rfl⟩
    have hskip : SharedCache.step package t₂ (.skipCopy p i) =
        some (after t₂ p i (.returned (.token identifier) t.now (.ok answer))) :=
      SharedCache.move_eq_some.2 ⟨_, _, getElem?_after hcall₁ _, rfl, rfl⟩
    refine ⟨_, ((Reaches.of_step hread).trans (.of_step hhit)).trans (.of_step hskip), ?_⟩
    refine h.set (.returned hsame t.now) rfl rfl
      (fun key => by rw [own_after, own_after, own_after]; exact h.own key)
      (by rw [calls_after, calls_after, calls_after, List.set_set, List.set_set])

variable (package) in
/-- The answer of a source is written to the cache of the process, which loses it. -/
theorem reaches_setting {answer : Answer} {job : Option Job}
    (hcall : (t.processes p).calls[i]? = some (.setting answer { own := true, shared := true } job))
    (hown : ∀ key, (t.processes p).cache key = none) :
    ∃ t', Reaches (SharedCache.step package) t t' ∧ t'.now = t.now ∧ t'.shared = t.shared ∧
      (∀ key, (t'.processes p).cache key = none) ∧
      (t'.processes p).calls =
        (t.processes p).calls.set i (.setting answer { own := false, shared := true } job) := by
  have hwrite : SharedCache.step package t (.writeOwn p i) = some _ :=
    SharedCache.writeOwn_eq_some.2 ⟨_, _, _, hcall, rfl, rfl⟩
  refine ⟨_, (Reaches.of_step hwrite).trans
    (.of_step (a := .forget p answer.item.key) rfl), rfl, rfl, fun key => ?_, ?_⟩
  · rw [SharedCache.update_self, SharedCache.update_self]
    by_cases hkey : key = answer.item.key
    · subst hkey
      exact Function.update_self _ _ _
    · exact (Function.update_of_ne hkey _ _).trans ((TtlCache.set_of_ne hkey).trans (hown key))
  · rw [SharedCache.update_self, SharedCache.update_self]
    rfl

/-- Sources whose token API answers with this response. -/
def answering (response : TokenResponse) : Sources where
  tokens _ := response
  accounts _ := .error ⟨""⟩
  pairsMetadata := .ok []
  pairFees _ := .error ⟨""⟩
  oneDexPairsMetadata := .ok []

theorem Simulates.asked (h : Simulates p s t) {identifier : String} {response : TokenResponse}
    (hcall : s.calls[i]? = some (.asking identifier)) {given : Nat} {call : TokenCall}
    (hanswer : TokenCall.afterAnswer given response (.asking identifier) = some call) :
    ∃ t', Reaches (SharedCache.step package) t t' ∧
      Simulates p { s with calls := s.calls.set i call } t' := by
  obtain ⟨_, hcall', hsame⟩ := h.calls.exists_getElem? hcall
  cases hsame
  cases hraw : MultiversXApiService.getTokenRaw response with
  | error error =>
    simp only [TokenCall.afterAnswer, hraw, Option.some.injEq] at hanswer
    subst hanswer
    have hstep : SharedCache.step package t (.answer p i (answering response)) = some _ :=
      SharedCache.move_eq_some.2 ⟨_, .returned (.token identifier) t.now (.error error), hcall',
        by simp only [Call.afterAnswer, Sources.raw, answering, hraw], rfl⟩
    exact ⟨_, .of_step hstep, h.move (.thrown identifier t.now error)⟩
  | ok token =>
    simp only [TokenCall.afterAnswer, hraw, Option.some.injEq] at hanswer
    subst hanswer
    let answer : Answer := { item := .token identifier, value := token, given := t.now }
    have hstep : SharedCache.step package t (.answer p i (answering response)) =
        some (after t p i (.setting answer { own := true, shared := true } none)) :=
      SharedCache.move_eq_some.2 ⟨_, _, hcall',
        by simp only [Call.afterAnswer, Sources.raw, answering, hraw, answer], rfl⟩
    obtain ⟨t', hreach, hnow, hshared, hown, hcalls⟩ :=
      reaches_setting package (getElem?_after hcall' _)
        fun key => by rw [own_after]; exact h.own key
    refine ⟨t', (Reaches.of_step hstep).trans hreach,
      h.set (.writing (.of_token token given t.now)) hnow hshared hown ?_⟩
    rw [hcalls, calls_after, List.set_set]

variable (package) in
/-- A job sends its messages until a batch is left. -/
theorem Simulates.toBatch (h : Simulates p s t) {tokenId : String} {rest : List String}
    (hcall : s.calls[i]? = some (.warming (tokenId :: rest))) :
    ∃ t' cacheKeys batch batches, Reaches (SharedCache.step package) t t' ∧ Simulates p s t' ∧
      (t'.processes p).calls[i]? = some (.warming
        { catches := true
          cacheKeys := cacheKeys
          batches := (.token tokenId :: batch) :: batches }) ∧
      (batch :: batches).flatten = rest.map .token := by
  obtain ⟨_, hcall', hsame⟩ := h.calls.exists_getElem? hcall
  cases hsame with
  | @warming _ job hcatches hbatches =>
    obtain ⟨catches, cacheKeys, batches⟩ := job
    obtain rfl : catches = true := hcatches
    induction batches generalizing t cacheKeys with
    | nil => cases hbatches
    | cons batch batches ih =>
      cases batch with
      | nil =>
        have hemit : SharedCache.step package t (.emit p i) = some _ :=
          SharedCache.emit_eq_some.2 ⟨_, .warming
            { catches := true, cacheKeys := [], batches := batches }, cacheKeys, hcall', rfl, rfl⟩
        have hsame : SameCall (.warming (tokenId :: rest))
            (.warming { catches := true, cacheKeys := [], batches := batches }) :=
          .warming rfl hbatches
        let sent := (after t p i
          (.warming { catches := true, cacheKeys := [], batches := batches })).broadcast cacheKeys
        have hsimulates : Simulates p _ sent :=
          h.set hsame rfl rfl (fun key => (congrFun (own_after _) key).trans (h.own key))
            (calls_after _)
        have hself : s.calls.set i (.warming (tokenId :: rest)) = s.calls := by
          obtain ⟨hi, heq⟩ := List.getElem?_eq_some_iff.1 hcall
          rw [← heq, List.set_getElem_self]
        rw [hself] at hsimulates
        obtain ⟨t', cacheKeys', batch', batches', hreach, h', hcall'', hrest⟩ :=
          ih hsimulates [] hbatches (getElem?_after hcall' _)
        exact ⟨t', cacheKeys', batch', batches', (Reaches.of_step hemit).trans hreach, h', hcall'',
          hrest⟩
      | cons item batch =>
        obtain ⟨rfl, hrest⟩ := List.cons.inj hbatches
        exact ⟨t, cacheKeys, batch, batches, .refl t, h, hcall', hrest⟩

theorem Simulates.warmed (h : Simulates p s t) {tokens : List String} {response : TokenResponse}
    (hcall : s.calls[i]? = some (.warming tokens)) {given : Nat} {call : TokenCall}
    (hanswer : TokenCall.afterAnswer given response (.warming tokens) = some call) :
    ∃ t', Reaches (SharedCache.step package) t t' ∧
      Simulates p { s with calls := s.calls.set i call } t' := by
  cases tokens with
  | nil => cases hanswer
  | cons tokenId rest =>
    obtain ⟨t₁, cacheKeys, batch, batches, hreach₁, h₁, hcall₁, hrest⟩ :=
      h.toBatch package hcall
    let job : Job := { catches := true, cacheKeys := cacheKeys, batches := batch :: batches }
    cases hraw : MultiversXApiService.getTokenRaw response with
    | error error =>
      simp only [TokenCall.afterAnswer, hraw, Option.some.injEq] at hanswer
      subst hanswer
      have hstep : SharedCache.step package t₁ (.answer p i (answering response)) = some _ :=
        SharedCache.move_eq_some.2 ⟨_, .warming job, hcall₁,
          by simp only [Call.afterAnswer, Sources.raw, answering, hraw, Call.afterError, if_true,
            job], rfl⟩
      exact ⟨_, hreach₁.trans (.of_step hstep), h₁.move (.warming rfl hrest)⟩
    | ok token =>
      simp only [TokenCall.afterAnswer, hraw, Option.some.injEq] at hanswer
      subst hanswer
      let answer : Answer := { item := .token tokenId, value := token, given := t₁.now }
      have hstep : SharedCache.step package t₁ (.answer p i (answering response)) =
          some (after t₁ p i (.setting answer { own := true, shared := true } (some job))) :=
        SharedCache.move_eq_some.2 ⟨_, _, hcall₁,
          by simp only [Call.afterAnswer, Sources.raw, answering, hraw, answer, job], rfl⟩
      obtain ⟨t', hreach, hnow, hshared, hown, hcalls⟩ :=
        reaches_setting package (getElem?_after hcall₁ _)
          fun key => by rw [own_after]; exact h₁.own key
      have hsame : SameCall (.warmWriting tokenId { token := token, given := given } rest)
          (.setting answer { own := false, shared := true } (some job)) :=
        .warmWriting (.of_token token given t₁.now) rfl hrest
      refine ⟨t', (hreach₁.trans (.of_step hstep)).trans hreach,
        h₁.set hsame hnow hshared hown ?_⟩
      rw [hcalls, calls_after, List.set_set]

/-- The answer is written to the shared cache. -/
theorem Simulates.store (h : Simulates p s t) {identifier : String} {tokenRaw : TokenAnswer}
    {answer : Answer} (hsame : SameAnswer identifier tokenRaw answer) {job : Option Job}
    (hcall : (t.processes p).calls[i]? =
      some (.setting answer { own := false, shared := true } job))
    {call : TokenCall}
    (hafter : SameCall call (.afterWrite t.now answer { own := false, shared := false } job))
    {ttl : Nat} (httl : Call.settingTtl answer job = ttl) :
    ∃ t', Reaches (SharedCache.step package) t t' ∧ Simulates p
      { s with
        cache := TtlCache.set s.cache s.now (CacheInfo.Token identifier).key tokenRaw
          (milliseconds ttl)
        calls := s.calls.set i call } t' := by
  have hwrite : SharedCache.step package t (.writeShared p i) = some _ :=
    SharedCache.writeShared_eq_some.2 ⟨_, _, _, hcall, rfl, rfl⟩
  have hmoved := h.move hafter (i := i)
  refine ⟨_, .of_step hwrite, hmoved.now, fun key => ?_, hmoved.own, hmoved.calls⟩
  have hitem : answer.item = .token identifier := by
    cases hsame
    rfl
  by_cases hkey : key = (CacheInfo.Token identifier).key
  · subst hkey
    simp only [hitem, httl, h.now, Cached.key, Cached.info, TtlCache.set_self]
    exact .some (.of_answer rfl hsame _ _)
  · simp only [hitem, Cached.key, Cached.info, TtlCache.set_of_ne hkey]
    exact h.entries key

theorem Simulates.write (h : Simulates p s t) {call : TokenCall} {w : CacheWrite}
    (hcall : s.calls[i]? = some call) (hw : call.nextWrite = some w) :
    ∃ t', Reaches (SharedCache.step package) t t' ∧ Simulates p
      { s with
        cache := TtlCache.set s.cache s.now w.key w.answer (milliseconds w.ttl)
        calls := s.calls.set i call.afterWrite } t' := by
  obtain ⟨_, hcall', hsame⟩ := h.calls.exists_getElem? hcall
  cases hsame with
  | @writing identifier _ _ hanswer =>
    cases hw
    have hitem := hanswer
    cases hanswer with
    | of_token token given given' => exact h.store hitem hcall' (.returned hitem t.now) rfl
  | @warmWriting tokenId _ answer rest job hanswer hcatches hbatches =>
    cases hw
    have hwarming : SameCall (.warming rest)
        (.warming { job with cacheKeys := job.cacheKeys ++ [answer.item.key] }) :=
      .warming hcatches hbatches
    have httl : Call.settingTtl answer (some job) = (CacheInfo.Token tokenId).ttl := by
      cases hanswer
      rfl
    exact h.store hanswer hcall' hwarming httl
  | reading | asking | returned | thrown | warming => cases hw

theorem Simulates.failWrite (h : Simulates p s t) {call : TokenCall} {w : CacheWrite}
    (hcall : s.calls[i]? = some call) (hw : call.nextWrite = some w) (error : JsError) :
    ∃ t', Reaches (SharedCache.step package) t t' ∧
      Simulates p { s with calls := s.calls.set i (call.afterFailedWrite error) } t' := by
  obtain ⟨_, hcall', hsame⟩ := h.calls.exists_getElem? hcall
  cases hsame with
  | @writing identifier _ _ hanswer =>
    cases hanswer
    have hfail : SharedCache.step package t (.fail p i error) = some _ :=
      SharedCache.move_eq_some.2 ⟨_, _, hcall', rfl, rfl⟩
    exact ⟨_, .of_step hfail, h.move (.thrown identifier t.now error)⟩
  | @warmWriting tokenId _ answer rest job hanswer hcatches hbatches =>
    have hfail : SharedCache.step package t (.fail p i error) = some _ :=
      SharedCache.move_eq_some.2 ⟨_, .warming job, hcall', by
        simp only [Call.afterFailure, Call.afterError, hcatches, if_true], rfl⟩
    exact ⟨_, .of_step hfail, h.move (.warming hcatches hbatches)⟩
  | reading | asking | returned | thrown | warming => cases hw

/-- Pairs that have these tokens. -/
def pairsOf (tokens : List String) : List PairMetadata :=
  tokens.map fun token =>
    { address := "", firstTokenId := token, secondTokenId := token, isInverted := false }

theorem dedup_doubled {tokens : List String} (h : tokens.Nodup) :
    (tokens.flatMap fun token => [token, token]).dedup = tokens := by
  induction tokens with
  | nil => rfl
  | cons token rest ih =>
    obtain ⟨hnotMem, hrest⟩ := List.nodup_cons.1 h
    have hfresh : token ∉ rest.flatMap fun token => [token, token] := by
      simpa using hnotMem
    rw [List.flatMap_cons, List.cons_append, List.cons_append, List.nil_append,
      List.dedup_cons_of_mem List.mem_cons_self, List.dedup_cons_of_notMem hfresh, ih hrest]

/-- `warmTokens` takes any list of distinct tokens from some pairs. -/
theorem tokensOf_pairsOf {tokens : List String} (h : tokens.Nodup) :
    Call.tokensOf (pairsOf tokens) [] = tokens := by
  have hflat : ((pairsOf tokens).flatMap fun pair => [pair.firstTokenId, pair.secondTokenId]) =
      tokens.flatMap fun token => [token, token] := List.flatMap_map _ _ _
  have hreverse : (tokens.flatMap fun token => [token, token]).reverse =
      tokens.reverse.flatMap fun token => [token, token] := List.reverse_flatMap
  rw [Call.tokensOf, hflat, List.flatMap_nil, List.append_nil, hreverse,
    dedup_doubled (List.nodup_reverse.2 h), List.reverse_reverse]

end Simulates

/-- A job is called with distinct tokens, as `distinct` makes them. -/
def Distinct (a : Action) : Prop := ∀ tokens, a = .warmTokens tokens → tokens.Nodup

section Follows

variable {package : CachePackage} {p : Nat} {batchUtils : BatchUtils}
  (hbatch : batchUtils.Partitions)

include hbatch

theorem sameCall_warmTokens {tokens : List String} (h : tokens.Nodup) :
    SameCall (.warming tokens) (Call.warmTokens batchUtils (pairsOf tokens) []) := by
  refine .warming rfl ?_
  show List.flatten ((batchUtils.splitArrayIntoChunks (Call.tokensOf (pairsOf tokens) []) 25).map
    (·.map Cached.token)) = _
  rw [tokensOf_pairsOf h, ← List.map_flatten, hbatch.flatten _ _ (by decide)]

/-- `SharedCache` can follow each step. -/
theorem Simulates.step {s s' : TokenCache} {t : SharedCache} {a : Action} (h : Simulates p s t)
    (hdistinct : Distinct a) (hs' : s.step a = some s') :
    ∃ t', Reaches (SharedCache.step package) t t' ∧ Simulates p s' t' := by
  obtain ⟨u, hact, rfl⟩ := step_eq_some.1 hs'
  -- the count of the steps is the model's own
  suffices hu : ∃ t', Reaches (SharedCache.step package) t t' ∧ Simulates p u t' by
    obtain ⟨t', hreach, hu⟩ := hu
    exact ⟨t', hreach, hu.now, hu.entries, hu.own, hu.calls⟩
  cases a with
  | wait ms =>
    obtain rfl := Option.some.inj hact
    exact ⟨_, .of_step (a := .wait ms) rfl, h.wait ms⟩
  | forget key =>
    obtain rfl := Option.some.inj hact
    exact ⟨_, .of_step (a := .forgetShared key) rfl, h.forget key⟩
  | getToken identifier =>
    obtain rfl := Option.some.inj hact
    exact ⟨_, .of_step (a := .get p (.token identifier)) rfl, h.begin (.reading identifier)⟩
  | warmTokens tokens =>
    obtain rfl := Option.some.inj hact
    exact ⟨_, .of_step (a := .warmTokens p batchUtils (pairsOf tokens) []) rfl,
      h.begin (sameCall_warmTokens hbatch (hdistinct tokens rfl))⟩
  | read i =>
    obtain ⟨call, call', hcall, hcall', rfl⟩ := move_eq_some.1 hact
    cases call with
    | reading identifier =>
      obtain rfl := Option.some.inj hcall'
      exact h.read hcall
    | asking | writing | returned | warming | warmWriting => cases hcall'
  | query i response =>
    obtain ⟨call, call', hcall, hcall', rfl⟩ := move_eq_some.1 hact
    cases call with
    | asking identifier => exact h.asked hcall hcall'
    | warming tokens => exact h.warmed hcall hcall'
    | reading | writing | returned | warmWriting => cases hcall'
  | write i =>
    obtain ⟨call, w, hcall, hw, rfl⟩ := write_eq_some.1 hact
    exact h.write hcall hw
  | failWrite i error =>
    obtain ⟨call, call', hcall, hcall', rfl⟩ := move_eq_some.1 hact
    obtain ⟨w, hw, rfl⟩ := Option.map_eq_some_iff.1 hcall'
    exact h.failWrite hcall hw error

/-- **Tokens in the cache of the processes**: a run of `TokenCache` is a run of `SharedCache`. -/
theorem simulates_of_run {s : TokenCache} {actions : List Action}
    (hdistinct : ∀ a ∈ actions, Distinct a) (h : run TokenCache.step initial actions = some s) :
    ∃ t, Reaches (SharedCache.step package) SharedCache.initial t ∧ Simulates p s t := by
  have hinitial : Simulates p initial SharedCache.initial :=
    ⟨rfl, fun _ => .none, fun _ => rfl, .nil⟩
  exact reaches_of_run (fun _ _ _ _ hsim hdist hstep => hsim.step hbatch hdist hstep) hinitial
    hdistinct h

end Follows

end TokenCache

end DexAdapter
