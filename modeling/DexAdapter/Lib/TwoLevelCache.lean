import DexAdapter.Lib.TtlCache

/-!
# A cache in two levels

Processes share one cache and each has one of its own, both with times to live. What is cached are
answers of a source. A process that is answered holds the answer for a while before it writes it, to
both levels; one that it reads in the shared cache it holds to write it to its own. `Effect` is all
that a step may do to the two levels; entries may go at any time.

* What is in the caches was answered under its key (`Provenance.step`).
* No call is answered with an answer that is older than the lives of the two entries and the two
  times for which it was held (`Aged.step`). Entries live no longer than their times to live
  (`WithinTtl.livesFor`), or than it takes to replace or delete them (`WrittenSince.livesFor`).
* A process that has nothing older than some answer, over a shared cache that has nothing older,
  never has anything older again (`Newer.step`).
-/

namespace TwoLevelCache

open TtlCache

variable {π κ ν : Type}

/-- An answer that a process is about to write. -/
structure Held (κ ν : Type) where
  key : κ
  value : ν
  /-- of the source, for both levels; else of the shared cache, for the own cache -/
  made : Bool
  since : Nat

/-- What a process has answered a call. -/
structure Reply (κ ν : Type) where
  call : Nat
  key : κ
  value : ν
  time : Nat

structure State (π κ ν : Type) where
  now : Nat
  shared : Cache κ ν
  own : π → Cache κ ν
  holds : π → Held κ ν → Prop
  replied : π → Reply κ ν → Prop

/-- Nothing is cached, held or answered. -/
structure State.Empty (s : State π κ ν) : Prop where
  shared : ∀ key, s.shared key = none
  own : ∀ p key, s.own p key = none
  holds : ∀ p h, ¬ s.holds p h
  replied : ∀ p r, ¬ s.replied p r

structure Rules (κ ν : Type) where
  /-- when the source gave the answer -/
  given : ν → Nat
  /-- what the source may answer under a key -/
  Answers : κ → ν → Prop
  sharedTtl : κ → Nat
  ownTtl : κ → Nat

variable (R : Rules κ ν)

/-- What a step may do. -/
structure Effect (s s' : State π κ ν) : Prop where
  now : s.now ≤ s'.now
  /-- an entry of the shared cache was there, or is an answer of the source that was held -/
  shared : ∀ key e, s'.shared key = some e → s.shared key = some e ∨
    ∃ p h, s.holds p h ∧ h.made = true ∧ h.key = key ∧ e.value = h.value ∧ e.writtenAt = s.now ∧
      e.ttl ≤ R.sharedTtl key
  /-- an entry of a process was there, or is an answer that the process held -/
  own : ∀ p key e, s'.own p key = some e → s.own p key = some e ∨
    ∃ h, s.holds p h ∧ h.key = key ∧ e.value = h.value ∧ e.writtenAt = s.now ∧
      e.ttl ≤ R.ownTtl key
  /-- an answer that is held was held, or the source has given it, or it is read in the shared
  cache -/
  holds : ∀ p h, s'.holds p h → s.holds p h ∨
    (h.since = s.now ∧ R.given h.value = s.now ∧ R.Answers h.key h.value) ∨
      (h.since = s.now ∧ h.made = false ∧
        ∃ e, s.shared h.key = some e ∧ e.Live s.now ∧ h.value = e.value)
  /-- a call is answered from the cache of its process, or with an answer that is held -/
  replied : ∀ p r, s'.replied p r → s.replied p r ∨
    (r.time = s.now ∧ ((∃ e, s.own p r.key = some e ∧ e.Live s.now ∧ r.value = e.value) ∨
      ∃ h, s.holds p h ∧ h.key = r.key ∧ h.value = r.value))

variable {R} {s s' : State π κ ν}

/-! ## Where answers come from -/

/-- Every answer was given under its key. -/
structure Provenance (R : Rules κ ν) (s : State π κ ν) : Prop where
  shared : ∀ key e, s.shared key = some e → R.Answers key e.value
  own : ∀ p key e, s.own p key = some e → R.Answers key e.value
  holds : ∀ p h, s.holds p h → R.Answers h.key h.value
  replied : ∀ p r, s.replied p r → R.Answers r.key r.value

theorem Provenance.of_empty (h : s.Empty) : Provenance R s where
  shared key e he := by simp [h.shared] at he
  own p key e he := by simp [h.own] at he
  holds p held hheld := absurd hheld (h.holds p held)
  replied p r hr := absurd hr (h.replied p r)

theorem Provenance.step (h : Provenance R s) (heffect : Effect R s s') : Provenance R s' where
  shared key e he := by
    rcases heffect.shared key e he with hold | ⟨p, held, hheld, -, rfl, hvalue, -⟩
    · exact h.shared key e hold
    · rw [hvalue]
      exact h.holds p held hheld
  own p key e he := by
    rcases heffect.own p key e he with hold | ⟨held, hheld, rfl, hvalue, -⟩
    · exact h.own p key e hold
    · rw [hvalue]
      exact h.holds p held hheld
  holds p held hheld := by
    rcases heffect.holds p held hheld with hold | ⟨-, -, hanswers⟩ | ⟨-, -, e, he, -, hvalue⟩
    · exact h.holds p held hold
    · exact hanswers
    · rw [hvalue]
      exact h.shared held.key e he
  replied p r hr := by
    rcases heffect.replied p r hr with hold | ⟨-, ⟨e, he, -, hvalue⟩ | ⟨held, hheld, hkey, hvalue⟩⟩
    · exact h.replied p r hold
    · rw [hvalue]
      exact h.own p r.key e he
    · rw [← hkey, ← hvalue]
      exact h.holds p held hheld

/-! ## When answers were given -/

/-- Answers are of the past, and those to calls are not given after the call returns. -/
structure Past (R : Rules κ ν) (s : State π κ ν) : Prop where
  shared : ∀ key e, s.shared key = some e → R.given e.value ≤ s.now
  own : ∀ p key e, s.own p key = some e → R.given e.value ≤ s.now
  holds : ∀ p h, s.holds p h → R.given h.value ≤ s.now
  replied : ∀ p r, s.replied p r → R.given r.value ≤ r.time

theorem Past.of_empty (h : s.Empty) : Past R s where
  shared key e he := by simp [h.shared] at he
  own p key e he := by simp [h.own] at he
  holds p held hheld := absurd hheld (h.holds p held)
  replied p r hr := absurd hr (h.replied p r)

theorem Past.step (h : Past R s) (heffect : Effect R s s') : Past R s' where
  shared key e he := by
    rcases heffect.shared key e he with hold | ⟨p, held, hheld, -, -, hvalue, -⟩
    · exact Nat.le_trans (h.shared key e hold) heffect.now
    · rw [hvalue]
      exact Nat.le_trans (h.holds p held hheld) heffect.now
  own p key e he := by
    rcases heffect.own p key e he with hold | ⟨held, hheld, -, hvalue, -⟩
    · exact Nat.le_trans (h.own p key e hold) heffect.now
    · rw [hvalue]
      exact Nat.le_trans (h.holds p held hheld) heffect.now
  holds p held hheld := by
    rcases heffect.holds p held hheld with hold | ⟨-, hgiven, -⟩ | ⟨-, -, e, he, -, hvalue⟩
    · exact Nat.le_trans (h.holds p held hold) heffect.now
    · rw [hgiven]
      exact heffect.now
    · rw [hvalue]
      exact Nat.le_trans (h.shared held.key e he) heffect.now
  replied p r hr := by
    rcases heffect.replied p r hr with hold | ⟨htime, ⟨e, he, -, hvalue⟩ | ⟨held, hheld, -, hvalue⟩⟩
    · exact h.replied p r hold
    · rw [htime, hvalue]
      exact h.own p r.key e he
    · rw [htime, ← hvalue]
      exact h.holds p held hheld

/-! ## How old answers get -/

/-- No answer is held for longer than `delay`. -/
def Prompt (delay : Nat) (s : State π κ ν) : Prop :=
  ∀ p h, s.holds p h → s.now ≤ h.since + delay

/-- Entries under the key are not read later than their lives after they were written. -/
structure LivesFor (sharedLife ownLife : Nat) (p : π) (key : κ) (s : State π κ ν) : Prop where
  shared : ∀ e, s.shared key = some e → e.Live s.now → s.now ≤ e.writtenAt + sharedLife
  own : ∀ e, s.own p key = some e → e.Live s.now → s.now ≤ e.writtenAt + ownLife

/-- When the answers that a process has under a key were written and taken, by when they were
given. -/
structure Aged (R : Rules κ ν) (delay sharedLife ownLife : Nat) (p : π) (key : κ)
    (s : State π κ ν) : Prop where
  shared : ∀ e, s.shared key = some e → e.writtenAt ≤ R.given e.value + delay
  made : ∀ q h, s.holds q h → h.made = true → h.since ≤ R.given h.value
  own : ∀ e, s.own p key = some e → e.writtenAt ≤ R.given e.value + delay + sharedLife + delay
  holds : ∀ h, s.holds p h → h.key = key → h.since ≤ R.given h.value + delay + sharedLife
  replied : ∀ r, s.replied p r → r.key = key →
    r.time ≤ R.given r.value + (sharedLife + ownLife + 2 * delay)

namespace Aged

variable {delay sharedLife ownLife : Nat} {p : π} {key : κ}

theorem of_empty (h : s.Empty) : Aged R delay sharedLife ownLife p key s where
  shared e he := by simp [h.shared] at he
  made q held hheld := absurd hheld (h.holds q held)
  own e he := by simp [h.own] at he
  holds held hheld := absurd hheld (h.holds p held)
  replied r hr := absurd hr (h.replied p r)

theorem step (h : Aged R delay sharedLife ownLife p key s) (hprompt : Prompt delay s)
    (hlives : LivesFor sharedLife ownLife p key s) (heffect : Effect R s s') :
    Aged R delay sharedLife ownLife p key s' where
  shared e he := by
    rcases heffect.shared key e he with hold | ⟨q, held, hheld, hmade, -, hvalue, hwritten, -⟩
    · exact h.shared e hold
    · have hsince := h.made q held hheld hmade
      have hnow := hprompt q held hheld
      rw [hvalue, hwritten]
      omega
  made q held hheld hmade := by
    rcases heffect.holds q held hheld with hold | ⟨hsince, hgiven, -⟩ | ⟨-, hread, -⟩
    · exact h.made q held hold hmade
    · omega
    · rw [hmade] at hread
      cases hread
  own e he := by
    rcases heffect.own p key e he with hold | ⟨held, hheld, hkey, hvalue, hwritten, -⟩
    · exact h.own e hold
    · have hsince := h.holds held hheld hkey
      have hnow := hprompt p held hheld
      rw [hvalue, hwritten]
      omega
  holds held hheld hkey := by
    subst hkey
    rcases heffect.holds p held hheld with hold | ⟨hsince, hgiven, -⟩ |
      ⟨hsince, -, e, he, hlive, hvalue⟩
    · exact h.holds held hold rfl
    · omega
    · have hwritten := h.shared e he
      have hnow := hlives.shared e he hlive
      rw [hvalue]
      omega
  replied r hr hkey := by
    subst hkey
    rcases heffect.replied p r hr with hold | ⟨htime, ⟨e, he, hlive, hvalue⟩ |
      ⟨held, hheld, hkey, hvalue⟩⟩
    · exact h.replied r hold rfl
    · have hwritten := h.own e he
      have hnow := hlives.own e he hlive
      rw [hvalue]
      omega
    · have hsince := h.holds held hheld hkey
      have hnow := hprompt p held hheld
      rw [← hvalue]
      omega

end Aged

/-- Entries have the times to live of their keys. -/
structure WithinTtl (R : Rules κ ν) (s : State π κ ν) : Prop where
  shared : ∀ key e, s.shared key = some e → e.ttl ≤ R.sharedTtl key
  own : ∀ p key e, s.own p key = some e → e.ttl ≤ R.ownTtl key

theorem WithinTtl.of_empty (h : s.Empty) : WithinTtl R s where
  shared key e he := by simp [h.shared] at he
  own p key e he := by simp [h.own] at he

theorem WithinTtl.step (h : WithinTtl R s) (heffect : Effect R s s') : WithinTtl R s' where
  shared key e he := by
    rcases heffect.shared key e he with hold | ⟨_, _, -, -, -, -, -, httl⟩
    · exact h.shared key e hold
    · exact httl
  own p key e he := by
    rcases heffect.own p key e he with hold | ⟨_, -, -, -, -, httl⟩
    · exact h.own p key e hold
    · exact httl

/-- An entry is not read after its time to live. -/
theorem WithinTtl.livesFor (h : WithinTtl R s) (p : π) (key : κ) :
    LivesFor (R.sharedTtl key) (R.ownTtl key) p key s where
  shared e he hlive := by
    have httl := h.shared key e he
    unfold Entry.Live at hlive
    omega
  own e he hlive := by
    have httl := h.own p key e he
    unfold Entry.Live at hlive
    omega

/-- Entries have the times to live of their keys, and answers the ages that follow. -/
structure AgedByTtl (R : Rules κ ν) (delay : Nat) (p : π) (key : κ) (s : State π κ ν) : Prop where
  withinTtl : WithinTtl R s
  aged : Aged R delay (R.sharedTtl key) (R.ownTtl key) p key s

theorem AgedByTtl.of_empty {delay : Nat} {p : π} {key : κ} (h : s.Empty) :
    AgedByTtl R delay p key s where
  withinTtl := .of_empty h
  aged := .of_empty h

theorem AgedByTtl.step {delay : Nat} {p : π} {key : κ} (h : AgedByTtl R delay p key s)
    (hprompt : Prompt delay s) (heffect : Effect R s s') : AgedByTtl R delay p key s' where
  withinTtl := h.withinTtl.step heffect
  aged := h.aged.step hprompt (h.withinTtl.livesFor p key) heffect

/-- The entries under the key were not written before the two times. -/
structure WrittenSince (sharedSince ownSince : Nat) (p : π) (key : κ) (s : State π κ ν) : Prop where
  shared : ∀ e, s.shared key = some e → sharedSince ≤ e.writtenAt
  own : ∀ e, s.own p key = some e → ownSince ≤ e.writtenAt

namespace WrittenSince

variable {sharedSince ownSince : Nat} {p : π} {key : κ}

theorem of_empty (h : s.Empty) : WrittenSince sharedSince ownSince p key s where
  shared e he := by simp [h.shared] at he
  own e he := by simp [h.own] at he

theorem step (h : WrittenSince sharedSince ownSince p key s) (hshared : sharedSince ≤ s.now)
    (hown : ownSince ≤ s.now) (heffect : Effect R s s') :
    WrittenSince sharedSince ownSince p key s' where
  shared e he := by
    rcases heffect.shared key e he with hold | ⟨_, _, -, -, -, -, hwritten, -⟩
    · exact h.shared e hold
    · rwa [hwritten]
  own e he := by
    rcases heffect.own p key e he with hold | ⟨_, -, -, -, hwritten, -⟩
    · exact h.own e hold
    · rwa [hwritten]

/-- Nor are entries read long after the last time at which they were replaced or deleted. -/
theorem livesFor {sharedLife ownLife : Nat} (h : WrittenSince sharedSince ownSince p key s)
    (hshared : s.now ≤ sharedSince + sharedLife) (hown : s.now ≤ ownSince + ownLife) :
    LivesFor sharedLife ownLife p key s where
  shared e he _ := by
    have := h.shared e he
    omega
  own e he _ := by
    have := h.own e he
    omega

end WrittenSince

/-! ## Answers that are not older than one -/

/-- What the shared cache has under the key, and what may come there, was given at `given` or
later. -/
structure SharedNewer (R : Rules κ ν) (key : κ) (given : Nat) (s : State π κ ν) : Prop where
  now : given ≤ s.now
  shared : ∀ e, s.shared key = some e → given ≤ R.given e.value
  made : ∀ p h, s.holds p h → h.made = true → h.key = key → given ≤ R.given h.value

theorem SharedNewer.step {key : κ} {given : Nat} (h : SharedNewer R key given s)
    (heffect : Effect R s s') : SharedNewer R key given s' where
  now := Nat.le_trans h.now heffect.now
  shared e he := by
    rcases heffect.shared key e he with hold | ⟨p, held, hheld, hmade, hkey, hvalue, -⟩
    · exact h.shared e hold
    · rw [hvalue]
      exact h.made p held hheld hmade hkey
  made p held hheld hmade hkey := by
    rcases heffect.holds p held hheld with hold | ⟨-, hgiven, -⟩ | ⟨-, hread, -⟩
    · exact h.made p held hold hmade hkey
    · rw [hgiven]
      exact h.now
    · rw [hmade] at hread
      cases hread

/-- The process has nothing older, either. -/
structure Newer (R : Rules κ ν) (p : π) (key : κ) (given : Nat) (s : State π κ ν) : Prop
    extends SharedNewer R key given s where
  own : ∀ e, s.own p key = some e → given ≤ R.given e.value
  holds : ∀ h, s.holds p h → h.key = key → given ≤ R.given h.value

/-- **Old answers do not come back.** -/
theorem Newer.step {p : π} {key : κ} {given : Nat} (h : Newer R p key given s)
    (heffect : Effect R s s') : Newer R p key given s' where
  toSharedNewer := h.toSharedNewer.step heffect
  own e he := by
    rcases heffect.own p key e he with hold | ⟨held, hheld, hkey, hvalue, -⟩
    · exact h.own e hold
    · rw [hvalue]
      exact h.holds held hheld hkey
  holds held hheld hkey := by
    rcases heffect.holds p held hheld with hold | ⟨-, hgiven, -⟩ | ⟨-, -, e, he, -, hvalue⟩
    · exact h.holds held hold hkey
    · rw [hgiven]
      exact h.now
    · subst hkey
      rw [hvalue]
      exact h.shared e he

/-- Nor are they what a call is answered with. -/
theorem Newer.of_replied {p : π} {key : κ} {given : Nat} (h : Newer R p key given s)
    (heffect : Effect R s s') {r : Reply κ ν} (hr : s'.replied p r) (hkey : r.key = key) :
    s.replied p r ∨ given ≤ R.given r.value := by
  subst hkey
  rcases heffect.replied p r hr with hold | ⟨-, ⟨e, he, -, hvalue⟩ | ⟨held, hheld, hkey, hvalue⟩⟩
  · exact Or.inl hold
  · rw [hvalue]
    exact Or.inr (h.own e he)
  · rw [← hvalue]
    exact Or.inr (h.holds held hheld hkey)

end TwoLevelCache
