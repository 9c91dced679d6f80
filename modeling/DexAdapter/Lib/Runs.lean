import Mathlib.Data.List.Induction

/-!
# Runs of a partial step function

A system is a function from a state and an action to the next state, where `none` says that the
action cannot happen. `run` is a sequence of actions. A property of the actions so far and of the
state they lead to is proved with `run_induction`; `run_split` cuts a run in two. Of two systems one
simulates the other when its runs can follow the other's steps (`reaches_of_run`). `logOf` is what
is observed along a run.
-/

namespace Runs

variable {σ α : Type} (step : σ → α → Option σ)

def run (s : σ) (actions : List α) : Option σ := actions.foldlM step s

@[simp] theorem run_nil (s : σ) : run step s [] = some s := rfl

theorem run_append (s : σ) (first rest : List α) :
    run step s (first ++ rest) = (run step s first).bind fun t => run step t rest := by
  simp only [run, List.foldlM_append]
  rfl

@[simp] theorem run_singleton (s : σ) (a : α) : run step s [a] = step s a := by
  simp only [run, List.foldlM_cons, List.foldlM_nil]
  exact bind_pure (step s a)

variable {step}

/-- A run passes through a state wherever it is cut. -/
theorem run_split {s u : σ} {first rest : List α} (h : run step s (first ++ rest) = some u) :
    ∃ t, run step s first = some t ∧ run step t rest = some u := by
  rw [run_append] at h
  exact Option.bind_eq_some_iff.1 h

theorem run_join {s t u : σ} {first rest : List α} (hfirst : run step s first = some t)
    (hrest : run step t rest = some u) : run step s (first ++ rest) = some u := by
  rw [run_append, hfirst]
  exact hrest

theorem run_concat {s u : σ} {actions : List α} {a : α} :
    run step s (actions ++ [a]) = some u ↔
      ∃ t, run step s actions = some t ∧ step t a = some u := by
  constructor
  · intro h
    obtain ⟨t, ht, hu⟩ := run_split h
    exact ⟨t, ht, by simpa using hu⟩
  · rintro ⟨t, ht, hu⟩
    exact run_join ht (by simpa using hu)

/-- **Induction along a run**, from its first state to its last. -/
theorem run_induction {s : σ} {P : List α → σ → Prop} (hinit : P [] s)
    (hstep : ∀ actions t a u, run step s actions = some t → P actions t → step t a = some u →
      P (actions ++ [a]) u) {actions : List α} {t : σ} (h : run step s actions = some t) :
    P actions t := by
  induction actions using List.reverseRecOn generalizing t with
  | nil =>
    obtain rfl := Option.some.inj h
    exact hinit
  | append_singleton actions a ih =>
    obtain ⟨u, hu, ht⟩ := run_concat.1 h
    exact hstep actions u a t hu (ih hu) ht

variable (step) in
/-- Some run leads from the one state to the other. -/
def Reaches (s t : σ) : Prop := ∃ actions, run step s actions = some t

theorem Reaches.refl (s : σ) : Reaches step s s := ⟨[], rfl⟩

theorem Reaches.trans {s t u : σ} (h : Reaches step s t) (h' : Reaches step t u) :
    Reaches step s u := by
  obtain ⟨first, hfirst⟩ := h
  obtain ⟨rest, hrest⟩ := h'
  exact ⟨first ++ rest, run_join hfirst hrest⟩

theorem Reaches.of_step {s t : σ} {a : α} (h : step s a = some t) : Reaches step s t :=
  ⟨[a], (run_singleton step s a).trans h⟩

/-- **Simulation**: a system that can follow each step of a run can follow the run. -/
theorem reaches_of_run {τ β : Type} {step' : τ → β → Option τ} {R : σ → τ → Prop} {P : α → Prop}
    (hfollow : ∀ s t a s', R s t → P a → step s a = some s' →
      ∃ t', Reaches step' t t' ∧ R s' t')
    {s s' : σ} {t : τ} {actions : List α} (hR : R s t) (hP : ∀ a ∈ actions, P a)
    (h : run step s actions = some s') : ∃ t', Reaches step' t t' ∧ R s' t' := by
  have hrun := run_induction
    (P := fun actions s' => (∀ a ∈ actions, P a) → ∃ t', Reaches step' t t' ∧ R s' t')
    (fun _ => ⟨t, .refl t, hR⟩) (fun actions u a v _ ih hv hP => by
      obtain ⟨t', ht', hu⟩ := ih fun b hb => hP b (List.mem_append_left _ hb)
      obtain ⟨t'', ht'', hR'⟩ :=
        hfollow u t' a v hu (hP a (List.mem_append_right _ (List.mem_singleton.2 rfl))) hv
      exact ⟨t'', ht'.trans ht'', hR'⟩) h
  exact hrun hP

/-! ## Runs whose steps all meet a condition -/

variable (step) in
/-- Every action of the run meets `P` in the state in which it happens. -/
def EachStep (P : σ → α → Prop) (s : σ) (actions : List α) : Prop :=
  ∀ before a after t, actions = before ++ a :: after → run step s before = some t → P t a

theorem EachStep.left {P : σ → α → Prop} {s : σ} {first rest : List α}
    (h : EachStep step P s (first ++ rest)) : EachStep step P s first := by
  rintro before a after t rfl ht
  exact h before a (after ++ rest) t (by simp) ht

theorem EachStep.last {P : σ → α → Prop} {s t : σ} {actions : List α} {a : α}
    (h : EachStep step P s (actions ++ [a])) (ht : run step s actions = some t) : P t a :=
  h actions a [] t rfl ht

/-- What each step keeps, under a condition that each step meets, holds where the run ends. -/
theorem EachStep.induction {P : σ → α → Prop} {I : σ → Prop} {s t : σ} {actions : List α}
    (hsteps : EachStep step P s actions) (hinit : I s)
    (hstep : ∀ t a u, I t → P t a → step t a = some u → I u) (h : run step s actions = some t) :
    I t := by
  have hrun := run_induction (P := fun actions t => EachStep step P s actions → I t)
    (fun _ => hinit) (fun actions t a u ht ih hu hsteps => hstep t a u (ih hsteps.left)
      (hsteps.last ht) hu) h
  exact hrun hsteps

/-- Induction along a run with the place of each step in it. -/
theorem run_prefix_induction {s : σ} {actions : List α} {P : List α → σ → Prop} (hinit : P [] s)
    (hstep : ∀ before a after t u, actions = before ++ a :: after → run step s before = some t →
      P before t → step t a = some u → P (before ++ [a]) u) {t : σ}
    (h : run step s actions = some t) : P actions t := by
  have hrun := run_induction (P := fun before t => ∀ after, actions = before ++ after → P before t)
    (fun _ _ => hinit) (fun before t a u ht ih hu after hcut => by
      rw [List.append_assoc, List.singleton_append] at hcut
      exact hstep before a after t u hcut ht (ih _ hcut) hu) h
  exact hrun [] (List.append_nil _).symm

/-! ## Logs -/

section Log

variable {β : Type}

variable (step) in
/-- What is observed of the steps of a run, one after the other. -/
def logOf (observe : σ → α → List β) : σ → List α → List β
  | _, [] => []
  | s, a :: rest =>
    observe s a ++ match step s a with
      | some t => logOf observe t rest
      | none => []

theorem logOf_concat {observe : σ → α → List β} {s t : σ} {actions : List α} {a : α}
    (h : run step s actions = some t) :
    logOf step observe s (actions ++ [a]) = logOf step observe s actions ++ observe t a := by
  induction actions generalizing s with
  | nil =>
    obtain rfl := Option.some.inj h
    cases hstep : step s a <;> simp [logOf, hstep]
  | cons b rest ih =>
    obtain ⟨u, hu, hrest⟩ := run_split (show run step s ([b] ++ rest) = some t from h)
    rw [run_singleton] at hu
    simp only [List.cons_append, logOf, hu, ih hrest, List.append_assoc]

/-- Induction along a run and its log. -/
theorem run_log_induction {observe : σ → α → List β} {s : σ} {P : List β → σ → Prop}
    (hinit : P [] s)
    (hstep : ∀ log t a u, P log t → step t a = some u → P (log ++ observe t a) u)
    {actions : List α} {t : σ} (h : run step s actions = some t) :
    P (logOf step observe s actions) t :=
  run_induction (P := fun actions t => P (logOf step observe s actions) t) hinit
    (fun actions t a u ht ih hu => by
      rw [logOf_concat ht]
      exact hstep _ t a u ih hu) h

end Log

end Runs
