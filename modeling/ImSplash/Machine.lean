import Mathlib.Tactic.TypeStar

/-!
# Partial labelled machines and their runs

A `Machine` answers an event by its next state, or by nothing when the event
cannot happen in the state it is in.  Everything nondeterministic about an
environment (which callback comes next, what a server answers) is a label, so
the step itself is a function and a run is the list of its events.

`Along R s es` says that every transition the events `es` drive from `s`
satisfies `R`; the run ends at the first event that cannot happen.
`along_iff_of_run` spells this out over the transitions of the run.  Two rules
carry every result about whole runs:

* `along_of_invariant`: an invariant that the steps allowed by a condition
  preserve holds along every run that keeps to the condition;
* `along_iff_of_exact`: when, from the states a property allows, a step keeps
  the property exactly if it meets a condition, then the runs that keep the
  property are exactly the runs whose steps all meet the condition.
-/

namespace Runs

/-- A deterministic machine whose events may be impossible in a state. -/
structure Machine (σ ε : Type*) where
  /-- The state after an event, `none` when the event cannot happen. -/
  step : σ → ε → Option σ

namespace Machine
variable {σ ε : Type*} (M : Machine σ ε)

/-- The same machine, offered only the events that satisfy `p`. -/
def restrict (p : ε → Bool) : Machine σ ε where
  step s e := if p e then M.step s e else none

/-- Every transition that the events drive from the state satisfies `R`. -/
def Along (R : σ → ε → σ → Prop) : σ → List ε → Prop
  | _, [] => True
  | s, e :: es => ∀ t, M.step s e = some t → R s e t ∧ Along R t es

/-- `Run s es t`: the events `es` can all happen in turn from `s`, and lead to `t`. -/
inductive Run : σ → List ε → σ → Prop
  | nil (s : σ) : Run s [] s
  | cons {s t u : σ} {e : ε} {es : List ε} (hstep : M.step s e = some t) (hrun : Run t es u) :
      Run s (e :: es) u

variable {M}

theorem restrict_step {p : ε → Bool} {s t : σ} {e : ε} :
    (M.restrict p).step s e = some t ↔ p e = true ∧ M.step s e = some t := by
  simp only [restrict]
  split <;> simp_all

/-- **What `Along` says**: `R` holds of every transition of the run, that is of
every step taken after some initial part of the events. -/
theorem along_iff_of_run {R : σ → ε → σ → Prop} {s : σ} {es : List ε} :
    M.Along R s es ↔ ∀ pre e post t u, es = pre ++ e :: post → M.Run s pre t →
      M.step t e = some u → R t e u := by
  induction es generalizing s with
  | nil => simp [Along]
  | cons a es ih =>
    constructor
    · intro h pre e post t u hes hrun hstep
      cases hrun with
      | nil =>
        obtain ⟨rfl, rfl⟩ := List.cons.inj hes
        exact (h u hstep).1
      | cons h0 hrun =>
        obtain ⟨rfl, rfl⟩ := List.cons.inj hes
        exact ih.mp (h _ h0).2 _ e post t u rfl hrun hstep
    · intro h t hstep
      refine ⟨h [] a es s t rfl (.nil s) hstep, ih.mpr ?_⟩
      intro pre e post t' u hes hrun hstep'
      exact h (a :: pre) e post t' u (by rw [hes]; rfl) (.cons hstep hrun) hstep'

theorem along_cons {R : σ → ε → σ → Prop} {s t : σ} {e : ε} {es : List ε}
    (hstep : M.step s e = some t) : M.Along R s (e :: es) ↔ R s e t ∧ M.Along R t es := by
  constructor
  · exact fun h => h t hstep
  · intro h u hu
    obtain rfl : t = u := Option.some.inj (hstep.symm.trans hu)
    exact h

/-- The last transition of a run. -/
theorem Along.last {R : σ → ε → σ → Prop} {s t u : σ} {es : List ε} {e : ε}
    (h : M.Along R s (es ++ [e])) (hes : es.foldlM M.step s = some t)
    (hstep : M.step t e = some u) : R t e u := by
  induction es generalizing s with
  | nil =>
    obtain rfl : s = t := Option.some.inj hes
    exact (h u hstep).1
  | cons a es ih =>
    rw [List.foldlM_cons] at hes
    obtain ⟨s', hs', hes⟩ := Option.bind_eq_some_iff.mp hes
    exact ih (h s' hs').2 hes

theorem Along.and {R R' : σ → ε → σ → Prop} {s : σ} {es : List ε}
    (h : M.Along R s es) (h' : M.Along R' s es) :
    M.Along (fun s e t => R s e t ∧ R' s e t) s es := by
  induction es generalizing s with
  | nil => trivial
  | cons e es ih =>
    exact fun t hstep => ⟨⟨(h t hstep).1, (h' t hstep).1⟩, ih (h t hstep).2 (h' t hstep).2⟩

theorem Run.append {s t u : σ} {es es' : List ε} (h : M.Run s es t) (h' : M.Run t es' u) :
    M.Run s (es ++ es') u := by
  induction h with
  | nil => exact h'
  | cons hstep _ ih => exact .cons hstep (ih h')

theorem Along.append {R : σ → ε → σ → Prop} {s t : σ} {es es' : List ε} (hrun : M.Run s es t)
    (h : M.Along R s es) (h' : M.Along R t es') : M.Along R s (es ++ es') := by
  induction hrun with
  | nil => exact h'
  | cons hstep _ ih =>
    obtain ⟨hR, hrest⟩ := (along_cons hstep).mp h
    exact (along_cons hstep).mpr ⟨hR, ih hrest h'⟩

theorem along_of_forall {R : σ → ε → σ → Prop} {es : List ε} (h : ∀ e ∈ es, ∀ s t, R s e t)
    (s : σ) : M.Along R s es := by
  induction es generalizing s with
  | nil => trivial
  | cons e es ih =>
    exact fun t _ => ⟨h e List.mem_cons_self s t,
      ih (fun e' he' => h e' (List.mem_cons_of_mem e he')) t⟩

/-- **The invariant rule.**  `Good` holds at the start and every step that meets
`C` keeps it and does `R`; then `R` holds along every run whose steps all meet
`C`. -/
theorem along_of_invariant {Good : σ → Prop} {C R : σ → ε → σ → Prop}
    (hstep : ∀ s e t, Good s → M.step s e = some t → C s e t → Good t ∧ R s e t)
    {s : σ} (h0 : Good s) {es : List ε} (hC : M.Along C s es) : M.Along R s es := by
  induction es generalizing s with
  | nil => trivial
  | cons e es ih =>
    intro t ht
    obtain ⟨hgood, hR⟩ := hstep s e t h0 ht (hC t ht).1
    exact ⟨hR, ih hgood (hC t ht).2⟩

/-- The invariant rule, for an invariant that every step keeps. -/
theorem along_of_step_invariant {Good : σ → Prop} {R : σ → ε → σ → Prop}
    (hstep : ∀ s e t, Good s → M.step s e = some t → Good t ∧ R s e t)
    {s : σ} (h0 : Good s) (es : List ε) : M.Along R s es := by
  induction es generalizing s with
  | nil => trivial
  | cons e es ih =>
    intro t ht
    obtain ⟨hgood, hR⟩ := hstep s e t h0 ht
    exact ⟨hR, ih hgood⟩

/-- The invariant rule, for the state a run ends in. -/
theorem Run.invariant {Good : σ → Prop} {C : σ → ε → σ → Prop}
    (hstep : ∀ s e t, Good s → M.step s e = some t → C s e t → Good t)
    {s t : σ} {es : List ε} (h : M.Run s es t) (h0 : Good s) (hC : M.Along C s es) :
    Good t := by
  induction h with
  | nil => exact h0
  | cons ht _ ih => exact ih (hstep _ _ _ h0 ht (hC _ ht).1) (hC _ ht).2

/-- **The exactness rule.**  From every `Good` state a step has `R` exactly when
it meets `C`, and `R` keeps `Good`; then the runs all of whose transitions have
`R` are exactly the runs all of whose steps meet `C`. -/
theorem along_iff_of_exact {Good : σ → Prop} {C R : σ → ε → σ → Prop}
    (hexact : ∀ s e t, Good s → M.step s e = some t → (R s e t ↔ C s e t))
    (hgood : ∀ s e t, Good s → M.step s e = some t → R s e t → Good t)
    {s : σ} (h0 : Good s) (es : List ε) : M.Along R s es ↔ M.Along C s es := by
  -- Either way the step is shown to have `R`, which keeps `Good` for the steps after it.
  induction es generalizing s with
  | nil => exact Iff.rfl
  | cons e es ih =>
    constructor
    · intro h t ht
      have hR := (h t ht).1
      exact ⟨(hexact s e t h0 ht).mp hR, (ih (hgood s e t h0 ht hR)).mp (h t ht).2⟩
    · intro h t ht
      have hR := (hexact s e t h0 ht).mpr (h t ht).1
      exact ⟨hR, (ih (hgood s e t h0 ht hR)).mpr (h t ht).2⟩

/-! ### Reachability -/

variable (M)

/-- A run whose steps all meet `C` leads from the one state to the other. -/
def Reaches (C : σ → ε → σ → Prop) (s t : σ) : Prop := ∃ es, M.Run s es t ∧ M.Along C s es

variable {M} {C : σ → ε → σ → Prop}

theorem Reaches.refl (s : σ) : M.Reaches C s s := ⟨[], .nil s, trivial⟩

theorem Reaches.head {s t u : σ} {e : ε} (hstep : M.step s e = some t) (hC : C s e t)
    (h : M.Reaches C t u) : M.Reaches C s u := by
  obtain ⟨es, hrun, halong⟩ := h
  exact ⟨e :: es, .cons hstep hrun, (along_cons hstep).mpr ⟨hC, halong⟩⟩

theorem Reaches.trans {s t u : σ} (h : M.Reaches C s t) (h' : M.Reaches C t u) :
    M.Reaches C s u := by
  obtain ⟨es, hrun, halong⟩ := h
  obtain ⟨es', hrun', halong'⟩ := h'
  exact ⟨es ++ es', hrun.append hrun', halong.append hrun halong'⟩

/-- What such steps keep is kept. -/
theorem Reaches.invariant {Good : σ → Prop}
    (hstep : ∀ s e t, Good s → M.step s e = some t → C s e t → Good t) {s t : σ}
    (h : M.Reaches C s t) (h0 : Good s) : Good t := by
  obtain ⟨es, hrun, halong⟩ := h
  exact hrun.invariant hstep h0 halong

end Machine

end Runs
