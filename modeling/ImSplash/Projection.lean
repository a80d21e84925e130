import ImSplash.Machine

/-!
# Machines that project onto others

A part of a system is a machine of its own when every step of the whole is a step of the
part, or leaves the part alone.  `Projection` says so: `state` is the part of a state, and
`event` the event of the part that an event of the whole amounts to, if it amounts to one.
Steps are only looked at from the `Good` states, which the whole keeps to.

The events of the part along a run of the whole are its `trace`.  Two rules use it:

* `Projection.run`: a run of the whole is a run of the part;
* `Projection.along_trace_iff`: what holds along the run of the part is what holds of the
  steps of the whole that amount to a step of it.

Projections compose (`Projection.comp`).
-/

namespace Runs

/-- Every step of `M` from a good state is a step of `N`, or none. -/
structure Projection {σ ε τ δ : Type*} (M : Machine σ ε) (N : Machine τ δ) (Good : σ → Prop) where
  state : σ → τ
  event : σ → ε → Option δ
  good : ∀ {s t : σ} {e : ε}, Good s → M.step s e = some t → Good t
  stutter : ∀ {s t : σ} {e : ε}, Good s → M.step s e = some t → event s e = none →
    state t = state s
  step : ∀ {s t : σ} {e : ε} {d : δ}, Good s → M.step s e = some t → event s e = some d →
    N.step (state s) d = some (state t)

namespace Projection
variable {σ ε τ δ : Type*} {M : Machine σ ε} {N : Machine τ δ} {Good : σ → Prop}

/-- The events of the part along a run of the whole, which ends where the run does. -/
def trace (P : Projection M N Good) : σ → List ε → List δ
  | _, [] => []
  | s, e :: es =>
    match M.step s e with
    | none => []
    | some t => (P.event s e).toList ++ P.trace t es

variable (P : Projection M N Good)

theorem trace_cons {s t : σ} {e : ε} (hstep : M.step s e = some t) (es : List ε) :
    P.trace s (e :: es) = (P.event s e).toList ++ P.trace t es := by
  rw [trace, hstep]

/-- One step of the whole is a run of the part, of at most one step. -/
theorem run_event {s t : σ} {e : ε} (h : Good s) (hstep : M.step s e = some t) :
    N.Run (P.state s) (P.event s e).toList (P.state t) := by
  cases hevent : P.event s e with
  | none =>
    rw [P.stutter h hstep hevent]
    exact .nil _
  | some d => exact .cons (P.step h hstep hevent) (.nil _)

/-- **A run of the whole is a run of the part.** -/
theorem run {s t : σ} {es : List ε} (hrun : M.Run s es t) (h : Good s) :
    N.Run (P.state s) (P.trace s es) (P.state t) := by
  induction hrun with
  | nil => exact .nil _
  | cons hstep _ ih =>
    rw [P.trace_cons hstep]
    exact (P.run_event h hstep).append (ih (P.good h hstep))

/-- **What holds along the run of the part**: what holds of every step of the whole that
amounts to a step of the part. -/
theorem along_trace_iff {R : τ → δ → τ → Prop} {s : σ} (h : Good s) (es : List ε) :
    N.Along R (P.state s) (P.trace s es) ↔
      M.Along (fun s e t => ∀ d, P.event s e = some d → R (P.state s) d (P.state t)) s es := by
  induction es generalizing s with
  | nil => exact Iff.rfl
  | cons e es ih =>
    cases hstep : M.step s e with
    | none =>
      -- The whole cannot move, so neither run goes on.
      refine iff_of_true ?_ fun t ht => ?_
      · rw [trace, hstep]
        trivial
      · rw [hstep] at ht
        cases ht
    | some t =>
      rw [P.trace_cons hstep, Machine.along_cons hstep, ← ih (P.good h hstep)]
      cases hevent : P.event s e with
      | none =>
        rw [← P.stutter h hstep hevent]
        simp
      | some d =>
        show N.Along R (P.state s) (d :: P.trace t es) ↔ _
        rw [Machine.along_cons (P.step h hstep hevent)]
        simp

/-- A part of a part is a part. -/
def comp {υ γ : Type*} {K : Machine υ γ} {Good' : τ → Prop} (P : Projection M N Good)
    (Q : Projection N K Good') : Projection M K fun s => Good s ∧ Good' (P.state s) where
  state s := Q.state (P.state s)
  event s e := (P.event s e).bind (Q.event (P.state s))
  good {s t e} h hstep := by
    refine ⟨P.good h.1 hstep, ?_⟩
    cases hevent : P.event s e with
    | none =>
      rw [P.stutter h.1 hstep hevent]
      exact h.2
    | some d => exact Q.good h.2 (P.step h.1 hstep hevent)
  stutter {s t e} h hstep hevent := by
    cases hpart : P.event s e with
    | none => rw [P.stutter h.1 hstep hpart]
    | some d =>
      rw [hpart] at hevent
      exact Q.stutter h.2 (P.step h.1 hstep hpart) hevent
  step {s t e d} h hstep hevent := by
    obtain ⟨d', hpart, hevent⟩ := Option.bind_eq_some_iff.mp hevent
    exact Q.step h.2 (P.step h.1 hstep hpart) hevent

end Projection

end Runs
