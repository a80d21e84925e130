import ImSplash.Machine

/-!
# What a run brings about

The steps of a machine may each bring about something: a write, a message, a delivery.
`collect` lists what the steps of a run bring about, in their order.  Two rules read the state
a run ends in off such lists:

* `Run.foldl_collect`: a part of the state that each step changes by what it brings about is
  what all that makes of it;
* `Run.fifo`: a queue that each step takes from in front and adds to at the end loses nothing
  and has nothing twice.
-/

namespace Runs.Machine
variable {σ ε δ ρ : Type*} {M : Machine σ ε} {Good : σ → Prop}

/-- What the steps bring about that the events drive from the state. -/
def collect (M : Machine σ ε) (f : σ → ε → Option δ) : σ → List ε → List δ
  | _, [] => []
  | s, e :: es =>
    match M.step s e with
    | none => []
    | some t => (f s e).toList ++ M.collect f t es

theorem collect_cons {f : σ → ε → Option δ} {s t : σ} {e : ε} (hstep : M.step s e = some t)
    (es : List ε) : M.collect f s (e :: es) = (f s e).toList ++ M.collect f t es := by
  rw [collect, hstep]

/-- What each step makes of a part of the state, a run makes of it by all its steps. -/
theorem Run.foldl_collect {f : σ → ε → Option δ} {part : σ → ρ} {perform : ρ → δ → ρ}
    (hstep : ∀ s e t, Good s → M.step s e = some t →
      Good t ∧ part t = (f s e).toList.foldl perform (part s))
    {s t : σ} {es : List ε} (hrun : M.Run s es t) (h : Good s) :
    part t = (M.collect f s es).foldl perform (part s) := by
  induction hrun with
  | nil => rfl
  | cons hnext _ ih =>
    obtain ⟨hgood, hpart⟩ := hstep _ _ _ h hnext
    rw [collect_cons hnext, List.foldl_append, ← hpart]
    exact ih hgood

/-- **First in, first out**: what has been taken out, and then what waits, is what waited, and
then what has been put in. -/
theorem Run.fifo {takes puts : σ → ε → Option δ} {queue : σ → List δ}
    (hstep : ∀ s e t, Good s → M.step s e = some t →
      Good t ∧ (takes s e).toList ++ queue t = queue s ++ (puts s e).toList)
    {s t : σ} {es : List ε} (hrun : M.Run s es t) (h : Good s) :
    M.collect takes s es ++ queue t = queue s ++ M.collect puts s es := by
  induction hrun with
  | nil => rw [collect, collect, List.nil_append, List.append_nil]
  | cons hnext _ ih =>
    obtain ⟨hgood, hqueue⟩ := hstep _ _ _ h hnext
    rw [collect_cons hnext, collect_cons hnext, List.append_assoc, ih hgood, ← List.append_assoc,
      hqueue, List.append_assoc]

end Runs.Machine
