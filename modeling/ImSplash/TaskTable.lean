import Mathlib.Tactic.TypeStar

/-!
# A table of tasks with identities

A platform session hands out tasks, each with an identity, the request it was
made for and a status.  A task is created running; cancelling asks a running
task to stop, which does not retract a callback already on its way, so a
cancelled task is still outstanding until its last callback settles it as
finished or failed.

`TaskTable` keeps the tasks in creation order, so an identity is a position and
is never used again.  The lemmas describe each operation by what it does to
`find?`, to the running tasks and to the outstanding ones.
-/

namespace Runs

/-- The status of a task. -/
inductive TaskStatus
  | running
  | cancelled
  | finished
  | failed
deriving DecidableEq, Repr

/-- The callbacks of a task that has not been settled may still come. -/
def TaskStatus.Outstanding : TaskStatus → Bool
  | running | cancelled => true
  | finished | failed => false

/-- A task: what it was made for, and its status. -/
structure SessionTask (κ : Type*) where
  request : κ
  status : TaskStatus

/-- The tasks a session has handed out, in the order of their creation. -/
structure TaskTable (κ : Type*) where
  tasks : List (SessionTask κ) := []

/-- The identity of a task: its position in the table. -/
abbrev TaskId := Nat

namespace TaskTable
variable {κ : Type*} (T : TaskTable κ)

/-- The task with an identity. -/
def find? (i : TaskId) : Option (SessionTask κ) := T.tasks[i]?

/-- The identity the next task will have. -/
def nextId : TaskId := T.tasks.length

/-- A new running task. -/
def create (r : κ) : TaskTable κ := ⟨T.tasks ++ [⟨r, .running⟩]⟩

/-- The last callback of a task has come: it is finished or failed. -/
def settle (i : TaskId) (status : TaskStatus) : TaskTable κ :=
  ⟨T.tasks.modify i fun task => { task with status := status }⟩

/-- The effect of cancelling on one task: only a running one is stopped. -/
def stop (task : SessionTask κ) : SessionTask κ :=
  if task.status = .running then { task with status := .cancelled } else task

/-- Ask one task to stop. -/
def cancel (i : TaskId) : TaskTable κ := ⟨T.tasks.modify i stop⟩

/-- Ask every task to stop. -/
def cancelAll : TaskTable κ := ⟨T.tasks.map stop⟩

/-- `i` is a running task, made for `r`. -/
def Running (i : TaskId) (r : κ) : Prop := T.find? i = some ⟨r, .running⟩

/-- Some callback of `i`, made for `r`, may still come. -/
def Outstanding (i : TaskId) (r : κ) : Prop :=
  ∃ task, T.find? i = some task ∧ task.request = r ∧ task.status.Outstanding = true

/-- The request of a task some callback of which may still come. -/
def outstanding? (i : TaskId) : Option κ :=
  match T.find? i with
  | some task => if task.status.Outstanding then some task.request else none
  | none => none

/-- No callback of any task can still come. -/
def Quiet : Prop := ∀ i r, ¬ T.Outstanding i r

variable {T}

theorem Running.unique {i : TaskId} {r r' : κ} (h : T.Running i r) (h' : T.Running i r') :
    r = r' :=
  congrArg SessionTask.request (Option.some.inj (h.symm.trans h'))

theorem lt_nextId_of_find? {i : TaskId} {task : SessionTask κ} (h : T.find? i = some task) :
    i < T.nextId :=
  (List.getElem?_eq_some_iff.mp h).1

/-! ### What each operation does to `find?` -/

theorem find?_create (r : κ) (i : TaskId) :
    (T.create r).find? i = if i = T.nextId then some ⟨r, .running⟩ else T.find? i := by
  by_cases hi : i = T.nextId
  · subst hi
    simp [find?, create, nextId]
  · rw [if_neg hi]
    -- An old task is where it was; beyond the new one there is none.
    rcases Nat.lt_or_gt_of_ne hi with h | h
    · exact List.getElem?_append_left h
    · rw [find?, find?, List.getElem?_eq_none (Nat.le_of_lt h)]
      exact List.getElem?_eq_none (by simpa [create, nextId] using Nat.succ_le_of_lt h)

theorem find?_settle (i j : TaskId) (status : TaskStatus) :
    (T.settle i status).find? j =
      if j = i then (T.find? j).map fun task => { task with status := status } else T.find? j := by
  simp only [find?, settle, List.getElem?_modify]
  by_cases h : j = i
  · subst h; simp
  · rw [if_neg h]; simp [Ne.symm h]

/-- A task that is settled is for the same request. -/
theorem map_request_settle (T : TaskTable κ) (i : TaskId) (status : TaskStatus) :
    (T.settle i status).tasks.map SessionTask.request = T.tasks.map SessionTask.request := by
  refine List.ext_getElem? fun j => ?_
  rw [List.getElem?_map, List.getElem?_map]
  show ((T.settle i status).find? j).map _ = (T.find? j).map _
  rw [find?_settle]
  split
  · rw [Option.map_map]
    rfl
  · rfl

theorem find?_cancel (i j : TaskId) :
    (T.cancel i).find? j = if j = i then (T.find? j).map stop else T.find? j := by
  simp only [find?, cancel, List.getElem?_modify]
  by_cases h : j = i
  · subst h; simp
  · rw [if_neg h]; simp [Ne.symm h]

theorem find?_cancelAll (j : TaskId) : T.cancelAll.find? j = (T.find? j).map stop := by
  simp [find?, cancelAll]

/-! ### Running tasks -/

@[simp] theorem running_create {r q : κ} {i : TaskId} :
    (T.create r).Running i q ↔ T.Running i q ∨ i = T.nextId ∧ q = r := by
  unfold Running
  rw [find?_create]
  split
  · rename_i h
    subst h
    constructor
    · intro h
      exact Or.inr ⟨rfl, (congrArg SessionTask.request (Option.some.inj h)).symm⟩
    · rintro (h | ⟨-, rfl⟩)
      · exact absurd (lt_nextId_of_find? h) (Nat.lt_irrefl _)
      · rfl
  · rename_i h
    exact ⟨Or.inl, fun h' => h'.resolve_right fun hi => h hi.1⟩

theorem running_settle {i j : TaskId} {q : κ} {status : TaskStatus} (h : status ≠ .running) :
    (T.settle i status).Running j q ↔ T.Running j q ∧ j ≠ i := by
  unfold Running
  rw [find?_settle]
  by_cases hj : j = i
  · subst hj
    cases hf : T.find? j <;> simp [h]
  · simp [hj]

theorem stop_ne_running (task : SessionTask κ) : (stop task).status ≠ .running := by
  unfold stop
  split
  · simp
  · assumption

@[simp] theorem running_cancel {i j : TaskId} {q : κ} :
    (T.cancel i).Running j q ↔ T.Running j q ∧ j ≠ i := by
  unfold Running
  rw [find?_cancel]
  by_cases hj : j = i
  · subst hj
    cases hf : T.find? j with
    | none => simp
    | some task =>
      simp only [if_true, Option.map_some, Option.some.injEq, ne_eq, not_true, and_false, iff_false]
      intro he
      exact stop_ne_running task (by rw [he])
  · simp [hj]

theorem not_running_cancelAll {i : TaskId} {q : κ} : ¬ T.cancelAll.Running i q := by
  unfold Running
  rw [find?_cancelAll]
  intro h
  obtain ⟨task, -, hstop⟩ := Option.map_eq_some_iff.mp h
  exact stop_ne_running task (by rw [hstop])

/-! ### Outstanding tasks -/

theorem outstanding?_eq_some {i : TaskId} {r : κ} :
    T.outstanding? i = some r ↔ T.Outstanding i r := by
  unfold outstanding? Outstanding
  cases T.find? i with
  | none => simp
  | some task =>
    by_cases h : task.status.Outstanding = true
    · simp [h]
    · simp [h]

theorem Outstanding.lt_nextId {i : TaskId} {r : κ} (h : T.Outstanding i r) : i < T.nextId := by
  obtain ⟨_, hf, -, -⟩ := h
  exact lt_nextId_of_find? hf

@[simp] theorem outstanding_create {r q : κ} {i : TaskId} :
    (T.create r).Outstanding i q ↔ T.Outstanding i q ∨ i = T.nextId ∧ q = r := by
  unfold Outstanding
  rw [find?_create]
  split
  · rename_i h
    subst h
    constructor
    · rintro ⟨task, h, rfl, -⟩
      exact Or.inr ⟨rfl, (congrArg SessionTask.request (Option.some.inj h)).symm⟩
    · rintro (⟨_, h, -⟩ | ⟨-, rfl⟩)
      · exact absurd (lt_nextId_of_find? h) (Nat.lt_irrefl _)
      · exact ⟨_, rfl, rfl, rfl⟩
  · rename_i h
    exact ⟨Or.inl, fun h' => h'.resolve_right fun hi => h hi.1⟩

theorem outstanding_settle {i j : TaskId} {q : κ} {status : TaskStatus}
    (h : status.Outstanding = false) :
    (T.settle i status).Outstanding j q ↔ T.Outstanding j q ∧ j ≠ i := by
  unfold Outstanding
  rw [find?_settle]
  by_cases hj : j = i
  · subst hj
    cases hf : T.find? j <;> simp [h]
  · simp [hj]

theorem stop_outstanding (task : SessionTask κ) :
    (stop task).status.Outstanding = task.status.Outstanding := by
  unfold stop
  split
  · rename_i h; rw [h]; rfl
  · rfl

theorem stop_request (task : SessionTask κ) : (stop task).request = task.request := by
  unfold stop
  split <;> rfl

@[simp] theorem outstanding_cancelAll {j : TaskId} {q : κ} :
    T.cancelAll.Outstanding j q ↔ T.Outstanding j q := by
  unfold Outstanding
  rw [find?_cancelAll]
  cases hf : T.find? j <;> simp [stop_outstanding, stop_request]

@[simp] theorem nextId_cancelAll : T.cancelAll.nextId = T.nextId := by
  simp [nextId, cancelAll]

/-- In a quiet table the task just created is the only one outstanding. -/
theorem Quiet.outstanding_create (h : T.Quiet) {r q : κ} {i : TaskId} :
    (T.create r).Outstanding i q ↔ i = T.nextId ∧ q = r := by
  rw [TaskTable.outstanding_create]
  exact or_iff_right (h i q)

/-- When the only outstanding task is settled the table is quiet. -/
theorem quiet_settle {j : TaskId} {status : TaskStatus} (hstatus : status.Outstanding = false)
    (hunique : ∀ i r, T.Outstanding i r → i = j) : (T.settle j status).Quiet := by
  intro i r hi
  obtain ⟨hi, hne⟩ := (outstanding_settle hstatus).mp hi
  exact hne (hunique i r hi)

/-! ### Tables that go on -/

/-- The tasks of the one table are in the other, made for the same; a task that runs there ran
here, or is new. -/
structure GoesOn (T T' : TaskTable κ) : Prop where
  nextId : T.nextId ≤ T'.nextId
  task : ∀ {i task}, i < T.nextId → T'.find? i = some task → ∃ old, T.find? i = some old ∧
    task.request = old.request ∧ (task.status = .running → old.status = .running)

variable {T' T'' : TaskTable κ}

theorem GoesOn.refl (T : TaskTable κ) : T.GoesOn T :=
  ⟨Nat.le_refl _, fun _ hfind => ⟨_, hfind, rfl, id⟩⟩

theorem GoesOn.trans (h : T.GoesOn T') (h' : T'.GoesOn T'') : T.GoesOn T'' := by
  refine ⟨Nat.le_trans h.nextId h'.nextId, fun hi hfind => ?_⟩
  obtain ⟨mid, hmid, hrequest, hruns⟩ := h'.task (Nat.lt_of_lt_of_le hi h.nextId) hfind
  obtain ⟨old, hold, hrequest', hruns'⟩ := h.task hi hmid
  exact ⟨old, hold, hrequest.trans hrequest', fun hrunning => hruns' (hruns hrunning)⟩

theorem goesOn_create (T : TaskTable κ) (request : κ) : T.GoesOn (T.create request) := by
  refine ⟨by simp [nextId, create], fun hi hfind => ?_⟩
  rw [find?_create, if_neg (Nat.ne_of_lt hi)] at hfind
  exact ⟨_, hfind, rfl, id⟩

theorem goesOn_cancelAll (T : TaskTable κ) : T.GoesOn T.cancelAll := by
  refine ⟨Nat.le_of_eq nextId_cancelAll.symm, fun _ hfind => ?_⟩
  rw [find?_cancelAll] at hfind
  obtain ⟨old, hold, rfl⟩ := Option.map_eq_some_iff.mp hfind
  exact ⟨old, hold, stop_request old, fun hrunning => absurd hrunning (stop_ne_running old)⟩

theorem goesOn_settle (T : TaskTable κ) (i : TaskId) {status : TaskStatus}
    (hstatus : status ≠ .running) : T.GoesOn (T.settle i status) := by
  refine ⟨by simp [nextId, settle], fun _ hfind => ?_⟩
  rw [find?_settle] at hfind
  split at hfind
  · obtain ⟨old, hold, rfl⟩ := Option.map_eq_some_iff.mp hfind
    exact ⟨old, hold, rfl, fun hrunning => absurd hrunning hstatus⟩
  · exact ⟨_, hfind, rfl, id⟩

end TaskTable

end Runs
