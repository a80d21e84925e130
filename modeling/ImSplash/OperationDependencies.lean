import ImSplash.TreeWalk

/-!
# Is each operation enqueued once?

`addOperationWithDependencies` enqueues what an operation depends on, and then the
operation, and does the same for each dependency in turn.  It takes the dependencies for a
tree: an operation that two others depend on is enqueued for each of them, and a queue
raises an exception at the second time.
-/

namespace ImSplash
open TreeWalk

namespace OperationQueue

variable {Operation : Type*} [DecidableEq Operation]

/-- Why enqueuing ends without having enqueued; the model runs with fuel, the code without. -/
inductive EnqueueError (Operation : Type*)
  | alreadyEnqueued (operation : Operation)
  | outOfFuel

/-- `addOperation(_:)`, over all operations the queue has been handed so far.  One that is
among them, whether or not it has finished since, raises an exception. -/
def addOperation (operations : List Operation) (operation : Operation) :
    Except (EnqueueError Operation) (List Operation) :=
  if operation ∈ operations then .error (.alreadyEnqueued operation)
  else .ok (operations ++ [operation])

/-- `addOperationWithDependencies(_:)`. -/
def addOperationWithDependencies (dependencies : Operation → List Operation) :
    Nat → List Operation → Operation → Except (EnqueueError Operation) (List Operation)
  | 0, _, _ => .error .outOfFuel
  | fuel + 1, operations, operation => do
    let operations ← (dependencies operation).foldlM
      (addOperationWithDependencies dependencies fuel) operations
    addOperation operations operation

variable {dependencies : Operation → List Operation} {operation : Operation} {n : Nat}

/-- It enqueues the operations in the order a walk over the dependencies visits them. -/
theorem addOperationWithDependencies_eq (h : Within dependencies n operation)
    (operations : List Operation) :
    addOperationWithDependencies dependencies n operations operation =
      (postorder dependencies n operation).foldlM addOperation operations := by
  induction n generalizing operation operations with
  | zero => exact h.elim
  | succ n ih =>
    have hfold : ∀ (l : List Operation), (∀ dependency ∈ l, Within dependencies n dependency) →
        ∀ operations, l.foldlM (addOperationWithDependencies dependencies n) operations =
          (l.flatMap (postorder dependencies n)).foldlM addOperation operations := by
      intro l
      induction l with
      | nil =>
        intro _ operations
        rfl
      | cons dependency l ihl =>
        intro hl operations
        rw [List.foldlM_cons, List.flatMap_cons, List.foldlM_append,
          ih (hl dependency List.mem_cons_self)]
        congr 1
        funext operations
        exact ihl (fun dependency h => hl dependency (List.mem_cons_of_mem _ h)) operations
    rw [addOperationWithDependencies, hfold _ h, postorder, List.foldlM_append]
    congr 1
    funext operations
    simp [List.foldlM_cons]

/-- Enqueuing one operation after the other either enqueues them all, each for the first
time, or stops at one that is already there. -/
theorem foldlM_addOperation (l operations : List Operation) :
    (l.Nodup ∧ (∀ operation ∈ l, operation ∉ operations) ∧
        l.foldlM addOperation operations = .ok (operations ++ l)) ∨
      (¬ (l.Nodup ∧ ∀ operation ∈ l, operation ∉ operations) ∧
        ∃ operation ∈ l, l.foldlM addOperation operations =
          .error (.alreadyEnqueued operation)) := by
  induction l generalizing operations with
  | nil => left; simp; rfl
  | cons first l ih =>
    rw [List.foldlM_cons]
    by_cases hfirst : first ∈ operations
    · right
      refine ⟨fun h => h.2 first List.mem_cons_self hfirst, first, List.mem_cons_self, ?_⟩
      rw [addOperation, if_pos hfirst]
      rfl
    · have hadd : addOperation operations first = .ok (operations ++ [first]) := if_neg hfirst
      rw [hadd]
      show _ ∧ _ ∧ l.foldlM addOperation (operations ++ [first]) = _ ∨
        _ ∧ ∃ _ ∈ _, l.foldlM addOperation (operations ++ [first]) = _
      rcases ih (operations ++ [first]) with ⟨hnodup, hnew, heq⟩ | ⟨hold, operation, hmem, heq⟩
      · left
        refine ⟨List.nodup_cons.mpr ⟨fun h => hnew first h (by simp), hnodup⟩, ?_, by simp [heq]⟩
        intro operation hoperation
        rcases List.mem_cons.mp hoperation with rfl | hoperation
        · exact hfirst
        · exact fun h => hnew operation hoperation (List.mem_append_left _ h)
      · right
        refine ⟨fun h => hold ⟨(List.nodup_cons.mp h.1).2, fun operation hoperation => ?_⟩,
          operation, List.mem_cons_of_mem _ hmem, heq⟩
        rw [List.mem_append, List.mem_singleton]
        rintro (hmem | rfl)
        · exact h.2 operation (List.mem_cons_of_mem _ hoperation) hmem
        · exact (List.nodup_cons.mp h.1).1 hoperation

/-! ### Once each -/

/-- The call returns, and has enqueued all operations that are reached through dependencies,
each once and after its own dependencies. -/
def EnqueuesOnce (dependencies : Operation → List Operation) (operations : List Operation)
    (operation : Operation) : Prop :=
  ∃ added n, (∀ fuel, n ≤ fuel → addOperationWithDependencies dependencies fuel operations
      operation = .ok (operations ++ added)) ∧
    added.Nodup ∧ (∀ other, other ∈ added ↔ Reaches dependencies operation other) ∧
    ChildrenFirst dependencies added

/-- The call raises an exception, at an operation it has enqueued before. -/
def RaisesException (dependencies : Operation → List Operation) (operations : List Operation)
    (operation : Operation) : Prop :=
  ∃ repeated n, Reaches dependencies operation repeated ∧
    ∀ fuel, n ≤ fuel → addOperationWithDependencies dependencies fuel operations operation =
      .error (.alreadyEnqueued repeated)

variable {operations : List Operation}

theorem EnqueuesOnce.not_raisesException (h : EnqueuesOnce dependencies operations operation) :
    ¬ RaisesException dependencies operations operation := by
  rintro ⟨repeated, m, -, hraises⟩
  obtain ⟨added, n, hreturns, -⟩ := h
  have hok := hreturns (max n m) (by omega)
  rw [hraises (max n m) (by omega)] at hok
  cases hok

/-- With fuel for the walk, the operations of the walk are enqueued one by one. -/
theorem addOperationWithDependencies_of_le (h : Within dependencies n operation) {fuel : Nat}
    (hle : n ≤ fuel) : addOperationWithDependencies dependencies fuel operations operation =
      (postorder dependencies n operation).foldlM addOperation operations := by
  rw [addOperationWithDependencies_eq (h.mono hle), postorder_of_le h hle]

/-- On a tree each operation is enqueued once, on other graphs there is an exception. -/
theorem outcome_of_within (h : Within dependencies n operation)
    (hnew : ∀ other, Reaches dependencies operation other → other ∉ operations) :
    (TreeBelow dependencies operation ∧ EnqueuesOnce dependencies operations operation) ∨
      (¬ TreeBelow dependencies operation ∧
        RaisesException dependencies operations operation) := by
  rw [← nodup_postorder_iff h]
  have hnew' : ∀ other ∈ postorder dependencies n operation, other ∉ operations :=
    fun other hother => hnew other ((mem_postorder h).mp hother)
  rcases foldlM_addOperation (postorder dependencies n operation) operations with
    ⟨hnodup, -, heq⟩ | ⟨hold, repeated, hmem, heq⟩
  · refine .inl ⟨hnodup, postorder dependencies n operation, n, ?_, hnodup,
      fun other => mem_postorder h, childrenFirst_postorder h⟩
    intro fuel hle
    rw [addOperationWithDependencies_of_le h hle, heq]
  · refine .inr ⟨fun hnodup => hold ⟨hnodup, hnew'⟩, repeated, n, (mem_postorder h).mp hmem, ?_⟩
    intro fuel hle
    rw [addOperationWithDependencies_of_le h hle, heq]

theorem enqueuesOnce_iff_of_within (h : Within dependencies n operation)
    (hnew : ∀ other, Reaches dependencies operation other → other ∉ operations) :
    EnqueuesOnce dependencies operations operation ↔ TreeBelow dependencies operation := by
  rcases outcome_of_within h hnew with ⟨htree, honce⟩ | ⟨htree, hraises⟩
  · exact iff_of_true honce htree
  · exact iff_of_false (fun honce => honce.not_raisesException hraises) htree

/-- An operation without dependencies, as a page request is, is enqueued once. -/
theorem enqueuesOnce_of_dependencies_eq_nil (hnone : dependencies operation = [])
    (hnew : operation ∉ operations) : EnqueuesOnce dependencies operations operation := by
  have hself : ∀ other, Reaches dependencies operation other → other = operation := by
    intro other h
    rcases reaches_iff.mp h with rfl | ⟨dependency, hdependency, -⟩
    · rfl
    · rw [hnone] at hdependency
      cases hdependency
  have hwithin : Within dependencies 1 operation := by
    intro dependency hdependency
    rw [hnone] at hdependency
    cases hdependency
  refine (enqueuesOnce_iff_of_within hwithin fun other h => hself other h ▸ hnew).mpr ?_
  intro other h
  rw [hself other h, hnone]
  exact .nil

/-- For every operation over a finite graph without cycles, none of which is queued: all
operations are enqueued, once and after their dependencies, exactly when the graph is a tree;
when it is not there is an exception. -/
theorem enqueuesOnce_iff (dependencies : Operation → List Operation)
    (operations : List Operation) (operation : Operation)
    (hfinite : {other | Reaches dependencies operation other}.Finite)
    (hacyclic : ∀ other, Reaches dependencies operation other →
      ¬ Relation.TransGen (ChildOf dependencies) other other)
    (hnew : ∀ other, Reaches dependencies operation other → other ∉ operations) :
    (EnqueuesOnce dependencies operations operation ↔ TreeBelow dependencies operation) ∧
    (RaisesException dependencies operations operation ↔
      ¬ TreeBelow dependencies operation) := by
  obtain ⟨n, hwithin⟩ := exists_within hfinite hacyclic
  refine ⟨enqueuesOnce_iff_of_within hwithin hnew, ?_⟩
  rcases outcome_of_within hwithin hnew with ⟨htree, honce⟩ | ⟨htree, hraises⟩
  · exact iff_of_false honce.not_raisesException (not_not.mpr htree)
  · exact iff_of_true hraises htree

/-- The dependencies of the last of three operations are the two others. -/
def fork (operation : Nat) : List Nat := if operation = 2 then [0, 1] else []

theorem within_fork : Within fork 2 2 := by
  decide

theorem enqueuesOnce_fork : EnqueuesOnce fork [] 2 := by
  obtain ⟨hfinite, hacyclic⟩ := exists_within_iff.mp ⟨2, within_fork⟩
  refine (enqueuesOnce_iff fork [] 2 hfinite hacyclic fun _ _ => List.not_mem_nil).1.mpr ?_
  rw [← nodup_postorder_iff within_fork]
  decide

/-- Two operations depend on a third, and a fourth on the two. -/
def diamond (operation : Nat) : List Nat :=
  if operation = 3 then [1, 2] else if operation = 1 ∨ operation = 2 then [0] else []

theorem within_diamond : Within diamond 3 3 := by
  decide

/-- The operation that two others depend on is enqueued twice. -/
theorem diamond_not_enqueuesOnce :
    ¬ ∀ (dependencies : Nat → List Nat) (operations : List Nat) (operation : Nat),
      {other | Reaches dependencies operation other}.Finite →
      (∀ other, Reaches dependencies operation other →
        ¬ Relation.TransGen (ChildOf dependencies) other other) →
      (∀ other, Reaches dependencies operation other → other ∉ operations) →
      EnqueuesOnce dependencies operations operation := by
  intro h
  obtain ⟨hfinite, hacyclic⟩ := exists_within_iff.mp ⟨3, within_diamond⟩
  have honce := h diamond [] 3 hfinite hacyclic fun _ _ => List.not_mem_nil
  have htree := (enqueuesOnce_iff_of_within within_diamond fun _ _ => List.not_mem_nil).mp honce
  rw [← nodup_postorder_iff within_diamond] at htree
  exact absurd htree (by decide)

end OperationQueue

end ImSplash
