import ImSplash.MemberOrder
import ImSplash.RequestAnswer
import ImSplash.RequestQueue

/-!
# Which requests of a queue can still finish?

A response without data leaves a request that never finishes.  An operation that depends on it
and has not been started waits for it, and what depends on that one too, unless it is cancelled:
the dependencies of a cancelled operation are ignored.  Nothing else holds an operation up, if
the queue was handed each after what it depends on, as `addOperationWithDependencies` does.
-/

namespace ImSplash
open Runs TreeWalk

namespace OperationQueue
variable {Operation : Type*} [DecidableEq Operation] {dependencies : Operation → List Operation}
  {operations after : List Operation}

theorem addOperation_eq_ok {operation : Operation}
    (h : addOperation operations operation = .ok after) :
    operation ∉ operations ∧ after = operations ++ [operation] := by
  unfold addOperation at h
  split at h
  · cases h
  · rename_i hnew
    exact ⟨hnew, (Except.ok.inj h).symm⟩

/-- A call enqueues an operation, after what it depends on. -/
theorem childrenFirst_addOperationWithDependencies {fuel : Nat} {operation : Operation}
    (h : ChildrenFirst dependencies operations)
    (hcall : addOperationWithDependencies dependencies fuel operations operation = .ok after) :
    ChildrenFirst dependencies after ∧ operations <+: after ∧ operation ∈ after := by
  induction fuel generalizing operations operation after with
  | zero => cases hcall
  | succ fuel ih =>
    have hfold : ∀ (l operations between : List Operation), ChildrenFirst dependencies operations →
        l.foldlM (addOperationWithDependencies dependencies fuel) operations = .ok between →
        ChildrenFirst dependencies between ∧ operations <+: between ∧
          ∀ dependency ∈ l, dependency ∈ between := by
      intro l
      induction l with
      | nil =>
        intro operations between h hfold
        obtain rfl := Except.ok.inj hfold
        exact ⟨h, List.prefix_refl _, fun _ hmem => by cases hmem⟩
      | cons first l ihl =>
        intro operations between h hfold
        rw [List.foldlM_cons] at hfold
        cases hfirst : addOperationWithDependencies dependencies fuel operations first with
        | error error => rw [hfirst] at hfold; cases hfold
        | ok next =>
          rw [hfirst] at hfold
          obtain ⟨hnext, hinit, hmem⟩ := ih h hfirst
          obtain ⟨hbetween, hinit', hall⟩ := ihl next between hnext hfold
          refine ⟨hbetween, hinit.trans hinit', fun dependency hdependency => ?_⟩
          rcases List.mem_cons.mp hdependency with rfl | hdependency
          · exact hinit'.subset hmem
          · exact hall dependency hdependency
    rw [addOperationWithDependencies] at hcall
    cases hbetween : (dependencies operation).foldlM
        (addOperationWithDependencies dependencies fuel) operations with
    | error error => rw [hbetween] at hcall; cases hcall
    | ok between =>
      rw [hbetween] at hcall
      obtain ⟨hfirst, hinit, hall⟩ := hfold _ operations between h hbetween
      obtain ⟨-, rfl⟩ := addOperation_eq_ok hcall
      refine ⟨hfirst.concat hall, hinit.trans (List.prefix_append _ _), ?_⟩
      exact List.mem_append_right _ (List.mem_singleton_self operation)

end OperationQueue

namespace NetworkRequest
variable {coding : JSONCoding} {request : NetworkRequest}

/-- It has finished with the photos that it was answered with, and nobody has cancelled it. -/
structure DeliveredPhotos (coding : JSONCoding) (request : NetworkRequest) : Prop extends
    request.Delivered where
  error : request.error = none
  photos : ∃ photos, request.Answered coding photos ∧ request.items = photos.map some

/-- A successful response with a body that is JSON and that photos can be read from. -/
def Readable (coding : JSONCoding) (outcome : TaskOutcome) (kind : RequestKind) : Prop :=
  ∃ body json photos, outcome = ⟨some (.http 200), some body, none⟩ ∧
    coding.jsonObject body = some json ∧ coding.photos body kind = some photos

theorem Readable.delivered {outcome : TaskOutcome} (hreadable : Readable coding outcome
      request.kind) (herror : request.error = none) (hcancelled : request.isCancelled = false) :
    ((request.receive outcome).processResponse coding outcome.response outcome.data
      outcome.error).DeliveredPhotos coding := by
  obtain ⟨body, json, photos, rfl, hjson, hphotos⟩ := hreadable
  have hnone : (request.receive ⟨some (.http 200), some body, none⟩).error = none := herror
  have hread := processResponse_photos hnone hjson hphotos
  have hsuccess : TaskOutcome.IsSuccess ⟨some (.http 200), some body, none⟩ :=
    ⟨rfl, 200, rfl, by decide⟩
  refine ⟨⟨hread.isFinished, hread.isCancelled.trans hcancelled,
    _, hread.received, hsuccess, Option.some_ne_none body⟩, hread.error, photos, ?_, hread.items⟩
  refine ⟨_, body, hread.received, hsuccess, rfl, ?_⟩
  rw [hread.kind]
  exact hphotos

/-- Once cancelled, always cancelled. -/
theorem start_isCancelled (hcancelled : request.isCancelled = true)
    (hasCancelledDependency prepared : Bool) :
    (request.start hasCancelledDependency prepared).isCancelled = true := by
  rcases request.start_cases hasCancelledDependency prepared with ⟨-, heq⟩ | ⟨hno, -⟩
  · rw [heq]
    show (request.isCancelled || _) = true
    rw [hcancelled, Bool.true_or]
  · rw [hcancelled] at hno
    cases hno

theorem Sound.not_finished (h : request.Sound) (hstarted : request.started = false)
    (hcancelled : request.isCancelled = false) : request.isFinished = false := by
  cases hfinished : request.isFinished with
  | false => rfl
  | true => exact absurd (h.finished hfinished hcancelled).sent (h.not_sent hstarted)

end NetworkRequest

namespace RequestQueue
variable {Operation : Type*} {coding : JSONCoding} {dependencies : Operation → List Operation}
  {queue after : RequestQueue Operation} {operation : Operation}

/-! ### What holds an operation up -/

variable (dependencies) in
/-- The operation waits, itself or for one it depends on, for a request that is stuck. -/
inductive Blocked (queue : RequestQueue Operation) : Operation → Prop
  | stuck {operation : Operation} (hstuck : (queue.requests operation).Stuck) :
      Blocked queue operation
  | dependency {operation dependency : Operation}
      (hstarted : (queue.requests operation).started = false)
      (hcancelled : (queue.requests operation).isCancelled = false)
      (hdependency : dependency ∈ dependencies operation) (hblocked : Blocked queue dependency) :
      Blocked queue operation

theorem Blocked.not_finished (h : queue.Inv dependencies)
    (hblocked : queue.Blocked dependencies operation) :
    (queue.requests operation).isFinished = false := by
  cases hblocked with
  | stuck hstuck => exact hstuck.2
  | dependency hstarted hcancelled => exact (h.sound operation).not_finished hstarted hcancelled

/-- An operation from which one that is cancelled or stuck can be reached. -/
def Doomed (dependencies : Operation → List Operation) (queue : RequestQueue Operation)
    (operation : Operation) : Prop :=
  ∃ other, Reaches dependencies operation other ∧
    ((queue.requests other).isCancelled = true ∨ (queue.requests other).Stuck)

theorem Inv.not_doomed (h : queue.Inv dependencies)
    (hdelivered : (queue.requests operation).Delivered) :
    ¬ queue.Doomed dependencies operation := by
  rintro ⟨other, hreaches, hother⟩
  have hbelow : (queue.requests other).Delivered := by
    rcases Relation.reflTransGen_iff_eq_or_transGen.mp hreaches with rfl | hbelow
    · exact hdelivered
    · exact h.delivered_of_transGen hdelivered.sent hbelow
  rcases hother with hcancelled | ⟨-, hunfinished⟩
  · exact absurd (hbelow.isCancelled.symm.trans hcancelled) Bool.false_ne_true
  · exact absurd (hunfinished.symm.trans hbelow.isFinished) Bool.false_ne_true

/-- What is stuck stays so, but for a cancellation. -/
theorem stuck_of_moves {event : RequestQueueEvent Operation} (hevent : event.cancels = false)
    {request : NetworkRequest}
    (hmoves : queue.Moves coding dependencies operation event request)
    (hstuck : (queue.requests operation).Stuck) : request.Stuck := by
  cases hmoves with
  | stays => exact hstuck
  | start prepared _ _ hstarted => exact absurd (hstuck.1.started.symm.trans hstarted) nofun
  | cancel | complete => cases hevent
  | response outcome hawaits => exact absurd (hstuck.1.awaitsResponse.symm.trans hawaits) nofun

theorem Inv.isCancelled_of_moves (h : queue.Inv dependencies)
    {event : RequestQueueEvent Operation} {request : NetworkRequest}
    (hmoves : queue.Moves coding dependencies operation event request)
    (hcancelled : (queue.requests operation).isCancelled = true) : request.isCancelled = true := by
  cases hmoves with
  | stays => exact hcancelled
  | start prepared => exact NetworkRequest.start_isCancelled hcancelled _ _
  | cancel | complete =>
    show ((queue.requests operation).isCancelled || _) = true
    rw [hcancelled, Bool.true_or]
  | response outcome hawaits => exact ((h.sound operation).response hawaits rfl).2.2.1 hcancelled

variable [DecidableEq Operation]

theorem Blocked.step (h : queue.Inv dependencies) {event : RequestQueueEvent Operation}
    (hevent : event.cancels = false)
    (hstep : (machine coding dependencies).step queue event = some after)
    (hblocked : queue.Blocked dependencies operation) : after.Blocked dependencies operation := by
  obtain ⟨-, hmoves⟩ := moves hstep
  induction hblocked with
  | stuck hstuck => exact .stuck (stuck_of_moves hevent (hmoves _) hstuck)
  | @dependency operation dependency hstarted hcancelled hdependency hblocked ih =>
    have hsame : after.requests operation = queue.requests operation := by
      have hmove := hmoves operation
      generalize after.requests operation = request at hmove
      cases hmove with
      | stays => rfl
      | start prepared _ hready =>
        -- It is not ready, as the dependency has not finished.
        rw [isReady, hcancelled, Bool.false_or, List.all_eq_true] at hready
        exact absurd ((hblocked.not_finished h).symm.trans (hready _ hdependency))
          Bool.false_ne_true
      | cancel | complete => cases hevent
      | response outcome hawaits =>
        have hwaits := ((h.sound operation).waiting hawaits).1
        exact absurd (hstarted.symm.trans hwaits) Bool.false_ne_true
    refine .dependency ?_ ?_ hdependency ih
    · rw [hsame, hstarted]
    · rw [hsame, hcancelled]

theorem Doomed.step (h : queue.Inv dependencies) {event : RequestQueueEvent Operation}
    (hevent : event.cancels = false)
    (hstep : (machine coding dependencies).step queue event = some after)
    (hdoomed : queue.Doomed dependencies operation) : after.Doomed dependencies operation := by
  obtain ⟨-, hmoves⟩ := moves hstep
  obtain ⟨other, hreaches, hcancelled | hstuck⟩ := hdoomed
  · exact ⟨other, hreaches, .inl (h.isCancelled_of_moves (hmoves other) hcancelled)⟩
  · exact ⟨other, hreaches, .inr (stuck_of_moves hevent (hmoves other) hstuck)⟩

/-- The queue goes on: its operations start and get their responses, and none is cancelled from
outside. -/
def Continues (coding : JSONCoding) (dependencies : Operation → List Operation) :
    RequestQueue Operation → RequestQueue Operation → Prop :=
  (machine coding dependencies).Reaches fun _ event _ => event.cancels = false

theorem Inv.continues (h : queue.Inv dependencies)
    (hcontinues : Continues coding dependencies queue after) :
    after.Inv dependencies ∧
      (∀ operation, queue.Blocked dependencies operation → after.Blocked dependencies operation) ∧
      ∀ operation, queue.Doomed dependencies operation → after.Doomed dependencies operation := by
  have hkept : ∀ (now : RequestQueue Operation) event next,
      (now.Inv dependencies ∧
        (∀ operation, queue.Blocked dependencies operation → now.Blocked dependencies operation) ∧
        ∀ operation, queue.Doomed dependencies operation → now.Doomed dependencies operation) →
      (machine coding dependencies).step now event = some next → event.cancels = false →
      next.Inv dependencies ∧
        (∀ operation, queue.Blocked dependencies operation → next.Blocked dependencies operation) ∧
        ∀ operation, queue.Doomed dependencies operation → next.Doomed dependencies operation := by
    rintro now event next ⟨hnow, hblocked, hdoomed⟩ hstep hevent
    refine ⟨hnow.step hstep, fun operation hold => ?_, fun operation hold => ?_⟩
    · exact (hblocked operation hold).step hnow hevent hstep
    · exact (hdoomed operation hold).step hnow hevent hstep
  exact hcontinues.invariant hkept ⟨h, fun _ => id, fun _ => id⟩

/-! ### What can go on -/

theorem set_set (request request' : NetworkRequest) :
    (queue.set operation request).set operation request' = queue.set operation request' := by
  simp [set]

/-- A request that waits gets a response. -/
theorem step_processResponse (hawaits : (queue.requests operation).awaitsResponse = true)
    (outcome : TaskOutcome) :
    (machine coding dependencies).step queue (.processResponse operation outcome) =
      some (queue.set operation (((queue.requests operation).receive outcome).processResponse
        coding outcome.response outcome.data outcome.error)) := by
  simp only [machine, NetworkRequest.machine, if_pos hawaits, Option.map_some]

theorem continues_response (hawaits : (queue.requests operation).awaitsResponse = true)
    (outcome : TaskOutcome) :
    Continues coding dependencies queue (queue.set operation
      (((queue.requests operation).receive outcome).processResponse coding outcome.response
        outcome.data outcome.error)) :=
  .head (step_processResponse hawaits outcome) rfl (.refl _)

variable (coding) in
/-- An operation that is ready is started. -/
theorem continues_start (hmem : operation ∈ queue.operations)
    (hready : queue.isReady dependencies operation = true)
    (hstarted : (queue.requests operation).started = false) :
    Continues coding dependencies queue (queue.set operation ((queue.requests operation).start
      (queue.hasCancelledDependency dependencies operation) true)) := by
  have hstep : (machine coding dependencies).step queue (.start operation true) =
      some (queue.set operation ((queue.requests operation).start
        (queue.hasCancelledDependency dependencies operation) true)) := by
    simp only [machine, NetworkRequest.machine, if_pos (And.intro hmem hready), hstarted,
      Bool.false_eq_true, if_false, Option.map_some]
  exact .head hstep rfl (.refl _)

variable (coding) in
/-- A request that waits finishes with any response but one that succeeds without data, and
delivers photos if they can be read from it. -/
theorem Inv.exists_response (h : queue.Inv dependencies)
    (hawaits : (queue.requests operation).awaitsResponse = true) (outcome : TaskOutcome)
    (houtcome : outcome.IsSuccess → outcome.data ≠ none) :
    ∃ request, Continues coding dependencies queue (queue.set operation request) ∧
      request.isFinished = true ∧
      ((queue.requests operation).isCancelled = false →
        NetworkRequest.Readable coding outcome (queue.requests operation).kind →
          request.DeliveredPhotos coding) := by
  obtain ⟨-, -, herror⟩ := (h.sound operation).waiting hawaits
  refine ⟨_, continues_response hawaits outcome, ?_⟩
  generalize hafter : ((queue.requests operation).receive outcome).processResponse coding
    outcome.response outcome.data outcome.error = after
  obtain ⟨hsound, -, -, hfinished⟩ := (h.sound operation).response hawaits hafter
  refine ⟨hfinished houtcome, fun hcancelled hreadable => ?_⟩
  rw [← hafter]
  exact hreadable.delivered herror hcancelled

variable (coding) in
/-- An operation that is ready starts and finishes, and delivers if nothing is cancelled. -/
theorem Inv.exists_start (h : queue.Inv dependencies) (hmem : operation ∈ queue.operations)
    (hready : queue.isReady dependencies operation = true)
    (hstarted : (queue.requests operation).started = false) (outcome : TaskOutcome)
    (houtcome : outcome.IsSuccess → outcome.data ≠ none) :
    ∃ request, Continues coding dependencies queue (queue.set operation request) ∧
      request.isFinished = true ∧
      ((queue.requests operation).isCancelled = false →
        queue.hasCancelledDependency dependencies operation = false →
        NetworkRequest.Readable coding outcome (queue.requests operation).kind →
          request.DeliveredPhotos coding) := by
  have hstart := continues_start coding hmem hready hstarted
  rcases (queue.requests operation).start_cases
    (queue.hasCancelledDependency dependencies operation) true with ⟨hcancelled, heq⟩ | ⟨hno, heq⟩
  · refine ⟨_, hstart, by rw [heq]; rfl, fun hself hnone => ?_⟩
    rw [hself, hnone] at hcancelled
    cases hcancelled
  · -- It waits, and then it gets its response.
    obtain ⟨hself, -⟩ := Bool.or_eq_false_iff.mp hno
    have hnow := (h.continues hstart).1
    have hawaits : ((queue.set operation ((queue.requests operation).start
        (queue.hasCancelledDependency dependencies operation) true)).requests
          operation).awaitsResponse = true := by
      rw [set_requests, heq]
      rfl
    obtain ⟨request, hresponse, hfinished, hdelivered⟩ :=
      hnow.exists_response coding hawaits outcome houtcome
    rw [set_set] at hresponse
    refine ⟨request, hstart.trans hresponse, hfinished, fun _ _ hreadable => ?_⟩
    refine hdelivered ?_ ?_
    · rw [set_requests, heq]
      exact hself
    · rw [set_requests, heq]
      exact hreadable

/-- **One operation after the other**: what can be done to each when it has been done to those
it depends on can be done to all. -/
theorem Inv.exists_all (h : queue.Inv dependencies) (S : Operation → Prop)
    (Done : Operation → NetworkRequest → Prop)
    (hone : ∀ (now : RequestQueue Operation) operation, now.Inv dependencies →
      operation ∈ now.operations → S operation →
      now.requests operation = queue.requests operation →
      (∀ dependency ∈ dependencies operation, S dependency →
        Done dependency (now.requests dependency)) →
      ∃ request, Continues coding dependencies now (now.set operation request) ∧
        Done operation request)
    (l : List Operation) (hnodup : l.Nodup) (hfirst : ChildrenFirst dependencies l)
    (hmem : ∀ operation ∈ l, operation ∈ queue.operations) :
    ∃ after, Continues coding dependencies queue after ∧ after.operations = queue.operations ∧
      (∀ operation ∈ l, S operation → Done operation (after.requests operation)) ∧
      ∀ operation, operation ∉ l → after.requests operation = queue.requests operation := by
  induction l using List.reverseRecOn with
  | nil => exact ⟨queue, .refl _, rfl, fun _ hnil => absurd hnil List.not_mem_nil, fun _ _ => rfl⟩
  | append_singleton l last ih =>
    obtain ⟨hl, -, hnew⟩ := List.nodup_append.mp hnodup
    have hlast : last ∉ l := fun hmem => hnew last hmem last (List.mem_singleton_self last) rfl
    obtain ⟨now, hcontinues, hoperations, hdone, hsame⟩ := ih hl (hfirst.of_append)
      fun operation hoperation => hmem operation (List.mem_append_left _ hoperation)
    by_cases hS : S last
    · have hlastMem : last ∈ now.operations := by
        rw [hoperations]
        exact hmem last (List.mem_append_right _ (List.mem_singleton_self last))
      obtain ⟨request, hnext, hrequest⟩ := hone now last (h.continues hcontinues).1 hlastMem hS
        (hsame last hlast) fun dependency hdependency hSdependency =>
          hdone dependency (hfirst l last [] rfl dependency hdependency) hSdependency
      refine ⟨now.set last request, hcontinues.trans hnext, hoperations, ?_, ?_⟩
      · intro operation hoperation hSoperation
        by_cases heq : operation = last
        · rw [heq, set_requests]
          exact hrequest
        · rw [set_requests_of_ne heq]
          have hmem' := (List.mem_append.mp hoperation).resolve_right fun hsingle =>
            heq (List.mem_singleton.mp hsingle)
          exact hdone operation hmem' hSoperation
      · intro operation hoperation
        have hne : operation ≠ last := fun heq =>
          hoperation (List.mem_append_right _ (List.mem_singleton.mpr heq))
        rw [set_requests_of_ne hne]
        exact hsame operation fun hmem' => hoperation (List.mem_append_left _ hmem')
    · -- The operation is left as it is.
      refine ⟨now, hcontinues, hoperations, ?_, ?_⟩
      · intro operation hoperation hSoperation
        have hmem' := (List.mem_append.mp hoperation).resolve_right fun hsingle =>
          hS (List.mem_singleton.mp hsingle ▸ hSoperation)
        exact hdone operation hmem' hSoperation
      · exact fun operation hoperation =>
          hsame operation fun hmem' => hoperation (List.mem_append_left _ hmem')

/-- An operation that has finished, or waits, or can be started, finishes if it gets a response
that is not one without data. -/
theorem Inv.exists_finish (h : queue.Inv dependencies) (hmem : operation ∈ queue.operations)
    (hstuck : ¬ (queue.requests operation).Stuck)
    (hready : (queue.requests operation).started = false →
      queue.isReady dependencies operation = true)
    (outcome : TaskOutcome) (houtcome : outcome.IsSuccess → outcome.data ≠ none) :
    ∃ request, Continues coding dependencies queue (queue.set operation request) ∧
      request.isFinished = true ∧
      ((queue.requests operation).isCancelled = false →
        queue.hasCancelledDependency dependencies operation = false →
        NetworkRequest.Readable coding outcome (queue.requests operation).kind →
          request.Delivered ∧ ((queue.requests operation).isFinished = false →
            request.DeliveredPhotos coding)) := by
  cases hfinished : (queue.requests operation).isFinished with
  | true =>
    have hself : queue.set operation (queue.requests operation) = queue := by
      simp [set]
    refine ⟨queue.requests operation, ?_, hfinished, fun hcancelled _ _ => ⟨?_, ?_⟩⟩
    · rw [hself]
      exact .refl queue
    · exact (h.sound operation).finished hfinished hcancelled
    · intro hunfinished
      cases hunfinished
  | false =>
    obtain ⟨request, hcontinues, hdone, hdelivered⟩ :
        ∃ request, Continues coding dependencies queue (queue.set operation request) ∧
          request.isFinished = true ∧
          ((queue.requests operation).isCancelled = false →
            queue.hasCancelledDependency dependencies operation = false →
            NetworkRequest.Readable coding outcome (queue.requests operation).kind →
              request.DeliveredPhotos coding) := by
      cases hawaits : (queue.requests operation).awaitsResponse with
      | true =>
        obtain ⟨request, hcontinues, hdone, hdelivered⟩ :=
          h.exists_response coding hawaits outcome houtcome
        exact ⟨request, hcontinues, hdone, fun hcancelled _ => hdelivered hcancelled⟩
      | false =>
        cases hstarted : (queue.requests operation).started with
        | true => exact absurd ⟨⟨hstarted, hawaits⟩, hfinished⟩ hstuck
        | false => exact h.exists_start coding hmem (hready hstarted) hstarted outcome houtcome
    refine ⟨request, hcontinues, hdone, fun hcancelled hnone hreadable => ?_⟩
    have hphotos := hdelivered hcancelled hnone hreadable
    exact ⟨hphotos.toDelivered, fun _ => hphotos⟩

theorem Inv.of_run (h : queue.Inv dependencies) (hnodup : queue.operations.Nodup)
    {events : List (RequestQueueEvent Operation)}
    (hrun : (machine coding dependencies).Run queue events after) :
    after.Inv dependencies ∧ after.operations.Nodup := by
  induction hrun with
  | nil => exact ⟨h, hnodup⟩
  | @cons queue next _ event _ hstep _ ih =>
    refine ih (h.step hstep) ?_
    cases event with
    | addOperation operation =>
      simp only [machine] at hstep
      split at hstep
      · rename_i hadded
        obtain ⟨hnew, rfl⟩ := OperationQueue.addOperation_eq_ok hadded
        obtain rfl := Option.some.inj hstep
        exact List.nodup_append.mpr ⟨hnodup, List.nodup_singleton operation,
          fun other hother _ hsingle heq =>
            hnew (List.mem_singleton.mp hsingle ▸ heq ▸ hother)⟩
      · cases hstep
    | start operation prepared =>
      simp only [machine, Option.ite_none_right_eq_some, Option.map_eq_some_iff] at hstep
      obtain ⟨-, _, -, rfl⟩ := hstep
      exact hnodup
    | cancel | cancelOperations =>
      obtain rfl := Option.some.inj hstep
      exact hnodup
    | processResponse operation outcome =>
      obtain ⟨_, -, rfl⟩ := Option.map_eq_some_iff.mp hstep
      exact hnodup

/-- **An operation can still finish exactly when it is not blocked**: in any state of any run of
a queue that was handed each operation after what it depends on. -/
theorem finishes_iff {kind : Operation → RequestKind} {events : List (RequestQueueEvent Operation)}
    (hrun : (machine coding dependencies).Run (new kind) events queue)
    (hfirst : ChildrenFirst dependencies queue.operations) (hmem : operation ∈ queue.operations) :
    (∃ after, Continues coding dependencies queue after ∧
      (after.requests operation).isFinished = true) ↔
        ¬ queue.Blocked dependencies operation := by
  obtain ⟨h, hnodup⟩ := (inv_new kind).of_run List.nodup_nil hrun
  constructor
  · rintro ⟨after, hcontinues, hfinished⟩ hblocked
    obtain ⟨hafter, hstays, -⟩ := h.continues hcontinues
    exact absurd (((hstays operation hblocked).not_finished hafter).symm.trans hfinished)
      Bool.false_ne_true
  · intro hnot
    have hone : ∀ (now : RequestQueue Operation) other, now.Inv dependencies →
        other ∈ now.operations → ¬ queue.Blocked dependencies other →
        now.requests other = queue.requests other →
        (∀ dependency ∈ dependencies other, ¬ queue.Blocked dependencies dependency →
          (now.requests dependency).isFinished = true) →
        ∃ request, Continues coding dependencies now (now.set other request) ∧
          request.isFinished = true := by
      intro now other hnow hother hfree hsame hdependencies
      have hstuck : ¬ (now.requests other).Stuck := fun hstuck =>
        hfree (.stuck (hsame ▸ hstuck))
      have hready : (now.requests other).started = false →
          now.isReady dependencies other = true := by
        intro hstarted
        rw [isReady]
        cases hcancelled : (now.requests other).isCancelled with
        | true => rfl
        | false =>
          rw [Bool.false_or, List.all_eq_true]
          refine fun dependency hdependency => hdependencies dependency hdependency ?_
          rw [hsame] at hstarted hcancelled
          exact fun hblocked => hfree (.dependency hstarted hcancelled hdependency hblocked)
      -- Any response will do but one without data, as that there is none.
      have hnone : ¬ TaskOutcome.IsSuccess ⟨none, none, none⟩ := by
        rintro ⟨-, _, ⟨⟩, -⟩
      obtain ⟨request, hcontinues, hfinished, -⟩ :=
        hnow.exists_finish hother hstuck hready ⟨none, none, none⟩ fun hsuccess =>
          absurd hsuccess hnone
      exact ⟨request, hcontinues, hfinished⟩
    obtain ⟨after, hcontinues, -, hdone, -⟩ :=
      h.exists_all (fun other => ¬ queue.Blocked dependencies other)
        (fun _ request => request.isFinished = true) hone
        queue.operations hnodup hfirst fun _ => id
    exact ⟨after, hcontinues, hdone operation hmem hnot⟩

/-- The second of two requests depends on the first. -/
def chain (operation : Nat) : List Nat := if operation = 1 then [0] else []

theorem childrenFirst_chain : ChildrenFirst chain [0, 1] := by
  have hnil : ChildrenFirst chain [] := by
    intro before operation after hnil
    simp at hnil
  have hcall : OperationQueue.addOperationWithDependencies chain 2 [] 1 = .ok [0, 1] := rfl
  exact (OperationQueue.childrenFirst_addOperationWithDependencies hnil hcall).1

/-- The first is answered without data, and the second waits for it. -/
theorem finishes_iff_chain :
    ∃ queue, (machine .emptyBodies chain).Run (new fun _ => .getCollectionPhotos)
        [.addOperation 0, .addOperation 1, .start 0 true,
          .processResponse 0 ⟨some (.http 200), none, none⟩] queue ∧
      ¬ ∃ after, Continues .emptyBodies chain queue after ∧
        (after.requests 1).isFinished = true := by
  have hrun : (machine .emptyBodies chain).Run (new fun _ => .getCollectionPhotos)
      [.addOperation 0, .addOperation 1, .start 0 true,
        .processResponse 0 ⟨some (.http 200), none, none⟩] _ :=
    .cons rfl (.cons rfl (.cons rfl (.cons rfl (.nil _))))
  refine ⟨_, hrun, fun hfinishes => ?_⟩
  refine (finishes_iff hrun childrenFirst_chain (by decide)).mp hfinishes ?_
  exact .dependency rfl rfl (List.mem_singleton_self 0) (.stuck ⟨⟨rfl, rfl⟩, rfl⟩)

/-- What has been delivered is not touched any more. -/
theorem Inv.requests_of_delivered (h : queue.Inv dependencies)
    (hcontinues : Continues coding dependencies queue after)
    (hdelivered : (queue.requests operation).Delivered) :
    after.requests operation = queue.requests operation := by
  have hkept : ∀ (now : RequestQueue Operation) event next,
      (now.Inv dependencies ∧ now.requests operation = queue.requests operation) →
      (machine coding dependencies).step now event = some next → event.cancels = false →
      next.Inv dependencies ∧ next.requests operation = queue.requests operation := by
    rintro now event next ⟨hnow, hsame⟩ hstep hevent
    obtain ⟨-, hmoves⟩ := moves hstep
    refine ⟨hnow.step hstep, Eq.trans ?_ hsame⟩
    rw [← hsame] at hdelivered
    have hmove := hmoves operation
    generalize next.requests operation = request at hmove
    cases hmove with
    | stays => rfl
    | start prepared _ _ hstarted =>
      have hstarted' := hdelivered.started (hnow.sound operation)
      exact absurd (hstarted.symm.trans hstarted') Bool.false_ne_true
    | cancel | complete => cases hevent
    | response outcome hawaits =>
      have hawaits' := hdelivered.awaitsResponse (hnow.sound operation)
      exact absurd (hawaits'.symm.trans hawaits) Bool.false_ne_true
  exact (hcontinues.invariant hkept ⟨h, rfl⟩).2

/-- A request whose dependencies have all delivered can deliver photos, unless it is cancelled
or stuck. -/
theorem Inv.exists_deliver (h : queue.Inv dependencies)
    (hreadable : ∀ kind, ∃ outcome, NetworkRequest.Readable coding outcome kind)
    (hmem : operation ∈ queue.operations) (hstuck : ¬ (queue.requests operation).Stuck)
    (hcancelled : (queue.requests operation).isCancelled = false)
    (hdelivered : ∀ dependency ∈ dependencies operation,
      (queue.requests dependency).Delivered) :
    ∃ request, Continues coding dependencies queue (queue.set operation request) ∧
      request.Delivered ∧ ((queue.requests operation).isFinished = false →
        request.DeliveredPhotos coding) := by
  have hready : queue.isReady dependencies operation = true := by
    rw [isReady, hcancelled, Bool.false_or, List.all_eq_true]
    exact fun dependency hdependency => (hdelivered dependency hdependency).isFinished
  have hnone : queue.hasCancelledDependency dependencies operation = false := by
    rw [hasCancelledDependency, List.any_eq_false]
    intro dependency hdependency
    rw [(hdelivered dependency hdependency).isCancelled]
    decide
  obtain ⟨outcome, houtcome⟩ := hreadable (queue.requests operation).kind
  have hdata : outcome.IsSuccess → outcome.data ≠ none := by
    obtain ⟨body, _, _, rfl, -⟩ := houtcome
    exact fun _ => Option.some_ne_none body
  obtain ⟨request, hcontinues, -, hrequest⟩ :=
    h.exists_finish hmem hstuck (fun _ => hready) outcome hdata
  exact ⟨request, hcontinues, hrequest hcancelled hnone houtcome⟩

/-- **An operation can still deliver photos exactly when nothing it depends on is cancelled or
stuck**, nor is it itself, and it has not finished without any, if there are bodies that photos
can be read from. -/
theorem delivers_iff {kind : Operation → RequestKind} {events : List (RequestQueueEvent Operation)}
    (hreadable : ∀ kind, ∃ outcome, NetworkRequest.Readable coding outcome kind)
    (hrun : (machine coding dependencies).Run (new kind) events queue)
    (hfirst : ChildrenFirst dependencies queue.operations) (hmem : operation ∈ queue.operations) :
    (∃ after, Continues coding dependencies queue after ∧
      (after.requests operation).DeliveredPhotos coding) ↔
        (∀ other, Reaches dependencies operation other →
          (queue.requests other).isCancelled = false ∧ ¬ (queue.requests other).Stuck) ∧
        ((queue.requests operation).isFinished = true →
          (queue.requests operation).DeliveredPhotos coding) := by
  obtain ⟨h, hnodup⟩ := (inv_new kind).of_run List.nodup_nil hrun
  constructor
  · rintro ⟨after, hcontinues, hdelivered⟩
    obtain ⟨hafter, -, hstays⟩ := h.continues hcontinues
    have hnot : ¬ queue.Doomed dependencies operation := fun hdoomed =>
      hafter.not_doomed hdelivered.toDelivered (hstays operation hdoomed)
    have hfree : ∀ other, Reaches dependencies operation other →
        (queue.requests other).isCancelled = false ∧ ¬ (queue.requests other).Stuck := by
      refine fun other hreaches => ⟨Bool.eq_false_iff.mpr fun hcancelled => ?_, fun hstuck => ?_⟩
      · exact hnot ⟨other, hreaches, .inl hcancelled⟩
      · exact hnot ⟨other, hreaches, .inr hstuck⟩
    refine ⟨hfree, fun hfinished => ?_⟩
    have hnow := (h.sound operation).finished hfinished (hfree operation .refl).1
    rw [← h.requests_of_delivered hcontinues hnow]
    exact hdelivered
  · rintro ⟨hall, hphotos⟩
    have hone : ∀ (now : RequestQueue Operation) other, now.Inv dependencies →
        other ∈ now.operations → ¬ queue.Doomed dependencies other →
        now.requests other = queue.requests other →
        (∀ dependency ∈ dependencies other, ¬ queue.Doomed dependencies dependency →
          (now.requests dependency).Delivered ∧ ((queue.requests dependency).isFinished = false →
            (now.requests dependency).DeliveredPhotos coding)) →
        ∃ request, Continues coding dependencies now (now.set other request) ∧
          request.Delivered ∧ ((queue.requests other).isFinished = false →
            request.DeliveredPhotos coding) := by
      intro now other hnow hother hfree hsame hdependencies
      have hdelivered : ∀ dependency ∈ dependencies other,
          (now.requests dependency).Delivered := by
        intro dependency hdependency
        refine (hdependencies dependency hdependency ?_).1
        rintro ⟨below, hreaches, hbelow⟩
        exact hfree ⟨below, .head hdependency hreaches, hbelow⟩
      have hstuck : ¬ (now.requests other).Stuck := fun hstuck =>
        hfree ⟨other, .refl, .inr (hsame ▸ hstuck)⟩
      have hcancelled : (now.requests other).isCancelled = false :=
        Bool.eq_false_iff.mpr fun hcancelled => hfree ⟨other, .refl, .inl (hsame ▸ hcancelled)⟩
      rw [← hsame]
      exact hnow.exists_deliver hreadable hother hstuck hcancelled hdelivered
    obtain ⟨after, hcontinues, -, hdone, -⟩ :=
      h.exists_all (fun other => ¬ queue.Doomed dependencies other)
        (fun other request => request.Delivered ∧ ((queue.requests other).isFinished = false →
          request.DeliveredPhotos coding)) hone queue.operations hnodup hfirst fun _ => id
    have hfree : ¬ queue.Doomed dependencies operation := by
      rintro ⟨other, hreaches, hcancelled | hstuck⟩
      · exact absurd ((hall other hreaches).1.symm.trans hcancelled) Bool.false_ne_true
      · exact (hall other hreaches).2 hstuck
    rcases Bool.eq_false_or_eq_true (queue.requests operation).isFinished with
      hfinished | hunfinished
    · exact ⟨queue, .refl queue, hphotos hfinished⟩
    · exact ⟨after, hcontinues, (hdone operation hmem hfree).2 hunfinished⟩

open PhotoServer UnsplashPhotoPicker in
/-- The first has been answered with a page of photos, and the second can still be. -/
theorem delivers_iff_chain :
    ∃ queue, (machine jsonCoding chain).Run (new fun _ => .getCollectionPhotos)
        [.addOperation 0, .addOperation 1, .start 0 true,
          .processResponse 0 ⟨some (.http 200), some (galleryBody 0), none⟩] queue ∧
      (queue.requests 0).items = (Paging.page coloredGallery 30 0).map some ∧
      ∃ after, Continues jsonCoding chain queue after ∧
        (after.requests 1).DeliveredPhotos jsonCoding := by
  have hreadable : ∀ kind, ∃ outcome, NetworkRequest.Readable jsonCoding outcome kind := by
    intro kind
    cases kind with
    | searchPhotos => exact ⟨_, _, _, _, rfl, jsonObject_oneResult, photos_oneResult⟩
    | getCollectionPhotos =>
      exact ⟨_, _, _, _, rfl, jsonObject_galleryBody 0, photos_galleryBody 0⟩
  have hread := @NetworkRequest.processResponse_photos jsonCoding
    ((NetworkRequest.start { kind := .getCollectionPhotos } false true).receive
      ⟨some (.http 200), some (galleryBody 0), none⟩) rfl _ _ _
    (jsonObject_galleryBody 0) (photos_galleryBody 0)
  have hrun : (machine jsonCoding chain).Run (new fun _ => .getCollectionPhotos)
      [.addOperation 0, .addOperation 1, .start 0 true,
        .processResponse 0 ⟨some (.http 200), some (galleryBody 0), none⟩] _ :=
    .cons rfl (.cons rfl (.cons rfl (.cons (step_processResponse rfl _) (.nil _))))
  refine ⟨_, hrun, ?_, (delivers_iff hreadable hrun childrenFirst_chain (by decide)).mpr
    ⟨fun other _ => ?_, nofun⟩⟩
  · rw [set_requests]
    exact hread.items
  · by_cases hother : other = 0
    · subst hother
      rw [set_requests]
      exact ⟨hread.isCancelled, fun hstuck => by cases hread.isFinished.symm.trans hstuck.2⟩
    · rw [set_requests_of_ne hother, set_requests_of_ne hother]
      exact ⟨rfl, fun hstuck => by cases hstuck.1.started⟩

end RequestQueue

end ImSplash
