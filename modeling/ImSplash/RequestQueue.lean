import ImSplash.NetworkRequest
import ImSplash.OperationDependencies
import Mathlib.Logic.Function.Basic

/-!
# A queue of requests that depend on each other

A queue starts an operation when its dependencies have finished, and `start()` does not run
the operation when one of them was cancelled, as every request that fails is.  Along any run,
whatever is cancelled and in whatever order the responses come, a request is sent only if all
requests it depends on, directly or not, have delivered.

What a request that never finishes holds up is the other side of it: `BlockedRequests` says
which operations of a queue can still finish, and which can still deliver.
-/

namespace ImSplash
open Runs TreeWalk

/-! ### A single request -/

namespace NetworkRequest
variable {coding : JSONCoding} {request : NetworkRequest}

/-- Its data task has been made. -/
def Sent (request : NetworkRequest) : Prop :=
  request.awaitsResponse = true ∨ request.received ≠ none

/-- It has finished by reading a successful response, before anybody cancelled it. -/
structure Delivered (request : NetworkRequest) : Prop where
  isFinished : request.isFinished = true
  isCancelled : request.isCancelled = false
  received : ∃ outcome, request.received = some outcome ∧ outcome.IsSuccess ∧ outcome.data ≠ none

/-- Nothing is to come for the request, and it has not finished. -/
def Stuck (request : NetworkRequest) : Prop := request.Over ∧ request.isFinished = false

/-- What holds of a request on a queue: one that finished has delivered, unless it was
cancelled. -/
structure Sound (request : NetworkRequest) : Prop where
  fresh : request.started = false →
    request.awaitsResponse = false ∧ request.received = none ∧ request.error = none
  waiting : request.awaitsResponse = true →
    request.started = true ∧ request.received = none ∧ request.error = none
  finished : request.isFinished = true → request.isCancelled = false → request.Delivered

theorem Ready.sound (h : request.Ready) : request.Sound where
  fresh _ := ⟨h.awaitsResponse, h.received, h.error⟩
  waiting hawaits := by rw [h.awaitsResponse] at hawaits; cases hawaits
  finished hfinished := by rw [h.isFinished] at hfinished; cases hfinished

theorem Sound.not_sent (h : request.Sound) (hstarted : request.started = false) :
    ¬ request.Sent := by
  obtain ⟨hawaits, hreceived, -⟩ := h.fresh hstarted
  rintro (hsent | hsent)
  · rw [hawaits] at hsent
    cases hsent
  · exact hsent hreceived

theorem Delivered.sent (h : request.Delivered) : request.Sent := by
  obtain ⟨outcome, hreceived, -⟩ := h.received
  exact .inr (by simp [hreceived])

theorem Delivered.started (h : request.Delivered) (hsound : request.Sound) :
    request.started = true := by
  cases hstarted : request.started with
  | true => rfl
  | false => exact absurd h.sent (hsound.not_sent hstarted)

theorem Delivered.awaitsResponse (h : request.Delivered) (hsound : request.Sound) :
    request.awaitsResponse = false := by
  cases hawaits : request.awaitsResponse with
  | false => rfl
  | true =>
    obtain ⟨outcome, hreceived, -⟩ := h.received
    rw [(hsound.waiting hawaits).2.1] at hreceived
    cases hreceived

theorem Delivered.cancel (h : request.Delivered) : request.cancel.Delivered := by
  refine ⟨h.isFinished, ?_, h.received⟩
  show (request.isCancelled || !request.isFinished) = false
  rw [h.isCancelled, h.isFinished]
  rfl

/-- A request that has finished and is cancelled by now asks for nothing more. -/
theorem Sound.of_cancelled (hfresh : request.started = false →
      request.awaitsResponse = false ∧ request.received = none ∧ request.error = none)
    (hwaiting : request.awaitsResponse = true →
      request.started = true ∧ request.received = none ∧ request.error = none)
    (hcancelled : request.isCancelled = true) : request.Sound := by
  refine ⟨hfresh, hwaiting, fun _ hnot => ?_⟩
  rw [hcancelled] at hnot
  cases hnot

theorem Sound.cancel (h : request.Sound) : request.cancel.Sound := by
  refine ⟨h.fresh, h.waiting, fun hfinished hcancelled => ?_⟩
  have hnot : request.isCancelled = false := (Bool.or_eq_false_iff.mp hcancelled).1
  exact (h.finished hfinished hnot).cancel

theorem cancel_isCancelled_of_unfinished (hunfinished : request.isFinished = false) :
    request.cancel.isCancelled = true := by
  show (request.isCancelled || !request.isFinished) = true
  rw [hunfinished, Bool.not_false, Bool.or_true]

theorem Sound.cancelAndCompleteOperation (h : request.Sound)
    (hunfinished : request.isFinished = false) : request.cancelAndCompleteOperation.Sound :=
  .of_cancelled h.fresh h.waiting (cancel_isCancelled_of_unfinished hunfinished)

/-- A request that has not been started, as `start()` finds it. -/
theorem start_cases (request : NetworkRequest) (hasCancelledDependency prepared : Bool) :
    (request.isCancelled || hasCancelledDependency) = true ∧
        request.start hasCancelledDependency prepared =
          ({ request with started := true }.setIsExecuting true).cancel.completeOperation ∨
      (request.isCancelled || hasCancelledDependency) = false ∧
        request.start hasCancelledDependency prepared =
          ({ request with started := true }.setIsExecuting true).main prepared := by
  rcases Bool.eq_false_or_eq_true (request.isCancelled || hasCancelledDependency) with hc | hc
  · exact .inl ⟨hc, if_pos hc⟩
  · exact .inr ⟨hc, if_neg (Bool.eq_false_iff.mp hc)⟩

theorem Sound.start (h : request.Sound) (hstarted : request.started = false)
    (hasCancelledDependency prepared : Bool) :
    (request.start hasCancelledDependency prepared).Sound := by
  obtain ⟨hawaits, hreceived, herror⟩ := h.fresh hstarted
  -- Not sent, a request has not delivered, so it has not finished unless it is cancelled.
  have hcancelled : (request.isCancelled || !request.isFinished) = true := by
    cases hfinished : request.isFinished with
    | false => rw [Bool.not_false, Bool.or_true]
    | true =>
      cases hcancelled : request.isCancelled with
      | true => rfl
      | false => exact absurd (h.finished hfinished hcancelled).sent (h.not_sent hstarted)
  rcases request.start_cases hasCancelledDependency prepared with ⟨-, heq⟩ | ⟨-, heq⟩
  · rw [heq]
    exact .of_cancelled nofun (fun h => absurd (hawaits.symm.trans h) nofun) hcancelled
  · rw [heq]
    cases prepared with
    | false => exact .of_cancelled nofun (fun h => absurd (hawaits.symm.trans h) nofun) hcancelled
    | true =>
      refine ⟨nofun, fun _ => ⟨rfl, hreceived, herror⟩, fun hfinished hnot => ?_⟩
      exact absurd (h.finished hfinished hnot).sent (h.not_sent hstarted)

/-- A response without data is dropped, any other finishes the request, and all but a
successful one cancel it. -/
theorem Processed.effect {outcome : TaskOutcome} {after : NetworkRequest}
    (h : Processed coding request outcome after) : after.received = request.received ∧
      ((outcome.IsSuccess ∧ outcome.data = none ∧ after = request) ∨
        (after.isFinished = true ∧
          after.isCancelled = (request.isCancelled || !request.isFinished)) ∨
        (outcome.IsSuccess ∧ outcome.data ≠ none ∧ after.isFinished = true ∧
          after.isCancelled = request.isCancelled)) := by
  cases h with
  | failed error hfails => exact ⟨rfl, .inr (.inl ⟨rfl, rfl⟩)⟩
  | absent hsuccess hdata => exact ⟨rfl, .inl ⟨hsuccess, hdata, rfl⟩⟩
  | malformed error hsuccess hdata => exact ⟨rfl, .inr (.inl ⟨rfl, rfl⟩)⟩
  | undecodable base error hbase =>
    rcases hbase with rfl | ⟨json, rfl⟩
    · exact ⟨rfl, .inr (.inl ⟨rfl, rfl⟩)⟩
    · exact ⟨rfl, .inr (.inl ⟨rfl, rfl⟩)⟩
  | noResults json hsuccess hdata =>
    exact ⟨rfl, .inr (.inr ⟨hsuccess, by simp [hdata], rfl, rfl⟩)⟩
  | search json hkind hsuccess hdata =>
    exact ⟨rfl, .inr (.inr ⟨hsuccess, by simp [hdata], rfl, rfl⟩)⟩
  | collection json hkind hsuccess hdata =>
    exact ⟨rfl, .inr (.inr ⟨hsuccess, by simp [hdata], rfl, rfl⟩)⟩
  | collectionNoJSON hkind hsuccess hdata =>
    -- It has finished when its error is found, so that is no cancellation.
    exact ⟨rfl, .inr (.inr ⟨hsuccess, by simp [hdata], rfl, Bool.or_false _⟩)⟩

/-- What a response does to a request that waits: without data the request is as it was, and
any other response finishes it. -/
theorem Sound.response (h : request.Sound) (hawaits : request.awaitsResponse = true)
    {outcome : TaskOutcome} {after : NetworkRequest}
    (hafter : (request.receive outcome).processResponse coding outcome.response outcome.data
      outcome.error = after) :
    after.Sound ∧ after.Over ∧ (request.isCancelled = true → after.isCancelled = true) ∧
      ((outcome.IsSuccess → outcome.data ≠ none) → after.isFinished = true) := by
  obtain ⟨hstarted, hreceived, herror⟩ := h.waiting hawaits
  have hprocessed : Processed coding (request.receive outcome) outcome after := by
    rw [← hafter]
    exact processed (by exact herror) outcome
  have hreceive : (request.receive outcome).Over := ⟨hstarted, rfl⟩
  have hover := hprocessed.ended hreceive
  have hfresh : after.started = false → after.awaitsResponse = false ∧ after.received = none ∧
      after.error = none := fun hnot => absurd (hover.started.symm.trans hnot) nofun
  have hwaiting : after.awaitsResponse = true → after.started = true ∧ after.received = none ∧
      after.error = none := fun hnot => absurd (hover.awaitsResponse.symm.trans hnot) nofun
  -- A request that has finished while it waits was cancelled.
  have hcancelled : request.isFinished = true → request.isCancelled = true := by
    intro hfinished
    cases hcancelled : request.isCancelled with
    | true => rfl
    | false =>
      obtain ⟨outcome', hreceived', -⟩ := (h.finished hfinished hcancelled).received
      rw [hreceived] at hreceived'
      cases hreceived'
  obtain ⟨hsame, ⟨hsuccess, hdata, rfl⟩ | ⟨hfinished, hflag⟩ |
    ⟨hsuccess, hdata, hfinished, hflag⟩⟩ := hprocessed.effect
  · refine ⟨⟨hfresh, hwaiting, fun hfinished hnot => ?_⟩, hover, id, fun hnot => ?_⟩
    · have hnot' : request.isCancelled = false := hnot
      rw [hcancelled hfinished] at hnot'
      cases hnot'
    · exact absurd hdata (hnot hsuccess)
  · have htrue : after.isCancelled = true := by
      rw [hflag]
      show (request.isCancelled || !request.isFinished) = true
      cases hfinished' : request.isFinished with
      | false => exact Bool.or_true _
      | true => rw [hcancelled hfinished', Bool.true_or]
    exact ⟨.of_cancelled hfresh hwaiting htrue, hover, fun _ => htrue, fun _ => hfinished⟩
  · refine ⟨⟨hfresh, hwaiting, fun _ hnot => ⟨hfinished, hnot, outcome, hsame, hsuccess, hdata⟩⟩,
      hover, fun htrue => hflag.trans htrue, fun _ => hfinished⟩

end NetworkRequest

/-! ### The queue -/

/-- An operation queue whose operations are requests. -/
structure RequestQueue (Operation : Type*) where
  requests : Operation → NetworkRequest
  /-- All operations the queue has been handed. -/
  operations : List Operation := []

inductive RequestQueueEvent (Operation : Type*)
  | addOperation (operation : Operation)
  /-- The queue starts an operation that is ready. -/
  | start (operation : Operation) (prepared : Bool)
  | cancel (operation : Operation)
  | cancelOperations (types : List RequestKind)
  | processResponse (operation : Operation) (outcome : TaskOutcome)

/-- The events by which an operation is cancelled from outside. -/
def RequestQueueEvent.cancels {Operation : Type*} : RequestQueueEvent Operation → Bool
  | cancel _ | cancelOperations _ => true
  | addOperation _ | start _ _ | processResponse _ _ => false

namespace RequestQueue
variable {Operation : Type*} (coding : JSONCoding) (dependencies : Operation → List Operation)

def new (kind : Operation → RequestKind) : RequestQueue Operation where
  requests operation := { kind := kind operation }

variable (queue : RequestQueue Operation) (operation : Operation)

/-- `Operation.isReady`: the dependencies of a cancelled operation are ignored. -/
def isReady : Bool :=
  (queue.requests operation).isCancelled ||
    (dependencies operation).all fun dependency => (queue.requests dependency).isFinished

def hasCancelledDependency : Bool :=
  (dependencies operation).any fun dependency => (queue.requests dependency).isCancelled

section Machine
variable [DecidableEq Operation]

def set (request : NetworkRequest) : RequestQueue Operation :=
  { queue with requests := Function.update queue.requests operation request }

/-- `cancelOperations(ofTypes:)`; an operation that has finished has left the queue. -/
def cancelOperations (types : List RequestKind) : RequestQueue Operation :=
  { queue with
    requests operation :=
      if operation ∈ queue.operations ∧ (queue.requests operation).isFinished = false ∧
        (queue.requests operation).kind ∈ types then
          (queue.requests operation).cancelAndCompleteOperation
      else queue.requests operation }

/-- The queue, one event at a time. -/
def machine : Machine (RequestQueue Operation) (RequestQueueEvent Operation) where
  step queue
    | .addOperation operation =>
      match OperationQueue.addOperation queue.operations operation with
      | .ok operations => some { queue with operations := operations }
      | .error _ => none
    | .start operation prepared =>
      if operation ∈ queue.operations ∧ queue.isReady dependencies operation = true then
        ((NetworkRequest.machine coding).step (queue.requests operation)
          (.start (queue.hasCancelledDependency dependencies operation) prepared)).map
            (queue.set operation)
      else none
    | .cancel operation => some (queue.set operation (queue.requests operation).cancel)
    | .cancelOperations types => some (queue.cancelOperations types)
    | .processResponse operation outcome =>
      ((NetworkRequest.machine coding).step (queue.requests operation)
        (.processResponse outcome)).map (queue.set operation)

end Machine

/-! ### What an event does to a request -/

/-- What an event makes of the request of an operation. -/
inductive Moves : RequestQueueEvent Operation → NetworkRequest → Prop
  | stays (event : RequestQueueEvent Operation) : Moves event (queue.requests operation)
  | start (prepared : Bool) (hmem : operation ∈ queue.operations)
      (hready : queue.isReady dependencies operation = true)
      (hstarted : (queue.requests operation).started = false) :
      Moves (.start operation prepared) ((queue.requests operation).start
        (queue.hasCancelledDependency dependencies operation) prepared)
  | cancel : Moves (.cancel operation) (queue.requests operation).cancel
  | complete (types : List RequestKind)
      (hunfinished : (queue.requests operation).isFinished = false) :
      Moves (.cancelOperations types) (queue.requests operation).cancelAndCompleteOperation
  | response (outcome : TaskOutcome) (hawaits : (queue.requests operation).awaitsResponse = true) :
      Moves (.processResponse operation outcome)
        (((queue.requests operation).receive outcome).processResponse coding outcome.response
          outcome.data outcome.error)

/-- What a request that was sent depends on has delivered. -/
structure Inv : Prop where
  sound : ∀ operation, (queue.requests operation).Sound
  delivered : ∀ operation, (queue.requests operation).Sent →
    ∀ dependency ∈ dependencies operation, (queue.requests dependency).Delivered

variable {coding dependencies queue operation}

theorem inv_new (kind : Operation → RequestKind) : (new kind).Inv dependencies where
  sound operation := (NetworkRequest.ready_new (kind operation)).sound
  delivered operation hsent :=
    absurd hsent ((NetworkRequest.ready_new (kind operation)).sound.not_sent rfl)

/-- An operation that is ready, and neither cancelled nor to be, has had all it depends on
delivered. -/
theorem Inv.of_isReady (h : queue.Inv dependencies)
    (hready : queue.isReady dependencies operation = true)
    (hcancelled : ((queue.requests operation).isCancelled ||
      queue.hasCancelledDependency dependencies operation) = false) :
    ∀ dependency ∈ dependencies operation, (queue.requests dependency).Delivered := by
  obtain ⟨hself, hnone⟩ := Bool.or_eq_false_iff.mp hcancelled
  rw [isReady, hself, Bool.false_or, List.all_eq_true] at hready
  rw [hasCancelledDependency, List.any_eq_false] at hnone
  intro dependency hdependency
  have huncancelled := Bool.eq_false_iff.mpr (hnone dependency hdependency)
  exact (h.sound dependency).finished (hready dependency hdependency) huncancelled

theorem Inv.delivered_of_moves (h : queue.Inv dependencies)
    {event : RequestQueueEvent Operation} {request : NetworkRequest}
    (hmoves : queue.Moves coding dependencies operation event request)
    (hdelivered : (queue.requests operation).Delivered) : request.Delivered := by
  have hsound := h.sound operation
  cases hmoves with
  | stays => exact hdelivered
  | start prepared _ _ hstarted =>
    exact absurd ((hdelivered.started hsound).symm.trans hstarted) nofun
  | cancel => exact hdelivered.cancel
  | complete types hunfinished =>
    exact absurd (hdelivered.isFinished.symm.trans hunfinished) nofun
  | response outcome hawaits =>
    exact absurd ((hdelivered.awaitsResponse hsound).symm.trans hawaits) nofun

/-- A request is sent when what it depends on has delivered. -/
theorem Inv.of_sent (h : queue.Inv dependencies) {event : RequestQueueEvent Operation}
    {request : NetworkRequest} (hmoves : queue.Moves coding dependencies operation event request)
    (hsent : request.Sent) :
    ∀ dependency ∈ dependencies operation, (queue.requests dependency).Delivered := by
  cases hmoves with
  | stays | cancel | complete => exact h.delivered operation hsent
  | response outcome hawaits => exact h.delivered operation (.inl hawaits)
  | start prepared _ hready hstarted =>
    rcases (queue.requests operation).start_cases
      (queue.hasCancelledDependency dependencies operation) prepared with ⟨-, heq⟩ | ⟨hno, -⟩
    · rw [heq] at hsent
      exact absurd hsent ((h.sound operation).not_sent hstarted)
    · exact h.of_isReady hready hno

theorem Inv.sound_of_moves (h : queue.Inv dependencies) {event : RequestQueueEvent Operation}
    {request : NetworkRequest}
    (hmoves : queue.Moves coding dependencies operation event request) : request.Sound := by
  have hsound := h.sound operation
  cases hmoves with
  | stays => exact hsound
  | start prepared _ _ hstarted => exact hsound.start hstarted _ prepared
  | cancel => exact hsound.cancel
  | complete types hunfinished => exact hsound.cancelAndCompleteOperation hunfinished
  | response outcome hawaits => exact (hsound.response hawaits rfl).1

/-- Down from a request that was sent, everything has delivered. -/
theorem Inv.delivered_of_transGen (h : queue.Inv dependencies) {other : Operation}
    (hsent : (queue.requests operation).Sent)
    (hbelow : Relation.TransGen (ChildOf dependencies) operation other) :
    (queue.requests other).Delivered := by
  induction hbelow with
  | single hchild => exact h.delivered operation hsent _ hchild
  | tail _ hchild ih => exact h.delivered _ ih.sent _ hchild

/-! ### Runs of the queue -/

variable [DecidableEq Operation]

@[simp] theorem set_operations (request : NetworkRequest) :
    (queue.set operation request).operations = queue.operations := rfl

@[simp] theorem set_requests (request : NetworkRequest) :
    (queue.set operation request).requests operation = request := by
  simp [set]

theorem set_requests_of_ne {other : Operation} (hne : other ≠ operation)
    (request : NetworkRequest) :
    (queue.set operation request).requests other = queue.requests other := by
  simp [set, Function.update_of_ne hne]

/-- **What an event does**: an operation is added, or one request or those of a type move on. -/
theorem moves {event : RequestQueueEvent Operation} {after : RequestQueue Operation}
    (hstep : (machine coding dependencies).step queue event = some after) :
    queue.operations <+: after.operations ∧
      ∀ other, queue.Moves coding dependencies other event (after.requests other) := by
  have hset : ∀ {operation : Operation} {request : NetworkRequest},
      queue.Moves coding dependencies operation event request →
      ∀ other, queue.Moves coding dependencies other event
        ((queue.set operation request).requests other) := by
    intro operation request hmoves other
    by_cases hother : other = operation
    · rw [hother, set_requests]
      exact hmoves
    · rw [set_requests_of_ne hother]
      exact .stays event
  cases event with
  | addOperation operation =>
    simp only [machine, OperationQueue.addOperation] at hstep
    split at hstep
    · rename_i hadded
      split at hadded
      · cases hadded
      · obtain rfl := Except.ok.inj hadded
        obtain rfl := Option.some.inj hstep
        exact ⟨List.prefix_append _ _, fun other => .stays _⟩
    · cases hstep
  | start operation prepared =>
    simp only [machine, NetworkRequest.machine, Option.ite_none_right_eq_some,
      Option.map_eq_some_iff, Option.ite_none_left_eq_some, Option.some.injEq] at hstep
    obtain ⟨⟨hmem, hready⟩, _, ⟨hstarted, rfl⟩, rfl⟩ := hstep
    exact ⟨List.prefix_refl _,
      hset (.start prepared hmem hready (Bool.eq_false_iff.mpr hstarted))⟩
  | cancel operation =>
    obtain rfl := Option.some.inj hstep
    exact ⟨List.prefix_refl _, hset .cancel⟩
  | cancelOperations types =>
    obtain rfl := Option.some.inj hstep
    refine ⟨List.prefix_refl _, fun other => ?_⟩
    simp only [cancelOperations]
    split
    · rename_i h
      exact .complete types h.2.1
    · exact .stays _
  | processResponse operation outcome =>
    simp only [machine, NetworkRequest.machine, Option.map_eq_some_iff,
      Option.ite_none_right_eq_some, Option.some.injEq] at hstep
    obtain ⟨_, ⟨hawaits, rfl⟩, rfl⟩ := hstep
    exact ⟨List.prefix_refl _, hset (.response outcome hawaits)⟩

theorem Inv.step (h : queue.Inv dependencies) {event : RequestQueueEvent Operation}
    {after : RequestQueue Operation}
    (hstep : (machine coding dependencies).step queue event = some after) :
    after.Inv dependencies := by
  obtain ⟨-, hmoves⟩ := moves hstep
  refine ⟨fun operation => h.sound_of_moves (hmoves operation), ?_⟩
  intro operation hsent dependency hdependency
  have hdelivered := h.of_sent (hmoves operation) hsent dependency hdependency
  exact h.delivered_of_moves (hmoves dependency) hdelivered

/-- **A request is sent only after all it depends on**, directly or not, has delivered, in any
run of the queue. -/
theorem sentAfterDependencies_along (coding : JSONCoding)
    (dependencies : Operation → List Operation) (kind : Operation → RequestKind)
    (events : List (RequestQueueEvent Operation)) :
    (machine coding dependencies).Along
      (fun _ _ after => ∀ operation other, (after.requests operation).Sent →
        Relation.TransGen (ChildOf dependencies) operation other →
          (after.requests other).Delivered) (new kind) events := by
  have hkept : ∀ (queue : RequestQueue Operation) event after, queue.Inv dependencies →
      (machine coding dependencies).step queue event = some after → after.Inv dependencies ∧
        ∀ operation other, (after.requests operation).Sent →
          Relation.TransGen (ChildOf dependencies) operation other →
            (after.requests other).Delivered := by
    intro queue event after h hstep
    have hafter := h.step hstep
    exact ⟨hafter, fun operation other => hafter.delivered_of_transGen⟩
  exact Machine.along_of_step_invariant hkept (inv_new kind) events

end RequestQueue

end ImSplash
