import ImSplash.NetworkRequest

/-!
# Does a request finish once?

A request completes by `completeOperation`, directly or after an error.  Every failure of
a response ends there, once.  A collection that reads its photos completes and then calls
`super`, which reads the response again and completes once more; and a successful
response without data is dropped by a guard that completes nothing.
-/

namespace ImSplash
open Runs

namespace NetworkRequest
variable (coding : JSONCoding) (request : NetworkRequest)

/-- How often `completeOperation` has run. -/
def completions : Nat := request.writes.countP fun write => write.property = .isFinished

/-- The request completes exactly once, is never executing and finished at the same time,
and once finished keeps its error and its items. -/
structure FinishesOnce : Prop where
  atMostOnce : request.completions ≤ 1
  completed : request.Over → request.completions = 1 ∧ request.isFinished = true
  exclusive : ∀ write ∈ request.writes, ¬ (write.isExecuting = true ∧ write.isFinished = true)
  settled : ∀ write ∈ request.writes, write.property = .error ∨ write.property = .items →
    write.isFinished = false

/-- A successful response has data, and no photos can be read from it as a collection. -/
def NoSecondCompletion (event : RequestEvent) : Prop :=
  ∀ outcome, event = .processResponse outcome → outcome.IsSuccess →
    ∃ body, outcome.data = some body ∧
      (request.kind = .getCollectionPhotos → coding.photos body request.kind = none)

variable {coding request}

theorem Ready.finishesOnce (h : request.Ready) : request.FinishesOnce := by
  refine ⟨?_, fun hover => ?_, ?_, ?_⟩
  · simp [completions, h.writes]
  · exact absurd hover.started (by simp [h.started])
  · simp [h.writes]
  · simp [h.writes]

theorem Waiting.finishesOnce (h : request.Waiting) : request.FinishesOnce := by
  refine ⟨?_, fun hover => ?_, ?_, ?_⟩
  · simp [completions, h.writes]
  · exact absurd hover.awaitsResponse (by simp [h.awaitsResponse])
  · simp [h.writes]
  · simp [h.writes]

/-- Between starting and completing, a request writes its error and its items only. -/
theorem finishesOnce_of_writes (between : List PropertyWrite)
    (hwrites : request.writes = ⟨.isExecuting, true, false⟩ :: between ++
      [⟨.isExecuting, false, false⟩, ⟨.isFinished, false, true⟩])
    (hbetween : ∀ write ∈ between, write.property ≠ .isFinished ∧ write.isFinished = false)
    (hfinished : request.isFinished = true) : request.FinishesOnce := by
  have hcount : request.completions = 1 := by
    have hnone : between.countP (fun write => write.property = .isFinished) = 0 :=
      List.countP_eq_zero.mpr fun write hwrite => by simpa using (hbetween write hwrite).1
    simp [completions, hwrites, hnone]
  refine ⟨Nat.le_of_eq hcount, fun _ => ⟨hcount, hfinished⟩, ?_, ?_⟩
  · rw [hwrites]
    intro write hwrite
    simp only [List.cons_append, List.mem_cons, List.mem_append, List.not_mem_nil,
      or_false] at hwrite
    rcases hwrite with rfl | hwrite | rfl | rfl
    · simp
    · simp [(hbetween write hwrite).2]
    · simp
    · simp
  · rw [hwrites]
    intro write hwrite
    simp only [List.cons_append, List.mem_cons, List.mem_append, List.not_mem_nil,
      or_false] at hwrite
    rcases hwrite with rfl | hwrite | rfl | rfl
    · simp
    · exact fun _ => (hbetween write hwrite).2
    · simp
    · simp

theorem Ready.finishesOnce_start (h : request.Ready) (hasCancelledDependency prepared : Bool) :
    (request.start hasCancelledDependency prepared).FinishesOnce := by
  rcases h.start hasCancelledDependency prepared with ⟨-, heq⟩ | ⟨-, heq | hwaits⟩
  · rw [heq]
    refine finishesOnce_of_writes [] ?_ (by simp) rfl
    simp [setIsExecuting, log, h.writes, h.isFinished]
  · rw [heq]
    refine finishesOnce_of_writes [⟨.error, true, false⟩] ?_ (by simp) rfl
    simp [setIsExecuting, log, h.writes, h.isFinished]
  · exact hwaits.finishesOnce

theorem noSecondCompletion_response_iff {outcome : TaskOutcome} :
    NoSecondCompletion coding request (.processResponse outcome) ↔
      (outcome.IsSuccess → ∃ body, outcome.data = some body ∧
        (request.kind = .getCollectionPhotos → coding.photos body request.kind = none)) := by
  simp only [NoSecondCompletion, RequestEvent.processResponse.injEq, forall_eq']

/-- A collection whose photos can be read is what the condition leaves out. -/
theorem not_noSecondCompletion {outcome : TaskOutcome} {body : Data} {photos : List UnsplashPhoto}
    (hkind : request.kind = .getCollectionPhotos) (hsuccess : outcome.IsSuccess)
    (hdata : outcome.data = some body) (hphotos : coding.photos body request.kind = some photos) :
    ¬ NoSecondCompletion coding request (.processResponse outcome) := by
  intro hcond
  obtain ⟨body', hbody, hnone⟩ := noSecondCompletion_response_iff.mp hcond hsuccess
  obtain rfl := Option.some.inj (hdata.symm.trans hbody)
  cases hphotos.symm.trans (hnone hkind)

/-- A response completes a request once exactly when it is read once. -/
theorem Waiting.finishesOnce_iff (h : request.Waiting) {outcome : TaskOutcome}
    {after : NetworkRequest}
    (hprocessed : Processed coding (request.receive outcome) outcome after) :
    after.FinishesOnce ↔ NoSecondCompletion coding request (.processResponse outcome) := by
  have hwrites : (request.receive outcome).writes = [⟨.isExecuting, true, false⟩] := h.writes
  have hexecuting : (request.receive outcome).isExecuting = true := h.isExecuting
  have hfinished : (request.receive outcome).isFinished = false := h.isFinished
  have hover : (request.receive outcome).Over := ⟨h.started, rfl⟩
  cases hprocessed with
  | failed error hfails =>
    refine iff_of_true ?_ (noSecondCompletion_response_iff.mpr fun hsuccess => ?_)
    · refine finishesOnce_of_writes [⟨.error, true, false⟩] ?_ (by simp) rfl
      simp [hwrites, hexecuting, hfinished]
    · exact absurd hsuccess hfails
  | absent hsuccess hdata =>
    -- The guard returns, and the request goes on executing with nothing to come.
    refine iff_of_false (fun honce => ?_) fun hcond => ?_
    · have hone := (honce.completed hover).1
      simp [completions, hwrites] at hone
    · obtain ⟨body, hbody, -⟩ := noSecondCompletion_response_iff.mp hcond hsuccess
      rw [hdata] at hbody
      cases hbody
  | malformed error hsuccess hdata hphotos hresults =>
    refine iff_of_true ?_ (noSecondCompletion_response_iff.mpr fun _ => ?_)
    · refine finishesOnce_of_writes [⟨.error, true, false⟩] ?_ (by simp) rfl
      simp [hwrites, hexecuting, hfinished]
    · exact ⟨_, hdata, fun _ => hphotos⟩
  | undecodable base error hbase hsuccess hdata hphotos hresults =>
    refine iff_of_true ?_ (noSecondCompletion_response_iff.mpr fun _ => ?_)
    · have hwrites : base.writes = [⟨.isExecuting, true, false⟩] := by
        rcases hbase with rfl | ⟨json, rfl⟩ <;> exact hwrites
      have hexecuting : base.isExecuting = true := by
        rcases hbase with rfl | ⟨json, rfl⟩ <;> exact hexecuting
      have hfinished : base.isFinished = false := by
        rcases hbase with rfl | ⟨json, rfl⟩ <;> exact hfinished
      -- The error is set where the photos are read, and once more where it completes.
      refine finishesOnce_of_writes [⟨.error, true, false⟩, ⟨.error, true, false⟩] ?_ (by simp) rfl
      simp [hwrites, hexecuting, hfinished]
    · exact ⟨_, hdata, fun _ => hphotos⟩
  | noResults json hsuccess hdata hresults =>
    refine iff_of_true ?_ (noSecondCompletion_response_iff.mpr fun _ => ?_)
    · refine finishesOnce_of_writes [] ?_ (by simp) rfl
      simp [hwrites, hfinished]
    · refine ⟨_, hdata, fun hkind => ?_⟩
      exact absurd (hkind.symm.trans hresults.1) (by decide)
  | search json hkind hsuccess hdata hphotos =>
    refine iff_of_true ?_ (noSecondCompletion_response_iff.mpr fun _ => ?_)
    · refine finishesOnce_of_writes [⟨.items, true, false⟩] ?_ (by simp) rfl
      simp [hwrites, hexecuting, hfinished]
    · refine ⟨_, hdata, fun hcollection => ?_⟩
      exact absurd (hcollection.symm.trans hkind) (by decide)
  | collection json hkind hsuccess hdata hphotos =>
    refine iff_of_false (fun honce => ?_) (not_noSecondCompletion hkind hsuccess hdata hphotos)
    have htwice := honce.atMostOnce
    simp [completions, hwrites] at htwice
  | collectionNoJSON hkind hsuccess hdata hphotos =>
    refine iff_of_false (fun honce => ?_) (not_noSecondCompletion hkind hsuccess hdata hphotos)
    have htwice := honce.atMostOnce
    simp [completions, hwrites] at htwice

theorem finishesOnce_kept (coding : JSONCoding) :
    KeptExactly coding FinishesOnce (NoSecondCompletion coding) where
  ready h := h.finishesOnce
  waiting h := h.finishesOnce
  cancel hover h := ⟨h.atMostOnce, fun _ => h.completed hover, h.exclusive, h.settled⟩
  uncancelled _ outcome hevent := by cases hevent
  start _ _ h := iff_of_true (h.finishesOnce_start _ _) fun outcome hevent => by cases hevent
  response h hprocessed := h.finishesOnce_iff hprocessed

/-- **A request finishes exactly once**, along every run from one that has not been
started, exactly when each successful response has data and, for a collection, none that
can be read. -/
theorem finishesOnce_along_iff (coding : JSONCoding) (kind : RequestKind)
    (events : List RequestEvent) :
    (machine coding).Along (fun _ _ after => after.FinishesOnce) { kind := kind } events ↔
      (machine coding).Along (fun request event _ => NoSecondCompletion coding request event)
        { kind := kind } events :=
  (finishesOnce_kept coding).along_iff (ready_new kind) events

/-- A collection that receives an empty page completes twice. -/
theorem empty_page_completes_twice :
    ¬ (machine .emptyBodies).Along (fun _ _ after => after.FinishesOnce)
      { kind := .getCollectionPhotos }
      [.start false true, .processResponse ⟨some (.http 200), some [0x5b, 0x5d], none⟩] := by
  intro h
  have honce := ((h _ rfl).2 _ rfl).1
  exact absurd honce.atMostOnce (by decide)

end NetworkRequest

end ImSplash
