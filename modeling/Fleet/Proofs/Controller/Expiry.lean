import Fleet.Proofs.Controller.Driving
import Fleet.Proofs.Controller.GuardedCalls

/-!
# Numbers and ages of requests

Old requests are forgotten from the front of the queue only. That finds all of them because the
queue is in order: every request is put at the end of the queue with a later number and at a later
time than those before it, grants take from the front, and a round that takes long reads the clock
again for each request. The clock never goes back.

Each call of the allocator that the controller makes for a request, with its retries, bears the next
number, also if it is refused, denied or fails.
-/

namespace Fleet

open RetryPolicy

variable {World : Type}

/-! ## The order of the queue -/

/-- Requests with ascending numbers, none older than one before it. -/
def InOrder (pending : List (Nat × Instant)) : Prop :=
  pending.Pairwise fun first second => first.1 < second.1 ∧ first.2 ≤ second.2

/-- In a queue in order, those that are too old are at the front. -/
theorem InOrder.dropWhile_eq_filter {pending : List (Nat × Instant)} (ordered : InOrder pending)
    (timeout : Duration) (now : Instant) :
    pending.dropWhile (fun request => timeout ≤ now.since request.2) =
      pending.filter fun request => now.since request.2 < timeout := by
  induction pending with
  | nil => rfl
  | cons request rest ih =>
      rcases List.pairwise_cons.mp ordered with ⟨later, restOrdered⟩
      by_cases old : timeout ≤ now.since request.2
      · have dropped : ¬now.since request.2 < timeout := Nat.not_lt_of_le old
        rw [List.dropWhile_cons_of_pos (by simpa using old),
          List.filter_cons_of_neg (by simpa using dropped), ih restOrdered]
      · have kept : now.since request.2 < timeout := Nat.lt_of_not_le old
        rw [List.dropWhile_cons_of_neg (by simpa using old),
          List.filter_cons_of_pos (by simpa using kept)]
        congr 1
        symm
        apply List.filter_eq_self.mpr
        intro other member
        have order : request.2.nanoseconds ≤ other.2.nanoseconds := (later other member).2
        have young : now.nanoseconds - other.2.nanoseconds ≤
            now.nanoseconds - request.2.nanoseconds := Nat.sub_le_sub_left order _
        exact decide_eq_true (Nat.lt_of_le_of_lt young kept)

/-! ## What the allocator hears -/

/-- The results of one call with retries: all but the last are worth another attempt. -/
structure IsOneCall (policy : RetryPolicy) (results : List (Except ClusterError Unit)) : Prop where
  limit : results.length ≤ policy.attempts
  retried : ∀ result ∈ results.dropLast, IsRetried ClusterError.isTransient result

/-- What the allocator hears of calls with consecutive numbers. -/
def heardOf (first : Nat) (calls : List (List (Except ClusterError Unit))) :
    List (Nat × Except ClusterError Unit) :=
  (calls.zipIdx first).flatMap fun call => call.1.map (call.2, ·)

theorem heardOf_append (first : Nat) (calls more : List (List (Except ClusterError Unit))) :
    heardOf first (calls ++ more) =
      heardOf first calls ++ heardOf (first + calls.length) more := by
  rw [heardOf, List.zipIdx_append, List.flatMap_append]
  rfl

/-- Time passes in a world, and the allocator hears nothing. -/
structure Surroundings.Passes (surroundings : Surroundings World)
    (log : World → List (Nat × Except ClusterError Unit)) (before after : World) : Prop where
  clock : surroundings.clock before ≤ surroundings.clock after
  silent : log after = log before

/-- The clock of the world never goes back, and the world keeps a log of what the allocator heard
and how it answered. -/
structure Surroundings.Chronicles (surroundings : Surroundings World)
    (log : World → List (Nat × Except ClusterError Unit)) : Prop where
  register : ∀ world, surroundings.Passes log world (surroundings.register world).2
  heard : ∀ request world, log (surroundings.request request world).2 =
    log world ++ [(request.number, (surroundings.request request world).1)]
  request : ∀ request world,
    surroundings.clock world ≤ surroundings.clock (surroundings.request request world).2
  perform : ∀ plan (work : Work) world,
    surroundings.Passes log world (work.perform surroundings plan world).2
  ready : ∀ replica world, surroundings.Passes log world (surroundings.ready replica world).2
  metrics : ∀ replica world, surroundings.Passes log world (surroundings.metrics replica world).2
  receive : ∀ world, surroundings.Passes log world (surroundings.receive world).2
  rest : ∀ handle limit world,
    surroundings.Passes log world (surroundings.rest handle limit world)

variable {surroundings : Surroundings World} {log : World → List (Nat × Except ClusterError Unit)}

namespace Surroundings.Passes

protected theorem refl (world : World) : surroundings.Passes log world world :=
  ⟨Nat.le_refl _, rfl⟩

protected theorem trans {before middle after : World}
    (first : surroundings.Passes log before middle)
    (second : surroundings.Passes log middle after) : surroundings.Passes log before after :=
  ⟨Nat.le_trans first.clock second.clock, second.silent.trans first.silent⟩

end Surroundings.Passes

namespace Surroundings.Chronicles

variable (chronicles : surroundings.Chronicles log)
include chronicles

theorem pause (settings : ControllerSettings) (handle : Handle) (duration : Duration)
    (background : Background) (world : World) :
    surroundings.Passes log world
      (background.pause surroundings settings handle duration world).2.2 := by
  have begins : Background.Confined (fun _ => True) (surroundings.Passes log world) background
      world := ⟨fun _ _ => trivial, .refl world⟩
  refine (Background.pause_confined ?_ ?_ settings handle duration begins).holds
  · intro plan work reached _ passed
    exact passed.trans (chronicles.perform plan work reached)
  · intro handle limit reached passed
    exact passed.trans (chronicles.rest handle limit reached)

theorem stepJob (settings : ControllerSettings) (background : Background) (world : World)
    (job : Job) :
    surroundings.Passes log world
      (Background.stepJob surroundings settings (background, world) job).2 := by
  have begins : Background.Confined (fun _ => True) (surroundings.Passes log world) background
      world := ⟨fun _ _ => trivial, .refl world⟩
  refine (Background.stepJob_confined ?_ settings trivial begins).holds
  intro plan work reached _ passed
  exact passed.trans (chronicles.perform plan work reached)

theorem callRegister (controller : Controller) (world : World) :
    surroundings.Passes log world (controller.callRegister surroundings world).2.2 := by
  apply RetryPolicy.call_keeps
    fun reached : Background × World => surroundings.Passes log world reached.2
  · intro reached passed
    exact passed.trans (chronicles.register reached.2)
  · intro duration reached passed
    exact passed.trans (chronicles.pause ..)
  · exact .refl world

theorem probeAll (replicas : List Replica) (breakers : BreakerRegistry) (world : World) :
    surroundings.Passes log world
      (Controller.probeAll surroundings replicas breakers world).2.2 := by
  induction replicas generalizing breakers world with
  | nil => exact .refl world
  | cons replica rest ih =>
      simp only [Controller.probeAll]
      refine Surroundings.Passes.trans ?_ (ih _ _)
      simp only [Controller.probe]
      apply Breaker.call_keeps _ _ _ (surroundings.Passes log world)
      · exact fun reached passed => passed.trans (chronicles.metrics replica reached)
      · split
        · exact .refl world
        · exact chronicles.ready replica world

theorem callBeside_clock (controller : Controller) (request : AllocationRequest)
    (background : Background) (world : World) :
    surroundings.clock world ≤ surroundings.clock
      (controller.callBeside surroundings (surroundings.request request)
        (background, world)).2.2 := by
  apply RetryPolicy.call_keeps
    fun reached : Background × World => surroundings.clock world ≤ surroundings.clock reached.2
  · intro reached passed
    exact Nat.le_trans passed (chronicles.request request reached.2)
  · intro duration reached passed
    exact Nat.le_trans passed (chronicles.pause ..).clock
  · exact Nat.le_refl _

end Surroundings.Chronicles

/-! ## One call -/

section Call

variable {Failure Value Number : Type} {policy : RetryPolicy} {retryable : Failure → Bool}
  {operation : World → Except Failure Value × World} {pause : Duration → World → Bool × World}
  (notes : World → List (Number × Except Failure Value)) (number : Number)
  (hears : ∀ world, notes (operation world).2 = notes world ++ [(number, (operation world).1)])
  (silent : ∀ duration world, notes (pause duration world).2 = notes world)
include hears silent

/-- A call makes its attempts under one number, and every one but the last was worth another. -/
theorem RetryPolicy.CallCourse.heard {left : Nat} {delay : Duration} {world : World}
    {run : Except (RetryError Failure) Value × World}
    (course : CallCourse policy retryable operation pause left delay world run) :
    ∃ results, notes run.2 = notes world ++ results.map (number, ·) ∧ results ≠ [] ∧
      results.length ≤ left + 1 ∧
      ∀ result ∈ results.dropLast, IsRetried retryable result := by
  induction course with
  | @concluded left delay world answer judged =>
      exact ⟨[(operation world).1], hears world, by simp, by simp, by simp⟩
  | @cancelled left delay world judged ended =>
      exact ⟨[(operation world).1], (silent ..).trans (hears world), by simp, by simp, by simp⟩
  | @outOfRange left delay world judged ended grows =>
      exact ⟨[(operation world).1], (silent ..).trans (hears world), by simp, by simp, by simp⟩
  | @resumed left delay next world run judged ended grows rest ih =>
      rcases ih with ⟨results, told, some, limit, retried⟩
      refine ⟨(operation world).1 :: results, ?_, by simp, by simpa using limit, ?_⟩
      · rw [told, silent, hears, List.append_assoc]
        rfl
      · rw [List.dropLast_cons_of_ne_nil some]
        rcases judge_eq_pause_iff.mp judged with ⟨failure, failed, worthwhile, -⟩
        exact List.forall_mem_cons.mpr ⟨⟨failure, failed, worthwhile⟩, retried⟩

end Call

namespace Controller

/-! ## A span of time -/

/-- What a span of time does to the requests: those that are pending after it were so before, or
were issued during it, and each number that was given out is that of one call. -/
structure Lapse (surroundings : Surroundings World)
    (log : World → List (Nat × Except ClusterError Unit)) (before after : Controller × World) :
    Prop where
  clock : surroundings.clock before.2 ≤ surroundings.clock after.2
  settings : after.1.settings = before.1.settings
  heard : ∃ calls, after.1.nextRequest = before.1.nextRequest + calls.length ∧
    log after.2 = log before.2 ++ heardOf before.1.nextRequest calls ∧
    ∀ call ∈ calls, IsOneCall before.1.settings.retry call
  pending : ∃ issued, after.1.pending.Sublist (before.1.pending ++ issued) ∧ InOrder issued ∧
    ∀ request ∈ issued, before.1.nextRequest ≤ request.1 ∧ request.1 < after.1.nextRequest ∧
      surroundings.clock before.2 ≤ request.2 ∧ request.2 ≤ surroundings.clock after.2

namespace Lapse

variable {before middle after : Controller × World}

theorem nextRequest_le (lapse : Lapse surroundings log before after) :
    before.1.nextRequest ≤ after.1.nextRequest := by
  rcases lapse.heard with ⟨calls, numbers, -⟩
  rw [numbers]
  exact Nat.le_add_right ..

/-- Time passes without a request. -/
theorem quiet {controller later : Controller} {world next : World}
    (settings : later.settings = controller.settings)
    (numbers : later.nextRequest = controller.nextRequest)
    (pending : later.pending.Sublist controller.pending)
    (passes : surroundings.Passes log world next) :
    Lapse surroundings log (controller, world) (later, next) where
  clock := passes.clock
  settings := settings
  heard := ⟨[], numbers, by simp [passes.silent, heardOf], by simp⟩
  pending := ⟨[], by simpa using pending, .nil, by simp⟩

protected theorem trans (first : Lapse surroundings log before middle)
    (second : Lapse surroundings log middle after) : Lapse surroundings log before after where
  clock := Nat.le_trans first.clock second.clock
  settings := second.settings.trans first.settings
  heard := by
    rcases first.heard with ⟨early, earlyNumbers, earlyLog, earlyCalls⟩
    rcases second.heard with ⟨late, lateNumbers, lateLog, lateCalls⟩
    refine ⟨early ++ late, ?_, ?_, ?_⟩
    · rw [lateNumbers, earlyNumbers, List.length_append, Nat.add_assoc]
    · rw [lateLog, earlyLog, earlyNumbers, heardOf_append, List.append_assoc]
    · rw [first.settings] at lateCalls
      exact List.forall_mem_append.mpr ⟨earlyCalls, lateCalls⟩
  pending := by
    have firstNumbers := first.nextRequest_le
    have secondNumbers := second.nextRequest_le
    rcases first.pending with ⟨early, earlyPending, earlyOrder, earlyBounds⟩
    rcases second.pending with ⟨late, latePending, lateOrder, lateBounds⟩
    refine ⟨early ++ late, ?_, ?_, ?_⟩
    · rw [← List.append_assoc]
      exact latePending.trans (earlyPending.append_right late)
    · refine List.pairwise_append.mpr ⟨earlyOrder, lateOrder, fun one earlier other later => ?_⟩
      rcases earlyBounds one earlier with ⟨-, below, -, past⟩
      rcases lateBounds other later with ⟨above, -, future, -⟩
      exact ⟨Nat.lt_of_lt_of_le below above, Nat.le_trans past future⟩
    · refine List.forall_mem_append.mpr ⟨fun request member => ?_, fun request member => ?_⟩
      · rcases earlyBounds request member with ⟨above, below, future, past⟩
        exact ⟨above, Nat.lt_of_lt_of_le below secondNumbers, future,
          Nat.le_trans past second.clock⟩
      · rcases lateBounds request member with ⟨above, below, future, past⟩
        exact ⟨Nat.le_trans firstNumbers above, below, Nat.le_trans first.clock future, past⟩

end Lapse

/-! ### Requests -/

section Chronicles

variable (chronicles : surroundings.Chronicles log)
include chronicles

theorem callRequest_clock (controller : Controller) (request : AllocationRequest) (world : World) :
    surroundings.clock world ≤
      surroundings.clock (controller.callRequest surroundings request world).2.2 := by
  apply Breaker.call_keeps (controller.background.breakers.breaker allocatorKey)
    (fun state => surroundings.clock state.2)
    (controller.callBeside surroundings (surroundings.request request))
    (fun reached : Background × World => surroundings.clock world ≤ surroundings.clock reached.2)
  · intro reached passed
    exact Nat.le_trans passed (chronicles.callBeside_clock controller request ..)
  · exact Nat.le_refl _

/-- The allocator hears of a request one call, or none if the breaker refuses it. -/
theorem callRequest_heard (controller : Controller) (request : AllocationRequest) (world : World) :
    ∃ results, log (controller.callRequest surroundings request world).2.2 =
        log world ++ results.map (request.number, ·) ∧
      IsOneCall controller.settings.retry results := by
  by_cases admitted : ((controller.background.breakers.breaker allocatorKey).allow
      (surroundings.clock world)).1 = true
  · have heard : ∃ results, log (controller.callBeside surroundings (surroundings.request request)
          (controller.background, world)).2.2 = log world ++ results.map (request.number, ·) ∧
        results ≠ [] ∧ results.length ≤ controller.settings.retry.attempts - 1 + 1 ∧
        ∀ result ∈ results.dropLast, IsRetried ClusterError.isTransient result := by
      apply CallCourse.heard (fun state : Background × World => log state.2) request.number ?_ ?_
        (continueCall_course _ _ _)
      · intro state
        exact chronicles.heard request state.2
      · intro duration state
        exact (chronicles.pause ..).silent
    rcases heard with ⟨results, told, -, limit, retried⟩
    have positive := controller.settings.retry.attempts_pos
    rw [callRequest_of_allowed request admitted]
    exact ⟨results, told, by omega, retried⟩
  · rw [callRequest_of_refused request admitted]
    exact ⟨[], by simp, Nat.zero_le _, by simp⟩

/-- A call gives out one number, and at most one request is pending from it. -/
theorem lapse_of_callRequest {controller after : Controller} {world : World}
    (settings : after.settings = controller.settings)
    (numbers : after.nextRequest = controller.nextRequest + 1)
    (pending : after.pending = controller.pending ∨
      after.pending = controller.pending ++ [(controller.nextRequest, surroundings.clock
        (controller.callRequest surroundings controller.nextAllocationRequest world).2.2)]) :
    Lapse surroundings log (controller, world) (after,
      (controller.callRequest surroundings controller.nextAllocationRequest world).2.2) := by
  have clock := callRequest_clock chronicles controller controller.nextAllocationRequest world
  rcases callRequest_heard chronicles controller controller.nextAllocationRequest world with
    ⟨results, heard, oneCall⟩
  refine ⟨clock, settings, ⟨[results], by simpa using numbers, ?_, by simpa using oneCall⟩, ?_⟩
  · simpa [heardOf, nextAllocationRequest] using heard
  · rcases pending with same | added
    · exact ⟨[], by simp [same], .nil, by simp⟩
    · refine ⟨_, (by rw [added]), List.pairwise_singleton .., ?_⟩
      rw [List.forall_mem_singleton]
      exact ⟨Nat.le_refl _, by simp [numbers], clock, Nat.le_refl _⟩

theorem issueRequests_lapse (count : Nat) (controller : Controller) (world : World) :
    Lapse surroundings log (controller, world)
      (issueRequests surroundings count controller world) := by
  induction count generalizing controller world with
  | zero => exact .quiet rfl rfl (.refl _) (.refl world)
  | succ count ih =>
      simp only [issueRequests]
      split
      · refine Lapse.trans ?_ (ih _ _)
        exact lapse_of_callRequest chronicles rfl rfl (Or.inr rfl)
      · exact lapse_of_callRequest chronicles rfl rfl (Or.inl rfl)
      · exact lapse_of_callRequest chronicles rfl rfl (Or.inl rfl)

theorem requestMissing_lapse (controller : Controller) (world : World) :
    Lapse surroundings log (controller, world) (controller.requestMissing surroundings world) := by
  simp only [requestMissing]
  split
  · exact .quiet rfl rfl (.refl _) (.refl world)
  · refine Lapse.trans ?_ (issueRequests_lapse chronicles ..)
    exact .quiet rfl rfl (.refl _) (.refl world)

/-! ### Starting and rounds -/

omit chronicles in
theorem Lapse.publish {before after : Controller × World}
    (lapse : Lapse surroundings log before after) :
    Lapse surroundings log before (after.1.publish, after.2) :=
  lapse.trans (.quiet rfl rfl (.refl _) (.refl after.2))

theorem startUp_lapse (controller : Controller) (world : World) :
    Lapse surroundings log (controller, world) (controller.startUp surroundings world).2 := by
  have passes := chronicles.callRegister controller world
  simp only [startUp]
  generalize controller.callRegister surroundings world = called at passes ⊢
  rcases called with ⟨failure | registration, background, later⟩
  · exact .quiet rfl rfl (.refl _) passes
  · rcases adoptPrevious_frame registration.previous (surroundings.epoch later)
      { controller with background := background, available := registration.available } with
      ⟨running, aggregator, adopted⟩
    simp only [adopted]
    apply Lapse.publish
    refine Lapse.trans ?_ (requestMissing_lapse chronicles ..)
    exact .quiet rfl rfl (.refl _) passes

theorem replenish_lapse (controller : Controller) (now : Instant) (world : World) :
    Lapse surroundings log (controller, world)
      (controller.replenish surroundings now world) := by
  simp only [replenish]
  rcases (controller.expirePending now).retryReleases_frame with ⟨background, retried, -⟩
  rw [retried]
  refine Lapse.trans ?_ (requestMissing_lapse chronicles ..)
  exact .quiet rfl rfl (List.dropWhile_sublist _) (.refl world)

omit chronicles in
theorem Sampled.lapse {before after : Controller} {world later : World}
    (sampled : Sampled before after) (passes : surroundings.Passes log world later) :
    Lapse surroundings log (before, world) (after, later) := by
  rw [sampled.frame]
  exact .quiet rfl rfl (.refl _) passes

theorem assess_lapse (controller : Controller) (now : Instant) (world : World) :
    Lapse surroundings log (controller, world)
      (controller.assess surroundings now world).2 := by
  have passes : surroundings.Passes log world (controller.assess surroundings now world).2.2 := by
    simp only [assess, sampleReplicas_eq]
    exact chronicles.probeAll ..
  exact (assess_sampled surroundings controller now world).lapse passes

omit chronicles in
theorem stopOldest_lapse (controller : Controller) (world : World) :
    Lapse surroundings log (controller, world) (controller.stopOldest, world) := by
  rcases controller.stopOldest_halted with ⟨victim, halted⟩
  rw [halted.frame]
  exact .quiet rfl rfl (.refl _) (.refl world)

theorem actOnTarget_lapse (controller : Controller) (target : Nat) (world : World) :
    Lapse surroundings log (controller, world)
      (controller.actOnTarget surroundings target world) := by
  have rescaled (event : String) : Lapse surroundings log (controller, world)
      (controller.rescale event target (surroundings.epoch world), world) :=
    .quiet rfl rfl (.refl _) (.refl world)
  simp only [actOnTarget]
  split
  · exact (rescaled "Scale up").trans (requestMissing_lapse chronicles ..)
  · split
    · exact (rescaled "Scale down").trans (stopOldest_lapse ..)
    · split
      · exact stopOldest_lapse ..
      · exact .quiet rfl rfl (.refl _) (.refl world)

theorem tick_lapse (controller : Controller) (world : World) :
    Lapse surroundings log (controller, world) (controller.tick surroundings world) := by
  have replenished := replenish_lapse chronicles controller (surroundings.clock world) world
  have assessed : Lapse surroundings log (controller, world)
      (controller.assessed surroundings world).2 :=
    replenished.trans (assess_lapse chronicles
      (controller.replenish surroundings (surroundings.clock world) world).1
      (surroundings.clock world)
      (controller.replenish surroundings (surroundings.clock world) world).2)
  have acted := assessed.trans (actOnTarget_lapse chronicles
    (controller.assessed surroundings world).2.1 (controller.assessed surroundings world).1
    (controller.assessed surroundings world).2.2)
  rw [tick_eq]
  exact acted.publish

/-! ### Events and results -/

theorem onCompleted_lapse (controller : Controller) (completion : Completion) (world : World) :
    Lapse surroundings log (controller, world)
      (controller.onCompleted surroundings completion world) := by
  simp only [onCompleted]
  split
  · exact .quiet rfl rfl (.refl _) (.refl world)
  · split
    · exact .quiet rfl rfl (.refl _) (.refl world)
    · split
      · exact .quiet rfl rfl (.refl _) (.refl world)
      · refine Lapse.trans ?_ (requestMissing_lapse chronicles ..)
        exact .quiet rfl rfl (.refl _) (.refl world)

theorem onCompletions_lapse (completions : List Completion) (controller : Controller)
    (world : World) :
    Lapse surroundings log (controller, world)
      (onCompletions surroundings completions controller world) := by
  induction completions generalizing controller world with
  | nil => exact .quiet rfl rfl (.refl _) (.refl world)
  | cons completion rest ih =>
      exact (onCompleted_lapse chronicles controller completion world).trans (ih _ _)

omit chronicles in
theorem allocated_lapse (allocations : List Allocation) (controller : Controller)
    (world : World) :
    Lapse surroundings log (controller, world)
      (allocations.foldl onAllocated controller, world) := by
  apply allocated_keeps fun reached => Lapse surroundings log (controller, world) (reached, world)
  · intro allocation _ before after granted lapse
    refine lapse.trans ?_
    cases granted with
    | ignored => exact .quiet rfl rfl (.refl _) (.refl world)
    | released => exact .quiet rfl rfl (List.drop_sublist ..) (.refl world)
    | accepted => exact .quiet rfl rfl (List.drop_sublist ..) (.refl world)
  · exact .quiet rfl rfl (.refl _) (.refl world)

theorem handleEvent_lapse (event : ClusterEvent) (controller : Controller) (world : World) :
    Lapse surroundings log (controller, world)
      (controller.handleEvent surroundings event world) := by
  simp only [handleEvent]
  apply Lapse.publish
  cases event with
  | allocated allocations => exact allocated_lapse ..
  | completed completions => exact onCompletions_lapse chronicles ..
  | launchFailed replica reason =>
      refine (onCompleted_lapse chronicles controller (failedLaunch replica reason) world).trans ?_
      exact .quiet rfl rfl (.refl _) (.refl _)
  | trouble | resourcesUpdated | shutdownRequested =>
      exact .quiet rfl rfl (.refl _) (.refl world)

omit chronicles in
theorem Finished.lapse {work : Work} {result : Except ClusterError Unit} {now : Nat}
    {before after : Controller} (finished : Finished before now work result after)
    (world : World) : Lapse surroundings log (before, world) (after, world) := by
  cases finished with
  | launched landed => cases landed <;> exact .quiet rfl rfl (.refl _) (.refl world)
  | stopped => exact .quiet rfl rfl (.refl _) (.refl world)
  | released => exact .quiet rfl rfl (.refl _) (.refl world)

/-- A step of the controller is a span of time for its requests. -/
theorem Advance.lapse {label : Label} {before after : Controller × World}
    (advance : Advance surroundings label before after) :
    Lapse surroundings log before after := by
  cases advance with
  | start controller world => exact startUp_lapse chronicles controller world
  | tick controller world => exact tick_lapse chronicles controller world
  | @deliver controller event world later received =>
      have passes := chronicles.receive world
      rw [received] at passes
      refine Lapse.trans ?_ (handleEvent_lapse chronicles ..)
      exact .quiet rfl rfl (.refl _) passes
  | take ready world =>
      refine Lapse.trans ?_ (Finished.lapse (onFinished_finished ..) world)
      exact .quiet rfl rfl (.refl _) (.refl world)
  | progress flying world =>
      exact .quiet rfl rfl (.refl _) (chronicles.stepJob ..)

end Chronicles

/-! ## The whole run -/

/-- A controller and its world, from the first state on. Between the steps of the controller time
passes. -/
inductive Timed (surroundings : Surroundings World)
    (log : World → List (Nat × Except ClusterError Unit)) :
    List Label → Controller × World → Prop
  | initial (settings : ControllerSettings) {world : World} (fresh : log world = []) :
      Timed surroundings log [] (ofSettings settings, world)
  | advance {labels : List Label} {label : Label} {before after : Controller × World}
      (timed : Timed surroundings log labels before)
      (advance : Advance surroundings label before after) :
      Timed surroundings log (labels ++ [label]) after
  | pass {labels : List Label} {controller : Controller} {world later : World}
      (timed : Timed surroundings log labels (controller, world))
      (passes : surroundings.Passes log world later) :
      Timed surroundings log labels (controller, later)

theorem Timed.lapse (chronicles : surroundings.Chronicles log) {labels : List Label}
    {state : Controller × World} (timed : Timed surroundings log labels state) :
    ∃ settings world, log world = [] ∧
      Lapse surroundings log (ofSettings settings, world) state := by
  induction timed with
  | @initial settings world fresh =>
      exact ⟨settings, world, fresh, .quiet rfl rfl (.refl _) (.refl world)⟩
  | advance timed advance ih =>
      rcases ih with ⟨settings, world, fresh, lapse⟩
      exact ⟨settings, world, fresh, lapse.trans (advance.lapse chronicles)⟩
  | pass timed passes ih =>
      rcases ih with ⟨settings, world, fresh, lapse⟩
      exact ⟨settings, world, fresh, lapse.trans (.quiet rfl rfl (.refl _) passes)⟩

/-- Expiry is exact. In every run the pending requests are in order, by number and by the time of
their issue, and no number is that of two calls: what the allocator has heard is one call for each
number that was given out, in their order, denied and failed ones included. So whatever the timeout
and the time, forgetting old requests from the front forgets those that are too old, and keeps all
others in their order. -/
theorem expiry_exact (chronicles : surroundings.Chronicles log) {labels : List Label}
    {state : Controller × World} (timed : Timed surroundings log labels state) :
    let controller := state.1
    InOrder controller.pending ∧
    (∀ request ∈ controller.pending,
      request.1 < controller.nextRequest ∧ request.2 ≤ surroundings.clock state.2) ∧
    (∃ calls, calls.length = controller.nextRequest ∧ log state.2 = heardOf 0 calls ∧
      ∀ call ∈ calls, IsOneCall controller.settings.retry call) ∧
    ∀ (timeout : Duration) (now : Instant),
      let timing : Controller :=
        { controller with
          settings := { controller.settings with allocationTimeout := timeout } }
      timing.expirePending now =
        { timing with
          pending := controller.pending.filter fun request => now.since request.2 < timeout } := by
  intro controller
  rcases timed.lapse chronicles with ⟨settings, origin, fresh, lapse⟩
  rcases lapse.pending with ⟨issued, pending, order, bounds⟩
  rcases lapse.heard with ⟨calls, numbers, heard, oneCall⟩
  have queued : controller.pending.Sublist issued := by simpa [ofSettings] using pending
  have ordered : InOrder controller.pending := List.Pairwise.sublist queued order
  refine ⟨ordered, fun request member => ?_, ⟨calls, ?_, ?_, ?_⟩, fun timeout now => ?_⟩
  · rcases bounds request (queued.subset member) with ⟨-, below, -, past⟩
    exact ⟨below, past⟩
  · simpa [ofSettings] using numbers.symm
  · simpa [ofSettings, fresh] using heard
  · rw [show controller.settings = (ofSettings settings).settings from lapse.settings]
    exact oneCall
  · simp only [expirePending]
    rw [ordered.dropWhile_eq_filter]

/-! ### A denied request -/

/-- What the allocator heard, and the time. -/
structure Ledger where
  heard : List (Nat × Except ClusterError Unit) := []
  now : Instant := ⟨0⟩

/-- Surroundings in which the first request is denied. -/
def denyingFirst : Surroundings Ledger where
  clock := Ledger.now
  epoch _ := 0
  register ledger := (.ok ⟨[], {}⟩, ledger)
  unregister ledger := (.ok (), ledger)
  request request ledger :=
    let answer := if ledger.heard.isEmpty then .error (.allocationDenied "") else .ok ()
    (answer, { ledger with heard := ledger.heard ++ [(request.number, answer)] })
  release _ ledger := (.ok (), ledger)
  launch _ _ ledger := (.ok (), ledger)
  stop _ ledger := (.ok (), ledger)
  ready _ ledger := (some false, ledger)
  metrics _ ledger := (none, ledger)
  receive ledger := (none, ledger)
  isCancelled _ := false
  isEnding _ := false
  rest _ limit ledger := { ledger with now := ledger.now.later limit }
  await _ limit ledger := { ledger with now := ledger.now.later limit }

theorem denyingFirst_chronicles : denyingFirst.Chronicles Ledger.heard where
  register := .refl
  heard _ _ := rfl
  request _ _ := Nat.le_refl _
  perform _ work ledger := by cases work <;> exact .refl ledger
  ready _ := .refl
  metrics _ := .refl
  receive := .refl
  rest _ limit ledger := by
    refine ⟨?_, rfl⟩
    change ledger.now ≤ ledger.now.later limit
    simp only [Instant.later]
    split
    · next before => exact Nat.le_of_lt before
    · exact Nat.le_refl _

/-- The controller once its first request was denied, and its world. -/
def deniedOnce : Controller × Ledger :=
  ((ofSettings plainSettings).startUp denyingFirst {}).2

def secondLater : Ledger := { deniedOnce.2 with now := ⟨Duration.second⟩ }

/-- The controller after the next round, and its world. -/
def requestedAgain : Controller × Ledger := deniedOnce.1.tick denyingFirst secondLater

/-- The next round requests again, under the next number. After the timeout of a minute nothing is
pending any more. -/
theorem requested_again_once_denied :
    (∃ labels, Timed denyingFirst Ledger.heard labels requestedAgain) ∧
      requestedAgain.2.heard = [(0, .error (.allocationDenied "")), (1, .ok ())] ∧
      requestedAgain.1.pending = [(1, ⟨Duration.second⟩)] ∧
      (requestedAgain.1.expirePending ⟨61 * Duration.second⟩).pending = [] ∧
      InOrder requestedAgain.1.pending := by
  have fresh : Timed denyingFirst Ledger.heard [] (ofSettings plainSettings, {}) :=
    .initial plainSettings rfl
  have started : Timed denyingFirst Ledger.heard _ (deniedOnce.1, deniedOnce.2) :=
    fresh.advance (.start ..)
  have later : denyingFirst.Passes Ledger.heard deniedOnce.2 secondLater :=
    ⟨by decide +kernel, rfl⟩
  have ticked : Timed denyingFirst Ledger.heard _ requestedAgain :=
    (started.pass later).advance (.tick deniedOnce.1 secondLater)
  exact ⟨⟨_, ticked⟩, by decide +kernel, by decide +kernel, by decide +kernel,
    (expiry_exact denyingFirst_chronicles ticked).1⟩

end Controller

end Fleet
