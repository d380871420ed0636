import ResumableFlow.Proofs.Advancing
import ResumableFlow.Proofs.Stretches

/-!
# Runs of the deployment

What becomes of a deployment can be told from the data that it begins with
(`Deployment.outcome_of_run`). Each of its counters is counted up at least once, and then to its
target: the checks of the instance, the attempts to upload and the batches. Only the attempts can
stop short of the target, since no more than three of them are made unless more had been made
before.

Where a call from each state of the run comes to is the one thing that is computed from the compiled
flow (`Deployment.Route`). It takes five transitions at most, from the end of the upload through the
start of the loop and its body to the first batch.
-/

namespace ResumableFlow
namespace Deployment

/-! ## Data on the way -/

/-- The data of a deployment that was provisioned, with its counters at these values. -/
def counted (data : Deployment) (checks attempts batches : Nat) : Deployment :=
  { data with
    machine := some "deploy-instance"
    readyChecks := .ofNat checks
    uploadAttempts := .ofNat attempts
    batchesDone := .ofNat batches }

def checksAfter (data : Deployment) : Nat := max (data.readyChecks.toNat + 1) 2

/-- The attempt that succeeds, if so many are made. -/
def attemptsNeeded (data : Deployment) : Nat :=
  max (data.uploadAttempts.toNat + 1) data.uploadSucceedsOn.toNat

/-- The last attempt that is made when none succeeds. -/
def attemptsAllowed (data : Deployment) : Nat := max (data.uploadAttempts.toNat + 1) 3

def batchesAfter (data : Deployment) : Nat :=
  max (data.batchesDone.toNat + 1) data.batchesTotal.toNat

/-- No counter overflows in a run. Batches are counted only behind an upload that succeeds. -/
structure CountersFit (data : Deployment) : Prop where
  checks : data.readyChecks.toNat + 1 < UInt32.size
  attempts : data.uploadAttempts.toNat + 1 < UInt32.size
  batches : data.uploadSucceedsOn.toNat ≤ data.attemptsAllowed →
    data.batchesDone.toNat + 1 < UInt32.size

theorem provision_eq (data : Deployment) : provision data =
    (.ok (), data.counted data.readyChecks.toNat data.uploadAttempts.toNat
      data.batchesDone.toNat) := by
  simp only [provision, counted, UInt32.ofNat_toNat]

section counted

variable {data : Deployment} {checks attempts batches : Nat}

theorem isReady_counted (fits : checks + 1 < UInt32.size) :
    isReady (data.counted checks attempts batches) =
      (.ok (decide (2 ≤ checks + 1)), data.counted (checks + 1) attempts batches) := by
  have next : UInt32.ofNat checks + 1 = .ofNat (checks + 1) := (UInt32.ofNat_add checks 1).symm
  have ready : readyAfter ≤ UInt32.ofNat (checks + 1) ↔ 2 ≤ checks + 1 :=
    UInt32.ofNat_le_iff_le (by decide) fits
  simp only [isReady, counted, next, ready]

theorem upload_counted (fits : attempts + 1 < UInt32.size) :
    upload (data.counted checks attempts batches) =
      (if attempts + 1 < data.uploadSucceedsOn.toNat then .error "connection reset during upload"
        else .ok (), data.counted checks (attempts + 1) batches) := by
  have next : UInt32.ofNat attempts + 1 = .ofNat (attempts + 1) :=
    (UInt32.ofNat_add attempts 1).symm
  have early : UInt32.ofNat (attempts + 1) < data.uploadSucceedsOn ↔
      attempts + 1 < data.uploadSucceedsOn.toNat := by
    rw [UInt32.lt_iff_toNat_lt, UInt32.toNat_ofNat_of_lt' fits]
  simp only [upload, counted, next, early]
  split <;> rfl

theorem retryUpload_counted (cause : String) (fits : attempts < UInt32.size) :
    retryUpload cause (data.counted checks attempts batches) =
      (.ok (decide (attempts < 3)), data.counted checks attempts batches) := by
  have allowed : UInt32.ofNat attempts < maxAttempts ↔ attempts < 3 :=
    UInt32.ofNat_lt_iff_lt fits (by decide)
  simp only [retryUpload, counted, allowed]

theorem processBatch_counted : processBatch (data.counted checks attempts batches) =
    (.ok (), data.counted checks attempts (batches + 1)) := by
  have next : UInt32.ofNat batches + 1 = .ofNat (batches + 1) := (UInt32.ofNat_add batches 1).symm
  simp only [processBatch, counted, next]

theorem isDrained_counted (fits : batches < UInt32.size) :
    isDrained (data.counted checks attempts batches) =
      (.ok (decide (data.batchesTotal.toNat ≤ batches)), data.counted checks attempts batches) := by
  have drained : data.batchesTotal ≤ UInt32.ofNat batches ↔ data.batchesTotal.toNat ≤ batches := by
    rw [UInt32.le_iff_toNat_le, UInt32.toNat_ofNat_of_lt' fits]
  simp only [isDrained, counted, drained]

end counted

/-! ## Where calls come to -/

/-- The exclusive edges that the calls of a run come to, with the states that they come from. -/
structure Route (flow : Flow Deployment String) : Prop where
  steady : flow.Steady
  provision : flow.ComesTo .empty (provision.map fun _ => [⟨.completed, "deploy/provision"⟩])
  ready : ∀ event ∈ [⟨.completed, "deploy/provision"⟩, ⟨.start, "deploy/ready"⟩],
    flow.ComesTo (.ofEvents [event]) (isReady.map fun holds =>
      if holds then [⟨.completed, "deploy/ready"⟩] else [⟨.start, "deploy/ready"⟩])
  upload : ∀ event ∈ [⟨.completed, "deploy/ready"⟩, ⟨.start, "deploy/upload"⟩],
    flow.ComesTo (.ofEvents [event])
      ((upload.map fun _ => [⟨.completed, "deploy/upload/put"⟩]).guard
        retryUpload [⟨.start, "deploy/upload"⟩])
  batch : ∀ event ∈ [⟨.completed, "deploy/upload/put"⟩, ⟨.start, "deploy/drain/loop"⟩],
    flow.ComesTo (.ofEvents [event])
      (processBatch.map fun _ => [⟨.completed, "deploy/drain/loop/batch"⟩])
  drained : flow.ComesTo (.ofEvents [⟨.completed, "deploy/drain/loop/batch"⟩])
    (isDrained.map fun holds =>
      if holds then [⟨.completed, "deploy/drain"⟩] else [⟨.start, "deploy/drain/loop"⟩])
  notify : flow.ComesTo (.ofEvents [⟨.completed, "deploy/drain"⟩])
    (wantsNotification.map fun holds =>
      if holds then [⟨.start, "deploy/notify/case"⟩] else [⟨.completed, "deploy/notify"⟩])
  send : flow.ComesTo (.ofEvents [⟨.start, "deploy/notify/case"⟩])
    (send.map fun _ => [⟨.completed, "deploy/notify/case/send"⟩])
  leave : ∀ event ∈ [⟨.completed, "deploy/notify"⟩, ⟨.completed, "deploy/notify/case/send"⟩],
    flow.ComesToEnd (.ofEvents [event]) ∧ flow.isCompleted (.ofEvents [event]) = false
  completed : flow.completed = ⟨.completed, "deploy"⟩

theorem route_of_compile {config : Config} (enough : 5 ≤ config.maxIterations)
    {flow : Flow Deployment String} (compiles : Deployment.flow config = .ok flow) :
    Route flow := by
  obtain ⟨left, bound⟩ : ∃ left, config.bound = left + 5 := by
    have most : config.maxIterations ≤ config.bound := Nat.le_max_left _ _
    exact Nat.exists_eq_add_of_le' (Nat.le_trans enough most)
  have halts : ∀ {state frontier : State},
      flow.halt (left + 5) [flow.entry state] (flow.entry state) = .stops frontier →
      flow.haltOf state = .stops frontier := by
    intro state frontier stops
    have settings : flow.config = config := by
      rw [← Except.ok.inj compiles]
    rw [Flow.haltOf, settings, bound, stops]
  have steady := (Flow.regular_of_compile rfl compiles).steady
  obtain rfl := Except.ok.inj compiles
  exact {
    steady := steady
    provision := ⟨_, _, halts rfl, rfl, rfl, rfl, rfl⟩
    ready := List.forall_mem_cons.mpr ⟨⟨_, _, halts rfl, rfl, rfl, rfl, rfl⟩,
      List.forall_mem_singleton.mpr ⟨_, _, halts rfl, rfl, rfl, rfl, rfl⟩⟩
    upload := List.forall_mem_cons.mpr ⟨⟨_, _, halts rfl, rfl, rfl, rfl, rfl⟩,
      List.forall_mem_singleton.mpr ⟨_, _, halts rfl, rfl, rfl, rfl, rfl⟩⟩
    batch := List.forall_mem_cons.mpr ⟨⟨_, _, halts rfl, rfl, rfl, rfl, rfl⟩,
      List.forall_mem_singleton.mpr ⟨_, _, halts rfl, rfl, rfl, rfl, rfl⟩⟩
    drained := ⟨_, _, halts rfl, rfl, rfl, rfl, rfl⟩
    notify := ⟨_, _, halts rfl, rfl, rfl, rfl, rfl⟩
    send := ⟨_, _, halts rfl, rfl, rfl, rfl, rfl⟩
    leave := List.forall_mem_cons.mpr ⟨⟨halts rfl, rfl⟩,
      List.forall_mem_singleton.mpr ⟨halts rfl, rfl⟩⟩
    completed := rfl }

/-! ## Stages of a run -/

namespace Route

variable {flow : Flow Deployment String} {data : Deployment} {checks attempts batches : Nat}

theorem provision_advances (route : Route flow) (data : Deployment) :
    flow.Advances 1 ⟨.empty, data⟩ ⟨.ofEvents [⟨.completed, "deploy/provision"⟩],
      data.counted data.readyChecks.toNat data.uploadAttempts.toNat data.batchesDone.toNat⟩ := by
  apply route.steady.advances_of_comesTo route.provision
  simp only [Callable.map, provision_eq]

/-- The instance is checked until it has been checked twice. -/
theorem ready_advances (route : Route flow) (fits : checks + 1 < UInt32.size) :
    flow.Advances (max (checks + 1) 2 - checks)
      ⟨.ofEvents [⟨.completed, "deploy/provision"⟩], data.counted checks attempts batches⟩
      ⟨.ofEvents [⟨.completed, "deploy/ready"⟩],
        data.counted (max (checks + 1) 2) attempts batches⟩ := by
  have size : 2 < UInt32.size := by decide
  have stay : ∀ event ∈ [⟨.completed, "deploy/provision"⟩, ⟨.start, "deploy/ready"⟩],
      ∀ n, checks ≤ n → n + 1 < 2 →
      flow.Advances 1 ⟨.ofEvents [event], data.counted n attempts batches⟩
        ⟨.ofEvents [⟨.start, "deploy/ready"⟩], data.counted (n + 1) attempts batches⟩ := by
    intro event mem n _ early
    apply route.steady.advances_of_comesTo (route.ready event mem)
    have fitsNext : n + 1 < UInt32.size := by omega
    have waits : ¬2 ≤ n + 1 := by omega
    simp [Callable.map, isReady_counted fitsNext, waits]
  have leave : ∀ event ∈ [⟨.completed, "deploy/provision"⟩, ⟨.start, "deploy/ready"⟩],
      ∀ n, n + 1 = max (checks + 1) 2 →
      flow.Advances 1 ⟨.ofEvents [event], data.counted n attempts batches⟩
        ⟨.ofEvents [⟨.completed, "deploy/ready"⟩], data.counted (n + 1) attempts batches⟩ := by
    intro event mem n reached
    apply route.steady.advances_of_comesTo (route.ready event mem)
    have fitsNext : n + 1 < UInt32.size := by omega
    have ready : 2 ≤ n + 1 := by omega
    simp [Callable.map, isReady_counted fitsNext, ready]
  have counted := Flow.Advances.countUp stay leave
  rw [Nat.one_mul] at counted
  exact counted

section uploads

variable {cause : String} {event : Event}
  (mem : event ∈ [⟨.completed, "deploy/ready"⟩, ⟨.start, "deploy/upload"⟩])
  (fits : attempts + 1 < UInt32.size)

include mem fits

theorem upload_succeeds (route : Route flow)
    (enough : data.uploadSucceedsOn.toNat ≤ attempts + 1) :
    flow.Advances 1 ⟨.ofEvents [event], data.counted checks attempts batches⟩
      ⟨.ofEvents [⟨.completed, "deploy/upload/put"⟩],
        data.counted checks (attempts + 1) batches⟩ := by
  apply route.steady.advances_of_comesTo (route.upload event mem)
  simp only [Callable.guard, Callable.map, upload_counted fits, if_neg (Nat.not_lt.mpr enough)]

theorem upload_retried (route : Route flow) (early : attempts + 1 < data.uploadSucceedsOn.toNat)
    (allowed : attempts + 1 < 3) :
    flow.Advances 1 ⟨.ofEvents [event], data.counted checks attempts batches⟩
      ⟨.ofEvents [⟨.start, "deploy/upload"⟩], data.counted checks (attempts + 1) batches⟩ := by
  apply route.steady.advances_of_comesTo (route.upload event mem)
  simp only [Callable.guard, Callable.map, upload_counted fits, if_pos early,
    retryUpload_counted _ fits, allowed, decide_true]

theorem upload_given_up (route : Route flow) (early : attempts + 1 < data.uploadSucceedsOn.toNat)
    (spent : 3 ≤ attempts + 1) :
    flow.call ⟨.ofEvents [event], data.counted checks attempts batches⟩ =
      (.error (.callable "connection reset during upload"),
        ⟨.ofEvents [event], data.counted checks (attempts + 1) batches⟩) := by
  apply route.steady.call_of_comesTo_error (route.upload event mem)
  simp only [Callable.guard, Callable.map, upload_counted fits, if_pos early,
    retryUpload_counted _ fits, Nat.not_lt.mpr spent, decide_false]

end uploads

/-- The upload is tried until it succeeds, if that is soon enough. -/
theorem uploads_advance (route : Route flow) (fits : attempts + 1 < UInt32.size)
    (enough : data.uploadSucceedsOn.toNat ≤ max (attempts + 1) 3) :
    flow.Advances (max (attempts + 1) data.uploadSucceedsOn.toNat - attempts)
      ⟨.ofEvents [⟨.completed, "deploy/ready"⟩], data.counted checks attempts batches⟩
      ⟨.ofEvents [⟨.completed, "deploy/upload/put"⟩],
        data.counted checks (max (attempts + 1) data.uploadSucceedsOn.toNat) batches⟩ := by
  have size := data.uploadSucceedsOn.toNat_lt
  have stay : ∀ event ∈ [⟨.completed, "deploy/ready"⟩, ⟨.start, "deploy/upload"⟩],
      ∀ n, attempts ≤ n → n + 1 < data.uploadSucceedsOn.toNat →
      flow.Advances 1 ⟨.ofEvents [event], data.counted checks n batches⟩
        ⟨.ofEvents [⟨.start, "deploy/upload"⟩], data.counted checks (n + 1) batches⟩ :=
    fun event mem n _ early => route.upload_retried mem (Nat.lt_trans early size) early (by omega)
  have leave : ∀ event ∈ [⟨.completed, "deploy/ready"⟩, ⟨.start, "deploy/upload"⟩],
      ∀ n, n + 1 = max (attempts + 1) data.uploadSucceedsOn.toNat →
      flow.Advances 1 ⟨.ofEvents [event], data.counted checks n batches⟩
        ⟨.ofEvents [⟨.completed, "deploy/upload/put"⟩], data.counted checks (n + 1) batches⟩ := by
    intro event mem n reached
    have fitsNext : n + 1 < UInt32.size := by
      rw [reached]
      exact Nat.max_lt.mpr ⟨fits, size⟩
    exact route.upload_succeeds mem fitsNext (by omega)
  have counted := Flow.Advances.countUp stay leave
  rw [Nat.one_mul] at counted
  exact counted

/-- The upload is given up at the third attempt, or at the first one when
two had been made before. -/
theorem uploads_given_up (route : Route flow)
    (late : max (attempts + 1) 3 < data.uploadSucceedsOn.toNat) :
    flow.FailsIn (max (attempts + 1) 3 - attempts)
      ⟨.ofEvents [⟨.completed, "deploy/ready"⟩], data.counted checks attempts batches⟩
      (.callable "connection reset during upload")
      ⟨.ofEvents [if attempts < 2 then ⟨.start, "deploy/upload"⟩ else ⟨.completed, "deploy/ready"⟩],
        data.counted checks (max (attempts + 1) 3) batches⟩ := by
  have size := data.uploadSucceedsOn.toNat_lt
  obtain ⟨more, final⟩ : ∃ more, attempts + more + 1 = max (attempts + 1) 3 :=
    ⟨max (attempts + 1) 3 - attempts - 1, by omega⟩
  have stay : ∀ event ∈ [⟨.completed, "deploy/ready"⟩, ⟨.start, "deploy/upload"⟩],
      ∀ n, attempts ≤ n → n < attempts + more →
      flow.Advances 1 ⟨.ofEvents [event], data.counted checks n batches⟩
        ⟨.ofEvents [⟨.start, "deploy/upload"⟩], data.counted checks (n + 1) batches⟩ := by
    intro event mem n _ most
    have early : n + 1 < data.uploadSucceedsOn.toNat := by omega
    exact route.upload_retried mem (Nat.lt_trans early size) early (by omega)
  have tried := Flow.Advances.rounds stay
  -- The last attempt is the first one exactly if two had been made before.
  have waits : Flow.roundState ⟨.completed, "deploy/ready"⟩ ⟨.start, "deploy/upload"⟩ attempts
      (attempts + more) = .ofEvents [if attempts < 2 then ⟨.start, "deploy/upload"⟩
        else ⟨.completed, "deploy/ready"⟩] := by
    rw [Flow.roundState]
    split <;> split <;> first | rfl | omega
  have here : (if attempts < 2 then ⟨.start, "deploy/upload"⟩ else ⟨.completed, "deploy/ready"⟩) ∈
      [⟨.completed, "deploy/ready"⟩, (⟨.start, "deploy/upload"⟩ : Event)] := by
    split <;> simp
  rw [← final] at late ⊢
  have count : attempts + more + 1 - attempts = 1 * more + 1 := by omega
  rw [count]
  rw [waits] at tried
  exact tried.failsIn (route.upload _ here).pending
    (route.upload_given_up here (Nat.lt_trans late size) late (by omega))

/-- One round of the loop is a batch and the question whether it was the last one. -/
theorem batch_advances (route : Route flow) {event : Event}
    (mem : event ∈ [⟨.completed, "deploy/upload/put"⟩, ⟨.start, "deploy/drain/loop"⟩])
    (fits : batches + 1 < UInt32.size) :
    flow.Advances 2 ⟨.ofEvents [event], data.counted checks attempts batches⟩
      ⟨.ofEvents [if data.batchesTotal.toNat ≤ batches + 1 then ⟨.completed, "deploy/drain"⟩
        else ⟨.start, "deploy/drain/loop"⟩], data.counted checks attempts (batches + 1)⟩ := by
  have processed : flow.Advances 1
      ⟨.ofEvents [event], data.counted checks attempts batches⟩
      ⟨.ofEvents [⟨.completed, "deploy/drain/loop/batch"⟩],
        data.counted checks attempts (batches + 1)⟩ := by
    apply route.steady.advances_of_comesTo (route.batch event mem)
    simp only [Callable.map, processBatch_counted]
  refine processed.trans (route.steady.advances_of_comesTo route.drained ?_)
  simp only [Callable.map, isDrained_counted fits, decide_eq_true_eq]
  split <;> rfl

/-- Batches are processed until there are none left, and one in any case. -/
theorem batches_advance (route : Route flow) (fits : batches + 1 < UInt32.size) :
    flow.Advances (2 * (max (batches + 1) data.batchesTotal.toNat - batches))
      ⟨.ofEvents [⟨.completed, "deploy/upload/put"⟩], data.counted checks attempts batches⟩
      ⟨.ofEvents [⟨.completed, "deploy/drain"⟩],
        data.counted checks attempts (max (batches + 1) data.batchesTotal.toNat)⟩ := by
  have size := data.batchesTotal.toNat_lt
  have stay : ∀ event ∈ [⟨.completed, "deploy/upload/put"⟩, ⟨.start, "deploy/drain/loop"⟩],
      ∀ n, batches ≤ n → n + 1 < data.batchesTotal.toNat →
      flow.Advances 2 ⟨.ofEvents [event], data.counted checks attempts n⟩
        ⟨.ofEvents [⟨.start, "deploy/drain/loop"⟩], data.counted checks attempts (n + 1)⟩ := by
    intro event mem n _ early
    have round : flow.Advances 2 ⟨.ofEvents [event], data.counted checks attempts n⟩ _ :=
      route.batch_advances mem (Nat.lt_trans early size)
    rw [if_neg (Nat.not_le.mpr early)] at round
    exact round
  have leave : ∀ event ∈ [⟨.completed, "deploy/upload/put"⟩, ⟨.start, "deploy/drain/loop"⟩],
      ∀ n, n + 1 = max (batches + 1) data.batchesTotal.toNat →
      flow.Advances 2 ⟨.ofEvents [event], data.counted checks attempts n⟩
        ⟨.ofEvents [⟨.completed, "deploy/drain"⟩], data.counted checks attempts (n + 1)⟩ := by
    intro event mem n reached
    have drained : data.batchesTotal.toNat ≤ n + 1 := by
      rw [reached]
      exact Nat.le_max_right _ _
    have fitsNext : n + 1 < UInt32.size := by
      rw [reached]
      exact Nat.max_lt.mpr ⟨fits, size⟩
    have round : flow.Advances 2 ⟨.ofEvents [event], data.counted checks attempts n⟩ _ :=
      route.batch_advances mem fitsNext
    rw [if_pos drained] at round
    exact round
  exact .countUp stay leave

/-- Somebody is notified if that is wanted, and one more call leaves the flow. -/
theorem notify_advances (route : Route flow) (data : Deployment) :
    flow.Advances (if data.notify then 3 else 2) ⟨.ofEvents [⟨.completed, "deploy/drain"⟩], data⟩
      ⟨.ofEvents [flow.completed], { data with notified := data.notified || data.notify }⟩ := by
  have asked : flow.Advances 1 ⟨.ofEvents [⟨.completed, "deploy/drain"⟩], data⟩
      ⟨.ofEvents [if data.notify then ⟨.start, "deploy/notify/case"⟩
        else ⟨.completed, "deploy/notify"⟩], data⟩ := by
    apply route.steady.advances_of_comesTo route.notify
    simp only [Callable.map, wantsNotification]
    split <;> rfl
  by_cases wanted : data.notify = true
  · rw [if_pos wanted] at asked
    have sent : flow.Advances 1 ⟨.ofEvents [⟨.start, "deploy/notify/case"⟩], data⟩
        ⟨.ofEvents [⟨.completed, "deploy/notify/case/send"⟩], { data with notified := true }⟩ :=
      route.steady.advances_of_comesTo route.send rfl
    obtain ⟨ends, pending⟩ := route.leave ⟨.completed, "deploy/notify/case/send"⟩ (by simp)
    have left := route.steady.advances_of_comesToEnd ends (Bool.eq_false_iff.mp pending)
      { data with notified := true }
    have notified : (data.notified || data.notify) = true := by
      rw [wanted, Bool.or_true]
    rw [if_pos wanted, notified]
    exact (asked.trans sent).trans left
  · rw [if_neg wanted] at asked
    obtain ⟨ends, pending⟩ := route.leave ⟨.completed, "deploy/notify"⟩ List.mem_cons_self
    have left := route.steady.advances_of_comesToEnd ends (Bool.eq_false_iff.mp pending) data
    have unchanged : (data.notified || data.notify) = data.notified := by
      rw [Bool.eq_false_iff.mpr wanted, Bool.or_false]
    rw [if_neg wanted, unchanged]
    exact asked.trans left

end Route

/-! ## Outcomes -/

/-- The data of a deployment that has been completed. -/
def completedData (data : Deployment) : Deployment :=
  { data.counted data.checksAfter data.attemptsNeeded data.batchesAfter with
    notified := data.notified || data.notify }

/-- The data of a deployment whose upload was given up. -/
def givenUpData (data : Deployment) : Deployment :=
  data.counted data.checksAfter data.attemptsAllowed data.batchesDone.toNat

/-- A deployment runs to completion exactly if its upload succeeds within the attempts that are
allowed, and fails with the error of the last attempt otherwise. The data that it begins with tell
how many calls that takes, which data they leave and, after a failure, where the instance waits. -/
theorem outcome_of_run {config : Config} (enough : 5 ≤ config.maxIterations) {data : Deployment}
    (fits : data.CountersFit) : ∃ flow, Deployment.flow config = .ok flow ∧
      (data.uploadSucceedsOn.toNat ≤ data.attemptsAllowed →
        flow.CompletesIn
          (1 + (data.checksAfter - data.readyChecks.toNat) +
            (data.attemptsNeeded - data.uploadAttempts.toNat) +
            2 * (data.batchesAfter - data.batchesDone.toNat) + if data.notify then 3 else 2)
          ⟨.empty, data⟩ ⟨⟨["completed:deploy"]⟩, data.completedData⟩) ∧
      (data.attemptsAllowed < data.uploadSucceedsOn.toNat →
        flow.FailsIn
          (1 + (data.checksAfter - data.readyChecks.toNat) +
            (data.attemptsAllowed - data.uploadAttempts.toNat))
          ⟨.empty, data⟩ (.callable "connection reset during upload")
          ⟨if data.uploadAttempts.toNat < 2 then ⟨["start:deploy/upload"]⟩
            else ⟨["completed:deploy/ready"]⟩, data.givenUpData⟩) := by
  obtain ⟨flow, compiles⟩ := exists_flow config
  have route := route_of_compile enough compiles
  have ready := (route.provision_advances data).trans (route.ready_advances fits.checks)
  refine ⟨flow, compiles, fun inTime => ?_, fun late => ?_⟩
  · have uploaded := ready.trans (route.uploads_advance fits.attempts inTime)
    have drained := uploaded.trans (route.batches_advance (fits.batches inTime))
    have notified := drained.trans (route.notify_advances _)
    have done : flow.isCompleted (.ofEvents [flow.completed]) = true :=
      flow.isCompleted_singleton.mpr rfl
    have completes := notified.completesIn done
    rw [route.completed] at completes
    exact completes
  · have fails := Flow.FailsIn.of_advances ready (route.uploads_given_up late)
    have waits : State.ofEvents [if data.uploadAttempts.toNat < 2 then ⟨.start, "deploy/upload"⟩
        else ⟨.completed, "deploy/ready"⟩] = if data.uploadAttempts.toNat < 2 then
          ⟨["start:deploy/upload"]⟩ else ⟨["completed:deploy/ready"]⟩ := by
      split <;> rfl
    rw [waits] at fails
    exact fails

/-- A deployment whose checks have passed their target and whose third attempt at the upload is the
first that succeeds, and one whose next attempt is the last of all. -/
theorem outcome_of_run_resumed : ∃ flow : Flow Deployment String,
    Deployment.flow ⟨5, .fail⟩ = .ok flow ∧
    flow.CompletesIn 11
      ⟨.empty, { readyChecks := 7, uploadAttempts := 2, uploadSucceedsOn := 3, notify := false }⟩
      ⟨⟨["completed:deploy"]⟩,
        { machine := some "deploy-instance", readyChecks := 8, uploadAttempts := 3,
          uploadSucceedsOn := 3, batchesDone := 3, notify := false }⟩ ∧
    flow.FailsIn 4 ⟨.empty, { uploadAttempts := 2, uploadSucceedsOn := 9 }⟩
      (.callable "connection reset during upload")
      ⟨⟨["completed:deploy/ready"]⟩,
        { machine := some "deploy-instance", readyChecks := 2, uploadAttempts := 3,
          uploadSucceedsOn := 9 }⟩ := by
  have enough : 5 ≤ Config.maxIterations ⟨5, .fail⟩ := by decide
  have passed : CountersFit
      { readyChecks := 7, uploadAttempts := 2, uploadSucceedsOn := 3, notify := false } :=
    ⟨by decide, by decide, fun _ => by decide⟩
  have last : CountersFit { uploadAttempts := 2, uploadSucceedsOn := 9 } :=
    ⟨by decide, by decide, fun _ => by decide⟩
  obtain ⟨flow, compiles, completes, -⟩ := outcome_of_run enough passed
  obtain ⟨same, compilesToo, -, fails⟩ := outcome_of_run enough last
  obtain rfl : flow = same := Except.ok.inj (compiles.symm.trans compilesToo)
  exact ⟨flow, compiles, completes (by decide), fails (by decide)⟩

end Deployment
end ResumableFlow
