import Eva.Storage.TaskState.Records

/-! # Attempts

How the fields that identify an attempt move through a history: they stay, a
claim starts the next attempt, or a requeue takes the owner away.
-/

namespace Eva.Storage

variable {directory : TaskDirectory}

/-! ## One step -/

/-- What a commit does to the attempt of a task. -/
inductive FenceStep (previous committed : TaskStateSnapshot) : Prop where
  | keep (same : SameFence previous committed)
  | claim (claimed : ClaimStep previous committed)
  | requeue (isQueued : committed.status = .queued)
      (same : committed.attempts = previous.attempts)
      (unowned : committed.executionOwner = none)

theorem ClaimStep.attempts_value (step : ClaimStep previous committed) :
    committed.attempts.value = previous.attempts.value + 1 :=
  Unsigned.checkedAdd_eq_some_iff.mp step.next

theorem RetryStep.fenceStep (step : RetryStep previous proposed) : FenceStep previous proposed := by
  cases step with
  | requeue | abandoned => exact .requeue rfl rfl rfl
  | schedule => exact .keep ⟨rfl, rfl, rfl⟩

theorem RestartStep.fenceStep (step : RestartStep previous proposed) :
    FenceStep previous proposed := by
  cases step <;> exact .keep ⟨rfl, rfl, rfl⟩

theorem Transition.fenceStep (transition : Transition previous proposed mode) :
    FenceStep previous proposed := by
  rcases transition.fence with same | claimed | retried | restarted
  · exact .keep same
  · exact .claim (isClaim_iff.mp claimed)
  · exact (isRetryRequeue_cases retried).2.fenceStep
  · exact (isRestartRecovery_cases restarted).2.fenceStep

theorem FenceStep.restamp (step : FenceStep previous.stored proposed) :
    FenceStep previous
      { proposed with recordVersion := version, ownerGeneration := generation } := by
  cases step with
  | keep same => exact .keep same
  | claim step => exact .claim { step with }
  | requeue isQueued same unowned => exact .requeue isQueued same unowned

section Step

variable {commits : List (Commit directory)} {commit last : Commit directory}
  (follows : Follows commits commit) (previous : lastCommit commit.taskId commits = some last)

include follows previous

theorem Follows.transition :
    Transition last.committed.stored commit.proposed commit.mode :=
  follows.accepted.transition _ (currentRecord_eq_some previous)

theorem Follows.fenceStep :
    FenceStep last.committed commit.committed := by
  rw [follows.stamped]
  exact (follows.transition previous).fenceStep.restamp

theorem Follows.envelope_eq :
    commit.committed.envelope = last.committed.envelope := by
  rw [follows.stamped]
  exact (follows.accepted.sameEnvelope _ (currentRecord_eq_some previous)).symm

theorem Follows.replayDelivery_eq :
    commit.committed.replayDelivery = last.committed.replayDelivery := by
  rw [follows.stamped]
  exact (follows.accepted.sameReplay _ (currentRecord_eq_some previous)).symm

end Step

theorem FenceStep.attempts_le
    (step : FenceStep previous committed) : previous.attempts ≤ committed.attempts := by
  rw [Unsigned.le_iff]
  cases step with
  | keep same => exact Nat.le_of_eq (congrArg _ same.1)
  | claim step =>
      have next := step.attempts_value
      omega
  | requeue _ same => exact Nat.le_of_eq (congrArg _ same.symm)

/-! ## Whole histories -/

section Histories

variable {commits : List (Commit directory)} {commit older : Commit directory}

theorem History.identity (history : History commits) (member : commit ∈ commits)
    (other : older ∈ commits) (sameTask : older.taskId = commit.taskId) :
    older.committed.envelope = commit.committed.envelope ∧
      older.committed.replayDelivery = commit.committed.replayDelivery := by
  have toLast {commit : Commit directory} (member : commit ∈ commits) :=
    history.relate_last
      (fun left right => left.envelope = right.envelope ∧
        left.replayDelivery = right.replayDelivery)
      (fun _ => ⟨rfl, rfl⟩)
      (fun follows previous same => ⟨same.1.trans (follows.envelope_eq previous).symm,
        same.2.trans (follows.replayDelivery_eq previous).symm⟩) member
  obtain ⟨last, found, left⟩ := toLast other
  obtain ⟨last', found', right⟩ := toLast member
  rw [sameTask, found'] at found
  obtain rfl := Option.some.inj found
  exact ⟨left.1.trans right.1.symm, left.2.trans right.2.symm⟩

/-- As long as the attempt is the same, its owner and token stay or are gone. -/
def SameAttempt (older newer : TaskStateSnapshot) : Prop :=
  older.attempts ≤ newer.attempts ∧
    (older.attempts = newer.attempts → older.executionOwner ≠ none →
      newer.executionOwner = none ∨ (newer.executionOwner = older.executionOwner ∧
        newer.cancelToken = older.cancelToken))

theorem SameAttempt.extend {older last newer : TaskStateSnapshot}
    (same : SameAttempt older last) (step : FenceStep last newer) : SameAttempt older newer := by
  obtain ⟨within, owner⟩ := same
  have raised := step.attempts_le
  refine ⟨Nat.le_trans within raised, fun equal owned => ?_⟩
  have lastEqual : older.attempts = last.attempts := by
    rw [Unsigned.eq_iff]
    rw [Unsigned.eq_iff] at equal
    rw [Unsigned.le_iff] at within raised
    omega
  cases step with
  | keep same =>
      obtain ⟨-, sameOwner, sameToken⟩ := same
      rw [← sameOwner, ← sameToken]
      exact owner lastEqual owned
  | claim step =>
      have next := step.attempts_value
      rw [← equal, lastEqual] at next
      omega
  | requeue _ _ unowned => exact .inl unowned

theorem History.sameAttempt_last (history : History commits) (member : older ∈ commits) :
    ∃ last, lastCommit older.taskId commits = some last ∧
      SameAttempt older.committed last.committed :=
  history.relate_last SameAttempt (fun _ => ⟨Nat.le_refl _, fun _ _ => .inr ⟨rfl, rfl⟩⟩)
    (fun follows previous same => same.extend (follows.fenceStep previous)) member

theorem History.owner_unique (history : History commits) (member : commit ∈ commits)
    (other : older ∈ commits) (sameTask : older.taskId = commit.taskId)
    (sameAttempt : older.committed.attempts = commit.committed.attempts)
    (owned : commit.committed.executionOwner ≠ none)
    (otherOwned : older.committed.executionOwner ≠ none) :
    older.committed.executionOwner = commit.committed.executionOwner ∧
      older.committed.cancelToken = commit.committed.cancelToken := by
  induction history with
  | empty => cases member
  | @commit commits newest earlier follows induction =>
      -- The older of the two records hands its owner on to the newer one.
      have handed {left right : Commit directory} (isNewest : left = newest)
          (held : right ∈ commits) (sameTask : right.taskId = left.taskId)
          (sameAttempt : right.committed.attempts = left.committed.attempts)
          (owned : left.committed.executionOwner ≠ none)
          (otherOwned : right.committed.executionOwner ≠ none) :
          left.committed.executionOwner = right.committed.executionOwner ∧
            left.committed.cancelToken = right.committed.cancelToken := by
        subst isNewest
        obtain ⟨last, found, same⟩ := earlier.sameAttempt_last held
        have extended := same.extend (follows.fenceStep (sameTask ▸ found))
        exact (extended.2 sameAttempt otherOwned).resolve_left owned
      rcases List.mem_cons.mp member with isNewest | member <;>
        rcases List.mem_cons.mp other with otherNewest | other
      · rw [isNewest, otherNewest]
        exact ⟨rfl, rfl⟩
      · have same := handed isNewest other sameTask sameAttempt owned otherOwned
        exact ⟨same.1.symm, same.2.symm⟩
      · exact handed otherNewest member sameTask.symm sameAttempt.symm otherOwned owned
      · exact induction member other

end Histories

/-! ## Claims -/

/-- The commit claims its task for the next attempt. -/
def Commit.claims (earlier : List (Commit directory)) (commit : Commit directory) : Bool :=
  (currentRecord commit.taskId earlier).any fun current => isClaim current commit.proposed

def claimsOf (taskId : String) : List (Commit directory) → List (Commit directory)
  | [] => []
  | commit :: earlier =>
      if commit.taskId = taskId ∧ commit.claims earlier then
        commit :: claimsOf taskId earlier
      else claimsOf taskId earlier

section Claims

variable {commits : List (Commit directory)} {commit : Commit directory}

theorem mem_claimsOf (member : commit ∈ claimsOf taskId commits) :
    ∃ later earlier, commits = later ++ commit :: earlier ∧ commit.taskId = taskId ∧
      commit.claims earlier := by
  induction commits with
  | nil => cases member
  | cons newest rest induction =>
      have older (member : commit ∈ claimsOf taskId rest) :
          ∃ later earlier, newest :: rest = later ++ commit :: earlier ∧
            commit.taskId = taskId ∧ commit.claims earlier := by
        obtain ⟨later, earlier, rfl, claims⟩ := induction member
        exact ⟨newest :: later, earlier, rfl, claims⟩
      unfold claimsOf at member
      split at member
      next claims =>
          rcases List.mem_cons.mp member with rfl | member
          · exact ⟨[], rest, rfl, claims⟩
          · exact older member
      next => exact older member

theorem Commit.claims_iff :
    commit.claims earlier ↔ ∃ last, lastCommit commit.taskId earlier = some last ∧
      ClaimStep last.committed.stored commit.proposed := by
  unfold Commit.claims currentRecord
  cases lastCommit commit.taskId earlier <;> simp [isClaim_iff]

private theorem claimsOf_of_uncommitted (absent : lastCommit taskId commits = none) :
    claimsOf taskId commits = [] := by
  rw [List.eq_nil_iff_forall_not_mem]
  intro claim member
  obtain ⟨later, earlier, rfl, named, -⟩ := mem_claimsOf member
  exact lastCommit_ne_none (by simp) (named ▸ absent)

theorem Follows.attempts_of_claims (follows : Follows earlier commit)
    (previous : lastCommit commit.taskId earlier = some last) (claims : commit.claims earlier) :
    commit.committed.attempts.value = last.committed.attempts.value + 1 := by
  obtain ⟨other, found, step⟩ := Commit.claims_iff.mp claims
  rw [previous] at found
  obtain rfl := Option.some.inj found
  rw [follows.stamped]
  exact step.attempts_value

section

variable (history : History commits)
include history

theorem History.claims_ordered (taskId : String) :
    (claimsOf taskId commits).Pairwise fun newer older =>
      older.committed.attempts < newer.committed.attempts := by
  induction history with
  | empty => exact .nil
  | @commit commits newest earlier follows induction =>
      unfold claimsOf
      split
      next claims =>
          refine List.pairwise_cons.mpr ⟨fun older member => ?_, induction⟩
          obtain ⟨_, _, split, named, -⟩ := mem_claimsOf member
          have held : older ∈ commits := by simp [split]
          obtain ⟨last, found, same⟩ := earlier.sameAttempt_last held
          rw [named, ← claims.1] at found
          have next := follows.attempts_of_claims found claims.2
          have within := same.1
          rw [Unsigned.le_iff] at within
          rw [Unsigned.lt_iff]
          omega
      next => exact induction

theorem History.claims_le_attempts
    (found : lastCommit taskId commits = some last) :
    (claimsOf taskId commits).length ≤ last.committed.attempts.value := by
  induction history generalizing last with
  | empty => cases found
  | @commit commits newest earlier follows induction =>
      rw [lastCommit_cons] at found
      unfold claimsOf
      split at found
      next named =>
          obtain rfl := Option.some.inj found
          cases previous : lastCommit newest.taskId commits with
          | none =>
              rw [named] at previous
              have unclaimed : ¬newest.claims commits := by
                rw [Commit.claims_iff, named, previous]
                simp
              simp [unclaimed, claimsOf_of_uncommitted previous]
          | some last =>
              have within := induction (named ▸ previous)
              split
              next claims =>
                  have next := follows.attempts_of_claims previous claims.2
                  rw [List.length_cons]
                  omega
              next => exact Nat.le_trans within (follows.fenceStep previous).attempts_le
      next other => simpa [other] using induction found

theorem History.claimed_enveloped
    (claimed : claim ∈ claimsOf taskId commits) (member : commit ∈ commits)
    (named : commit.taskId = taskId) : commit.committed.envelope ≠ none := by
  obtain ⟨later, earlier, rfl, claimNamed, claims⟩ := mem_claimsOf claimed
  obtain ⟨last, found, step⟩ := Commit.claims_iff.mp claims
  obtain ⟨inEarlier, sameTask⟩ := lastCommit_eq_some found
  have held : last ∈ later ++ claim :: earlier := by simp [inEarlier]
  have same := history.identity member held (sameTask.trans (claimNamed.trans named.symm))
  rw [← same.1]
  exact step.enveloped

theorem History.claims_le_budget (member : commit ∈ commits) :
    (claimsOf commit.taskId commits).length ≤ commit.committed.retryMaxAttempts.value := by
  cases claimed : claimsOf commit.taskId commits with
  | nil => simp
  | cons claim rest =>
      have isClaim : claim ∈ claimsOf commit.taskId commits := claimed ▸ List.mem_cons_self
      obtain ⟨last, found, -⟩ := history.sameAttempt_last member
      obtain ⟨lastMember, lastNamed⟩ := lastCommit_eq_some found
      have within := history.claims_le_attempts found
      have budget {commit : Commit directory} (member : commit ∈ commits) :
          commit.committed.Valid := by
        obtain ⟨_, _, _, follows⟩ := history.follows_of_mem member
        exact follows.accepted.committedValid
      have lastBudget := (budget lastMember).withinBudget
      -- The budget is that of the envelope, which never changes.
      have sameBudget : last.committed.retryMaxAttempts.value =
          commit.committed.retryMaxAttempts.value := by
        have same := (history.identity member lastMember lastNamed).1
        cases enveloped : commit.committed.envelope with
        | some envelope =>
            rw [((budget member).envelopeValid envelope enveloped).2,
              ((budget lastMember).envelopeValid envelope (same.trans enveloped)).2]
        | none => exact absurd enveloped (history.claimed_enveloped isClaim member rfl)
      rw [Unsigned.le_iff] at lastBudget
      rw [← claimed]
      omega

end

end Claims

/-! ## Claims that calls return -/

def TaskAttemptFence.Names (fence : TaskAttemptFence) (record : TaskStateSnapshot) : Prop :=
  record.taskId = fence.taskId ∧ record.attempts = fence.attempt ∧
    record.executionOwner = some fence.executionOwner ∧
    record.cancelToken = some fence.cancelToken

instance (fence : TaskAttemptFence) (record : TaskStateSnapshot) :
    Decidable (fence.Names record) :=
  inferInstanceAs (Decidable (_ ∧ _ ∧ _ ∧ _))

theorem taskExecutionClaim_eq_ok
    (made : FileSystemTaskStateStore.taskExecutionClaim record = .ok claim) :
    record.status = .running ∧ claim.snapshot = record ∧
      claim.fence.ownerGeneration = record.ownerGeneration ∧ claim.fence.Names record := by
  simp only [FileSystemTaskStateStore.taskExecutionClaim, bind_eq_ok_iff, exists_unit_iff,
    orReject_eq_ok_iff, rejectIf_eq_ok_iff, pure_eq_ok_iff, not_or, not_not] at made
  obtain ⟨owner, owned, token, tokened, ⟨running, -⟩, rfl⟩ := made
  exact ⟨running, rfl, rfl, rfl, rfl, owned, tokened⟩

/-! ## Runs -/

section Runs

variable {writer : WriterFiles}

theorem returned_claim_committed (faithful : format.Faithful)
    (returned : (taskStore directory format).HasReturned (.empty writer) trace call
      (.ok (.claim (some claim)))) :
    ∃ commit ∈ commits trace, commit.committed.status = .running ∧
      claim.fence.Names commit.committed := by
  obtain ⟨later, earlier, configuration, number, past, rfl, run, finished⟩ := returned
  obtain ⟨rfl, path⟩ := run.thread_path finished
  obtain ⟨record, made, source⟩ := StoreCall.ended path
  obtain ⟨isRunning, -, -, named⟩ := taskExecutionClaim_eq_ok made
  rw [commits_append]
  rcases source with ⟨store, proposed, version, mode, committed⟩ | ⟨store, taskId, refreshed⟩
  · obtain ⟨act, member, -, observed⟩ := System.mem_observationsOf committed
    obtain ⟨thread, label, environment, before, after, action, response⟩ := act
    cases observed
    have held : ⟨label, mode, proposed, record⟩ ∈ commits earlier :=
      List.mem_filterMap.mpr ⟨_, member, rfl⟩
    exact ⟨_, List.mem_append_right _ held, isRunning, named⟩
  · obtain ⟨act, member, -, observed⟩ := System.mem_observationsOf refreshed
    obtain ⟨commit, held, -, rfl⟩ := (run_reflects faithful run).2 act member taskId record
      (observed ▸ .refresh store)
    exact ⟨commit, List.mem_append_right _ held, isRunning, named⟩

/-- Whatever the callers do, the attempts of a task only grow, by one with each claim, and
stay within its budget. No two claims carry the same number, and calls that return the same
number return the claim of one owner. -/
theorem attempts_stay_within_budget {trace : List (taskStore directory .text).Event}
    {configuration : (taskStore directory .text).Configuration}
    (run : (taskStore directory .text).Run (.empty writer) trace configuration) :
    (∀ later commit earlier, commits trace = later ++ commit :: earlier →
      ∀ older ∈ earlier, older.taskId = commit.taskId →
        older.committed.attempts ≤ commit.committed.attempts) ∧
    (∀ later commit earlier previous, commits trace = later ++ commit :: earlier →
      lastCommit commit.taskId earlier = some previous →
      commit.committed.attempts = previous.committed.attempts ∨
        (commit.claims earlier ∧ previous.committed.status = .queued ∧
          commit.committed.status = .running ∧
          commit.committed.attempts.value = previous.committed.attempts.value + 1)) ∧
    (∀ commit ∈ commits trace,
      commit.committed.attempts ≤ commit.committed.retryMaxAttempts) ∧
    (∀ taskId, (claimsOf taskId (commits trace)).Pairwise fun newer older =>
      older.committed.attempts < newer.committed.attempts) ∧
    (∀ commit ∈ commits trace, (claimsOf commit.taskId (commits trace)).length ≤
      commit.committed.retryMaxAttempts.value) ∧
    (∀ left right leftClaim rightClaim,
      (taskStore directory .text).HasReturned (.empty writer) trace left
        (.ok (.claim (some leftClaim))) →
      (taskStore directory .text).HasReturned (.empty writer) trace right
        (.ok (.claim (some rightClaim))) →
      leftClaim.fence.taskId = rightClaim.fence.taskId →
      leftClaim.fence.attempt = rightClaim.fence.attempt →
      leftClaim.fence.executionOwner = rightClaim.fence.executionOwner ∧
        leftClaim.fence.cancelToken = rightClaim.fence.cancelToken) := by
  have history := (run_reflects RecordFormat.text_faithful run).1.history
  refine ⟨?_, ?_, ?_, history.claims_ordered, fun commit => history.claims_le_budget, ?_⟩
  · intro later commit earlier split older member sameTask
    rw [split] at history
    exact history.relate (·.attempts ≤ ·.attempts) (fun _ => Nat.le_refl _)
      (fun follows previous within => Nat.le_trans within
        (follows.fenceStep previous).attempts_le) member sameTask
  · intro later commit earlier previous split found
    have follows := history.follows split
    cases (follows.transition found).fenceStep with
    | keep same => exact .inl (by rw [follows.stamped]; exact same.1.symm)
    | requeue _ same => exact .inl (by rw [follows.stamped]; exact same)
    | claim step =>
        have claims := Commit.claims_iff.mpr ⟨previous, found, step⟩
        exact .inr ⟨claims, step.wasQueued, by rw [follows.stamped]; exact step.isRunning,
          follows.attempts_of_claims found claims⟩
  · intro commit member
    obtain ⟨_, _, _, follows⟩ := history.follows_of_mem member
    exact follows.accepted.committedValid.withinBudget
  · intro left right leftClaim rightClaim leftReturned rightReturned sameTask sameAttempt
    obtain ⟨commit, held, -, named⟩ :=
      returned_claim_committed RecordFormat.text_faithful rightReturned
    obtain ⟨other, otherHeld, -, otherNamed⟩ :=
      returned_claim_committed RecordFormat.text_faithful leftReturned
    have same := history.owner_unique held otherHeld
      (otherNamed.1.trans (sameTask.trans named.1.symm))
      (otherNamed.2.1.trans (sameAttempt.trans named.2.1.symm))
      (by simp [named.2.2.1]) (by simp [otherNamed.2.2.1])
    simpa [named.2.2.1, named.2.2.2, otherNamed.2.2.1, otherNamed.2.2.2] using same

def Sample.claimAgain : StoreOperation :=
  .tryClaimQueued Sample.task.taskId "worker-next" "token-next" 9

/-- The first attempt fails, the task is put back and another worker claims it. -/
theorem attempts_stay_within_budget_sample :
    ∃ trace configuration,
      (taskStore Sample.directory .text).Run (.empty Sample.files) trace configuration ∧
      (claimsOf Sample.task.taskId (commits trace)).map (·.committed.attempts.value) = [2, 1] ∧
      (claimsOf Sample.task.taskId (commits trace)).Pairwise (fun newer older =>
        older.committed.attempts < newer.committed.attempts) ∧
      ∀ commit ∈ commits trace, (claimsOf commit.taskId (commits trace)).length ≤
        commit.committed.retryMaxAttempts.value := by
  obtain ⟨session, trace, threads, -, claimed, run, -, same, -⟩ := @Sample.script_run
    [Sample.claimAgain, Sample.requeue, Sample.fail, Sample.claim, Sample.create]
    (fun session => (claimsOf Sample.task.taskId (commits session.trace)).map
      (·.committed.attempts.value) = [2, 1]) (by decide +kernel)
  obtain ⟨-, -, -, ordered, within, -⟩ := attempts_stay_within_budget run
  refine ⟨trace, _, run, ?_, ordered _, within⟩
  rw [same]
  exact of_decide_eq_true claimed

end Runs

end Eva.Storage
