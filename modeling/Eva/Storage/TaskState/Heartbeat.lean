import Eva.Storage.TaskState.Records

/-! # Heartbeats

A heartbeat only moves the stored time forward, and a cancellation leaves it alone.
A time-out stores the time its caller observed, whatever the record holds.
-/

namespace Eva.Storage

variable {directory : TaskDirectory}

/-- The heartbeats, cancellations and outcomes of a claimed attempt. -/
def StoreOperation.drivesAttempt : StoreOperation → Bool
  | .command (.heartbeatExecution _ _) | .command (.requestCancellation _ _)
  | .command (.requestExecutionCancellation _ _) | .command (.finishExecution _ _) => true
  | _ => false

def StoreOperation.timedOutAtMs : StoreOperation → Option U128
  | .command (.finishExecution _ (.timedOut observedAtMs _)) => some observedAtMs
  | _ => none

/-- A time-out is observed no earlier than the heartbeat in the record it ends. It ends a
record that is being cancelled as cancelled and drops the time. -/
def StoreOperation.TimesOutAfter (operation : StoreOperation) (record : TaskStateSnapshot) :
    Prop :=
  record.status ≠ .cancelling → ∀ observedAtMs ∈ operation.timedOutAtMs,
    ∀ heartbeatAtMs ∈ record.heartbeatAtMs, heartbeatAtMs ≤ observedAtMs

/-- The heartbeat of the first record is not after the one of the second. -/
def HeartbeatAdvances (before after : TaskStateSnapshot) : Prop :=
  ∀ earlierMs ∈ before.heartbeatAtMs, ∃ laterMs ∈ after.heartbeatAtMs, earlierMs ≤ laterMs

theorem HeartbeatAdvances.of_eq (same : after.heartbeatAtMs = before.heartbeatAtMs) :
    HeartbeatAdvances before after := by
  intro earlierMs stored
  exact ⟨earlierMs, by rwa [same], Nat.le_refl _⟩

theorem HeartbeatAdvances.trans (first : HeartbeatAdvances before middle)
    (second : HeartbeatAdvances middle after) : HeartbeatAdvances before after := by
  intro earlierMs stored
  obtain ⟨middleMs, stored, atMost⟩ := first earlierMs stored
  obtain ⟨laterMs, stored, atMostLater⟩ := second middleMs stored
  exact ⟨laterMs, stored, Nat.le_trans atMost atMostLater⟩

theorem touchHeartbeat_advances (current : TaskStateSnapshot) (heartbeatAtMs : U128) :
    HeartbeatAdvances current (current.touchHeartbeat heartbeatAtMs) := by
  intro earlierMs stored
  rw [Option.mem_def] at stored
  refine ⟨_, rfl, ?_⟩
  simp only [stored]
  split
  next => exact Nat.le_refl _
  next notBefore => exact Nat.le_of_not_lt notBefore

theorem requestCancel_heartbeat (current : TaskStateSnapshot) (reason : String) :
    (current.requestCancel reason).heartbeatAtMs = current.heartbeatAtMs := by
  unfold TaskStateSnapshot.requestCancel
  split <;> rfl

theorem cancellationCandidate_heartbeat (current : TaskStateSnapshot) (reason : String) :
    (CasOperation.cancellationCandidate reason current).heartbeatAtMs =
      current.heartbeatAtMs := by
  unfold CasOperation.cancellationCandidate
  split
  next => exact requestCancel_heartbeat current reason
  next => exact requestCancel_heartbeat current reason

theorem CommandStep.heartbeat_advances
    (step : CommandStep store current command candidate)
    (drives : (StoreOperation.command command).drivesAttempt)
    (timely : (StoreOperation.command command).TimesOutAfter current) :
    HeartbeatAdvances current candidate := by
  cases step with
  | heartbeat => exact touchHeartbeat_advances _ _
  | cancel => exact .of_eq (cancellationCandidate_heartbeat _ _)
  | cancelFenced => exact .of_eq (requestCancel_heartbeat _ _)
  | finishCancelled => exact .of_eq rfl
  | @finish _ outcome _ _ running applied =>
      have shape := (applyTaskAttemptOutcome_eq_ok applied).2
      cases outcome with
      | completed _ _ =>
          rw [shape]
          exact .of_eq rfl
      | failed _ _ _ =>
          rw [shape]
          exact .of_eq rfl
      | timedOut observedAtMs _ =>
          rw [shape]
          intro earlierMs stored
          have ended : current.status ≠ .cancelling := by simp [running]
          exact ⟨observedAtMs, rfl, timely ended observedAtMs rfl earlierMs stored⟩
  | _ => cases drives

theorem Follows.heartbeat_advances {commits : List (Commit directory)}
    (follows : Follows commits commit) (found : lastCommit commit.taskId commits = some last)
    (drives : commit.call.operation.drivesAttempt)
    (timely : commit.call.operation.TimesOutAfter last.committed) :
    HeartbeatAdvances last.committed commit.committed := by
  have proposes := follows.proposes
  rw [currentRecord_eq_some found] at proposes
  have advances : HeartbeatAdvances last.committed.stored commit.proposed := by
    cases called : commit.call.operation with
    | command command =>
        obtain ⟨current, previous, -, step⟩ := proposes.of_command called
        obtain rfl := Option.some.inj previous
        rw [called] at drives timely
        exact step.heartbeat_advances drives timely
    | _ =>
        rw [called] at drives
        cases drives
  rw [follows.stamped]
  exact advances

/-- As long as only heartbeats, cancellations and outcomes reach a task, and no time-out is
observed before the heartbeat it finds, the stored heartbeat never moves back. -/
theorem heartbeat_never_decreases
    (run : (taskStore directory .text).Run (.empty writer) trace configuration)
    {later stretch earlier : List (Commit directory)} {commit : Commit directory}
    (split : commits trace = later ++ (stretch ++ commit :: earlier))
    (drives : ∀ newer ∈ stretch, newer.taskId = commit.taskId →
      newer.call.operation.drivesAttempt)
    (timely : ∀ newest newer between last, stretch = newest ++ newer :: between →
      newer.taskId = commit.taskId →
      lastCommit commit.taskId (between ++ commit :: earlier) = some last →
      newer.call.operation.TimesOutAfter last.committed) :
    ∀ newer ∈ stretch, newer.taskId = commit.taskId →
      HeartbeatAdvances commit.committed newer.committed := by
  have history : History (stretch ++ commit :: earlier) :=
    (split ▸ (run_reflects RecordFormat.text_faithful run).1.history).before
  clear split
  induction stretch with
  | nil => simp
  | cons newest between induction =>
      cases history with
      | commit history follows =>
          have older := induction
            (fun newer member => drives newer (List.mem_cons_of_mem _ member))
            (fun later newer between last split => timely (newest :: later) newer between last
              (congrArg (newest :: ·) split)) history
          intro newer member same
          rcases List.mem_cons.mp member with rfl | member
          · obtain ⟨last, found, advances⟩ := lastCommit_since
              (HeartbeatAdvances commit.committed) (.of_eq rfl) older
            have step := follows.heartbeat_advances (same ▸ found) (drives newer member same)
              (timely [] newer between last rfl same found)
            exact advances.trans step
          · exact older newer member same

namespace Sample

def timeOut (observedAtMs : U128) : StoreOperation :=
  .command (.finishExecution fence (.timedOut observedAtMs true))

end Sample

private theorem Sample.timeOut_run
    (executed : (Sample.script [Sample.timeOut observedAtMs, Sample.claim, Sample.create]).any
      fun session => match commits session.trace with
        | newer :: commit :: _ =>
            newer.taskId = commit.taskId ∧ newer.call.operation.drivesAttempt ∧
            newer.call.operation.timedOutAtMs = some observedAtMs ∧
            commit.committed.heartbeatAtMs = some 7 ∧
            newer.committed.heartbeatAtMs = some observedAtMs
        | _ => false) :
    ∃ trace configuration newer commit earlier,
      (taskStore Sample.directory .text).Run (.empty Sample.files) trace configuration ∧
      commits trace = newer :: commit :: earlier ∧ newer.taskId = commit.taskId ∧
      newer.call.operation.drivesAttempt ∧
      newer.call.operation.timedOutAtMs = some observedAtMs ∧
      commit.committed.heartbeatAtMs = some 7 ∧
      newer.committed.heartbeatAtMs = some observedAtMs := by
  obtain ⟨session, trace, threads, -, checked, run, -, same, -⟩ := Sample.script_run executed
  rw [← same] at checked
  split at checked
  next newer commit earlier committed =>
      exact ⟨trace, _, newer, commit, earlier, run, committed, of_decide_eq_true checked⟩
  next => cases checked

/-- A time-out observed after the claim moves the heartbeat on. -/
theorem heartbeat_never_decreases_sample :
    ∃ trace configuration newer commit earlier,
      (taskStore Sample.directory .text).Run (.empty Sample.files) trace configuration ∧
      commits trace = newer :: commit :: earlier ∧
      commit.committed.heartbeatAtMs = some 7 ∧
      newer.call.operation.timedOutAtMs = some 9 ∧
      HeartbeatAdvances commit.committed newer.committed := by
  obtain ⟨trace, configuration, newer, commit, earlier, run, split, same, drives, timedOut,
    heard, -⟩ := @Sample.timeOut_run 9 (by decide +kernel)
  refine ⟨trace, configuration, newer, commit, earlier, run, split, heard, timedOut, ?_⟩
  refine @heartbeat_never_decreases _ _ _ _ run [] [newer] earlier commit split ?_ ?_ newer
    List.mem_cons_self same
  · simpa using fun _ => drives
  · intro newest other between last split _ found
    obtain ⟨rfl, rfl, rfl⟩ : newest = [] ∧ other = newer ∧ between = [] := by
      cases newest <;> simp_all
    rw [List.nil_append, lastCommit_cons, if_pos rfl] at found
    obtain rfl := Option.some.inj found
    intro _ observedAtMs observed heartbeatAtMs stored
    obtain rfl := Option.some.inj (timedOut.symm.trans observed)
    obtain rfl := Option.some.inj (heard.symm.trans stored)
    decide

/-- The attempt is claimed at 7 and its time-out observed at 6. -/
theorem heartbeat_decreases_at_early_timeout :
    ∃ trace configuration newer commit earlier,
      (taskStore Sample.directory .text).Run (.empty Sample.files) trace configuration ∧
      commits trace = newer :: commit :: earlier ∧ newer.taskId = commit.taskId ∧
      newer.call.operation.drivesAttempt ∧
      ¬HeartbeatAdvances commit.committed newer.committed := by
  obtain ⟨trace, configuration, newer, commit, earlier, run, split, same, drives, -, claimed,
    timedOut⟩ := @Sample.timeOut_run 6 (by decide)
  refine ⟨trace, configuration, newer, commit, earlier, run, split, same, drives, ?_⟩
  intro advances
  obtain ⟨laterMs, stored, atMost⟩ := advances 7 claimed
  obtain rfl := Option.some.inj (timedOut.symm.trans stored)
  exact absurd atMost (by decide)

end Eva.Storage
