import Eva.Foundation.Machine
import Eva.Memory.Schedule

/-! # Schedules under competing processes

A call takes the lock of its schedule, reads, writes a staging file beside the record and
renames it over the record. Calls of different processes interleave between these steps,
and a process can fail or die after any of them; the operating system then frees its lock.
-/

namespace Eva.Memory

inductive SchedulePhase where
  | locked
  | writing (record : ScheduleRecord)
  | staged (record : ScheduleRecord)
  | published (record : ScheduleRecord)

structure ScheduleActivity where
  call : ScheduleCall
  phase : SchedulePhase

/-- The files `<id>.schedule`, `<id>.schedule.tmp` and `<id>.schedule.lock` of each id, and
what every process is doing. -/
structure ScheduleState where
  records : String → Option String
  staging : String → Option String
  locks : String → Option Nat
  running : Nat → Option ScheduleActivity

inductive ScheduleEvent where
  | lock (process : Nat) (call : ScheduleCall)
  /-- The read can meet an error of the file system. -/
  | read (process : Nat) (call : ScheduleCall) (ioError : Option String)
  | stage (process : Nat)
  | publish (process : Nat) (call : ScheduleCall) (record : ScheduleRecord)
  | finish (process : Nat)
  /-- The call fails or the process dies. `remains` is what stands in a staging file whose
  writing was cut short. -/
  | stop (process : Nat) (remains : Option String)

namespace ScheduleState

def missingFile : String := "No such file or directory (os error 2)"

def content (state : ScheduleState) (id : String) : Option String → Except String String
  | some ioError => .error ioError
  | none =>
    match state.records id with
    | some text => .ok text
    | none => .error missingFile

def enter (state : ScheduleState) (process : Nat) (call : ScheduleCall)
    (phase : SchedulePhase) : ScheduleState :=
  { state with running := Function.update state.running process (some ⟨call, phase⟩) }

/-- The lock guard goes out of scope. -/
def release (state : ScheduleState) (process : Nat) (call : ScheduleCall) : ScheduleState :=
  { state with
    locks := Function.update state.locks call.id none
    running := Function.update state.running process none }

def withStaging (state : ScheduleState) (id : String) (text : Option String) : ScheduleState :=
  { state with staging := Function.update state.staging id text }

def withRecord (state : ScheduleState) (id text : String) : ScheduleState :=
  { state with records := Function.update state.records id (some text) }

def step (state : ScheduleState) : ScheduleEvent → Option ScheduleState
  | .lock process call =>
      match state.running process, call.check, state.locks call.id with
      | none, .ok _, none => some
          ({ state with locks := Function.update state.locks call.id (some process) }.enter
            process call .locked)
      | _, _, _ => none
  | .read process call ioError =>
      match state.running process with
      | some ⟨running, .locked⟩ =>
          if running = call then
            match call.apply (Schedule.read call.id (state.content call.id ioError)) with
            | .ok record => some (state.enter process call (.writing record))
            | .error _ => some (state.release process call)
          else none
      | _ => none
  | .stage process =>
      match state.running process with
      | some ⟨call, .writing record⟩ => some
          ((state.withStaging record.id (some record.encode)).enter process call (.staged record))
      | _ => none
  | .publish process call record =>
      match state.running process, state.staging record.id with
      | some ⟨running, .staged staged⟩, some text =>
          if running = call ∧ staged = record then some
            (((state.withRecord record.id text).withStaging record.id none).enter process call
              (.published record))
          else none
      | _, _ => none
  | .finish process =>
      match state.running process with
      | some ⟨call, .published _⟩ => some (state.release process call)
      | _ => none
  | .stop process remains =>
      match state.running process with
      | some ⟨call, .writing record⟩ => some
          ((state.withStaging record.id remains).release process call)
      | some ⟨call, _⟩ => some (state.release process call)
      | none => none

/-- What each event can do. -/
inductive Steps (state : ScheduleState) : ScheduleEvent → ScheduleState → Prop where
  | lock {process call} (idle : state.running process = none) (checked : call.check = .ok ())
      (free : state.locks call.id = none) :
      Steps state (.lock process call)
        ({ state with locks := Function.update state.locks call.id (some process) }.enter
          process call .locked)
  | read {process call ioError record} (running : state.running process = some ⟨call, .locked⟩)
      (applied : call.apply (Schedule.read call.id (state.content call.id ioError)) = .ok record) :
      Steps state (.read process call ioError) (state.enter process call (.writing record))
  | refuse {process call ioError} (running : state.running process = some ⟨call, .locked⟩) :
      Steps state (.read process call ioError) (state.release process call)
  | stage {process call record} (running : state.running process = some ⟨call, .writing record⟩) :
      Steps state (.stage process)
        ((state.withStaging record.id (some record.encode)).enter process call (.staged record))
  | publish {process call record text}
      (running : state.running process = some ⟨call, .staged record⟩)
      (written : state.staging record.id = some text) :
      Steps state (.publish process call record)
        (((state.withRecord record.id text).withStaging record.id none).enter process call
          (.published record))
  | finish {process call record} (running : state.running process = some ⟨call, .published record⟩) :
      Steps state (.finish process) (state.release process call)
  | cut {process call record remains}
      (running : state.running process = some ⟨call, .writing record⟩) :
      Steps state (.stop process remains)
        ((state.withStaging record.id remains).release process call)
  | stop {process call phase remains} (running : state.running process = some ⟨call, phase⟩) :
      Steps state (.stop process remains) (state.release process call)

theorem steps_of_step {state after : ScheduleState}
    (stepped : state.step event = some after) : state.Steps event after := by
  cases event with
  | lock process call =>
      simp only [step] at stepped
      split at stepped
      next idle checked free =>
          cases stepped
          exact .lock idle checked free
      next => cases stepped
  | read process call ioError =>
      simp only [step] at stepped
      split at stepped
      next running isRunning =>
          split at stepped
          next same =>
              subst same
              split at stepped
              next record applied =>
                  cases stepped
                  exact .read isRunning applied
              next =>
                  cases stepped
                  exact .refuse isRunning
          next => cases stepped
      next => cases stepped
  | stage process =>
      simp only [step] at stepped
      split at stepped
      next running =>
          cases stepped
          exact .stage running
      next => cases stepped
  | publish process call record =>
      simp only [step] at stepped
      split at stepped
      next isRunning written =>
          split at stepped
          next same =>
              obtain ⟨rfl, rfl⟩ := same
              cases stepped
              exact .publish isRunning written
          next => cases stepped
      next => cases stepped
  | finish process =>
      simp only [step] at stepped
      split at stepped
      next running =>
          cases stepped
          exact .finish running
      next => cases stepped
  | stop process remains =>
      simp only [step] at stepped
      split at stepped
      next running =>
          cases stepped
          exact .cut running
      next running =>
          cases stepped
          exact .stop running
      next => cases stepped

end ScheduleState

/-- All schedules of one store, before the first call. -/
def scheduleMachine : Machine ScheduleState ScheduleEvent where
  initial := ⟨fun _ => none, fun _ => none, fun _ => none, fun _ => none⟩
  step := ScheduleState.step

/-! ## What has been committed -/

def commits (id : String) : List ScheduleEvent → List (ScheduleCall × ScheduleRecord)
  | [] => []
  | .publish _ call record :: trace =>
      if call.id = id then (call, record) :: commits id trace else commits id trace
  | _ :: trace => commits id trace

def ScheduleEvent.Orderly : ScheduleEvent → Prop
  | .lock _ call => call.Orderly
  | .read _ call ioError => (∃ nextRunAtMs, call.operation = .upsert nextRunAtMs) → ioError = none
  | _ => True

namespace ScheduleState

variable {state after : ScheduleState} {trace : List ScheduleEvent} {id : String}

def latest (state : ScheduleState) (id : String) : Except EvaError ScheduleRecord :=
  Schedule.read id (state.content id none)

/-- The file of a schedule holds its last commit. -/
structure Settled (trace : List ScheduleEvent) (state : ScheduleState) (id : String) : Prop where
  file : state.records id = (commits id trace).head?.map fun commit => commit.2.encode
  valid : commits id trace ≠ [] → Schedule.validateId id = .ok ()
  written : ∀ commit ∈ commits id trace, commit.2.id = id ∧ commit.2.Writable
  follows : ∀ commit rest, (commit :: rest) <:+ commits id trace →
    ∃ read, commit.1.apply read = .ok commit.2 ∧
      ∀ previous, read = .ok previous → rest.head?.map Prod.snd = some previous
  numbered : ∀ commit rest, (commit :: rest) <:+ commits id trace →
    commit.2.generation.value = min (rest.length + 1) (2 ^ 64 - 1)

/-- A call that has reached its phase holds its lock and, until it publishes, has the record
that follows from the file. -/
structure Active (state : ScheduleState) (process : Nat) (activity : ScheduleActivity) :
    Prop where
  orderly : activity.call.Orderly
  checked : activity.call.check = .ok ()
  locked : state.locks activity.call.id = some process
  derived : ∀ record, activity.phase = .writing record ∨ activity.phase = .staged record →
    activity.call.apply (state.latest activity.call.id) = .ok record ∧
      record.id = activity.call.id ∧ record.Writable
  staged : ∀ record, activity.phase = .staged record →
    state.staging activity.call.id = some record.encode

structure Coherent (trace : List ScheduleEvent) (state : ScheduleState) : Prop where
  settled : ∀ id, state.Settled trace id
  active : ∀ process activity, state.running process = some activity →
    state.Active process activity

theorem Settled.latest_eq_ok (settled : state.Settled trace id)
    (found : state.latest id = .ok previous) :
    ∃ call rest, commits id trace = (call, previous) :: rest := by
  simp only [latest, Schedule.read, content, bind_eq_ok_iff, exists_unit_iff] at found
  have file := settled.file
  cases committed : commits id trace with
  | nil =>
      rw [committed] at file
      simp [file, throw, throwThe, MonadExceptOf.throw] at found
  | cons commit rest =>
      rw [committed] at file
      have writable := (settled.written commit (by simp [committed])).2
      have same : commit.2 = previous := by
        simpa [file, ScheduleRecord.decode_encode writable] using found.2
      exact ⟨commit.1, rest, by rw [← same]⟩

theorem validateId_of_apply {call : ScheduleCall} (checked : call.check = .ok ())
    (applied : call.apply (state.latest call.id) = .ok record) :
    Schedule.validateId call.id = .ok () := by
  rcases (ScheduleCall.apply_cases applied).2 with ⟨previous, found, -⟩ | ⟨⟨time, upsert⟩, -⟩
  · simp only [latest, Schedule.read, bind_eq_ok_iff, exists_unit_iff] at found
    exact found.1
  · simpa [ScheduleCall.check, upsert] using checked

theorem Settled.latest_of_commits (settled : state.Settled trace id)
    (committed : commits id trace = (call, previous) :: rest) :
    state.latest id = .ok previous := by
  have file := settled.file
  have valid := settled.valid (by simp [committed])
  have writable := (settled.written (call, previous) (by simp [committed])).2
  rw [committed] at file
  simp only [List.head?_cons, Option.map_some] at file
  simp only [latest, Schedule.read, content, valid, ok_bind, file,
    ScheduleRecord.decode_encode writable]

theorem Settled.next_generation (settled : state.Settled trace id) {call : ScheduleCall}
    (applied : call.apply (state.latest id) = .ok record) :
    record.generation.value = min ((commits id trace).length + 1) (2 ^ 64 - 1) := by
  have successor {previous : ScheduleRecord} (found : state.latest id = .ok previous) :
      (previous.generation.saturatingAdd 1).value =
        min ((commits id trace).length + 1) (2 ^ 64 - 1) := by
    obtain ⟨call, rest, committed⟩ := settled.latest_eq_ok found
    have number := settled.numbered (call, previous) rest (committed ▸ List.suffix_rfl)
    have one : (1 : U64).value = 1 := rfl
    rw [Unsigned.saturatingAdd_value, number, one, committed, List.length_cons]
    omega
  rcases (ScheduleCall.apply_cases applied).2 with
    ⟨previous, found, -, next, -⟩ | ⟨⟨time, upsert⟩, -, next⟩
  · rw [next, successor found]
  · cases found : state.latest id with
    | ok previous => rw [next, found, Schedule.upsertGeneration, successor found]
    | error error =>
        cases committed : commits id trace with
        | nil =>
            rw [next, found]
            rfl
        | cons commit rest =>
            rw [settled.latest_of_commits committed] at found
            cases found

theorem Settled.unchanged (settled : state.Settled trace id)
    (file : after.records id = state.records id) (same : commits id later = commits id trace) :
    after.Settled later id where
  file := by rw [file, same, settled.file]
  valid := by
    rw [same]
    exact settled.valid
  written := by
    rw [same]
    exact settled.written
  follows := by
    rw [same]
    exact settled.follows
  numbered := by
    rw [same]
    exact settled.numbered

theorem latest_congr (file : after.records id = state.records id) :
    after.latest id = state.latest id := by
  simp only [latest, content, file]

theorem Active.unchanged (active : state.Active process activity)
    (records : after.records activity.call.id = state.records activity.call.id)
    (staging : after.staging activity.call.id = state.staging activity.call.id)
    (locks : after.locks activity.call.id = state.locks activity.call.id) :
    after.Active process activity where
  orderly := active.orderly
  checked := active.checked
  locked := locks.trans active.locked
  derived := by
    rw [latest_congr records]
    exact active.derived
  staged := by
    rw [staging]
    exact active.staged

theorem Coherent.separate (coherent : state.Coherent trace)
    (running : state.running process = some activity) :
    ∀ other otherActivity, state.running other = some otherActivity → other ≠ process →
      otherActivity.call.id ≠ activity.call.id := by
  intro other otherActivity isRunning different same
  have held := (coherent.active process activity running).locked
  rw [← same, (coherent.active other otherActivity isRunning).locked] at held
  exact different (Option.some.inj held)

/-- One process moves on; what it changes belongs to its own schedule. -/
theorem Coherent.move (coherent : state.Coherent trace) {process : Nat} {id : String}
    {activity : Option ScheduleActivity}
    (own : ∀ other otherActivity, state.running other = some otherActivity → other ≠ process →
      otherActivity.call.id ≠ id)
    {event : ScheduleEvent} (running : after.running =
      Function.update state.running process activity)
    (records : ∀ other, other ≠ id → after.records other = state.records other)
    (staging : ∀ other, other ≠ id → after.staging other = state.staging other)
    (locks : ∀ other, other ≠ id → after.locks other = state.locks other)
    (committed : ∀ other, other ≠ id → commits other (event :: trace) = commits other trace)
    (settled : after.Settled (event :: trace) id)
    (active : ∀ mine, activity = some mine → after.Active process mine) :
    after.Coherent (event :: trace) where
  settled := by
    intro other
    by_cases same : other = id
    · exact same ▸ settled
    · exact (coherent.settled other).unchanged (records other same) (committed other same)
  active := by
    intro other otherActivity isRunning
    rw [running] at isRunning
    by_cases same : other = process
    · subst same
      rw [Function.update_self] at isRunning
      exact active otherActivity isRunning
    · rw [Function.update_of_ne same] at isRunning
      have different := own other otherActivity isRunning same
      exact (coherent.active other otherActivity isRunning).unchanged (records _ different)
        (staging _ different) (locks _ different)

/-- The call ends; only its staging file may have changed. -/
theorem Coherent.released (coherent : state.Coherent trace) {process : Nat}
    {activity : ScheduleActivity} (running : state.running process = some activity)
    {event : ScheduleEvent} (silent : ∀ id, commits id (event :: trace) = commits id trace)
    {before : ScheduleState} (sameRunning : before.running = state.running)
    (sameRecords : before.records = state.records) (sameLocks : before.locks = state.locks)
    (staging : ∀ other, other ≠ activity.call.id → before.staging other = state.staging other) :
    (before.release process activity.call).Coherent (event :: trace) := by
  refine @Coherent.move state _ trace coherent process activity.call.id none
    (coherent.separate running) event ?_ ?_ staging ?_ (fun other _ => silent other) ?_ (by simp)
  · simp only [release, sameRunning]
  · intro other _
    simp only [release, sameRecords]
  · intro other different
    simp only [release, Function.update_of_ne different, sameLocks]
  · exact (coherent.settled _).unchanged (by simp only [release, sameRecords]) (silent _)

theorem apply_latest {call : ScheduleCall}
    (orderly : (∃ nextRunAtMs, call.operation = .upsert nextRunAtMs) → ioError = none)
    (applied : call.apply (Schedule.read call.id (state.content call.id ioError)) = .ok record) :
    call.apply (state.latest call.id) = .ok record := by
  cases ioError with
  | none => exact applied
  | some ioError =>
      rcases (ScheduleCall.apply_cases applied).2 with ⟨previous, found, -⟩ | ⟨upsert, -⟩
      · simp [Schedule.read, content, throw, throwThe, MonadExceptOf.throw] at found
      · cases orderly upsert

theorem Coherent.step (coherent : state.Coherent trace)
    (orderly : event.Orderly) (steps : state.Steps event after) :
    after.Coherent (event :: trace) := by
  cases steps with
  | @lock process call idle checked free =>
      refine @Coherent.move state _ trace coherent process call.id (some ⟨call, .locked⟩) ?_ _ rfl
        (fun _ _ => rfl) (fun _ _ => rfl) ?_ (fun _ _ => rfl) ?_ ?_
      · intro other activity isRunning _ same
        have held := (coherent.active other activity isRunning).locked
        rw [same, free] at held
        cases held
      · intro other different
        simp only [enter, Function.update_of_ne different]
      · exact (coherent.settled _).unchanged rfl rfl
      · rintro _ ⟨⟩
        exact
          { orderly
            checked
            locked := Function.update_self ..
            derived := by simp
            staged := by simp }
  | @read process call ioError record running applied =>
      have active := coherent.active process _ running
      have settled := coherent.settled call.id
      have derived := apply_latest orderly applied
      have stored : ∀ previous, state.latest call.id = .ok previous →
          previous.id = call.id ∧ previous.Writable := by
        intro previous found
        obtain ⟨other, rest, committed⟩ := settled.latest_eq_ok found
        exact settled.written (other, previous) (by simp [committed])
      refine @Coherent.move state _ trace coherent process call.id
        (some ⟨call, .writing record⟩) (coherent.separate running) _ rfl
        (fun _ _ => rfl) (fun _ _ => rfl) (fun _ _ => rfl) (fun _ _ => rfl)
        (settled.unchanged rfl rfl) ?_
      rintro _ ⟨⟩
      refine
        { orderly := active.orderly
          checked := active.checked
          locked := active.locked
          derived := ?_
          staged := by simp }
      rintro _ (⟨⟨⟩⟩ | ⟨⟨⟩⟩)
      exact ⟨derived, ScheduleCall.apply_writable active.orderly active.checked stored derived⟩
  | @refuse process call ioError running =>
      exact coherent.released running (fun _ => rfl) rfl rfl rfl fun _ _ => rfl
  | @stage process call record running =>
      have active := coherent.active process _ running
      obtain ⟨derived, own, writable⟩ := active.derived record (.inl rfl)
      rw [own]
      refine @Coherent.move state _ trace coherent process call.id
        (some ⟨call, .staged record⟩) (coherent.separate running) _ rfl (fun _ _ => rfl) ?_
        (fun _ _ => rfl) (fun _ _ => rfl) ((coherent.settled call.id).unchanged rfl rfl) ?_
      · intro other different
        simp only [enter, withStaging, Function.update_of_ne different]
      · rintro _ ⟨⟩
        refine
          { orderly := active.orderly
            checked := active.checked
            locked := active.locked
            derived := ?_
            staged := ?_ }
        · rintro _ (⟨⟨⟩⟩ | ⟨⟨⟩⟩)
          exact ⟨derived, own, writable⟩
        · rintro _ ⟨⟩
          exact Function.update_self ..
  | @publish process call record text running written =>
      have active := coherent.active process _ running
      obtain ⟨derived, own, writable⟩ := active.derived record (.inr rfl)
      have settled := coherent.settled call.id
      rw [own, active.staged record rfl] at written
      obtain rfl := Option.some.inj written
      rw [own]
      have committed : commits call.id (.publish process call record :: trace) =
          (call, record) :: commits call.id trace := by
        simp only [commits, if_true]
      refine @Coherent.move state _ trace coherent process call.id
        (some ⟨call, .published record⟩) (coherent.separate running) _ rfl ?_ ?_
        (fun _ _ => rfl) ?_
        ⟨?_, fun _ => validateId_of_apply active.checked derived, ?_, ?_, ?_⟩ ?_
      · intro other different
        simp only [enter, withStaging, withRecord, Function.update_of_ne different]
      · intro other different
        simp only [enter, withStaging, withRecord, Function.update_of_ne different]
      · intro other different
        simp only [commits, Ne.symm different, if_false]
      · rw [committed]
        exact Function.update_self ..
      · rw [committed]
        intro commit member
        rcases List.mem_cons.mp member with rfl | member
        · exact ⟨own, writable⟩
        · exact settled.written commit member
      · rw [committed]
        intro commit rest tail
        rcases List.suffix_cons_iff.mp tail with same | tail
        · obtain ⟨rfl, rfl⟩ := List.cons.inj same
          refine ⟨_, derived, fun previous found => ?_⟩
          obtain ⟨other, rest, committed⟩ := settled.latest_eq_ok found
          rw [committed]
          rfl
        · exact settled.follows commit rest tail
      · rw [committed]
        intro commit rest tail
        rcases List.suffix_cons_iff.mp tail with same | tail
        · obtain ⟨rfl, rfl⟩ := List.cons.inj same
          exact settled.next_generation derived
        · exact settled.numbered commit rest tail
      · rintro _ ⟨⟩
        exact
          { orderly := active.orderly
            checked := active.checked
            locked := active.locked
            derived := by simp
            staged := by simp }
  | @finish process call record running =>
      exact coherent.released running (fun _ => rfl) rfl rfl rfl fun _ _ => rfl
  | @cut process call record remains running =>
      have own := ((coherent.active process _ running).derived record (.inl rfl)).2.1
      refine @Coherent.released state trace coherent process _ running _ (fun _ => rfl) _ rfl rfl
        rfl fun other different => ?_
      simp only [withStaging, own, Function.update_of_ne different]
  | @stop process call phase remains running =>
      exact coherent.released running (fun _ => rfl) rfl rfl rfl fun _ _ => rfl

theorem coherent_of_run (orderly : ∀ event ∈ trace, event.Orderly)
    (run : scheduleMachine.Run trace state) : state.Coherent trace := by
  induction run with
  | start =>
      refine ⟨fun id => ⟨rfl, ?_, ?_, ?_, ?_⟩, ?_⟩
      iterate 4 simp [commits]
      intro process activity running
      cases running
  | step run stepped induction =>
      exact (induction fun event member => orderly event (List.mem_cons_of_mem _ member)).step
        (orderly _ List.mem_cons_self) (steps_of_step stepped)

/-! ## Completion -/

def undisturbed (process : Nat) (call : ScheduleCall) (record : ScheduleRecord) :
    List ScheduleEvent :=
  [.lock process call, .read process call none, .stage process, .publish process call record,
   .finish process]

theorem follow_undisturbed
    (idle : state.running process = none) (free : state.locks call.id = none)
    (checked : call.check = .ok ()) (applied : call.apply (state.latest call.id) = .ok record) :
    ∃ after, scheduleMachine.follow state (undisturbed process call record) = some after := by
  have applied : call.apply (Schedule.read call.id (content { state with
      locks := Function.update state.locks call.id (some process)
      running := Function.update state.running process (some ⟨call, .locked⟩) }
      call.id none)) = .ok record := applied
  simp [undisturbed, Machine.follow, scheduleMachine, step, enter, idle, free, checked, applied,
    withStaging, withRecord]

theorem Settled.apply_complete (settled : state.Settled trace id)
    (claimed : commits id trace = (⟨id, .claim owner nowMs leaseMs⟩, record) :: rest) :
    (ScheduleCall.mk id (.complete owner record.generation nextRunAtMs)).apply (state.latest id) =
      .ok
        { record with
          nextRunAtMs
          leaseOwner := none
          leaseExpiresAtMs := none
          generation := record.generation.saturatingAdd 1 } := by
  obtain ⟨read, applied, -⟩ := settled.follows (⟨id, .claim owner nowMs leaseMs⟩, record) rest
    (claimed ▸ List.suffix_rfl)
  have owned : record.leaseOwner = some owner := (ScheduleCall.apply_cases applied).1
  rw [settled.latest_of_commits claimed]
  simp [ScheduleCall.apply, ScheduleRecord.complete, rejectIf, owned]

end ScheduleState

/-! ## The lease protocol -/

/-- Owner and generation that renewal and completion are fenced by. -/
def ScheduleCall.fence (call : ScheduleCall) : Option (String × U64) :=
  match call.operation with
  | .renew owner generation _ _ | .complete owner generation _ => some (owner, generation)
  | .upsert _ | .claim .. => none

/-- How a commit stands to the ones before it, newest first. -/
structure LeaseFollows (commit : ScheduleCall × ScheduleRecord)
    (rest : List (ScheduleCall × ScheduleRecord)) : Prop where
  grows : rest.length + 1 < 2 ^ 64 →
    ∀ earlier ∈ rest, earlier.2.generation < commit.2.generation
  fenced : ∀ owner generation, commit.1.fence = some (owner, generation) →
    ∃ holder older, rest = holder :: older ∧ holder.1.leases = some owner ∧
      holder.2.generation = generation
  due : ∀ owner nowMs leaseMs, commit.1.operation = .claim owner nowMs leaseMs →
    ∃ previous older, rest = previous :: older ∧ previous.2.nextRunAtMs ≤ nowMs ∧
      ∀ expires ∈ previous.2.leaseExpiresAtMs, nowMs < expires →
        previous.2.leaseOwner = some owner

namespace ScheduleState

variable {state : ScheduleState} {id : String}

section

variable (settled : state.Settled trace id) (tail : (commit :: rest) <:+ commits id trace)
include settled tail

theorem Settled.grows
    (short : rest.length + 1 < 2 ^ 64)
    (member : earlier ∈ rest) : earlier.2.generation < commit.2.generation := by
  obtain ⟨newer, older, rfl⟩ := List.append_of_mem member
  have sooner : (earlier :: older) <:+ commits id trace :=
    ((List.suffix_append newer _).trans (List.suffix_cons commit _)).trans tail
  rw [Unsigned.lt_iff, settled.numbered _ _ tail, settled.numbered _ _ sooner]
  simp only [List.length_append, List.length_cons] at short ⊢
  omega

theorem Settled.previous
    (needs : ∀ nextRunAtMs, commit.1.operation ≠ .upsert nextRunAtMs) :
    ∃ holder older, rest = holder :: older ∧
      commit.1.apply (.ok holder.2) = .ok commit.2 ∧ holder.2.leaseOwner = holder.1.leases := by
  obtain ⟨read, applied, follows⟩ := settled.follows commit rest tail
  rcases (ScheduleCall.apply_cases applied).2 with ⟨previous, found, -⟩ | ⟨⟨time, upsert⟩, -⟩
  · have first := follows previous found
    cases rest with
    | nil => cases first
    | cons holder older =>
        obtain rfl : holder.2 = previous := Option.some.inj first
        obtain ⟨earlier, derived, -⟩ :=
          settled.follows holder older ((List.suffix_cons commit _).trans tail)
        exact ⟨holder, older, rfl, found ▸ applied, (ScheduleCall.apply_cases derived).1⟩
  · exact absurd upsert (needs time)

theorem Settled.leaseFollows : LeaseFollows commit rest where
  grows short earlier member := settled.grows tail short member
  fenced := by
    intro owner generation fence
    obtain ⟨⟨callId, operation⟩, record⟩ := commit
    cases operation with
    | upsert | claim => cases fence
    | renew | complete =>
        cases fence
        obtain ⟨holder, older, first, applied, owned⟩ := settled.previous tail (by simp)
        simp only [ScheduleCall.apply, ScheduleRecord.renew, ScheduleRecord.complete,
          bind_eq_ok_iff, exists_unit_iff, rejectIf_eq_ok_iff, not_or, not_not,
          Except.ok.injEq, exists_eq_left'] at applied
        exact ⟨holder, older, first, owned ▸ applied.1.2, applied.1.1⟩
  due := by
    intro owner nowMs leaseMs claim
    obtain ⟨holder, older, first, applied, -⟩ := settled.previous tail (by simp [claim])
    simp only [ScheduleCall.apply, claim, ScheduleRecord.claim, bind_eq_ok_iff, exists_unit_iff,
      rejectIf_eq_ok_iff, not_and, not_not, Except.ok.injEq, exists_eq_left'] at applied
    refine ⟨holder, older, first, Nat.le_of_not_lt applied.1, fun expires held late => ?_⟩
    refine applied.2.1 ?_
    rw [Option.mem_def.mp held]
    simpa using late

end

end ScheduleState

/-- In every run of any processes in which ids and owners keep to their lines and `upsert`
meets no read error, the commits of each schedule follow the lease protocol; and after a
claim its owner completes, once the lock is free. -/
theorem schedule_commits_follow {trace : List ScheduleEvent} {state : ScheduleState}
    (run : scheduleMachine.Run trace state) (orderly : ∀ event ∈ trace, event.Orderly)
    (id : String) :
    (∀ commit rest, (commit :: rest) <:+ commits id trace → LeaseFollows commit rest) ∧
      ∀ owner nowMs leaseMs record rest,
        commits id trace = (⟨id, .claim owner nowMs leaseMs⟩, record) :: rest →
        ∀ process nextRunAtMs, state.running process = none → state.locks id = none →
          ∃ completed after, scheduleMachine.follow state (ScheduleState.undisturbed process
            ⟨id, .complete owner record.generation nextRunAtMs⟩ completed) = some after := by
  have settled := (ScheduleState.coherent_of_run orderly run).settled id
  refine ⟨fun commit rest tail => settled.leaseFollows tail, ?_⟩
  intro owner nowMs leaseMs record rest claimed process nextRunAtMs idle free
  exact ⟨_, ScheduleState.follow_undisturbed idle free rfl (settled.apply_complete claimed)⟩

def undisturbedCalls (calls : List (Nat × ScheduleCall × ScheduleRecord)) : List ScheduleEvent :=
  calls.flatMap fun (process, call, record) => ScheduleState.undisturbed process call record

theorem orderly_undisturbedCalls (orderly : ∀ call ∈ calls, call.2.1.Orderly) :
    ∀ event ∈ (undisturbedCalls calls).reverse, event.Orderly := by
  intro event member
  obtain ⟨⟨process, call, record⟩, called, step⟩ :=
    List.mem_flatMap.mp (List.mem_reverse.mp member)
  simp only [ScheduleState.undisturbed, List.mem_cons, List.not_mem_nil, or_false] at step
  rcases step with rfl | rfl | rfl | rfl | rfl
  · exact orderly _ called
  · exact fun _ => rfl
  · trivial
  · trivial
  · trivial

def dueSchedule : ScheduleCall × ScheduleRecord :=
  (⟨"gc", .upsert 0⟩, ⟨"gc", 0, none, none, 1⟩)

def claimedSchedule (owner : String) : ScheduleCall × ScheduleRecord :=
  (⟨"gc", .claim owner 5 10⟩, ⟨"gc", 0, some owner, some 15, 2⟩)

theorem schedule_commits_follow_claim :
    ∃ trace state, scheduleMachine.Run trace state ∧
      commits "gc" trace = [claimedSchedule "a", dueSchedule] ∧
      (∀ commit rest, (commit :: rest) <:+ commits "gc" trace → LeaseFollows commit rest) ∧
      ∃ completed after, scheduleMachine.follow state (ScheduleState.undisturbed 2
        ⟨"gc", .complete "a" 2 100⟩ completed) = some after := by
  have run := scheduleMachine.run_follow
    (undisturbedCalls [(0, dueSchedule), (1, claimedSchedule "a")]) (by decide +kernel)
  have committed : commits "gc"
      (undisturbedCalls [(0, dueSchedule), (1, claimedSchedule "a")]).reverse =
        [claimedSchedule "a", dueSchedule] := by decide
  obtain ⟨follows, completes⟩ := schedule_commits_follow run (orderly_undisturbedCalls (by
    intro call member
    simp only [List.mem_cons, List.not_mem_nil, or_false] at member
    rcases member with rfl | rfl
    · exact ⟨⟨by decide, by decide⟩, trivial⟩
    · exact ⟨⟨by decide, by decide⟩, by decide, by decide⟩)) "gc"
  exact ⟨_, _, run, committed, follows,
    completes "a" 5 10 _ _ committed 2 100 (by decide +kernel) (by decide +kernel)⟩

def completedSchedule : ScheduleCall × ScheduleRecord :=
  (⟨"gc", .complete "a" 2 100⟩, ⟨"gc", 100, none, none, 3⟩)

/-- A line feed cuts the owner short: the owner that claimed cannot complete, and another
one can. -/
theorem schedule_owner_cut_short :
    (∃ trace state, scheduleMachine.Run trace state ∧
      commits "gc" trace = [completedSchedule, claimedSchedule "a\nb", dueSchedule]) ∧
    ∃ trace state, scheduleMachine.Run trace state ∧
      commits "gc" trace = [claimedSchedule "a\nb", dueSchedule] ∧ state.locks "gc" = none ∧
      (ScheduleCall.mk "gc" (.complete "a\nb" 2 100)).apply (state.latest "gc") =
        .error (.conflict "schedule completion fence does not match active lease") := by
  have claimed := scheduleMachine.run_follow
    (undisturbedCalls [(0, dueSchedule), (1, claimedSchedule "a\nb")]) (by decide +kernel)
  have completed := scheduleMachine.run_follow (undisturbedCalls
    [(0, dueSchedule), (1, claimedSchedule "a\nb"), (2, completedSchedule)]) (by decide +kernel)
  exact ⟨⟨_, _, completed, by decide⟩,
    _, _, claimed, by decide, by decide +kernel, by decide +kernel⟩

end Eva.Memory
