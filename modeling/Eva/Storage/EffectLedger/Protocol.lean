import Eva.Storage.EffectLedger.Collision
import Eva.Storage.EffectLedger.System

/-! # The protocol of the effect ledger

The record of a key is created once and can only be committed after that, whoever
the callers are and whatever fails: every call reads the record under the same
lock under which it replaces its file.
-/

namespace Eva.Storage

/-! ## What the calls do -/

/-- How a record can go on. The operation and the fence stay, a result comes once. -/
inductive Advances (record : EffectLedgerRecord) : EffectLedgerRecord → Prop where
  | kept : Advances record record
  | committed (state : record.state = .prepared) (resultDigest : String)
      (resultSizeBytes : Usize) (committedAtMs : U128) :
      Advances record (record.committedWith resultDigest resultSizeBytes committedAtMs)

section Calls

variable {fault : Option IoFault} {root : String} {ledger : FileSystemEffectLedger directory}
  {taskStore : FileSystemTaskStateStore directory} {intent : EffectLedgerIntent}

theorem persistEffectRecord_cases (record : EffectLedgerRecord) :
    let persisted := persistEffectRecord root effects fault record
    (persisted.1 = effects ∧ ∃ error, persisted.2 = .error error) ∨
      persisted.1 = record.writtenTo effects := by
  unfold persistEffectRecord
  dsimp only
  split
  next error failed => exact .inl ⟨rfl, error, rfl⟩
  next => exact .inr rfl

theorem prepareEffectRecord_cases
    (transaction : prepareEffectRecord root effects fault records intent = (next, response)) :
    let record := EffectLedgerRecord.prepared intent
    (next = effects ∧ ∀ created, response ≠ .ok (.created created)) ∨
      (records.lookup intent.operation.idempotencyKey = none ∧ record.Valid ∧
        next = record.writtenTo effects ∧
        ((∃ error, response = .error error) ∨ response = .ok (.created record))) := by
  intro record
  unfold prepareEffectRecord at transaction
  split at transaction
  next found present =>
      cases transaction
      refine .inl ⟨rfl, fun created same => ?_⟩
      simp only [bind_eq_ok_iff, exists_unit_iff, pure_eq_ok_iff] at same
      split at same <;> cases same.2
  next absent =>
      dsimp only at transaction
      split at transaction
      next error invalid =>
          cases transaction
          exact .inl ⟨rfl, by simp⟩
      next valid =>
          have valid := EffectLedgerRecord.validate_eq_ok_iff.mp valid
          cases transaction
          rcases @persistEffectRecord_cases fault root effects record with
            ⟨kept, error, failed⟩ | replaced
          · refine .inl ⟨kept, fun created => ?_⟩
            rw [failed]
            rintro ⟨⟩
          · refine .inr ⟨absent, valid, replaced, ?_⟩
            cases (persistEffectRecord root effects fault record).2 with
            | ok => exact .inr rfl
            | error error => exact .inl ⟨error, rfl⟩

/-- The record that a commit is about. -/
structure CommitsTo (intent : EffectLedgerIntent) (current : EffectLedgerRecord) : Prop where
  operation : current.operation = intent.operation
  prepared : intent.Prepared current

theorem checkEffectCommit_eq_ok (checked : checkEffectCommit records intent = .ok current) :
    records.lookup intent.operation.idempotencyKey = some current ∧ CommitsTo intent current := by
  simp only [checkEffectCommit, ensureOperationMatches, bind_eq_ok_iff, exists_unit_iff,
    orReject_eq_ok_iff, rejectIf_eq_ok_iff, not_not, pure_eq_ok_iff] at checked
  obtain ⟨found, present, operation, prepared, rfl⟩ := checked
  exact ⟨present, operation, prepared⟩

theorem commitEffectRecord_cases
    (transaction : commitEffectRecord root effects fault records intent resultDigest
      resultSizeBytes committedAtMs = (next, response)) :
    (next = effects ∧ ∃ error, response = .error error) ∨
      ∃ current, records.lookup intent.operation.idempotencyKey = some current ∧
        CommitsTo intent current ∧
        ((next = effects ∧ response = .ok current ∧ current.state = .committed ∧
            current.resultDigest = some resultDigest ∧
            current.resultSizeBytes = some resultSizeBytes) ∨
          let committed := current.committedWith resultDigest resultSizeBytes committedAtMs
          current.state = .prepared ∧ committed.Valid ∧ next = committed.writtenTo effects ∧
            ((∃ error, response = .error error) ∨ response = .ok committed)) := by
  unfold commitEffectRecord at transaction
  split at transaction
  next error refused =>
      cases transaction
      exact .inl ⟨rfl, error, rfl⟩
  next current checked =>
      obtain ⟨present, commits⟩ := checkEffectCommit_eq_ok checked
      split at transaction
      next state =>
          cases transaction
          by_cases same : current.resultDigest = some resultDigest ∧
              current.resultSizeBytes = some resultSizeBytes
          · refine .inr ⟨current, present, commits, .inl ⟨rfl, ?_, state, same⟩⟩
            exact bind_eq_ok_iff.mpr ⟨(), rejectIf_eq_ok_iff.mpr (not_not.mpr same), rfl⟩
          · refine .inl ⟨rfl, ?_⟩
            rw [rejectIf, if_pos same]
            exact ⟨_, rfl⟩
      next state =>
          dsimp only at transaction
          split at transaction
          next error invalid =>
              cases transaction
              exact .inl ⟨rfl, error, rfl⟩
          next valid =>
              have valid := EffectLedgerRecord.validate_eq_ok_iff.mp valid
              cases transaction
              rcases @persistEffectRecord_cases fault root effects
                  (current.committedWith resultDigest resultSizeBytes committedAtMs) with
                ⟨kept, error, failed⟩ | replaced
              · refine .inl ⟨kept, error, ?_⟩
                rw [failed]
                rfl
              · refine .inr ⟨current, present, commits, .inr ⟨state, valid, replaced, ?_⟩⟩
                cases (persistEffectRecord root effects fault
                    (current.committedWith resultDigest resultSizeBytes committedAtMs)).2 with
                | ok => exact .inr rfl
                | error error => exact .inl ⟨error, rfl⟩

theorem prepareForClaim_cases
    (performed : ledger.prepareForClaim state fault clock taskStore intent =
      some (after, response)) :
    (after = state ∧ ∀ created, response ≠ .ok (.created created)) ∨
      ∃ preparedAtMs, let record := EffectLedgerRecord.prepared { intent with preparedAtMs }
        recordAt state.effects record.key = none ∧ record.Valid ∧
          after = { state with effects := record.writtenTo state.effects } ∧
          ((∃ error, response = .error error) ∨ response = .ok (.created record)) := by
  unfold FileSystemEffectLedger.prepareForClaim at performed
  split at performed
  next error failed =>
      cases performed
      exact .inl ⟨rfl, by simp⟩
  next writer shared =>
  split at performed
  next => cases performed
  next =>
  split at performed
  next error failed =>
      cases performed
      exact .inl ⟨rfl, by simp⟩
  next observedAtMs records entered =>
      simp only [FileSystemEffectLedger.enterClaim, bind_eq_ok_iff, exists_unit_iff,
        pure_eq_ok_iff, Prod.mk.injEq] at entered
      obtain ⟨_, _, clocked, _, _, _, loaded, rfl, rfl⟩ := entered
      generalize transaction : prepareEffectRecord _ _ _ _ _ = outcome at performed
      obtain ⟨next, answer⟩ := outcome
      cases performed
      rcases prepareEffectRecord_cases transaction with
        ⟨rfl, answered⟩ | ⟨absent, valid, rfl, answered⟩
      · exact .inl ⟨rfl, answered⟩
      · rw [lookup_loadEffectRecords loaded] at absent
        exact .inr ⟨clocked, absent, valid, rfl, answered⟩

theorem commit_cases
    (performed : ledger.commit state fault intent resultDigest resultSizeBytes committedAtMs =
      some (after, response)) :
    (after = state ∧ ∃ error, response = .error error) ∨
      ∃ current, recordAt state.effects intent.operation.idempotencyKey = some current ∧
        CommitsTo intent current ∧
        ((after = state ∧ response = .ok current ∧ current.state = .committed ∧
            current.resultDigest = some resultDigest ∧
            current.resultSizeBytes = some resultSizeBytes) ∨
          let committed := current.committedWith resultDigest resultSizeBytes committedAtMs
          current.state = .prepared ∧ committed.Valid ∧
            after = { state with effects := committed.writtenTo state.effects } ∧
            ((∃ error, response = .error error) ∨ response = .ok committed)) := by
  unfold FileSystemEffectLedger.commit at performed
  split at performed
  next error failed =>
      cases performed
      exact .inl ⟨rfl, error, rfl⟩
  next writer owned =>
  split at performed
  next => cases performed
  next =>
  split at performed
  next error failed =>
      cases performed
      exact .inl ⟨rfl, error, rfl⟩
  next records entered =>
      simp only [FileSystemEffectLedger.enterWrite, bind_eq_ok_iff] at entered
      obtain ⟨_, _, loaded⟩ := entered
      rw [← lookup_loadEffectRecords loaded]
      generalize transaction : commitEffectRecord _ _ _ _ _ _ _ _ = outcome at performed
      obtain ⟨next, answer⟩ := outcome
      cases performed
      rcases commitEffectRecord_cases transaction with
        ⟨rfl, failed⟩ | ⟨current, present, commits, result⟩
      · exact .inl ⟨rfl, failed⟩
      · refine .inr ⟨current, present, commits, ?_⟩
        rcases result with ⟨rfl, answered⟩ | ⟨prepared, valid, rfl, answered⟩
        · exact .inl ⟨rfl, answered⟩
        · exact .inr ⟨prepared, valid, rfl, answered⟩

theorem checkEffectCommit_of_present
    (entered : ledger.enterWrite state fault writer = .ok records)
    (present : recordAt state.effects intent.operation.idempotencyKey = some current)
    (commits : CommitsTo intent current) : checkEffectCommit records intent = .ok current := by
  simp only [FileSystemEffectLedger.enterWrite, bind_eq_ok_iff] at entered
  obtain ⟨-, -, loaded⟩ := entered
  simp only [checkEffectCommit, ensureOperationMatches, bind_eq_ok_iff, exists_unit_iff,
    orReject_eq_ok_iff, rejectIf_eq_ok_iff, not_not, pure_eq_ok_iff]
  exact ⟨current, lookup_loadEffectRecords loaded _ ▸ present, commits.operation,
    commits.prepared, rfl⟩

theorem commit_prepared (owned : ledger.commitWriter intent resultDigest = .ok writer)
    (idle : state.tasks.pendingLatest = none)
    (entered : ledger.enterWrite state none writer = .ok records)
    (present : recordAt state.effects intent.operation.idempotencyKey = some current)
    (commits : CommitsTo intent current) (prepared : current.state = .prepared)
    (valid : (current.committedWith resultDigest resultSizeBytes committedAtMs).Valid) :
    let committed := current.committedWith resultDigest resultSizeBytes committedAtMs
    ledger.commit state none intent resultDigest resultSizeBytes committedAtMs =
      some ({ state with effects := committed.writtenTo state.effects }, .ok committed) := by
  have checked := checkEffectCommit_of_present entered present commits
  unfold FileSystemEffectLedger.commit
  simp only [owned, idle, Option.isSome_none, Bool.false_eq_true, if_false, entered,
    commitEffectRecord, checked, prepared, EffectLedgerRecord.validate_eq_ok_iff.mpr valid,
    persistEffectRecord, failsAt_none]
  rfl

theorem commit_repeated (owned : ledger.commitWriter intent resultDigest = .ok writer)
    (idle : state.tasks.pendingLatest = none)
    (entered : ledger.enterWrite state fault writer = .ok records)
    (present : recordAt state.effects intent.operation.idempotencyKey = some current)
    (commits : CommitsTo intent current) (committed : current.state = .committed)
    (digest : current.resultDigest = some resultDigest)
    (size : current.resultSizeBytes = some resultSizeBytes) :
    ledger.commit state fault intent resultDigest resultSizeBytes committedAtMs =
      some (state, .ok current) := by
  have checked := checkEffectCommit_of_present entered present commits
  unfold FileSystemEffectLedger.commit
  simp only [owned, idle, Option.isSome_none, Bool.false_eq_true, if_false, entered,
    commitEffectRecord, checked, committed, digest, size, and_self, not_true_eq_false]
  rfl

end Calls

namespace Advances

theorem trans (first : Advances record middle) (second : Advances middle last) :
    Advances record last := by
  cases first with
  | kept => exact second
  | committed state resultDigest resultSizeBytes committedAtMs =>
      cases second with
      | kept => exact .committed state resultDigest resultSizeBytes committedAtMs
      | committed again => cases again

end Advances

/-! ## Runs -/

section Runs

variable {directory : TaskDirectory} {outside : Outside} {format : RecordFormat}

/-- The key of the record that an action can write. -/
def RuntimeAction.writtenKey : RuntimeAction directory outside → Option String
  | prepareForClaim _ _ intent | commitEffect _ intent .. =>
      some intent.operation.idempotencyKey
  | _ => none

def creations (key : String) :
    Observation (RuntimeAction directory outside) RuntimeAction.Response → Nat
  | ⟨.prepareForClaim _ _ intent, .ok (.created _)⟩ =>
      if intent.operation.idempotencyKey = key then 1 else 0
  | _ => 0

/-- The record of a key stays, or advances, from one state to another. -/
def RecordKept (key : String) (before after : RuntimeFiles format) : Prop :=
  ∀ record, recordAt before.effects key = some record →
    ∃ newer, recordAt after.effects key = some newer ∧ Advances record newer

theorem RecordKept.refl (key : String) (state : RuntimeFiles format) :
    RecordKept key state state :=
  fun record present => ⟨record, present, .kept⟩

theorem RecordKept.trans
    (before : RecordKept key first second) (after : RecordKept key second third) :
    RecordKept key first third := by
  intro record present
  obtain ⟨middle, present, first⟩ := before record present
  obtain ⟨last, present, second⟩ := after middle present
  exact ⟨last, present, first.trans second⟩

theorem perform_effects {action : RuntimeAction directory outside} {response : action.Response}
    (performed : action.perform state environment = some (after, response))
    (readOnly : action.writtenKey = none) : after.effects = state.effects := by
  cases action with
  | store action =>
      simp only [RuntimeAction.perform, Option.map_eq_some_iff] at performed
      obtain ⟨result, -, same⟩ := performed
      cases same
      rfl
  | inspect | inspectForClaim =>
      simp only [RuntimeAction.perform, Option.map_eq_some_iff] at performed
      obtain ⟨result, -, same⟩ := performed
      cases same
      rfl
  | prepareForClaim | commitEffect => cases readOnly
  | ask request =>
      cases performed
      rfl

theorem perform_recordKept {action : RuntimeAction directory outside} {response : action.Response}
    (performed : action.perform state environment = some (after, response))
    (owned : ∀ other, action.writtenKey = some other →
      effectFileName other = effectFileName key → other = key) :
    RecordKept key state after := by
  intro record present
  cases action with
  | prepareForClaim ledger taskStore intent =>
      rcases prepareForClaim_cases performed with ⟨rfl, -⟩ | ⟨preparedAtMs, absent, -, rfl, -⟩
      · exact ⟨record, present, .kept⟩
      · refine ⟨record, ?_, .kept⟩
        rw [recordAt_writtenTo_other, present]
        intro shared
        have same := owned _ rfl shared
        rw [EffectLedgerRecord.key, EffectLedgerRecord.prepared, same, present] at absent
        cases absent
  | commitEffect ledger intent resultDigest resultSizeBytes committedAtMs =>
      rcases commit_cases performed with ⟨rfl, -⟩ | ⟨current, found, commits, result⟩
      · exact ⟨record, present, .kept⟩
      rcases result with ⟨rfl, -⟩ | ⟨prepared, valid, rfl, -⟩
      · exact ⟨record, present, .kept⟩
      · have named : current.key = intent.operation.idempotencyKey :=
          congrArg EffectOperationIdentity.idempotencyKey commits.operation
        by_cases shared : effectFileName current.key = effectFileName key
        · have same : intent.operation.idempotencyKey = key := owned _ rfl (named ▸ shared)
          rw [same, present] at found
          cases found
          refine ⟨_, ?_, .committed prepared resultDigest resultSizeBytes committedAtMs⟩
          rw [← same, ← named]
          exact recordAt_writtenTo valid
        · refine ⟨record, ?_, .kept⟩
          rw [recordAt_writtenTo_other, present]
          exact shared
  | _ => exact ⟨record, perform_effects performed rfl ▸ present, .kept⟩

theorem perform_created {taskStore : FileSystemTaskStateStore directory}
    (performed : (RuntimeAction.prepareForClaim ledger taskStore intent).perform state environment =
      some (after, .ok (.created record))) :
    recordAt state.effects intent.operation.idempotencyKey = none ∧
      recordAt after.effects intent.operation.idempotencyKey = some record ∧
      ∃ preparedAtMs, record = .prepared { intent with preparedAtMs } := by
  rcases prepareForClaim_cases performed with ⟨-, other⟩ | ⟨preparedAtMs, absent, valid, rfl, result⟩
  · exact absurd rfl (other record)
  · rcases result with ⟨error, failed⟩ | answered
    · cases failed
    · cases answered
      exact ⟨absent, recordAt_writtenTo valid, preparedAtMs, rfl⟩

theorem perform_creations {response : action.Response}
    (performed : action.perform state environment = some (after, response)) :
    creations key ⟨action, response⟩ = 0 ∨
      (creations key ⟨action, response⟩ = 1 ∧ recordAt state.effects key = none ∧
        recordAt after.effects key ≠ none) := by
  unfold creations
  split
  next ledger taskStore intent record same =>
      cases same
      obtain ⟨absent, present, -⟩ := perform_created performed
      split
      next own => exact .inr ⟨rfl, own ▸ absent, by rw [← own, present]; nofun⟩
      next => exact .inl rfl
  next => exact .inl rfl

variable {callers : Callers directory outside} {trace : List (runtime callers format).Event}
  {key : String}

/-- No call of the trace writes the file of the key for another key. -/
def OwnsFile (key : String) (trace : List (runtime callers format).Event) : Prop :=
  ∀ act, .act act ∈ trace → ∀ other, act.action.writtenKey = some other →
    effectFileName other = effectFileName key → other = key

theorem Run.recordKept
    (run : (runtime callers format).Run initial (later ++ earlier) configuration)
    (owned : OwnsFile key (later ++ earlier)) :
    RecordKept key (System.stateAfter initial earlier) configuration.state := by
  refine System.Run.segment (RecordKept key) (RecordKept.refl key) ?_ ?_ run
  · intro act member performed state kept
    exact kept.trans (perform_recordKept performed (owned act (List.mem_append_left _ member)))
  · exact fun past state kept => kept

theorem Run.total_creations_le (run : (runtime callers format).Run initial trace configuration)
    (owned : OwnsFile key trace) :
    System.total (creations key) trace ≤
      if recordAt configuration.state.effects key = none then 0 else 1 := by
  induction run with
  | start => exact Nat.zero_le _
  | spawn run thread label fresh induction =>
      exact induction fun act member => owned act (List.mem_cons_of_mem _ member)
  | crash run induction =>
      exact induction fun act member => owned act (List.mem_cons_of_mem _ member)
  | act run act scheduled current performed induction =>
      have before := induction fun act member => owned act (List.mem_cons_of_mem _ member)
      have kept := perform_recordKept performed (owned act List.mem_cons_self)
      rw [current] at before
      simp only [System.total, System.Act.observation]
      rcases perform_creations performed with none | ⟨one, absent, present⟩
      · rw [none]
        cases there : recordAt act.before.effects key with
        | none =>
            rw [if_pos there] at before
            omega
        | some record =>
            obtain ⟨newer, present, -⟩ := kept record there
            rw [if_neg (by rw [there]; nofun)] at before
            rw [if_neg (by rw [present]; nofun)]
            omega
      · rw [if_pos absent] at before
        rw [if_neg present, one]
        omega

theorem perform_committed
    (performed : (RuntimeAction.commitEffect ledger intent resultDigest resultSizeBytes
      committedAtMs).perform state environment = some (after, .ok record)) :
    ∃ current, recordAt state.effects intent.operation.idempotencyKey = some current ∧
      CommitsTo intent current ∧
      recordAt after.effects intent.operation.idempotencyKey = some record ∧
      ((current.state = .prepared ∧
          record = current.committedWith resultDigest resultSizeBytes committedAtMs) ∨
        (after = state ∧ record = current ∧ current.state = .committed ∧
          current.resultDigest = some resultDigest ∧
          current.resultSizeBytes = some resultSizeBytes)) := by
  rcases commit_cases performed with ⟨-, error, failed⟩ | ⟨current, found, commits, result⟩
  · cases failed
  refine ⟨current, found, commits, ?_⟩
  rcases result with ⟨rfl, answered, same⟩ | ⟨prepared, valid, rfl, ⟨error, failed⟩ | answered⟩
  · cases answered
    exact ⟨found, .inr ⟨rfl, rfl, same⟩⟩
  · cases failed
  · cases answered
    refine ⟨?_, .inl ⟨prepared, rfl⟩⟩
    have named : current.key = intent.operation.idempotencyKey :=
      congrArg EffectOperationIdentity.idempotencyKey commits.operation
    rw [← named]
    exact recordAt_writtenTo valid

end Runs

/-! ## Callers that prepare -/

namespace Sample

def silent : Outside where
  Request := Empty
  Answer := Empty.elim

@[reducible] def preparers : Callers durable silent where
  Label := EffectLedgerIntent
  Result := Except EvaError EffectPrepareOutcome
  program intent := .call (RuntimeAction.prepareForClaim ledger (owned 1) intent)

def calm : RuntimeEnvironment silent where
  store := quiet
  clock := .ok 0
  answer := Empty.rec

@[reducible] def creates (thread : Nat) (intent : EffectLedgerIntent)
    (before : RuntimeFiles .text) : (runtime preparers .text).Act where
  thread := thread
  label := intent
  environment := calm
  before := before
  after := { before with effects := (EffectLedgerRecord.prepared intent).writtenTo before.effects }
  action := .prepareForClaim ledger (owned 1) intent
  response := .ok (.created (.prepared intent))

theorem creations_creates (key : String) (thread : Nat) (intent : EffectLedgerIntent)
    (before : RuntimeFiles .text) :
    creations key (creates thread intent before).observation =
      if intent.operation.idempotencyKey = key then 1 else 0 := rfl

end Sample

/-! ## The protocol -/

section

variable {directory : TaskDirectory} {format : RecordFormat} {callers : Callers directory outside}
  {initial : RuntimeFiles format} {trace : List (runtime callers format).Event}
  {configuration : (runtime callers format).Configuration} {key : String}

theorem effect_ledger_protocol (run : (runtime callers format).Run initial trace configuration)
    (owned : OwnsFile key trace) :
    System.total (creations key) trace ≤ 1 ∧
    (∀ later earlier, trace = later ++ earlier →
      ∀ record, recordAt (System.stateAfter initial earlier).effects key = some record →
        ∃ newer, recordAt configuration.state.effects key = some newer ∧
          Advances record newer) ∧
    (∀ act, .act act ∈ trace → ∀ ledger taskStore intent record,
      act.observation = ⟨.prepareForClaim ledger taskStore intent, .ok (.created record)⟩ →
      intent.operation.idempotencyKey = key →
        recordAt act.before.effects key = none ∧ recordAt act.after.effects key = some record ∧
          ∃ preparedAtMs, record = .prepared { intent with preparedAtMs }) ∧
    (∀ act, .act act ∈ trace →
      ∀ ledger intent resultDigest resultSizeBytes committedAtMs record,
      act.observation = ⟨.commitEffect ledger intent resultDigest resultSizeBytes committedAtMs,
        .ok record⟩ →
      intent.operation.idempotencyKey = key →
        (∃ current, recordAt act.before.effects key = some current ∧ CommitsTo intent current ∧
          recordAt act.after.effects key = some record ∧
          ((current.state = .prepared ∧
              record = current.committedWith resultDigest resultSizeBytes committedAtMs) ∨
            (act.after = act.before ∧ record = current ∧ current.state = .committed ∧
              current.resultDigest = some resultDigest ∧
              current.resultSizeBytes = some resultSizeBytes))) ∧
        ∀ (other : FileSystemEffectLedger directory) writer records againAtMs,
          other.commitWriter intent resultDigest = .ok writer →
          configuration.state.tasks.pendingLatest = none →
          other.enterWrite configuration.state none writer = .ok records →
          other.commit configuration.state none intent resultDigest resultSizeBytes againAtMs =
            some (configuration.state, .ok record)) := by
  refine ⟨?_, ?_, ?_, ?_⟩
  · have created := Run.total_creations_le run owned
    split at created <;> omega
  · rintro later earlier rfl
    exact Run.recordKept run owned
  · rintro act member ledger taskStore intent record observed rfl
    obtain ⟨later, earlier, rfl⟩ := List.append_of_mem member
    obtain ⟨-, -, -, performed, -⟩ := run.act_cases
    obtain ⟨thread, label, environment, before, after, action, response⟩ := act
    cases observed
    exact perform_created performed
  · rintro act member ledger intent resultDigest resultSizeBytes committedAtMs record observed rfl
    obtain ⟨later, earlier, rfl⟩ := List.append_of_mem member
    obtain ⟨-, -, -, performed, -⟩ := run.act_cases
    obtain ⟨thread, label, environment, before, after, action, response⟩ := act
    cases observed
    obtain ⟨current, found, commits, present, result⟩ := perform_committed performed
    refine ⟨⟨current, found, commits, present, result⟩, ?_⟩
    intro other writer records againAtMs writable idle entered
    obtain ⟨newer, last, advances⟩ := Run.recordKept run owned record present
    rcases result with ⟨-, rfl⟩ | ⟨-, rfl, committed, digest, size⟩
    · cases advances with
      | kept => exact commit_repeated writable idle entered last ⟨commits.1, commits.2⟩ rfl rfl rfl
      | committed again => cases again
    · cases advances with
      | kept => exact commit_repeated writable idle entered last commits committed digest size
      | committed again => cases committed.symm.trans again

end

namespace Sample

/-- Callers that make one call each. -/
@[reducible] def workers : Callers durable silent where
  Label := RuntimeAction durable silent
  Result := Unit
  program action := .step action fun _ => .done ()

@[reducible] def does (thread : Nat) (action : RuntimeAction durable silent)
    (before after : RuntimeFiles .text) (response : action.Response) :
    (runtime workers .text).Act where
  thread
  label := action
  environment := calm
  before
  after
  action
  response

theorem isIdentifier_keyLeft : IsIdentifier "key-left" := by decide

abbrev prepareLeft : EffectLedgerIntent := intent isIdentifier_left isIdentifier_keyLeft

abbrev claimsLeft : TaskFiles .text := claims "key-left" "key-right"

def committedLeft : EffectLedgerRecord :=
  (EffectLedgerRecord.prepared prepareLeft).committedWith digest 2 5

theorem committedLeft_valid : committedLeft.Valid :=
  { EffectLedgerRecord.prepared_valid prepareLeft with
    result := .committed rfl rfl (by decide) rfl (by decide) rfl }

abbrev preparedFiles : RuntimeFiles .text :=
  ⟨claimsLeft, (EffectLedgerRecord.prepared prepareLeft).writtenTo []⟩

abbrev committedFiles : RuntimeFiles .text :=
  ⟨claimsLeft, committedLeft.writtenTo preparedFiles.effects⟩

theorem load_preparedFiles : loadEffectRecords ledger.root preparedFiles.effects none =
    .ok [("key-left", .prepared prepareLeft)] :=
  loadEffectRecords_single (EffectLedgerRecord.prepared_valid prepareLeft) (by simp)

theorem load_committedFiles : loadEffectRecords ledger.root committedFiles.effects none =
    .ok [("key-left", committedLeft)] :=
  loadEffectRecords_single committedLeft_valid
    (by simp [EffectLedgerRecord.writtenTo, committedLeft, EffectLedgerRecord.committedWith,
      EffectLedgerRecord.key])

theorem enterWrite_claimsLeft
    (loaded : loadEffectRecords ledger.root effects none = .ok records) :
    ledger.enterWrite ⟨claimsLeft, effects⟩ none (guard 1) = .ok records := by
  have current : (guard 1).enterWriteLock none durable.writerLayout ⟨1, some ⟨"", 1, 7⟩⟩ =
      .ok 1 := by decide
  exact bind_eq_ok_iff.mpr ⟨1, current, loaded⟩

theorem commitWriter_prepareLeft :
    ledger.commitWriter prepareLeft digest = .ok (guard 1) := by decide

theorem prepareForClaim_claimsLeft :
    ledger.prepareForClaim ⟨claimsLeft, []⟩ none (.ok 0) (owned 1) prepareLeft =
      some (preparedFiles, .ok (.created (.prepared prepareLeft))) :=
  prepareForClaim_claims rfl rfl isIdentifier_left isIdentifier_keyLeft rfl

theorem prepareForClaim_preparedFiles :
    ledger.prepareForClaim preparedFiles none (.ok 0) (owned 1) prepareLeft =
      some (preparedFiles, .ok (.prepared (.prepared prepareLeft))) := by
  have shared : ledger.claimWriter (owned 1) = .ok (guard 1) := by decide
  have entered : ledger.enterClaim preparedFiles none (.ok 0) (guard 1) prepareLeft =
      .ok (0, [("key-left", .prepared prepareLeft)]) :=
    enterClaim_claims load_preparedFiles isIdentifier_left isIdentifier_keyLeft rfl
  unfold FileSystemEffectLedger.prepareForClaim
  simp only [shared, entered]
  rfl

theorem commitEffect_preparedFiles :
    RuntimeAction.perform preparedFiles (.commitEffect ledger prepareLeft digest 2 5) calm =
      some (committedFiles, .ok committedLeft) := by
  unfold RuntimeAction.perform
  exact commit_prepared commitWriter_prepareLeft rfl (enterWrite_claimsLeft load_preparedFiles)
    (recordAt_writtenTo (EffectLedgerRecord.prepared_valid prepareLeft))
    ⟨rfl, rfl, rfl, rfl, rfl⟩ rfl committedLeft_valid

end Sample

/-- A key is prepared twice and committed, and a repeated commit returns the record. -/
theorem effect_ledger_protocol_sample :
    ∃ trace configuration,
      (runtime Sample.workers .text).Run ⟨Sample.claimsLeft, []⟩ trace configuration ∧
      OwnsFile "key-left" trace ∧ System.total (creations "key-left") trace ≤ 1 ∧
      System.total (creations "key-left") trace = 1 ∧
      (∃ newer, recordAt configuration.state.effects "key-left" = some newer ∧
        Advances (.prepared Sample.prepareLeft) newer) ∧
      Sample.ledger.commit configuration.state none Sample.prepareLeft Sample.digest 2 9 =
        some (configuration.state, .ok Sample.committedLeft) := by
  let prepare : RuntimeAction Sample.durable Sample.silent :=
    .prepareForClaim Sample.ledger (Sample.owned 1) Sample.prepareLeft
  let record := EffectLedgerRecord.prepared Sample.prepareLeft
  let first := Sample.does 0 prepare ⟨Sample.claimsLeft, []⟩ Sample.preparedFiles
    (.ok (.created record))
  let second := Sample.does 1 prepare Sample.preparedFiles Sample.preparedFiles
    (.ok (.prepared record))
  let third := Sample.does 2 (.commitEffect Sample.ledger Sample.prepareLeft Sample.digest 2 5)
    Sample.preparedFiles Sample.committedFiles (.ok Sample.committedLeft)
  have started : (runtime Sample.workers .text).Run ⟨Sample.claimsLeft, []⟩ []
    ⟨⟨Sample.claimsLeft, []⟩, fun _ => none⟩ := .start
  obtain ⟨afterFirst, run, current⟩ := started.first_act first (by simp) rfl rfl
    Sample.prepareForClaim_claimsLeft
  obtain ⟨afterSecond, run, current⟩ := run.first_act second (by simp [System.Event.thread]) rfl
    current Sample.prepareForClaim_preparedFiles
  obtain ⟨afterThird, run, current⟩ := run.first_act third
    (by simp [System.Event.thread, first, second, third]) rfl current
    (by dsimp only [third]; exact Sample.commitEffect_preparedFiles)
  have owned : OwnsFile "key-left" [.act third, .spawn third.thread third.label, .act second,
      .spawn second.thread second.label, .act first, .spawn first.thread first.label] := by
    intro performed member other written _
    simp only [List.mem_cons, System.Event.act.injEq, reduceCtorEq, List.not_mem_nil, false_or,
      or_false] at member
    rcases member with rfl | rfl | rfl <;> exact (Option.some.inj written).symm
  obtain ⟨once, kept, -, commits⟩ := effect_ledger_protocol run owned
  refine ⟨_, afterThird, run, owned, once, rfl, ?_, ?_⟩
  · exact kept [.act third, .spawn third.thread third.label, .act second,
      .spawn second.thread second.label] [.act first, .spawn first.thread first.label] rfl record
      (recordAt_writtenTo (EffectLedgerRecord.prepared_valid Sample.prepareLeft))
  · refine (commits third (by simp) Sample.ledger Sample.prepareLeft Sample.digest 2 5
      Sample.committedLeft rfl rfl).2 Sample.ledger _ [("key-left", Sample.committedLeft)] 9
      Sample.commitWriter_prepareLeft ?_ ?_
    · rw [current]
      rfl
    · rw [current]
      exact Sample.enterWrite_claimsLeft Sample.load_committedFiles

/-- The record of a key whose file is taken by another key is created again. -/
theorem effect_created_twice :
    ∃ key initial trace configuration,
      (runtime Sample.preparers .text).Run initial trace configuration ∧
      System.total (creations key) trace = 2 := by
  obtain ⟨left, right, keyedLeft, keyedRight, different, shared⟩ := exists_shared_effectFileName
  let initial : RuntimeFiles .text := ⟨Sample.claims left right, []⟩
  let prepareLeft := Sample.intent Sample.isIdentifier_left keyedLeft
  let prepareRight := Sample.intent Sample.isIdentifier_right keyedRight
  let first := Sample.creates 0 prepareLeft initial
  let second := Sample.creates 1 prepareRight first.after
  let third := Sample.creates 2 prepareLeft second.after
  have loadedLeft : loadEffectRecords Sample.ledger.root first.after.effects none =
      .ok [(left, .prepared prepareLeft)] :=
    loadEffectRecords_single (EffectLedgerRecord.prepared_valid prepareLeft) (by simp [initial])
  -- The second record takes the place of the first one.
  have loadedRight : loadEffectRecords Sample.ledger.root second.after.effects none =
      .ok [(right, .prepared prepareRight)] := by
    refine loadEffectRecords_single (EffectLedgerRecord.prepared_valid prepareRight) ?_
    intro file member
    rcases List.mem_cons.mp member with rfl | nothing
    · exact shared
    · cases nothing
  have started : (runtime Sample.preparers .text).Run initial [] ⟨initial, fun _ => none⟩ := .start
  obtain ⟨afterFirst, run, current⟩ := started.first_act first (by simp) rfl rfl
    (Sample.prepareForClaim_claims rfl rfl Sample.isIdentifier_left keyedLeft rfl)
  obtain ⟨afterSecond, run, current⟩ := run.first_act second
    (by simp [System.Event.thread]) rfl current
    (Sample.prepareForClaim_claims loadedLeft (by simp [different.symm])
      Sample.isIdentifier_right keyedRight rfl)
  obtain ⟨afterThird, run, -⟩ := run.first_act third
    (by simp [System.Event.thread, first, second, third]) rfl current
    (Sample.prepareForClaim_claims loadedRight (by simp [different])
      Sample.isIdentifier_left keyedLeft rfl)
  refine ⟨left, initial, _, afterThird, run, ?_⟩
  have own : prepareLeft.operation.idempotencyKey = left := rfl
  have other : prepareRight.operation.idempotencyKey ≠ left := different.symm
  simp only [System.total, first, second, third, Sample.creations_creates, own, other, if_true,
    if_false]

end Eva.Storage
