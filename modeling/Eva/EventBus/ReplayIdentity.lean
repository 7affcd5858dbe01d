import Eva.EventBus.Bus

/-! # Replay identities

The id of a replay is made of the id of its dead letter and of the number of times
it was redriven. The count is raised in the file before the replay exists, so no
two replays share an id, whatever fails or is lost after that.
-/

namespace Eva.EventBus

open Eva.Storage RecordFiles

theorem replayIdText_injective (same : replayIdText left first = replayIdText right second) :
    left = right ∧ first = second := by
  have texts := congrArg String.toList same
  simp only [replayIdText, Unsigned.text, String.toList_append, String.toList_ofList] at texts
  have split : ∀ (stem : List Char) (number : List Char),
      stem ++ ":replay-".toList ++ number = (stem ++ ":replay".toList) ++ '-' :: number := by
    simp
  rw [split, split] at texts
  obtain ⟨stems, numbers⟩ := Text.append_formatUnsigned_inj (by decide) texts
  rw [List.append_cancel_right_eq] at stems
  exact ⟨Identifier.eq_of_text (String.toList_inj.mp stems), numbers⟩

/-! ## Stored counts -/

/-- How often the dead letter of an event was redriven, as its file says. -/
def storedCount (files : Files) (eventId : EventId) : Option U64 :=
  match files.lookup (deadLetterFileName eventId) with
  | none => none
  | some content =>
      match deadLetterFromStorage content with
      | .ok record => some record.replayCount
      | .error _ => none

theorem withPath_eq_ok_iff : withPath path result = .ok value ↔ result = .ok value := by
  unfold withPath
  split <;> simp

theorem storedCount_write (files : Files) (record : DeadLetterRecord) :
    storedCount ((deadLetterFileName record.eventId, deadLetterToStorage record) :: files) =
      Function.update (storedCount files) record.eventId (some record.replayCount) := by
  funext eventId
  by_cases same : eventId = record.eventId
  · subst same
    rw [Function.update_self, storedCount, List.lookup_cons_self]
    simp only [deadLetterFromStorage_deadLetterToStorage]
    rfl
  · have otherFile : deadLetterFileName eventId ≠ deadLetterFileName record.eventId :=
      fun equal => same (deadLetterFileName_injective equal)
    rw [Function.update_of_ne same, storedCount, List.lookup_cons, beq_false_of_ne otherFile]
    rfl

section Represented

variable (represents : (deadLetterScheme root).Represents files records)
include represents

theorem storedCount_of_mem (member : record ∈ records) :
    storedCount files record.eventId = some record.replayCount := by
  obtain ⟨content, found, parsed⟩ := represents.held record member
  have read := withPath_eq_ok_iff.mp parsed
  have file : files.lookup (deadLetterFileName record.eventId) = some content := found
  simp only [storedCount, file, read]

theorem storedCount_eq_none (absent : ∀ record ∈ records, record.eventId ≠ eventId) :
    storedCount files eventId = none := by
  have noFile : files.lookup (deadLetterFileName eventId) = none := by
    by_contra present
    obtain ⟨record, member, named⟩ := represents.only _
      ((deadLetterScheme_lawful root).selected eventId) present
    exact absent record member (deadLetterFileName_injective named).symm
  simp only [storedCount, noFile]

end Represented

/-! ## One transaction -/

def DeadLetterOperation.replay : (operation : DeadLetterOperation) →
    Fallible EvaError operation.Value → Option EventId
  | .redrive .., .ok event => some event.eventId
  | _, _ => none

abbrev Counts := EventId → Option U64

/-- What an operation does to the counts, and the replay it hands out. -/
inductive Counted (before : Counts) : DeadLetterOperation → Counts → Option EventId → Prop where
  | kept {operation} : Counted before operation before none
  | pushed {event reason replayHandlers policy} (new : before event.eventId = none) :
      Counted before (.push event reason replayHandlers policy)
        (Function.update before event.eventId (some 0)) none
  | redriven {eventId next count raised replay} (stored : before eventId = some count)
      (raises : raised.value = count.value + 1)
      (named : ∀ replayId ∈ replay, replayId.text = replayIdText eventId raised) :
      Counted before (.redrive eventId next) (Function.update before eventId (some raised)) replay

section Counted

variable {state : DeadLetterState}

theorem replay_error (operation : DeadLetterOperation) (failure : Failure EvaError) :
    operation.replay (.error failure) = none := by
  cases operation <;> rfl

theorem settle_counts {operation : DeadLetterOperation} {step : Step operation.Value}
    (persisted : step.persist = some record) :
    let outcome := settle root environment state view step
    (storedCount outcome.state.files = storedCount state.files ∧
      operation.replay outcome.result = none) ∨
    storedCount outcome.state.files =
      Function.update (storedCount state.files) record.eventId (some record.replayCount) := by
  rcases settle_cases persisted with ⟨files, failure, failed⟩ | files
  · exact .inl ⟨congrArg storedCount files, by rw [failed, replay_error]⟩
  · exact .inr (by rw [files, storedCount_write])

variable (represents : (deadLetterScheme root).Represents state.files records)
include represents

theorem perform_represents (operation : DeadLetterOperation) :
    ∃ after, (deadLetterScheme root).Represents
      (operation.perform root environment state view).state.files after := by
  rcases operation.perform_cases root environment state view with
    ⟨failure, failed⟩ | ⟨loaded, step, -, -, settled⟩
  · rw [failed, DeadLetterState.failed_files]
    exact ⟨records, represents⟩
  · rw [settled]
    cases persisted : step.persist with
    | none =>
        rw [settle_files, persisted]
        exact ⟨records, represents⟩
    | some record =>
        rcases settle_cases persisted with ⟨files, -⟩ | files
        · rw [files]
          exact ⟨records, represents⟩
        · rw [files]
          exact ⟨_, represents.write (deadLetterScheme_lawful root) trivial⟩

theorem perform_counted (operation : DeadLetterOperation) :
    let outcome := operation.perform root environment state view
    Counted (storedCount state.files) operation (storedCount outcome.state.files)
      (operation.replay outcome.result) := by
  intro outcome
  have performed : outcome = operation.perform root environment state view := rfl
  rcases operation.perform_cases root environment state view with
    ⟨failure, failed⟩ | ⟨loaded, step, read, stepped, settled⟩
  · rw [performed, failed, replay_error, DeadLetterState.failed_files]
    exact .kept
  · have loadedCount {record : DeadLetterRecord} (member : record ∈ loaded) :=
      storedCount_of_mem represents
        ((perm_of_loadRecords represents read).mem_iff.mp member)
    rw [performed, settled]
    cases operation with
    | push event reason replayHandlers policy =>
        obtain ⟨absent, made, persisted, -⟩ := push_eq_ok stepped
        have new : storedCount state.files event.eventId = none := by
          refine storedCount_eq_none represents fun record member => ?_
          exact absent record ((perm_of_loadRecords represents read).mem_iff.mpr member)
        obtain ⟨held, -, zero, -⟩ := DeadLetterRecord.withReplayHandlersAndRedrive_eq_ok made
        rcases settle_counts persisted with ⟨counts, replay⟩ | counts
        · rw [counts, replay]
          exact .kept
        · have silent (result : Fallible EvaError DeadLetterRecord) :
              (DeadLetterOperation.push event reason replayHandlers policy).replay result = none :=
            rfl
          rw [counts, silent, zero, DeadLetterRecord.eventId, held]
          exact .pushed new
    | setRedrivePolicy eventId policy =>
        obtain ⟨found, member, -, value, persisted, -⟩ := setRedrivePolicy_eq_ok stepped
        have silent (result : Fallible EvaError DeadLetterRecord) :
            (DeadLetterOperation.setRedrivePolicy eventId policy).replay result = none := rfl
        have unchanged : Function.update (storedCount state.files) step.value.eventId
            (some step.value.replayCount) = storedCount state.files := by
          rw [value]
          exact (loadedCount member) ▸ Function.update_eq_self _ _
        rcases settle_counts persisted with ⟨counts, -⟩ | counts
        · rw [counts, silent]
          exact .kept
        · rw [counts, silent, unchanged]
          exact .kept
    | redrive eventId next =>
        obtain ⟨found, member, same, count, raised, made, persisted, -⟩ :=
          redriveForPublishWithNext_eq_ok stepped
        have stored := loadedCount member
        rw [same] at stored
        rcases settle_counts persisted with ⟨counts, replay⟩ | counts
        · rw [counts, replay]
          exact .kept
        · rw [counts]
          have own : (found.redriven count next).eventId = eventId := same
          rw [own]
          refine .redriven stored raised fun replayId handed => ?_
          have named := replayEventForPublish_eventId made
          rw [own] at named
          cases ended : (settle root environment state view step).result with
          | error failure =>
              rw [ended] at handed
              cases handed
          | ok event =>
              rw [ended] at handed
              obtain ⟨rfl, -⟩ := settle_ok ended
              cases handed
              exact named
    | eventIds | refresh =>
        cases stepped
        exact .kept

end Counted

/-! ## Whole runs -/

def BusAction.replay : (action : BusAction) → action.Response → Option EventId
  | .deadLetters _ operation, (_, result) => operation.replay result
  | _, _ => none

def BusState.counts (state : BusState) : Counts := storedCount state.deadLetters.files

section Runs

variable {eventDir : String} {callers : BusCallers} {initial : BusState}
  {trace : List (eventBus eventDir callers).Event}
  {configuration : (eventBus eventDir callers).Configuration}

/-- The replays that a trace has handed out, newest first. -/
def replays (trace : List (eventBus eventDir callers).Event) : List EventId :=
  trace.filterMap fun
    | .act act => act.action.replay act.response
    | _ => none

/-- An action on the dead letters does to the counts what its operation does; the
other actions leave them. -/
def BusAction.ChangesCounts (before after : Counts) (action : BusAction)
    (replay : Option EventId) : Prop :=
  match action with
  | .deadLetters _ operation => Counted before operation after replay
  | _ => after = before ∧ replay = none

def Counts.Grows (before after : Counts) : Prop :=
  ∀ eventId count, before eventId = some count → ∃ next, after eventId = some next ∧ count ≤ next

theorem Counts.Grows.refl (counts : Counts) : counts.Grows counts :=
  fun _ count stored => ⟨count, stored, Nat.le_refl _⟩

theorem Counts.Grows.trans {first second third : Counts} (early : first.Grows second)
    (late : second.Grows third) : first.Grows third := by
  intro eventId count stored
  obtain ⟨middle, found, lower⟩ := early eventId count stored
  obtain ⟨last, final, upper⟩ := late eventId middle found
  exact ⟨last, final, Nat.le_trans lower upper⟩

theorem Counted.grows (counted : Counted before operation after replay) :
    before.Grows after := by
  intro other count stored
  cases counted with
  | kept => exact ⟨count, stored, Nat.le_refl _⟩
  | @pushed event _ _ _ new =>
      have different : other ≠ event.eventId := by
        rintro rfl
        rw [new] at stored
        cases stored
      exact ⟨count, by rw [Function.update_of_ne different, stored], Nat.le_refl _⟩
  | @redriven eventId _ old raised _ found raises named =>
      by_cases same : other = eventId
      · subst same
        rw [found] at stored
        cases stored
        exact ⟨raised, Function.update_self .., by rw [Unsigned.le_iff]; omega⟩
      · exact ⟨count, by rw [Function.update_of_ne same, stored], Nat.le_refl _⟩

theorem BusAction.ChangesCounts.grows {action : BusAction}
    {replay : Option EventId} (counted : action.ChangesCounts before after replay) :
    before.Grows after := by
  cases action with
  | deadLetters view operation => exact Counted.grows counted
  | _ => exact counted.1 ▸ .refl _

/-- Every replay of the past has a number that its dead letter has reached. -/
def Covers (counts : Counts) (replayId : EventId) : Prop :=
  ∃ eventId number count, replayId.text = replayIdText eventId number ∧
    counts eventId = some count ∧ number ≤ count

theorem Covers.mono (grows : before.Grows after)
    (covers : Covers before replayId) : Covers after replayId := by
  obtain ⟨eventId, number, count, named, stored, reached⟩ := covers
  obtain ⟨next, found, larger⟩ := grows eventId count stored
  exact ⟨eventId, number, next, named, found, Nat.le_trans reached larger⟩

/-- A new replay has a number that was not reached before. -/
theorem Counted.fresh (counted : Counted before operation after replay)
    (handed : replayId ∈ replay) :
    Covers after replayId ∧ ¬Covers before replayId := by
  cases counted with
  | kept | pushed => cases handed
  | @redriven eventId _ count raised _ found raises named =>
      have name := named replayId handed
      refine ⟨⟨eventId, raised, raised, name, Function.update_self .., Nat.le_refl _⟩, ?_⟩
      rintro ⟨other, number, reached, otherName, stored, lower⟩
      obtain ⟨rfl, rfl⟩ := replayIdText_injective (name.symm.trans otherName)
      rw [found] at stored
      cases stored
      rw [Unsigned.le_iff] at lower
      omega

structure ReplayIdentities (initial : BusState)
    (trace : List (eventBus eventDir callers).Event) : Prop where
  /-- Between any two moments. -/
  increasing : ∀ latest later earlier, trace = latest ++ later ++ earlier →
    (System.stateAfter initial earlier).counts.Grows
      (System.stateAfter initial (later ++ earlier)).counts
  counted : ∀ act, .act act ∈ trace → act.action.ChangesCounts act.before.counts
    act.after.counts (act.action.replay act.response)
  distinct : (replays trace).Nodup

/-! ## The invariant -/

theorem BusAction.perform_changesCounts
    (represents : (deadLetterScheme (recordPath eventDir deadLetterDir)).Represents
      state.deadLetters.files records)
    (action : BusAction) (environment : BusEnvironment) :
    let outcome := action.perform eventDir state environment
    action.ChangesCounts state.counts outcome.1.counts (action.replay outcome.2) := by
  cases action with
  | deadLetters view operation => exact perform_counted represents operation
  | _ => exact ⟨rfl, rfl⟩

theorem BusAction.perform_represents
    (represents : (deadLetterScheme (recordPath eventDir deadLetterDir)).Represents
      state.deadLetters.files records)
    (action : BusAction) (environment : BusEnvironment) :
    ∃ after, (deadLetterScheme (recordPath eventDir deadLetterDir)).Represents
      (action.perform eventDir state environment).1.deadLetters.files after := by
  cases action with
  | deadLetters view operation => exact EventBus.perform_represents represents operation
  | _ => exact ⟨records, represents⟩

structure IdentityInvariant (trace : List (eventBus eventDir callers).Event)
    (state : BusState) : Prop where
  represented : ∃ records, (deadLetterScheme (recordPath eventDir deadLetterDir)).Represents
    state.deadLetters.files records
  counted : ∀ act, .act act ∈ trace → act.action.ChangesCounts act.before.counts
    act.after.counts (act.action.replay act.response)
  covered : ∀ replayId ∈ replays trace, Covers state.counts replayId
  distinct : (replays trace).Nodup

theorem replays_act (act : (eventBus eventDir callers).Act) :
    replays (.act act :: trace) =
      (act.action.replay act.response).toList ++ replays trace := by
  cases handed : act.action.replay act.response <;>
    simp [replays, handed]

theorem replays_spawn (thread : Nat) (label : callers.Label) :
    replays (.spawn thread label :: trace) = replays trace := rfl

theorem BusAction.ChangesCounts.fresh {action : BusAction}
    {replay : Option EventId} (changes : action.ChangesCounts before after replay)
    (handed : replayId ∈ replay) :
    Covers after replayId ∧ ¬Covers before replayId := by
  cases action with
  | deadLetters view operation => exact Counted.fresh changes handed
  | _ =>
      rw [changes.2] at handed
      cases handed

theorem IdentityInvariant.act {act : (eventBus eventDir callers).Act}
    (invariant : IdentityInvariant trace act.before)
    (performed : act.action.perform eventDir act.before act.environment =
      (act.after, act.response)) :
    IdentityInvariant (.act act :: trace) act.after := by
  obtain ⟨records, represents⟩ := invariant.represented
  have changes := act.action.perform_changesCounts represents act.environment
  have represented := act.action.perform_represents represents act.environment
  simp only [performed] at changes represented
  refine ⟨represented, ?_, ?_, ?_⟩
  · intro other member
    rcases List.mem_cons.mp member with equal | member
    · cases equal
      exact changes
    · exact invariant.counted other member
  · intro replayId member
    rw [replays_act, List.mem_append, Option.mem_toList] at member
    rcases member with handed | old
    · exact (changes.fresh handed).1
    · exact (invariant.covered replayId old).mono changes.grows
  · rw [replays_act]
    cases handed : act.action.replay act.response with
    | none => exact invariant.distinct
    | some replayId =>
        rw [handed] at changes
        refine List.nodup_cons.mpr ⟨fun old => ?_, invariant.distinct⟩
        exact (changes.fresh rfl).2 (invariant.covered replayId old)

theorem IdentityInvariant.of_run
    (represents : (deadLetterScheme (recordPath eventDir deadLetterDir)).Represents
      initial.deadLetters.files records)
    (run : (eventBus eventDir callers).Run initial trace configuration) :
    IdentityInvariant trace configuration.state := by
  refine run.invariant IdentityInvariant ?_ ?_ ?_ ?_
  · exact ⟨⟨records, represents⟩, by simp, by simp [replays], .nil⟩
  · intro trace state thread label invariant
    exact ⟨invariant.represented, by simpa using invariant.counted, invariant.covered,
      invariant.distinct⟩
  · intro trace act invariant performed _
    exact invariant.act (Option.some.inj performed)
  · intro trace state invariant
    exact ⟨invariant.represented, by simpa using invariant.counted, invariant.covered,
      invariant.distinct⟩

theorem replay_identities_are_fresh {records : List DeadLetterRecord}
    (represents : (deadLetterScheme (recordPath eventDir deadLetterDir)).Represents
      initial.deadLetters.files records)
    (run : (eventBus eventDir callers).Run initial trace configuration) :
    ReplayIdentities initial trace := by
  have invariant := IdentityInvariant.of_run represents run
  refine ⟨?_, invariant.counted, invariant.distinct⟩
  intro latest later earlier split
  rw [split, List.append_assoc] at run
  obtain ⟨middle, segment⟩ := run.before
  rw [← segment.state_eq]
  refine segment.segment (fun before after : BusState => before.counts.Grows after.counts)
    (fun _ => .refl _) ?_ (fun _ _ grows => grows)
  intro act member _ state grows
  refine grows.trans (invariant.counted act ?_).grows
  rw [split]
  exact List.mem_append_left _ (List.mem_append_right _ member)

end Runs

namespace Sample

def environment : BusEnvironment where
  log := { lockError := none, fault := none, listing := namesInOrder, write := .written }
  deadLetters :=
    { writerError := none, fault := none, listing := namesInOrder, write := .written
      now := .epoch }

def reason : EvaError := .timeout "agent timed out"

def callers : BusCallers where
  Label := BusAction
  Result := Unit
  program action := .step action fun _ => .done ()

abbrev system : System callers.interface := eventBus "/state/events" callers

def empty : BusState where
  log := []
  deadLetters := { files := [], poisoned := false }

def act (thread : Nat) (state : BusState) (action : BusAction) : system.Act where
  thread
  label := action
  environment
  before := state
  after := (action.perform "/state/events" state environment).1
  action
  response := (action.perform "/state/events" state environment).2

def pushed : system.Act :=
  act 0 empty (.deadLetters [] (.push exampleEvent reason [] .default))

def redrives (thread : Nat) (state : BusState) : system.Act :=
  act thread state (.deadLetters [] (.redrive exampleEventId .afterDelay))

def first : system.Act := redrives 1 pushed.after

def second : system.Act := redrives 2 first.after

def trace : List system.Event :=
  [.act second, .spawn 2 second.label, .act first, .spawn 1 first.label, .act pushed,
    .spawn 0 pushed.label]

theorem run : ∃ configuration, system.Run empty trace configuration := by
  obtain ⟨_, run, state⟩ :=
    (System.Run.start : system.Run empty [] _).first_act pushed (by simp) rfl rfl rfl
  obtain ⟨_, run, state⟩ :=
    run.first_act first (by simp [System.Event.thread, first, redrives, pushed, act]) rfl state rfl
  obtain ⟨last, run, -⟩ := run.first_act second
    (by simp [System.Event.thread, second, first, redrives, pushed, act]) rfl state rfl
  exact ⟨last, run⟩

def deadLetter : DeadLetterRecord := exampleDeadLetter reason

abbrev root : String := recordPath "/state/events" deadLetterDir

/-- The dead letters are the one record. -/
def Keeps (state : BusState) (record : DeadLetterRecord) : Prop :=
  state.deadLetters.poisoned = false ∧
    (deadLetterScheme root).Represents state.deadLetters.files [record]

theorem keeps_pushed : Keeps pushed.after deadLetter.stored := by
  have stepped : (DeadLetterOperation.push exampleEvent reason [] .default).step .epoch
      (sortRecords []) =
        .ok { value := deadLetter, persist := some deadLetter, records := [deadLetter] } := rfl
  have performed := congrArg Outcome.state (@DeadLetterOperation.perform_of_represents root
    environment.deadLetters empty.deadLetters [] [] .nil rfl rfl rfl _ _ stepped)
  refine ⟨congrArg DeadLetterState.poisoned performed, ?_⟩
  rw [show pushed.after.deadLetters = _ from performed]
  exact Scheme.Represents.nil.write (deadLetterScheme_lawful root) trivial

/-- A redrive of the only dead letter counts it and hands out the identity of the count. -/
theorem redrives_single (keeps : Keeps state record) (own : record.eventId = exampleEventId)
    (raised : count.value = record.replayCount.value + 1)
    (named : replayId.text = replayIdText exampleEventId count) :
    (redrives thread state).action.replay (redrives thread state).response = some replayId ∧
      Keeps (redrives thread state).after (record.redriven count .afterDelay).stored := by
  obtain ⟨sound, represents⟩ := keeps
  have found : (sortRecords [record]).find? (fun other => other.eventId = exampleEventId) =
      some record := by simp [sortRecords, own]
  obtain ⟨event, made, handed⟩ := @replayEventForPublish_of_name .epoch
    (record.redriven count .afterDelay) replayId (own ▸ named)
  have performed := @DeadLetterOperation.perform_of_represents root environment.deadLetters
    state.deadLetters [] _ represents sound rfl rfl (.redrive exampleEventId .afterDelay) _
    (redriveForPublishWithNext_of_find found raised made)
  have written : (deadLetterScheme root).Represents
      (redrives thread state).after.deadLetters.files
      ((record.redriven count .afterDelay).stored ::
        [record].filter fun other => other.eventId ≠ record.eventId) := by
    rw [show (redrives thread state).after.deadLetters.files = _ from
      congrArg (·.state.files) performed]
    exact represents.write (deadLetterScheme_lawful root) trivial
  refine ⟨?_, ?_, by simpa using written⟩
  · rw [← handed]
    exact congrArg (fun outcome => DeadLetterOperation.replay
      (.redrive exampleEventId .afterDelay) outcome.result) performed
  · exact (congrArg (·.state.poisoned) performed).trans sound

def replayId : EventId where
  text := "evt-1:replay-1"
  valid := by decide

def secondReplayId : EventId where
  text := "evt-1:replay-2"
  valid := by decide

theorem replays_trace : replays trace = [secondReplayId, replayId] := by
  obtain ⟨handed, keeps⟩ := @redrives_single _ _ 1 1 replayId keeps_pushed rfl (by decide)
    (by decide +kernel)
  obtain ⟨handedAgain, -⟩ := @redrives_single _ _ 2 2 secondReplayId keeps rfl (by decide)
    (by decide +kernel)
  have silent : pushed.action.replay pushed.response = none := rfl
  rw [trace, replays_act, replays_spawn, replays_act, replays_spawn, replays_act, replays_spawn,
    silent, show first.action.replay first.response = _ from handed,
    show second.action.replay second.response = _ from handedAgain]
  rfl

end Sample

/-- A dead letter is kept and redriven twice. -/
theorem replay_identities_are_fresh_evt1 :
    replays Sample.trace = [Sample.secondReplayId, Sample.replayId] ∧
      ReplayIdentities Sample.empty Sample.trace := by
  obtain ⟨configuration, run⟩ := Sample.run
  exact ⟨Sample.replays_trace, replay_identities_are_fresh .nil run⟩

end Eva.EventBus
