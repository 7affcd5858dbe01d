import Eva.Storage.Provider.AdmissionCalls

/-! # Calls after a crash

A call that is stopped leaves a table that can be read. It also leaves its lock file
if it has created it, and no later call removes that.
-/

namespace Eva.Storage

open Program

section Stopped

variable {files : AdmissionFiles} {adapterId : AdapterId} {state : ProviderAdmissionSnapshot}

/-- The files as far as the table goes. -/
def AdmissionFiles.Readable (adapterId : AdapterId) (files : AdmissionFiles) : Prop :=
  ∃ state, files.Shows adapterId state

theorem AdmissionFiles.Readable.of_table (readable : AdmissionFiles.Readable adapterId files)
    (same : after.table = files.table) : AdmissionFiles.Readable adapterId after := by
  obtain ⟨state, shows⟩ := readable
  exact ⟨state, shows.of_table same⟩

theorem perform_table {action : AdmissionAction}
    {response : action.Response} (other : action ≠ .renameTemp)
    (performed : action.perform files fault = some (after, response)) :
    after.table = files.table := by
  cases action with
  | renameTemp => exact absurd rfl other
  | createLock =>
      cases fault with
      | some fault =>
          cases performed
          rfl
      | none =>
          simp only [AdmissionAction.perform] at performed
          split at performed <;> cases performed <;> rfl
  | _ => cases fault <;> cases performed <;> rfl

theorem reaches_table {program rest : AdmissionProgram Result}
    (silent : ∀ past, ¬program.Emits past .renameTemp)
    (reaches : Reaches AdmissionAction.perform files program after rest) :
    after.table = files.table := by
  refine reaches.keeps (fun before after : AdmissionFiles => after.table = before.table)
    (fun _ => rfl) (fun _ _ _ first second => second.trans first) ?_
  intro past action fault before middle response emits performed
  exact perform_table (fun same => silent past (same ▸ emits)) performed

theorem reaches_ioStep (reaches : Reaches AdmissionAction.perform files
      (AdmissionTable.ioStep action answer message) after rest) :
    (after = files ∧ ∀ result, rest ≠ .done result) ∨
      ∃ fault response, action.perform files fault = some (after, response) ∧
        rest = .done ((answer response).mapError fun ioError =>
          (EvaError.internal message).withContext "error" ioError) := by
  rcases reaches.step_cases with ⟨rfl, rfl⟩ | ⟨fault, middle, response, performed, tail⟩
  · exact .inl ⟨rfl, fun _ => step_ne_done⟩
  · obtain ⟨rfl, rfl⟩ := Reaches.done tail
    exact .inr ⟨fault, response, performed, rfl⟩

theorem reaches_ioStep_table (other : action ≠ .renameTemp)
    (reaches : Reaches AdmissionAction.perform files
      (AdmissionTable.ioStep action answer message) after rest) :
    after.table = files.table := by
  rcases reaches_ioStep reaches with ⟨rfl, -⟩ | ⟨fault, response, performed, -⟩
  · rfl
  · exact perform_table other performed

theorem temp_of_writeTemp (reaches : Reaches AdmissionAction.perform files
      (AdmissionTable.ioStep (.writeTemp text) id message) after (.done (.ok ()))) :
    after.temp = some text := by
  rcases reaches_ioStep reaches with ⟨-, running⟩ | ⟨fault, response, performed, ended⟩
  · exact absurd rfl (running _)
  · cases fault with
    | none =>
        cases performed
        rfl
    | some fault =>
        cases performed
        cases ended

theorem reaches_write
    (reaches : Reaches AdmissionAction.perform files (AdmissionTable.write next) after rest) :
    after.table = files.table ∨ after.table = some (Admission.encode next) := by
  rcases reaches.andThen_cases with ⟨_, first⟩ | ⟨created, _, first, later⟩
  · exact .inl (reaches_ioStep_table (by simp) first)
  · have unchanged := reaches_ioStep_table (by simp) first
    rcases later.andThen_cases with ⟨_, second⟩ | ⟨written, _, second, last⟩
    · exact .inl ((reaches_ioStep_table (by simp) second).trans unchanged)
    · have same := (reaches_ioStep_table (by simp) second).trans unchanged
      have prepared := temp_of_writeTemp second
      rcases reaches_ioStep last with ⟨rfl, -⟩ | ⟨fault, response, performed, -⟩
      · exact .inl same
      · cases fault with
        | some fault =>
            cases performed
            exact .inl same
        | none =>
            simp only [AdmissionAction.perform, prepared] at performed
            cases performed
            exact .inr rfl

theorem reaches_read (shows : files.Shows adapterId state)
    (reaches : Reaches AdmissionAction.perform files (AdmissionTable.read adapterId) after rest) :
    after = files ∧ ∀ other, rest = .done (.ok other) → other = state := by
  rcases reaches.step_cases with ⟨rfl, rfl⟩ | ⟨fault, middle, response, performed, tail⟩
  · exact ⟨rfl, fun _ ended => absurd ended step_ne_done⟩
  · cases fault with
    | some fault =>
        cases performed
        obtain ⟨rfl, rfl⟩ := Reaches.done tail
        exact ⟨rfl, fun _ ended => absurd ended (done_ne_done (by simp))⟩
    | none =>
        cases performed
        -- Without a fault the call reads what the table shows.
        have read := shows.read
        cases shows with
        | missing none =>
            rw [none] at tail
            obtain ⟨rfl, rfl⟩ := Reaches.done tail
            refine ⟨rfl, fun other ended => ?_⟩
            cases ended
            rfl
        | written own storable text =>
            rw [text, ← own] at tail
            obtain ⟨rfl, rfl⟩ := Reaches.done tail
            refine ⟨rfl, fun other ended => ?_⟩
            rw [Admission.decode_encode storable] at ended
            cases ended
            rfl

theorem reaches_change {call : AdmissionCall} (storable : call.Storable)
    (readable : AdmissionFiles.Readable adapterId files)
    {rest : AdmissionProgram (Except EvaError call.Value)}
    (reaches : Reaches AdmissionAction.perform files
      (AdmissionTable.change adapterId fun state => call.change state) after rest) :
    AdmissionFiles.Readable adapterId after := by
  obtain ⟨state, shows⟩ := readable
  rcases reaches.andThen_cases with ⟨_, first⟩ | ⟨middle, other, first, later⟩
  · obtain ⟨rfl, -⟩ := reaches_read shows first
    exact ⟨state, shows⟩
  · obtain ⟨rfl, same⟩ := reaches_read shows first
    obtain rfl := same other rfl
    cases changed : call.change other with
    | error error =>
        simp only [changed] at later
        obtain ⟨rfl, -⟩ := Reaches.done later
        exact ⟨other, shows⟩
    | ok outcome =>
        simp only [changed] at later
        obtain ⟨value, written⟩ := outcome
        cases written with
        | none =>
            obtain ⟨rfl, -⟩ := Reaches.done later
            exact ⟨other, shows⟩
        | some next =>
            have table : after.table = middle.table ∨
                after.table = some (Admission.encode next) := by
              rcases later.andThen_cases with ⟨_, second⟩ | ⟨_, _, second, last⟩
              · exact reaches_write second
              · obtain ⟨rfl, -⟩ := Reaches.done last
                exact reaches_write second
            rcases table with kept | replaced
            · exact ⟨other, shows.of_table kept⟩
            · obtain ⟨own, stored⟩ :=
                (AdmissionCall.change_writes changed).storable storable shows.storable
              exact ⟨next, .written (own.trans shows.own) stored replaced⟩

theorem emits_lock (emits : AdmissionTable.lock.Emits past action) :
    action = .createLock := by
  have meets : AdmissionTable.lock.Meets (fun _ action => action = .createLock)
      (fun _ _ => True) [] := by
    refine .repeatUntil (fun _ => True) (fun past _ => ⟨rfl, fun response => ?_⟩)
      (fun _ _ => trivial) trivial
    cases response <;> trivial
  exact meets.emits emits

theorem reaches_program {call : AdmissionCall} (storable : call.Storable)
    (readable : AdmissionFiles.Readable adapterId files)
    {rest : AdmissionProgram (Except EvaError call.Value)}
    (reaches : Reaches AdmissionAction.perform files (call.program adapterId) after rest) :
    AdmissionFiles.Readable adapterId after := by
  rw [AdmissionCall.program_eq] at reaches
  cases refused : call.refusal with
  | some error =>
      rw [refused] at reaches
      obtain ⟨rfl, -⟩ := Reaches.done reaches
      exact readable
  | none =>
      rw [refused] at reaches
      have silent : ∀ past, ¬AdmissionTable.lock.Emits past .renameTemp := by
        intro past emits
        cases emits_lock emits
      rcases reaches.andThen_cases with ⟨_, first⟩ | ⟨middle, _, first, later⟩
      · exact readable.of_table (reaches_table silent first)
      · have held := readable.of_table (reaches_table silent first)
        rcases later.bind_cases with ⟨_, _, second, -⟩ | ⟨_, _, second, last⟩
        · exact reaches_change storable held second
        · have changed := reaches_change storable held second
          rcases last.step_cases with ⟨rfl, -⟩ | ⟨_, _, _, performed, ended⟩
          · exact changed
          · obtain ⟨rfl, -⟩ := Reaches.done ended
            exact changed.of_table (perform_table (by simp) performed)

end Stopped

/-! ## After any number of crashes -/

/-- The files of an adapter after calls that ran one after the other, each of them to
its end or to the point where its process was stopped. -/
inductive AfterCrashes (adapterId : AdapterId) : AdmissionFiles → Prop where
  | new : AfterCrashes adapterId .new
  | stopped {call : AdmissionCall} {files after : AdmissionFiles}
      {rest : AdmissionProgram (Except EvaError call.Value)}
      (earlier : AfterCrashes adapterId files) (storable : call.Storable)
      (reaches : Reaches AdmissionAction.perform files (call.program adapterId) after rest) :
      AfterCrashes adapterId after

theorem AfterCrashes.readable
    (crashed : AfterCrashes adapterId files) : AdmissionFiles.Readable adapterId files := by
  induction crashed with
  | new => exact ⟨_, .missing rfl⟩
  | stopped _ storable reaches induction => exact reaches_program storable induction reaches

/-- Whatever calls were stopped before, a later reserve call succeeds exactly if none of
them has left the lock file. -/
theorem reserve_succeeds_after_crashes {adapterId : AdapterId} {files : AdmissionFiles}
    {maxConcurrency : Usize} {sessionId : String} {nowMs ttlMs : U128}
    (crashed : AfterCrashes adapterId files) (limit : maxConcurrency ≠ 0) (named : sessionId ≠ "")
    (late : ∀ state, files.Shows adapterId state → ∀ reservation ∈ state.reservations,
      reservation.expiresAtMs ≤ nowMs) :
    (∃ after, (AdmissionTable.reserve adapterId maxConcurrency sessionId nowMs ttlMs).conclude
        AdmissionAction.perform none files =
      some (after, .ok (ProviderAdmissionSnapshot.newReservation sessionId nowMs ttlMs))) ↔
      files.locked = false := by
  obtain ⟨state, shows⟩ := crashed.readable
  have accepted : AdmissionTable.reserve adapterId maxConcurrency sessionId nowMs ttlMs =
      AdmissionTable.locked adapterId (·.reserve maxConcurrency sessionId nowMs ttlMs) := by
    simp [AdmissionTable.reserve, limit, named]
  rw [accepted]
  constructor
  · rintro ⟨after, concluded⟩
    by_contra held
    have refused := conclude_lock_timeout (Bool.eq_true_of_not_eq_false held)
    rw [AdmissionTable.locked, Program.andThen, Program.conclude_bind refused] at concluded
    cases concluded
  · intro free
    rw [conclude_locked free shows, reserve_of_expired limit (late state shows)]
    exact ⟨_, rfl⟩

/-- The process of the first reserve call is stopped after the call. -/
theorem reserve_succeeds_after_reserve :
    ∃ files, AfterCrashes exampleAdapterId files ∧ ∃ after,
      (AdmissionTable.reserve exampleAdapterId 1 "second" 15 5).conclude AdmissionAction.perform
          none files =
        some (after, .ok (ProviderAdmissionSnapshot.newReservation "second" 15 5)) := by
  have empty : AdmissionFiles.new.Shows exampleAdapterId (Admission.empty exampleAdapterId) :=
    .missing rfl
  have nothing : ∀ reservation ∈ (Admission.empty exampleAdapterId).reservations,
      reservation.expiresAtMs ≤ (10 : U128) := List.forall_mem_nil _
  have first := conclude_locked rfl empty (·.reserve 1 "first" 10 5)
  have plain : '\t' ∉ "first".toList ∧ '\n' ∉ "first".toList := by decide
  have crashed : AfterCrashes exampleAdapterId _ :=
    @AfterCrashes.stopped _ (.reserve 1 "first" 10 5) _ _ _ .new plain (reaches_of_conclude first)
  refine ⟨_, crashed, (reserve_succeeds_after_crashes crashed (by decide) (by decide) ?_).mpr rfl⟩
  intro state shows reservation member
  have same : state =
      { adapterId := exampleAdapterId
        maxConcurrency := 1
        reservations := [ProviderAdmissionSnapshot.newReservation "first" 10 5] } :=
    AdmissionFiles.Shows.unique
      (.written rfl (List.forall_mem_singleton.mpr (storable_reservationIdText plain)) rfl) shows
  rw [same] at member
  rw [List.mem_singleton.mp member]
  decide

/-- The first reserve call is stopped when it has created the lock file. -/
theorem reserve_times_out_after_crash :
    ∃ files rest, Reaches AdmissionAction.perform AdmissionFiles.new
        (AdmissionTable.reserve exampleAdapterId 1 "first" 10 5) files rest ∧
      (AdmissionTable.reserve exampleAdapterId 1 "second" 15 5).conclude AdmissionAction.perform
          none files =
        some (files, .error AdmissionTable.lockTimeout) := by
  refine ⟨{ AdmissionFiles.new with locked := true }, _, .step none rfl .here, ?_⟩
  exact Program.conclude_bind (conclude_lock_timeout rfl)

end Eva.Storage
