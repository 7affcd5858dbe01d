import Eva.Storage.Provider.Admission

/-! # One call of the admission table

What a call does when it runs to its end without a failure, and what it can leave
behind when it is stopped anywhere.
-/

namespace Eva.Storage

inductive AdmissionCall where
  | reserve (maxConcurrency : Usize) (sessionId : String) (nowMs ttlMs : U128)
  | renew (reservationId sessionId : String) (nowMs ttlMs : U128)
  | releaseOwned (reservationId sessionId : String)
  | release (sessionId : String)
  | snapshot (nowMs : U128)

namespace AdmissionCall

@[reducible] def Value : AdmissionCall → Type
  | reserve .. | renew .. => ProviderAdmissionReservation
  | releaseOwned .. | release .. => Unit
  | snapshot .. => ProviderAdmissionSnapshot

def program (adapterId : AdapterId) :
    (call : AdmissionCall) → AdmissionProgram (Except EvaError call.Value)
  | reserve maxConcurrency sessionId nowMs ttlMs =>
      AdmissionTable.reserve adapterId maxConcurrency sessionId nowMs ttlMs
  | renew reservationId sessionId nowMs ttlMs =>
      AdmissionTable.renew adapterId reservationId sessionId nowMs ttlMs
  | releaseOwned reservationId sessionId =>
      AdmissionTable.releaseOwned adapterId reservationId sessionId
  | release sessionId => AdmissionTable.release adapterId sessionId
  | snapshot nowMs => AdmissionTable.snapshot adapterId nowMs

/-- What the call does with the table, once it has the lock. -/
def change (state : ProviderAdmissionSnapshot) :
    (call : AdmissionCall) → Except EvaError (AdmissionChange call.Value)
  | reserve maxConcurrency sessionId nowMs ttlMs =>
      state.reserve maxConcurrency sessionId nowMs ttlMs
  | renew reservationId sessionId nowMs ttlMs => state.renew reservationId sessionId nowMs ttlMs
  | releaseOwned reservationId sessionId => state.releaseOwned reservationId sessionId
  | release sessionId => state.release sessionId
  | snapshot nowMs => state.snapshot nowMs

def refusal : AdmissionCall → Option EvaError
  | reserve maxConcurrency sessionId _ _ =>
      if maxConcurrency = 0 ∨ sessionId = "" then some AdmissionTable.invalidReservation else none
  | _ => none

/-- The session of a new reservation stays within its field of the table. -/
def Storable : AdmissionCall → Prop
  | reserve _ sessionId _ _ => '\t' ∉ sessionId.toList ∧ '\n' ∉ sessionId.toList
  | _ => True

theorem program_eq (adapterId : AdapterId) (call : AdmissionCall) :
    call.program adapterId = match call.refusal with
      | some error => .done (.error error)
      | none => AdmissionTable.locked adapterId fun state => call.change state := by
  cases call with
  | reserve maxConcurrency sessionId nowMs ttlMs =>
      simp only [program, AdmissionTable.reserve, refusal]
      split <;> rfl
  | _ => rfl

end AdmissionCall

/-! ## Tables that the calls write -/

/-- The table of an adapter as the calls leave it. -/
inductive AdmissionFiles.Shows (files : AdmissionFiles) (adapterId : AdapterId) :
    ProviderAdmissionSnapshot → Prop where
  | missing (none : files.table = none) : Shows files adapterId (Admission.empty adapterId)
  | written {state} (own : state.adapterId = adapterId)
      (storable : ∀ reservation ∈ state.reservations, Admission.Storable reservation)
      (text : files.table = some (Admission.encode state)) : Shows files adapterId state

namespace AdmissionFiles.Shows

variable {files after : AdmissionFiles}

section

variable (shows : files.Shows adapterId state)
include shows

theorem own : state.adapterId = adapterId := by
  cases shows with
  | missing => rfl
  | written own => exact own

theorem storable :
    ∀ reservation ∈ state.reservations, Admission.Storable reservation := by
  cases shows with
  | missing => simp [Admission.empty]
  | written _ storable => exact storable

theorem of_table (same : after.table = files.table) :
    after.Shows adapterId state := by
  cases shows with
  | missing none => exact .missing (same.trans none)
  | written own storable text => exact .written own storable (same.trans text)

theorem read :
    (AdmissionTable.read adapterId).conclude AdmissionAction.perform none files =
      some (files, .ok state) := by
  cases shows with
  | missing none =>
      simp [AdmissionTable.read, Program.conclude, AdmissionAction.perform, none]
  | written own storable text =>
      simp [AdmissionTable.read, Program.conclude, AdmissionAction.perform, text, ← own,
        Admission.decode_encode storable]

theorem forAdapter (other : AdapterId) :
    files.Shows other { state with adapterId := other } := by
  cases shows with
  | missing none => exact .missing none
  | written own storable text => exact .written rfl storable text

theorem unique
    (others : files.Shows adapterId other) : other = state := by
  have same := others.read.symm.trans shows.read
  simpa using same

end

end AdmissionFiles.Shows

theorem storable_reservationIdText (plain : '\t' ∉ sessionId.toList ∧ '\n' ∉ sessionId.toList) :
    Admission.Storable
      { reservationId := ProviderAdmissionSnapshot.reservationIdText sessionId nowMs
        sessionId, expiresAtMs } := by
  have session : ∀ char ∈ sessionId.toList, char ≠ '\t' ∧ char ≠ '\n' := by
    intro char member
    constructor
    · rintro rfl
      exact plain.1 member
    · rintro rfl
      exact plain.2 member
  have digits : ∀ char ∈ Text.formatUnsigned nowMs, char ≠ '\t' ∧ char ≠ '\n' := by
    intro char member
    have digit := Text.formatUnsigned_isDigit nowMs char member
    constructor <;> rintro rfl <;> exact absurd digit (by decide)
  intro char member
  simp only [ProviderAdmissionSnapshot.reservationIdText, Unsigned.text, String.toList_append,
    String.toList_ofList, List.mem_append] at member
  rcases member with ((first | dash) | number) | second
  · exact session char first
  · have equal : char = '-' := by simpa using dash
    rw [equal]
    decide
  · exact digits char number
  · exact session char second

/-- What a call can write: the reservations that were there, and a new one. -/
inductive AdmissionCall.Writes (state after : ProviderAdmissionSnapshot) :
    AdmissionCall → Prop where
  | reserve {maxConcurrency sessionId nowMs ttlMs}
      (absent : ∀ reservation ∈ (state.unexpired nowMs).reservations,
        reservation.sessionId ≠ sessionId)
      (room : (state.unexpired nowMs).reservations.length < maxConcurrency.value)
      (result : after = { state with
        maxConcurrency
        reservations := (state.unexpired nowMs).reservations ++
          [ProviderAdmissionSnapshot.newReservation sessionId nowMs ttlMs] }) :
      Writes state after (.reserve maxConcurrency sessionId nowMs ttlMs)
  /-- No reservation is added, and none gets other ids. -/
  | keep {call} (own : after.adapterId = state.adapterId)
      (limit : after.maxConcurrency = state.maxConcurrency)
      (ids : (after.reservations.map (·.ids)).Sublist (state.reservations.map (·.ids))) :
      Writes state after call

theorem AdmissionCall.change_writes {call : AdmissionCall} {value : call.Value}
    (changed : call.change state = .ok (value, some after)) : call.Writes state after := by
  cases call with
  | reserve maxConcurrency sessionId nowMs ttlMs =>
      simp only [change, ProviderAdmissionSnapshot.reserve] at changed
      split at changed
      next => cases changed
      next absent =>
          split at changed
          next => cases changed
          next room =>
              cases changed
              refine .reserve ?_ (Nat.lt_of_not_le room) rfl
              simpa using absent
  | renew reservationId sessionId nowMs ttlMs =>
      simp only [change, ProviderAdmissionSnapshot.renew] at changed
      split at changed
      next => cases changed
      next =>
          split at changed
          next => cases changed
          next =>
              cases changed
              refine .keep rfl rfl ?_
              rw [RecordFiles.map_id_replaceBy]
  | releaseOwned reservationId sessionId =>
      simp only [change, ProviderAdmissionSnapshot.releaseOwned] at changed
      split at changed
      next =>
          cases changed
          exact .keep rfl rfl (List.eraseP_sublist.map _)
      next => cases changed
  | release sessionId =>
      cases changed
      exact .keep rfl rfl (List.filter_sublist.map _)
  | snapshot nowMs =>
      cases changed
      exact .keep rfl rfl (List.filter_sublist.map _)

theorem AdmissionCall.Writes.storable
    {call : AdmissionCall} (writes : call.Writes state after) (storable : call.Storable)
    (kept : ∀ reservation ∈ state.reservations, Admission.Storable reservation) :
    after.adapterId = state.adapterId ∧
      ∀ reservation ∈ after.reservations, Admission.Storable reservation := by
  cases writes with
  | reserve absent room result =>
      subst result
      refine ⟨rfl, fun reservation member => ?_⟩
      rcases List.mem_append.mp member with old | new
      · exact kept reservation (List.mem_of_mem_filter old)
      · rw [List.mem_singleton.mp new]
        exact storable_reservationIdText storable
  | keep own limit ids =>
      refine ⟨own, fun reservation member => ?_⟩
      obtain ⟨old, held, same⟩ := List.mem_map.mp (ids.subset (List.mem_map_of_mem member))
      have both := kept old held
      simp only [ProviderAdmissionReservation.ids, Prod.mk.injEq] at same
      unfold Admission.Storable at both ⊢
      rwa [same.1, same.2] at both

/-! ## To the end -/

theorem reserve_of_expired {state : ProviderAdmissionSnapshot} (limit : maxConcurrency ≠ 0)
    (late : ∀ reservation ∈ state.reservations, reservation.expiresAtMs ≤ nowMs) :
    state.reserve maxConcurrency sessionId nowMs ttlMs =
      .ok (ProviderAdmissionSnapshot.newReservation sessionId nowMs ttlMs,
        some { state with
          maxConcurrency
          reservations := [ProviderAdmissionSnapshot.newReservation sessionId nowMs ttlMs] }) := by
  have dropped : (state.unexpired nowMs).reservations = [] := by
    refine List.filter_eq_nil_iff.mpr fun reservation member => ?_
    simpa [Unsigned.lt_iff, Unsigned.le_iff] using late reservation member
  have room : ¬maxConcurrency.value ≤ 0 := by
    intro zero
    exact limit (Unsigned.eq_iff.mpr (Nat.le_zero.mp zero))
  simp only [ProviderAdmissionSnapshot.reserve, dropped, List.find?_nil, List.length_nil, room,
    if_false, List.nil_append]
  rfl

section Conclude

variable {files : AdmissionFiles}

theorem conclude_lock (free : files.locked = false) :
    AdmissionTable.lock.conclude AdmissionAction.perform none files =
      some ({ files with locked := true }, .ok ()) := by
  have first : AdmissionTable.attemptLock.conclude AdmissionAction.perform none files =
      some ({ files with locked := true }, some (.ok ())) := by
    simp [AdmissionTable.attemptLock, Program.conclude, AdmissionAction.perform, free]
  exact Program.conclude_bind first

/-- Nobody removes the lock file while the call waits. -/
theorem conclude_lock_timeout (held : files.locked = true) :
    AdmissionTable.lock.conclude AdmissionAction.perform none files =
      some (files, .error AdmissionTable.lockTimeout) := by
  have refused : AdmissionTable.attemptLock.conclude AdmissionAction.perform none files =
      some (files, none) := by
    simp [AdmissionTable.attemptLock, Program.conclude, AdmissionAction.perform, held]
  unfold AdmissionTable.lock
  induction AdmissionTable.lockAttempts with
  | zero => rfl
  | succ limit induction => exact (Program.conclude_bind refused).trans induction

/-- The files after a call that was not disturbed. -/
def AdmissionFiles.changed {Value : Type} (files : AdmissionFiles)
    (result : Except EvaError (AdmissionChange Value)) : AdmissionFiles :=
  match result with
  | .ok (_, some after) => { files with table := some (Admission.encode after), temp := none }
  | _ => files

theorem conclude_locked (free : files.locked = false)
    (shows : files.Shows adapterId state)
    (call : ProviderAdmissionSnapshot → Except EvaError (AdmissionChange Value)) :
    (AdmissionTable.locked adapterId call).conclude AdmissionAction.perform none files =
      some (files.changed (call state), (call state).map Prod.fst) := by
  have acquired := conclude_lock free
  have kept : AdmissionFiles.Shows { files with locked := true } adapterId state :=
    shows.of_table rfl
  have read := kept.read
  have changed : (AdmissionTable.change adapterId call).conclude AdmissionAction.perform none
      { files with locked := true } =
        some ({ files.changed (call state) with locked := true }, (call state).map Prod.fst) := by
    refine (Program.conclude_bind read).trans ?_
    dsimp only
    split
    next error failed => rw [failed]; rfl
    next value kept => rw [kept]; rfl
    next value after written => rw [written]; rfl
  refine (Program.conclude_bind acquired).trans ((Program.conclude_bind changed).trans ?_)
  have unlocked : { files.changed (call state) with locked := false } =
      files.changed (call state) := by
    unfold AdmissionFiles.changed
    split <;> simp [← free]
  simp only [Program.conclude, AdmissionAction.perform, unlocked]

theorem AdmissionCall.conclude_program {call : AdmissionCall} (storable : call.Storable)
    (free : files.locked = false) (shows : files.Shows adapterId state) :
    ∃ after result,
      (call.program adapterId).conclude AdmissionAction.perform none files =
        some (after, result) ∧
      after.locked = false ∧
      ∃ changed, after.Shows adapterId changed ∧ (changed = state ∨ call.Writes state changed) := by
  rw [program_eq]
  cases call.refusal with
  | some error => exact ⟨files, _, rfl, free, state, shows, .inl rfl⟩
  | none =>
      refine ⟨_, _, conclude_locked free shows _, ?_⟩
      cases outcome : call.change state with
      | error error => exact ⟨free, state, shows, .inl rfl⟩
      | ok answer =>
          obtain ⟨value, written⟩ := answer
          cases written with
          | none => exact ⟨free, state, shows, .inl rfl⟩
          | some changed =>
              have writes := change_writes outcome
              obtain ⟨own, kept⟩ := writes.storable storable shows.storable
              exact ⟨free, changed, .written (own.trans shows.own) kept rfl, .inr writes⟩

end Conclude

end Eva.Storage
