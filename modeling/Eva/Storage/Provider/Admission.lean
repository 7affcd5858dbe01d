import Eva.Foundation.RecordFiles
import Eva.Foundation.Solo
import Eva.Storage.TaskState.Snapshot

/-! # Admission of provider sessions

Each adapter has a table of reservations in a file of its own. A call creates the
lock file of the table, reads the table, replaces it if it has changed and removes
the lock file again. The lock file says nothing about who has created it.
-/

namespace Eva.Storage

/-! ## The table -/

structure ProviderAdmissionReservation where
  reservationId : String
  sessionId : String
  expiresAtMs : U128
deriving DecidableEq

def ProviderAdmissionReservation.ids (reservation : ProviderAdmissionReservation) :
    String × String :=
  (reservation.reservationId, reservation.sessionId)

structure ProviderAdmissionSnapshot where
  adapterId : AdapterId
  maxConcurrency : Usize
  reservations : List ProviderAdmissionReservation
deriving DecidableEq

namespace Admission

def empty (adapterId : AdapterId) : ProviderAdmissionSnapshot where
  adapterId
  maxConcurrency := 0
  reservations := []

def reservationFields (reservation : ProviderAdmissionReservation) : List (List Char) :=
  [reservation.reservationId.toList, reservation.sessionId.toList,
    Text.formatUnsigned reservation.expiresAtMs]

def encodeLines (state : ProviderAdmissionSnapshot) : List (List Char) :=
  "version=1".toList :: ("max=".toList ++ Text.formatUnsigned state.maxConcurrency) ::
    state.reservations.map fun reservation =>
      "reservation=".toList ++ ['\t'].intercalate (reservationFields reservation)

def encode (state : ProviderAdmissionSnapshot) : String :=
  String.ofList (Text.unlines (encodeLines state))

def decodeReservation (fields : List (List Char)) :
    Except EvaError ProviderAdmissionReservation :=
  match fields with
  | [reservationId, sessionId, expiresAt] => do
      let expiresAtMs ← orReject (.invalidArgument "invalid admission expiry")
        (Text.parseUnsigned 128 expiresAt)
      pure
        { reservationId := String.ofList reservationId
          sessionId := String.ofList sessionId
          expiresAtMs }
  | _ => .error (.invalidArgument "invalid admission reservation")

/-- Other lines, among them that of the version, are skipped. -/
def decodeLine (state : ProviderAdmissionSnapshot) (line : List Char) :
    Except EvaError ProviderAdmissionSnapshot :=
  match Text.stripPrefix "max=".toList line, Text.stripPrefix "reservation=".toList line with
  | some value, _ => do
      let maxConcurrency ← orReject (.invalidArgument "invalid admission max")
        (Text.parseUnsigned 64 value)
      pure { state with maxConcurrency }
  | none, some value => do
      let reservation ← decodeReservation (value.splitOn '\t')
      pure { state with reservations := state.reservations ++ [reservation] }
  | none, none => pure state

def decode (adapterId : AdapterId) (text : String) :
    Except EvaError ProviderAdmissionSnapshot :=
  (Text.lines text.toList).foldlM decodeLine (empty adapterId)

end Admission

/-! ## What the calls do with the table -/

/-- The value of a call and the table it writes, if it writes one. -/
abbrev AdmissionChange (Value : Type) := Value × Option ProviderAdmissionSnapshot

namespace ProviderAdmissionSnapshot

variable (state : ProviderAdmissionSnapshot)

def unexpired (nowMs : U128) : ProviderAdmissionSnapshot :=
  { state with reservations := state.reservations.filter fun reservation =>
      nowMs < reservation.expiresAtMs }

def reservationIdText (sessionId : String) (nowMs : U128) : String :=
  sessionId ++ "-" ++ nowMs.text

def expiry (nowMs ttlMs : U128) : U128 := nowMs.saturatingAdd (if ttlMs < 1 then 1 else ttlMs)

def newReservation (sessionId : String) (nowMs ttlMs : U128) : ProviderAdmissionReservation where
  reservationId := reservationIdText sessionId nowMs
  sessionId
  expiresAtMs := expiry nowMs ttlMs

def limitExhausted : EvaError :=
  ((EvaError.unavailable "provider concurrency limit is exhausted").withRetryable
    true).withContext "provider_code" "provider_concurrency_limited"

def notOwned : EvaError := .conflict "provider admission reservation is not owned"

def expired : EvaError := .conflict "provider admission reservation has expired"

/-- The expired reservations are dropped from the file only if a new one is added. -/
def reserve (maxConcurrency : Usize) (sessionId : String) (nowMs ttlMs : U128) :
    Except EvaError (AdmissionChange ProviderAdmissionReservation) :=
  let state := { state.unexpired nowMs with maxConcurrency }
  match state.reservations.find? fun reservation => reservation.sessionId = sessionId with
  | some existing => .ok (existing, none)
  | none =>
      if maxConcurrency.value ≤ state.reservations.length then .error limitExhausted
      else
        let reservation := newReservation sessionId nowMs ttlMs
        .ok (reservation,
          some { state with reservations := state.reservations ++ [reservation] })

def release (sessionId : String) : Except EvaError (AdmissionChange Unit) :=
  .ok ((), some { state with reservations := state.reservations.filter fun reservation =>
    reservation.sessionId ≠ sessionId })

def isOwned (reservationId sessionId : String) (reservation : ProviderAdmissionReservation) :
    Bool :=
  reservation.reservationId = reservationId && reservation.sessionId = sessionId

def releaseOwned (reservationId sessionId : String) : Except EvaError (AdmissionChange Unit) :=
  if state.reservations.any (isOwned reservationId sessionId) then
    .ok ((), some { state with
      reservations := state.reservations.eraseP (isOwned reservationId sessionId) })
  else .error notOwned

def renew (reservationId sessionId : String) (nowMs ttlMs : U128) :
    Except EvaError (AdmissionChange ProviderAdmissionReservation) :=
  match state.reservations.find? (isOwned reservationId sessionId) with
  | none => .error notOwned
  | some reservation =>
      if reservation.expiresAtMs ≤ nowMs then .error expired
      else
        let renewed := { reservation with expiresAtMs := expiry nowMs ttlMs }
        .ok (renewed, some { state with
          reservations := RecordFiles.replaceBy ProviderAdmissionReservation.ids renewed
            state.reservations })

def snapshot (nowMs : U128) : Except EvaError (AdmissionChange ProviderAdmissionSnapshot) :=
  .ok (state.unexpired nowMs, some (state.unexpired nowMs))

end ProviderAdmissionSnapshot

/-! ## Files -/

/-- The table of an adapter, the file it is prepared in and the lock file. -/
structure AdmissionFiles where
  table : Option String
  temp : Option String
  locked : Bool

def AdmissionFiles.new : AdmissionFiles := { table := none, temp := none, locked := false }

inductive AdmissionAction where
  | createLock
  | readTable
  | createTemp
  | writeTemp (text : String)
  | renameTemp
  | removeLock

inductive LockAttempt where
  | acquired
  | alreadyExists
  | failed (ioError : String)

@[reducible] def AdmissionAction.Response : AdmissionAction → Type
  | createLock => LockAttempt
  | readTable => Except String (Option String)
  | createTemp | writeTemp _ | renameTemp => Except String Unit
  | removeLock => Unit

/-- A failing action; a write can fail after a part of the text. -/
structure AdmissionFault where
  ioError : String
  written : String

def AdmissionAction.perform (files : AdmissionFiles) (action : AdmissionAction)
    (fault : Option AdmissionFault) : Option (AdmissionFiles × action.Response) :=
  match action, fault with
  | createLock, some fault => some (files, .failed fault.ioError)
  | createLock, none =>
      if files.locked then some (files, .alreadyExists)
      else some ({ files with locked := true }, .acquired)
  | readTable, some fault => some (files, .error fault.ioError)
  | readTable, none => some (files, .ok files.table)
  | createTemp, some fault => some (files, .error fault.ioError)
  | createTemp, none => some ({ files with temp := some "" }, .ok ())
  | writeTemp _, some fault =>
      some ({ files with temp := some fault.written }, .error fault.ioError)
  | writeTemp text, none => some ({ files with temp := some text }, .ok ())
  | renameTemp, some fault => some (files, .error fault.ioError)
  | renameTemp, none =>
      match files.temp with
      | none => some (files, .error "file is missing")
      | some text => some ({ files with table := some text, temp := none }, .ok ())
  -- The error of a failed removal is dropped.
  | removeLock, some _ => some (files, ())
  | removeLock, none => some ({ files with locked := false }, ())

abbrev AdmissionProgram (Result : Type) := Program AdmissionAction AdmissionAction.Response Result

/-! ## Calls -/

namespace AdmissionTable

def lockAttempts : Nat := 200

def lockTimeout : EvaError := .timeout "provider admission lock acquisition timed out"

def attemptLock : AdmissionProgram (Option (Except EvaError Unit)) :=
  .step .createLock fun
    | .acquired => .done (some (.ok ()))
    | .alreadyExists => .done none
    | .failed ioError => .done (some (.error
        ((EvaError.internal "acquire provider admission lock").withContext "error" ioError)))

def lock : AdmissionProgram (Except EvaError Unit) :=
  .repeatUntil attemptLock (.error lockTimeout) lockAttempts

def read (adapterId : AdapterId) : AdmissionProgram (Except EvaError ProviderAdmissionSnapshot) :=
  .step .readTable fun
    | .error ioError => .done (.error
        ((EvaError.internal "read provider admission").withContext "error" ioError))
    | .ok none => .done (.ok (Admission.empty adapterId))
    | .ok (some text) => .done (Admission.decode adapterId text)

def ioStep (action : AdmissionAction) (answer : action.Response → Except String Unit)
    (message : String) : AdmissionProgram (Except EvaError Unit) :=
  .step action fun response => .done ((answer response).mapError fun ioError =>
    (EvaError.internal message).withContext "error" ioError)

def write (state : ProviderAdmissionSnapshot) : AdmissionProgram (Except EvaError Unit) :=
  (ioStep .createTemp id "write provider admission").andThen fun _ =>
    (ioStep (.writeTemp (Admission.encode state)) id "write provider admission").andThen fun _ =>
      ioStep .renameTemp id "publish provider admission"

/-- Reads the table, and writes it where the call has changed it. -/
def change {Value : Type} (adapterId : AdapterId)
    (call : ProviderAdmissionSnapshot → Except EvaError (AdmissionChange Value)) :
    AdmissionProgram (Except EvaError Value) :=
  (read adapterId).andThen fun state =>
    match call state with
    | .error error => .done (.error error)
    | .ok (value, none) => .done (.ok value)
    | .ok (value, some after) => (write after).andThen fun _ => .done (.ok value)

/-- The lock is released whatever the call ends with. -/
def locked {Value : Type} (adapterId : AdapterId)
    (call : ProviderAdmissionSnapshot → Except EvaError (AdmissionChange Value)) :
    AdmissionProgram (Except EvaError Value) :=
  lock.andThen fun _ => (change adapterId call).bind fun result =>
    .step .removeLock fun _ => .done result

def invalidReservation : EvaError := .invalidArgument "provider admission reservation is invalid"

def reserve (adapterId : AdapterId) (maxConcurrency : Usize) (sessionId : String)
    (nowMs ttlMs : U128) : AdmissionProgram (Except EvaError ProviderAdmissionReservation) :=
  if maxConcurrency = 0 ∨ sessionId = "" then .done (.error invalidReservation)
  else locked adapterId (·.reserve maxConcurrency sessionId nowMs ttlMs)

def release (adapterId : AdapterId) (sessionId : String) :
    AdmissionProgram (Except EvaError Unit) :=
  locked adapterId (·.release sessionId)

def releaseOwned (adapterId : AdapterId) (reservationId sessionId : String) :
    AdmissionProgram (Except EvaError Unit) :=
  locked adapterId (·.releaseOwned reservationId sessionId)

def renew (adapterId : AdapterId) (reservationId sessionId : String) (nowMs ttlMs : U128) :
    AdmissionProgram (Except EvaError ProviderAdmissionReservation) :=
  locked adapterId (·.renew reservationId sessionId nowMs ttlMs)

def snapshot (adapterId : AdapterId) (nowMs : U128) :
    AdmissionProgram (Except EvaError ProviderAdmissionSnapshot) :=
  locked adapterId (·.snapshot nowMs)

end AdmissionTable

/-! ## Tables read back -/

namespace Admission

open Text

/-- The ids of a reservation stay within their field. -/
def Storable (reservation : ProviderAdmissionReservation) : Prop :=
  ∀ char ∈ reservation.reservationId.toList ++ reservation.sessionId.toList,
    char ≠ '\t' ∧ char ≠ '\n'

theorem decodeReservation_fields (reservation : ProviderAdmissionReservation) :
    decodeReservation (reservationFields reservation) = .ok reservation := by
  simp only [decodeReservation, reservationFields, parseUnsigned_formatUnsigned, orReject, ok_bind,
    String.ofList_toList]
  rfl

theorem splitOn_fields (storable : Storable reservation) :
    (['\t'].intercalate (reservationFields reservation)).splitOn '\t' =
      reservationFields reservation := by
  apply List.splitOn_intercalate
  · intro field member
    simp only [reservationFields, List.mem_cons, List.not_mem_nil, or_false] at member
    rcases member with rfl | rfl | rfl
    · exact fun tab => (storable '\t' (List.mem_append_left _ tab)).1 rfl
    · exact fun tab => (storable '\t' (List.mem_append_right _ tab)).1 rfl
    · exact fun tab => absurd (formatUnsigned_isDigit _ _ tab) (by decide)
  · simp [reservationFields]

theorem decodeLine_reservation (state : ProviderAdmissionSnapshot)
    (storable : Storable reservation) :
    decodeLine state ("reservation=".toList ++ ['\t'].intercalate (reservationFields reservation)) =
      .ok { state with reservations := state.reservations ++ [reservation] } := by
  have other : stripPrefix "max=".toList
      ("reservation=".toList ++ ['\t'].intercalate (reservationFields reservation)) = none := rfl
  rw [decodeLine, other, stripPrefix_append]
  simp only [splitOn_fields storable, decodeReservation_fields, ok_bind]
  rfl

theorem foldlM_reservations (state : ProviderAdmissionSnapshot)
    {reservations : List ProviderAdmissionReservation}
    (storable : ∀ reservation ∈ reservations, Storable reservation) :
    (reservations.map fun reservation => "reservation=".toList ++
        ['\t'].intercalate (reservationFields reservation)).foldlM decodeLine state =
      .ok { state with reservations := state.reservations ++ reservations } := by
  induction reservations generalizing state with
  | nil => simp [pure, Except.pure]
  | cons reservation reservations induction =>
      rw [List.map_cons, List.foldlM_cons,
        decodeLine_reservation state (storable reservation List.mem_cons_self), ok_bind,
        induction _ fun other member => storable other (List.mem_cons_of_mem _ member)]
      simp

private theorem getLast?_formatUnsigned (number : Unsigned bits)
    (front : List Char) : (front ++ formatUnsigned number).getLast? ≠ some '\r' := by
  intro last
  rw [List.getLast?_append_of_ne_nil _ (formatUnsigned_ne_nil number)] at last
  exact absurd (formatUnsigned_isDigit number _ (List.mem_of_getLast? last)) (by decide)

private theorem notMem_formatUnsigned (number : Unsigned bits) :
    '\n' ∉ formatUnsigned number :=
  fun feed => absurd (formatUnsigned_isDigit number _ feed) (by decide)

private theorem intercalate_fields (reservation : ProviderAdmissionReservation) :
    ['\t'].intercalate (reservationFields reservation) =
      reservation.reservationId.toList ++ '\t' :: reservation.sessionId.toList ++ ['\t'] ++
        formatUnsigned reservation.expiresAtMs := by
  simp [reservationFields, List.intercalate_cons_cons]

theorem lines_encode (storable : ∀ reservation ∈ state.reservations, Storable reservation) :
    lines (encode state).toList = encodeLines state := by
  rw [encode, String.toList_ofList]
  apply lines_unlines
  · intro line member
    simp only [encodeLines, List.mem_cons, List.mem_map] at member
    rcases member with rfl | rfl | ⟨reservation, held, rfl⟩
    · decide
    · simp [notMem_formatUnsigned]
    · have kept := fun char within => (storable reservation held char within).2
      rw [intercalate_fields]
      simp only [List.mem_append, List.mem_cons, List.not_mem_nil, or_false, not_or]
      refine ⟨by decide, ⟨⟨?_, by decide, ?_⟩, by decide⟩, notMem_formatUnsigned _⟩
      · exact fun feed => kept '\n' (List.mem_append_left _ feed) rfl
      · exact fun feed => kept '\n' (List.mem_append_right _ feed) rfl
  · intro line member
    simp only [encodeLines, List.mem_cons, List.mem_map] at member
    rcases member with rfl | rfl | ⟨reservation, held, rfl⟩
    · decide
    · exact getLast?_formatUnsigned _ _
    · rw [intercalate_fields, ← List.append_assoc]
      exact getLast?_formatUnsigned _ _

theorem decode_encode (storable : ∀ reservation ∈ state.reservations, Storable reservation) :
    decode state.adapterId (encode state) = .ok state := by
  have limit (state : ProviderAdmissionSnapshot) (number : Usize) :
      decodeLine state ("max=".toList ++ formatUnsigned number) =
        .ok { state with maxConcurrency := number } := by
    rw [decodeLine, stripPrefix_append]
    simp only [parseUnsigned_formatUnsigned, orReject, ok_bind]
    rfl
  have version (state : ProviderAdmissionSnapshot) : decodeLine state "version=1".toList =
      .ok state := rfl
  rw [decode, lines_encode storable, encodeLines, List.foldlM_cons, version, ok_bind,
    List.foldlM_cons, limit, ok_bind, foldlM_reservations _ storable]
  rfl

end Admission

end Eva.Storage
