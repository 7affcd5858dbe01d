import Eva.Core.Error
import Eva.Foundation.Fields
import Eva.Foundation.Numerals

/-! # Maintenance schedules

One line file for each schedule. A claim takes a lease on the schedule; the generation of
the record fences renewal and completion.
-/

namespace Eva.Memory

structure ScheduleRecord where
  id : String
  nextRunAtMs : U128
  leaseOwner : Option String
  leaseExpiresAtMs : Option U128
  generation : U64
deriving DecidableEq

/-! ## The line file -/

namespace ScheduleRecord

def fields (record : ScheduleRecord) : Fields.FieldMap :=
  [("version", "1"),
   ("id", record.id),
   ("next_run_at_ms", record.nextRunAtMs.text),
   ("lease_owner", record.leaseOwner.getD ""),
   ("lease_expires_at_ms", (record.leaseExpiresAtMs.map Unsigned.text).getD ""),
   ("generation", record.generation.text)]

def encode (record : ScheduleRecord) : String := Fields.render record.fields

end ScheduleRecord

/-- What `decode` has found so far. -/
structure ScheduleDraft where
  id : Option String
  nextRunAtMs : Option U128
  leaseOwner : Option String
  leaseExpiresAtMs : Option U128
  generation : Option U64

namespace ScheduleDraft

def empty : ScheduleDraft := ⟨none, none, none, none, none⟩

def insert (draft : ScheduleDraft) (key : String) (value : List Char) :
    Except EvaError ScheduleDraft :=
  match key with
  | "id" => pure { draft with id := some (String.ofList value) }
  | "next_run_at_ms" => do
      let time ← orReject (.invalidArgument "invalid schedule time") (Text.parseUnsigned 128 value)
      pure { draft with nextRunAtMs := some time }
  | "lease_owner" =>
      if value = [] then pure draft
      else pure { draft with leaseOwner := some (String.ofList value) }
  | "lease_expires_at_ms" =>
      if value = [] then pure draft
      else do
        let time ←
          orReject (.invalidArgument "invalid schedule lease") (Text.parseUnsigned 128 value)
        pure { draft with leaseExpiresAtMs := some time }
  | "generation" => do
      let number ←
        orReject (.invalidArgument "invalid schedule generation") (Text.parseUnsigned 64 value)
      pure { draft with generation := some number }
  | _ => pure draft

/-- A line without an equals sign is skipped. -/
def insertLine (draft : ScheduleDraft) (line : List Char) : Except EvaError ScheduleDraft :=
  match Text.splitOnce '=' line with
  | none => pure draft
  | some (key, value) => draft.insert (String.ofList key) value

def finish (draft : ScheduleDraft) : Except EvaError ScheduleRecord := do
  let id ← orReject (.invalidArgument "schedule id missing") draft.id
  let nextRunAtMs ← orReject (.invalidArgument "schedule time missing") draft.nextRunAtMs
  let generation ← orReject (.invalidArgument "schedule generation missing") draft.generation
  pure
    { id, nextRunAtMs, generation
      leaseOwner := draft.leaseOwner
      leaseExpiresAtMs := draft.leaseExpiresAtMs }

theorem insertLine_line (draft : ScheduleDraft) (separate : '=' ∉ name.toList) :
    draft.insertLine (Fields.line (name, value)) = draft.insert name value.toList := by
  simp only [insertLine, Fields.line, Text.splitOnce_append separate, String.ofList_toList]

end ScheduleDraft

namespace ScheduleRecord

def decode (text : String) : Except EvaError ScheduleRecord := do
  let draft ← (Text.lines text.toList).foldlM ScheduleDraft.insertLine .empty
  draft.finish

/-- The names of the record stay within their lines, and no owner is not the empty one. -/
structure Writable (record : ScheduleRecord) : Prop where
  id : Text.InLine record.id.toList
  owner : ∀ owner ∈ record.leaseOwner, owner ≠ "" ∧ Text.InLine owner.toList

variable {record : ScheduleRecord}

theorem inLine_line (plain : Text.Plain (name.toList ++ ['=']))
    (inLine : Text.InLine value.toList) : Text.InLine (Fields.line (name, value)) := by
  have appended := Text.InLine.append plain inLine
  rwa [List.append_assoc] at appended

theorem Writable.inLine_fields (writable : record.Writable) :
    ∀ field ∈ record.fields, Text.InLine (Fields.line field) := by
  have owner : Text.InLine (record.leaseOwner.getD "").toList := by
    cases held : record.leaseOwner with
    | none => exact ⟨by simp, by simp⟩
    | some owner => exact (writable.owner owner held).2
  have expires : Text.InLine ((record.leaseExpiresAtMs.map Unsigned.text).getD "").toList := by
    cases record.leaseExpiresAtMs with
    | none => exact ⟨by simp, by simp⟩
    | some expires => exact (Text.plain_text expires).inLine
  intro field member
  simp only [fields, List.mem_cons, List.not_mem_nil, or_false] at member
  rcases member with rfl | rfl | rfl | rfl | rfl | rfl
  · exact inLine_line ⟨by decide, by decide⟩ ⟨by decide, by decide⟩
  · exact inLine_line ⟨by decide, by decide⟩ writable.id
  · exact inLine_line ⟨by decide, by decide⟩ (Text.plain_text _).inLine
  · exact inLine_line ⟨by decide, by decide⟩ owner
  · exact inLine_line ⟨by decide, by decide⟩ expires
  · exact inLine_line ⟨by decide, by decide⟩ (Text.plain_text _).inLine

theorem insert_leaseOwner (writable : record.Writable) {draft : ScheduleDraft}
    (unowned : draft.leaseOwner = none) :
    draft.insert "lease_owner" (record.leaseOwner.getD "").toList =
      .ok { draft with leaseOwner := record.leaseOwner } := by
  cases held : record.leaseOwner with
  | none =>
      obtain ⟨id, nextRunAtMs, leaseOwner, leaseExpiresAtMs, generation⟩ := draft
      cases unowned
      rfl
  | some owner =>
      have nonempty : owner.toList ≠ [] :=
        fun none => (writable.owner owner held).1 (String.toList_eq_nil_iff.mp none)
      simp only [ScheduleDraft.insert, Option.getD_some, nonempty, if_false, String.ofList_toList]
      rfl

theorem insert_leaseExpiresAtMs (record : ScheduleRecord) {draft : ScheduleDraft}
    (unleased : draft.leaseExpiresAtMs = none) :
    draft.insert "lease_expires_at_ms" ((record.leaseExpiresAtMs.map Unsigned.text).getD "").toList =
      .ok { draft with leaseExpiresAtMs := record.leaseExpiresAtMs } := by
  cases record.leaseExpiresAtMs with
  | none =>
      obtain ⟨id, nextRunAtMs, leaseOwner, leaseExpiresAtMs, generation⟩ := draft
      cases unleased
      rfl
  | some expires =>
      simp only [ScheduleDraft.insert, Option.map_some, Option.getD_some, Unsigned.text_toList_ne_nil,
        if_false, Text.parseUnsigned_text, orReject, ok_bind]
      rfl

theorem insert_nextRunAtMs (draft : ScheduleDraft) (time : U128) :
    draft.insert "next_run_at_ms" time.text.toList =
      .ok { draft with nextRunAtMs := some time } := by
  simp only [ScheduleDraft.insert, Text.parseUnsigned_text, orReject, ok_bind]
  rfl

theorem insert_generation (draft : ScheduleDraft) (number : U64) :
    draft.insert "generation" number.text.toList =
      .ok { draft with generation := some number } := by
  simp only [ScheduleDraft.insert, Text.parseUnsigned_text, orReject, ok_bind]
  rfl

theorem insert_id (draft : ScheduleDraft) (id : String) :
    draft.insert "id" id.toList = .ok { draft with id := some id } := by
  simp only [ScheduleDraft.insert, String.ofList_toList]
  rfl

theorem decode_encode (writable : record.Writable) : decode record.encode = .ok record := by
  rw [decode, encode, Fields.lines_render writable.inLine_fields]
  simp only [fields, List.map_cons, List.map_nil, List.foldlM_cons, List.foldlM_nil]
  have skipped : ScheduleDraft.empty.insert "version" "1".toList = .ok .empty := rfl
  rw [ScheduleDraft.insertLine_line _ (by decide), skipped, ok_bind,
    ScheduleDraft.insertLine_line _ (by decide), insert_id, ok_bind,
    ScheduleDraft.insertLine_line _ (by decide), insert_nextRunAtMs, ok_bind,
    ScheduleDraft.insertLine_line _ (by decide), insert_leaseOwner writable rfl, ok_bind,
    ScheduleDraft.insertLine_line _ (by decide), insert_leaseExpiresAtMs record rfl, ok_bind,
    ScheduleDraft.insertLine_line _ (by decide), insert_generation, ok_bind]
  rfl

end ScheduleRecord

/-! ## The operations -/

namespace Schedule

def validateId (id : String) : Except EvaError Unit :=
  rejectIf (id = "" ∨ '/' ∈ id.toList ∨ '\\' ∈ id.toList ∨ id = "." ∨ id = "..")
    (.invalidArgument "schedule id is invalid")

/-- `content` is the answer of the file system. -/
def read (id : String) (content : Except String String) : Except EvaError ScheduleRecord := do
  validateId id
  match content with
  | .ok text => ScheduleRecord.decode text
  | .error ioError =>
      throw ((EvaError.notFound "schedule record not found").withContext "error" ioError)

def leaseEnd (nowMs leaseMs : U128) : U128 :=
  nowMs.saturatingAdd (if leaseMs < 1 then 1 else leaseMs)

/-- A record that cannot be read counts as none. -/
def upsertGeneration : Except EvaError ScheduleRecord → U64
  | .ok record => record.generation.saturatingAdd 1
  | .error _ => 1

end Schedule

namespace ScheduleRecord

def claim (record : ScheduleRecord) (owner : String) (nowMs leaseMs : U128) :
    Except EvaError ScheduleRecord := do
  rejectIf (nowMs < record.nextRunAtMs)
    ((EvaError.unavailable "schedule is not due").withRetryable true)
  rejectIf (record.leaseExpiresAtMs.any (nowMs < ·) = true ∧ record.leaseOwner ≠ some owner)
    ((EvaError.unavailable "schedule lease is held").withRetryable true)
  pure
    { record with
      leaseOwner := some owner
      leaseExpiresAtMs := some (Schedule.leaseEnd nowMs leaseMs)
      generation := record.generation.saturatingAdd 1 }

def complete (record : ScheduleRecord) (owner : String) (generation : U64)
    (nextRunAtMs : U128) : Except EvaError ScheduleRecord := do
  rejectIf (record.generation ≠ generation ∨ record.leaseOwner ≠ some owner)
    (.conflict "schedule completion fence does not match active lease")
  pure
    { record with
      nextRunAtMs
      leaseOwner := none
      leaseExpiresAtMs := none
      generation := record.generation.saturatingAdd 1 }

def renew (record : ScheduleRecord) (owner : String) (generation : U64)
    (nowMs leaseMs : U128) : Except EvaError ScheduleRecord := do
  rejectIf (record.generation ≠ generation ∨ record.leaseOwner ≠ some owner)
    (.conflict "schedule renewal fence does not match active lease")
  rejectIf (record.leaseExpiresAtMs.all (· ≤ nowMs) = true)
    (.conflict "schedule lease expired before renewal")
  pure
    { record with
      leaseExpiresAtMs := some (Schedule.leaseEnd nowMs leaseMs)
      generation := record.generation.saturatingAdd 1 }

end ScheduleRecord

inductive ScheduleOperation where
  | upsert (nextRunAtMs : U128)
  | claim (owner : String) (nowMs leaseMs : U128)
  | complete (owner : String) (generation : U64) (nextRunAtMs : U128)
  | renew (owner : String) (generation : U64) (nowMs leaseMs : U128)
deriving DecidableEq

structure ScheduleCall where
  id : String
  operation : ScheduleOperation
deriving DecidableEq

namespace ScheduleCall

/-- What is checked before the lock is taken. -/
def check (call : ScheduleCall) : Except EvaError Unit :=
  match call.operation with
  | .upsert _ => Schedule.validateId call.id
  | .claim owner _ _ => do
      Schedule.validateId call.id
      rejectIf (owner = "") (.invalidArgument "schedule owner cannot be empty")
  | .complete .. | .renew .. => pure ()

/-- The record to write, from what was read under the lock. Only `upsert` goes on without a
record, whatever the reason. -/
def apply (call : ScheduleCall) (read : Except EvaError ScheduleRecord) :
    Except EvaError ScheduleRecord :=
  match call.operation with
  | .upsert nextRunAtMs => pure
      { id := call.id
        nextRunAtMs
        leaseOwner := none
        leaseExpiresAtMs := none
        generation := Schedule.upsertGeneration read }
  | .claim owner nowMs leaseMs => do (← read).claim owner nowMs leaseMs
  | .complete owner generation nextRunAtMs => do (← read).complete owner generation nextRunAtMs
  | .renew owner generation nowMs leaseMs => do (← read).renew owner generation nowMs leaseMs

def leases (call : ScheduleCall) : Option String :=
  match call.operation with
  | .claim owner _ _ | .renew owner _ _ _ => some owner
  | .upsert _ | .complete .. => none

variable {call : ScheduleCall} {read : Except EvaError ScheduleRecord}

theorem apply_cases (applied : call.apply read = .ok record) :
    record.leaseOwner = call.leases ∧
      ((∃ previous, read = .ok previous ∧ record.id = previous.id ∧
          record.generation = previous.generation.saturatingAdd 1 ∧
          ((∃ owner nowMs leaseMs, call.operation = .claim owner nowMs leaseMs) ∨
            ∀ owner, record.leaseOwner = some owner → previous.leaseOwner = some owner)) ∨
        (∃ nextRunAtMs, call.operation = .upsert nextRunAtMs) ∧ record.id = call.id ∧
          record.generation = Schedule.upsertGeneration read) := by
  obtain ⟨id, operation⟩ := call
  cases operation with
  | upsert nextRunAtMs =>
      obtain rfl := Except.ok.inj applied
      exact ⟨rfl, .inr ⟨⟨nextRunAtMs, rfl⟩, rfl, rfl⟩⟩
  | claim owner nowMs leaseMs =>
      simp only [apply, ScheduleRecord.claim, bind_eq_ok_iff, exists_unit_iff, pure_eq_ok_iff]
        at applied
      obtain ⟨previous, found, -, -, rfl⟩ := applied
      exact ⟨rfl, .inl ⟨previous, found, rfl, rfl, .inl ⟨owner, nowMs, leaseMs, rfl⟩⟩⟩
  | complete owner generation nextRunAtMs =>
      simp only [apply, ScheduleRecord.complete, bind_eq_ok_iff, exists_unit_iff, pure_eq_ok_iff]
        at applied
      obtain ⟨previous, found, -, rfl⟩ := applied
      exact ⟨rfl, .inl ⟨previous, found, rfl, rfl, .inr (by simp)⟩⟩
  | renew owner generation nowMs leaseMs =>
      simp only [apply, ScheduleRecord.renew, bind_eq_ok_iff, exists_unit_iff, pure_eq_ok_iff,
        rejectIf_eq_ok_iff, not_or, not_not] at applied
      obtain ⟨previous, found, ⟨-, owned⟩, -, rfl⟩ := applied
      exact ⟨owned, .inl ⟨previous, found, rfl, rfl, .inr fun _ same => same⟩⟩

/-- The names that the call writes stay within their lines. -/
def Orderly (call : ScheduleCall) : Prop :=
  Text.InLine call.id.toList ∧ match call.operation with
    | .claim owner _ _ => Text.InLine owner.toList
    | _ => True

theorem apply_writable (orderly : call.Orderly) (checked : call.check = .ok ())
    (stored : ∀ previous, read = .ok previous → previous.id = call.id ∧ previous.Writable)
    (applied : call.apply read = .ok record) : record.id = call.id ∧ record.Writable := by
  obtain ⟨owner, ⟨previous, found, same, -, claims⟩ | ⟨⟨time, upsert⟩, same, -⟩⟩ :=
    apply_cases applied
  · obtain ⟨own, writable⟩ := stored previous found
    refine ⟨same.trans own, same ▸ writable.id, fun name named => ?_⟩
    rcases claims with ⟨claimer, nowMs, leaseMs, claim⟩ | kept
    · simp only [check, claim, bind_eq_ok_iff, exists_unit_iff, rejectIf_eq_ok_iff] at checked
      simp only [leases, claim] at owner
      simp only [Orderly, claim] at orderly
      obtain rfl : claimer = name := Option.some.inj (owner.symm.trans named)
      exact ⟨checked.2, orderly.2⟩
    · exact writable.owner name (kept name named)
  · simp only [leases, upsert] at owner
    refine ⟨same, same ▸ orderly.1, fun name named => ?_⟩
    cases owner.symm.trans named

end ScheduleCall

end Eva.Memory
