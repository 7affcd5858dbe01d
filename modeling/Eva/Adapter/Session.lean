import Eva.Core.Identifiers

/-! # Sessions of providers

One invocation of a provider has a session and a process id, made of the ids of the
adapter and of the request. The two are joined by a character that both may contain.
-/

namespace Eva.Adapter

def safeChar (char : Char) : Char :=
  if Text.isAsciiAlphanumeric char || char == '-' || char == '_' || char == '.' then char else '-'

def safeSegment (value : String) : String := String.ofList (value.toList.map safeChar)

structure Invocation where
  adapterId : AdapterId
  requestId : RequestId
deriving DecidableEq

namespace Invocation

/-- `format!("{kind}-{}-{}")` of the two segments. -/
def idOf (kind : String) (invocation : Invocation) : String :=
  kind ++ "-" ++ safeSegment invocation.adapterId.text ++ "-" ++
    safeSegment invocation.requestId.text

def sessionId : Invocation → String := idOf "session"

def providerProcessId : Invocation → String := idOf "provider"

/-- The ids as they can be told apart: a colon is written like a dash. -/
def dashed (identifier : Identifier label) : List Char :=
  identifier.text.toList.map fun char => if char = ':' then '-' else char

/-- The adapter of the second invocation continues that of the first one behind a dash, and
the request of the first one begins with the rest. -/
def Overlaps (left right : Invocation) : Prop :=
  ∃ middle, dashed right.adapterId = dashed left.adapterId ++ '-' :: middle ∧
    dashed left.requestId = middle ++ '-' :: dashed right.requestId

end Invocation

open Invocation

theorem safeSegment_eq_dashed (identifier : Identifier label) :
    (safeSegment identifier.text).toList = dashed identifier := by
  rw [safeSegment, String.toList_ofList, dashed]
  refine List.map_congr_left fun char member => ?_
  have stable := identifier.valid.stable char member
  simp only [isStableIdChar, Bool.or_eq_true, beq_iff_eq] at stable
  unfold safeChar
  by_cases colon : char = ':'
  · rw [if_pos colon, colon]
    rfl
  · rw [if_neg colon, if_pos]
    simp only [Bool.or_eq_true, beq_iff_eq]
    tauto

theorem idOf_eq_iff {left right : Invocation} :
    left.idOf kind = right.idOf kind ↔
      (dashed left.adapterId = dashed right.adapterId ∧
        dashed left.requestId = dashed right.requestId) ∨
      Overlaps left right ∨ Overlaps right left := by
  rw [← String.toList_inj]
  simp only [idOf, String.toList_append, safeSegment_eq_dashed, List.append_assoc,
    List.append_cancel_left_eq]
  exact Text.append_mark_eq_iff

/-- Two invocations have sessions and processes of their own exactly if colons and dashes do
not blur both of their ids, and no dash can be read as the one between adapter and request. -/
theorem sessions_are_unique (left right : Invocation) :
    (left.sessionId ≠ right.sessionId ∧ left.providerProcessId ≠ right.providerProcessId) ↔
      ¬(dashed left.adapterId = dashed right.adapterId ∧
        dashed left.requestId = dashed right.requestId) ∧
      ¬Overlaps left right ∧ ¬Overlaps right left := by
  simp only [sessionId, providerProcessId, ne_eq, idOf_eq_iff, not_or, and_self]

namespace Sample

def invocation (adapter request : String)
    (valid : validateId "adapter" adapter = .ok () ∧ validateId "request" request = .ok ()) :
    Invocation where
  adapterId := { text := adapter, valid := validateId_eq_ok_iff.mp valid.1 }
  requestId := { text := request, valid := validateId_eq_ok_iff.mp valid.2 }

end Sample

/-- Two adapters whose invocations meet in one session, and two requests of one adapter. -/
theorem sessions_collide :
    (∃ left right : Invocation, left.adapterId ≠ right.adapterId ∧
      left.sessionId = right.sessionId ∧ left.providerProcessId = right.providerProcessId) ∧
    ∃ left right : Invocation, left.adapterId = right.adapterId ∧
      left.requestId ≠ right.requestId ∧
      left.sessionId = right.sessionId ∧ left.providerProcessId = right.providerProcessId := by
  constructor
  · refine ⟨Sample.invocation "stdio" "echo-1" (by decide),
      Sample.invocation "stdio-echo" "1" (by decide), ?_, ?_, ?_⟩ <;> decide
  · refine ⟨Sample.invocation "stdio" "req:1" (by decide),
      Sample.invocation "stdio" "req-1" (by decide), ?_, ?_, ?_, ?_⟩ <;> decide

end Eva.Adapter
