import Eva.Core.Identifiers
import Eva.Foundation.SortedMap
import Eva.Foundation.Unsigned
import Mathlib.Data.Prod.Lex
import Mathlib.Data.String.Basic
import Mathlib.Order.WithBot

/-! # Memory of agents

Records are private to an agent or global. A snapshot for an agent shows its own and the
global ones, without what has expired.
-/

namespace Eva.Memory

inductive MemoryVisibility where
  | private_
  | global
deriving DecidableEq

inductive MemoryRetention where
  | session
  | persistent
deriving DecidableEq

inductive MemoryCompression where
  | none
  | runLength
deriving DecidableEq

structure MemoryRecord where
  key : String
  value : String
  visibility : MemoryVisibility
  ownerAgent : Option AgentId
  retention : MemoryRetention
  version : U64
  requestId : Option RequestId
  auditReason : String
  createdAtMs : U128
  expiresAtMs : Option U128
  compression : MemoryCompression
deriving DecidableEq

def MemoryRecord.isExpiredAt (record : MemoryRecord) (nowMs : U128) : Bool :=
  match record.expiresAtMs with
  | some expiresAtMs => expiresAtMs ≤ nowMs
  | none => false

/-! ## Places of records -/

structure MemoryIndexKey where
  visibility : MemoryVisibility
  owner : Option AgentId
  key : String
deriving DecidableEq

namespace MemoryIndexKey

/-- Ordered by visibility, then owner, then key. -/
def rank (index : MemoryIndexKey) : Bool ×ₗ WithBot String ×ₗ String :=
  toLex (index.visibility = .global,
    toLex ((index.owner.map Identifier.text : Option String), index.key))

theorem rank_injective : Function.Injective rank := by
  intro left right same
  obtain ⟨visibility, owner, key⟩ := left
  obtain ⟨otherVisibility, otherOwner, otherKey⟩ := right
  simp only [rank, EmbeddingLike.apply_eq_iff_eq, Prod.mk.injEq, decide_eq_decide] at same
  have owners : owner = otherOwner :=
    Option.map_injective (fun _ _ text => Identifier.eq_of_text text) (congrArg Prod.fst same.2)
  have keys : key = otherKey := congrArg Prod.snd same.2
  have visibilities : visibility = otherVisibility := by
    cases visibility <;> cases otherVisibility <;> simp_all
  rw [owners, visibilities, keys]

instance : LinearOrder MemoryIndexKey := LinearOrder.lift' rank rank_injective

end MemoryIndexKey

def MemoryRecord.index (record : MemoryRecord) : MemoryIndexKey :=
  ⟨record.visibility, record.ownerAgent, record.key⟩

/-! ## The service -/

def validateMemoryKey (key : String) : Except EvaError Unit := do
  rejectIf (Text.isBlank key.toList) (.invalidArgument "memory key cannot be empty")
  rejectIf (Text.trim key.toList ≠ key.toList)
    (.invalidArgument "memory key cannot contain leading or trailing whitespace")
  rejectIf (128 < key.utf8ByteSize) (.invalidArgument "memory key is too long")

/-- Every record stands in its own place, under a key that was checked. -/
structure InMemoryMemoryService where
  records : SortedMap MemoryIndexKey MemoryRecord
  placed : ∀ index record, records.get? index = some record →
    record.index = index ∧ validateMemoryKey record.key = .ok ()

namespace InMemoryMemoryService

def new : InMemoryMemoryService := ⟨.empty, by simp⟩

def place (service : InMemoryMemoryService) (record : MemoryRecord)
    (checked : validateMemoryKey record.key = .ok ()) : InMemoryMemoryService where
  records := service.records.insert record.index record
  placed := by
    intro index other found
    by_cases same : index = record.index
    · subst same
      rw [SortedMap.get?_insert_self, Option.some.injEq] at found
      exact found ▸ ⟨rfl, checked⟩
    · rw [SortedMap.get?_insert_of_ne same] at found
      exact service.placed index other found

def sortByKey (records : List MemoryRecord) : List MemoryRecord :=
  records.insertionSort fun left right => left.key ≤ right.key

def listPrivateAt (service : InMemoryMemoryService) (requester : AgentId) (nowMs : U128) :
    List MemoryRecord :=
  sortByKey (service.records.values.filter fun record =>
    record.visibility = .private_ ∧ record.ownerAgent = some requester ∧
      record.isExpiredAt nowMs = false)

def listGlobalAt (service : InMemoryMemoryService) (nowMs : U128) : List MemoryRecord :=
  sortByKey (service.records.values.filter fun record =>
    record.visibility = .global ∧ record.isExpiredAt nowMs = false)

end InMemoryMemoryService

structure MemorySnapshot where
  privateRecords : List MemoryRecord
  globalRecords : List MemoryRecord

def InMemoryMemoryService.snapshotForAgentAt (service : InMemoryMemoryService)
    (requester : AgentId) (privateLimit globalLimit : Nat) (nowMs : U128) : MemorySnapshot where
  privateRecords := (service.listPrivateAt requester nowMs).take privateLimit
  globalRecords := (service.listGlobalAt nowMs).take globalLimit

end Eva.Memory
