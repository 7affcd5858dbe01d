import Eva.Foundation.Ranking
import Eva.Foundation.Utf8
import Eva.Memory.Redaction

/-! # Contexts

A context is built from the memory that an agent may see and the knowledge that its query
finds, all redacted.
-/

namespace Eva.Memory

structure ContextBudget where
  privateMemory : Nat
  globalMemory : Nat
  knowledge : Nat

structure ContextRequest where
  requestId : RequestId
  agentId : AgentId
  query : String
  budget : ContextBudget
  nowMs : U128

structure BuiltContext where
  requestId : RequestId
  agentId : AgentId
  query : String
  memory : List MemoryRecord
  globalMemory : List MemoryRecord
  knowledge : List KnowledgeSearchResult
  redactionCount : Nat
  audit : List String
deriving DecidableEq

structure ContextBuilder where
  memory : InMemoryMemoryService
  knowledge : InMemoryKnowledgeService
  redactionPolicy : RedactionPolicyDomain

namespace ContextBuilder

def redactAll {Item : Type} (redact : Item → Item × Nat) (items : List Item) : List Item × Nat :=
  let redacted := items.map redact
  (redacted.map Prod.fst, (redacted.map Prod.snd).sum)

def auditLines (request : ContextRequest) (policy : RedactionPolicyDomain)
    (privateMemory globalMemory : List MemoryRecord) (knowledge : List KnowledgeSearchResult)
    (redactionCount : Nat) : List String :=
  ["private_memory:" ++ toString privateMemory.length,
   "global_memory:" ++ toString globalMemory.length,
   "knowledge:" ++ toString knowledge.length,
   "expiration_reference_ms:" ++ toString request.nowMs.value,
   "scope:agent_private_plus_global_plus_knowledge",
   if policy.auditRedactions then "redaction:" ++ toString redactionCount
   else "redaction_audit:disabled"]

def build (builder : ContextBuilder) (request : ContextRequest) :
    Except EvaError BuiltContext := do
  rejectIf (Text.isBlank request.query.toList)
    (.invalidArgument "context query cannot be empty")
  let memory := builder.memory.snapshotForAgentAt request.agentId request.budget.privateMemory
    request.budget.globalMemory request.nowMs
  let knowledge ← builder.knowledge.search
    { query := request.query, limit := request.budget.knowledge, requiredTags := [] }
  let policy := builder.redactionPolicy
  let (privateMemory, privateRedactions) := redactAll (redactMemoryRecord policy)
    memory.privateRecords
  let (globalMemory, globalRedactions) := redactAll (redactMemoryRecord policy)
    memory.globalRecords
  let (knowledge, knowledgeRedactions) := redactAll (redactKnowledgeResult policy) knowledge
  let redactionCount := privateRedactions + globalRedactions + knowledgeRedactions
  pure
    { requestId := request.requestId
      agentId := request.agentId
      query := request.query
      memory := privateMemory
      globalMemory
      knowledge
      redactionCount
      audit := auditLines request policy privateMemory globalMemory knowledge redactionCount }

end ContextBuilder

/-! ## Stores that differ where the policy replaces -/

/-- The records are the same but for replaced words of the value. -/
structure MemoryRecord.Alike (policy : RedactionPolicyDomain) (left right : MemoryRecord) :
    Prop where
  rest : right = { left with value := right.value }
  value : SameButReplaced policy left.value right.value

/-- The items are the same but for replaced words of summary and content; their sources are
made from their contents. -/
structure KnowledgeItem.Alike (policy : RedactionPolicyDomain) (left right : KnowledgeItem) :
    Prop where
  rest : right =
    { left with
      summary := right.summary
      content := right.content
      source := .new left.source.uri left.source.title (Text.utf8 right.content.toList) }
  source : left.source = .new left.source.uri left.source.title (Text.utf8 left.content.toList)
  summary : SameButReplaced policy left.summary right.summary
  content : SameButReplaced policy left.content right.content

structure ContextBuilder.Alike (left right : ContextBuilder) : Prop where
  policy : right.redactionPolicy = left.redactionPolicy
  memory : List.Forall₂ (fun one two => one.1 = two.1 ∧
    one.2.Alike left.redactionPolicy two.2) left.memory.records.entries
    right.memory.records.entries
  knowledge : ∀ id, Option.Rel (KnowledgeItem.Alike left.redactionPolicy)
    (left.knowledge.items.get? id) (right.knowledge.items.get? id)

/-- What a search and a digest can still tell apart: length and sum of the contents, and
where the query is found. -/
def KnowledgeItem.LooksLike (query : List Char) (left right : KnowledgeItem) : Prop :=
  lightweightDigest (Text.utf8 left.content.toList) =
      lightweightDigest (Text.utf8 right.content.toList) ∧
    Text.contains (Text.toAsciiLowercase left.summary.toList) query =
      Text.contains (Text.toAsciiLowercase right.summary.toList) query ∧
    Text.contains (Text.toAsciiLowercase left.content.toList) query =
      Text.contains (Text.toAsciiLowercase right.content.toList) query

/-- What the search looks for. -/
def ContextRequest.needle (request : ContextRequest) : List Char :=
  Text.toAsciiLowercase request.query.toList

/-- The query is in the item, and fewer results than the budget has room for come before it. -/
def ContextRequest.Shows (request : ContextRequest) (service : InMemoryKnowledgeService)
    (item : KnowledgeItem) : Prop :=
  ∃ result ∈ scoreItem item request.needle,
    (service.results request.needle).countP (fun other => ¬result.Precedes other) <
      request.budget.knowledge

/-! ## Memory -/

theorem MemoryRecord.Alike.redacted_eq (alike : left.Alike policy right) :
    redactMemoryRecord policy left = redactMemoryRecord policy right := by
  rw [alike.rest]
  simp only [redactMemoryRecord, alike.value.redacted_eq]

/-- Choosing and ordering records does not look at their values. -/
theorem map_redact_sortByKey (records : List MemoryRecord) (chosen : MemoryRecord → Bool)
    (blind : ∀ record, chosen (redactMemoryRecord policy record).1 = chosen record) :
    (InMemoryMemoryService.sortByKey (records.filter chosen)).map (redactMemoryRecord policy) =
      ((records.map (redactMemoryRecord policy)).filter fun redacted =>
        chosen redacted.1).insertionSort fun left right => left.1.key ≤ right.1.key := by
  rw [InMemoryMemoryService.sortByKey, List.map_insertionSort
    (fun left right : MemoryRecord => left.key ≤ right.key)
    (fun left right : MemoryRecord × Nat => left.1.key ≤ right.1.key) _ _
    (fun _ _ _ _ => Iff.rfl), List.filter_map]
  simp only [Function.comp_def, blind]

theorem redactAll_eq_of_map_eq (same : left.map redact = right.map redact) :
    ContextBuilder.redactAll redact left = ContextBuilder.redactAll redact right := by
  simp only [ContextBuilder.redactAll, same]

theorem redactAll_chosen {left right : List MemoryRecord}
    (same : left.map (redactMemoryRecord policy) = right.map (redactMemoryRecord policy))
    (chosen : MemoryRecord → Bool)
    (blind : ∀ record, chosen (redactMemoryRecord policy record).1 = chosen record) (limit : Nat) :
    ContextBuilder.redactAll (redactMemoryRecord policy)
        ((InMemoryMemoryService.sortByKey (left.filter chosen)).take limit) =
      ContextBuilder.redactAll (redactMemoryRecord policy)
        ((InMemoryMemoryService.sortByKey (right.filter chosen)).take limit) := by
  apply redactAll_eq_of_map_eq
  rw [List.map_take, List.map_take, map_redact_sortByKey _ _ blind,
    map_redact_sortByKey _ _ blind, same]

/-! ## Knowledge -/

theorem KnowledgeItem.Alike.filter_haystacks {left right : KnowledgeItem}
    (alike : left.Alike policy right) (looks : left.LooksLike query right) :
    ((left.haystacks.filter fun haystack => haystack.isHit query).map Haystack.weight =
        (right.haystacks.filter fun haystack => haystack.isHit query).map Haystack.weight) ∧
      (left.haystacks.filter fun haystack => haystack.isHit query).map Haystack.name =
        (right.haystacks.filter fun haystack => haystack.isHit query).map Haystack.name := by
  obtain ⟨-, summary, content⟩ := looks
  rw [alike.rest]
  simp only [haystacks, List.filter_append, List.map_append, List.filter_cons, List.filter_nil,
    Haystack.isHit, KnowledgeSource.new, summary, content]
  constructor <;>
  · congr 1
    repeat' split
    all_goals rfl

theorem KnowledgeItem.Alike.scored_eq
    (alike : left.Alike policy right) (looks : left.LooksLike query right) :
    (scoreItem left query).map (redactKnowledgeResult policy) =
      (scoreItem right query).map (redactKnowledgeResult policy) := by
  obtain ⟨weights, names⟩ := alike.filter_haystacks looks
  have items : ∀ score matchedBy, redactKnowledgeResult policy ⟨left, score, matchedBy⟩ =
      redactKnowledgeResult policy ⟨right, score, matchedBy⟩ := by
    intro score matchedBy
    have digests : left.source = .new left.source.uri left.source.title
        (Text.utf8 right.content.toList) := by
      rw [alike.source]
      simp only [KnowledgeSource.new, looks.1]
    rw [alike.rest]
    simp only [redactKnowledgeResult, alike.summary.redacted_eq, alike.content.redacted_eq,
      ← digests]
  simp only [scoreItem, weights, names]
  split
  next => exact congrArg some (items _ _)
  next => rfl

/-- The names of the matches tell whether the query is in the summary and in the content. -/
theorem KnowledgeItem.hits_of_names {left right : KnowledgeItem}
    (names : (left.haystacks.filter fun haystack => haystack.isHit query).map Haystack.name =
      (right.haystacks.filter fun haystack => haystack.isHit query).map Haystack.name) :
    Text.contains (Text.toAsciiLowercase left.summary.toList) query =
        Text.contains (Text.toAsciiLowercase right.summary.toList) query ∧
      Text.contains (Text.toAsciiLowercase left.content.toList) query =
        Text.contains (Text.toAsciiLowercase right.content.toList) query := by
  have tagged (tag name : String) (other : name.toList.head? ≠ some 't') :
      "tag:" ++ tag ≠ name := by
    rintro rfl
    simp at other
  have summary (item : KnowledgeItem) :
      "summary" ∈ (item.haystacks.filter fun haystack => haystack.isHit query).map Haystack.name ↔
        Text.contains (Text.toAsciiLowercase item.summary.toList) query = true := by
    simp [haystacks, Haystack.isHit, or_and_right, exists_or, tagged _ "summary" (by decide)]
  have content (item : KnowledgeItem) :
      "content" ∈ (item.haystacks.filter fun haystack => haystack.isHit query).map Haystack.name ↔
        Text.contains (Text.toAsciiLowercase item.content.toList) query = true := by
    simp [haystacks, Haystack.isHit, or_and_right, exists_or, tagged _ "content" (by decide)]
  constructor
  · rw [Bool.eq_iff_iff, ← summary, ← summary, names]
  · rw [Bool.eq_iff_iff, ← content, ← content, names]

theorem KnowledgeItem.Alike.looksLike (alike : left.Alike policy right)
    (leftScored : scoreItem left query = some one) (rightScored : scoreItem right query = some two)
    (same : (redactKnowledgeResult policy one).1 = (redactKnowledgeResult policy two).1) :
    left.LooksLike query right := by
  obtain ⟨leftItem, leftNames⟩ := scoreItem_eq_some leftScored
  obtain ⟨rightItem, rightNames⟩ := scoreItem_eq_some rightScored
  refine ⟨?_, hits_of_names ?_⟩
  · have sources : left.source = right.source := by
      rw [← leftItem, ← rightItem]
      exact congrArg (fun result => result.item.source) same
    rw [alike.source, alike.rest] at sources
    exact congrArg KnowledgeSource.digest sources
  · rw [← leftNames, ← rightNames]
    exact congrArg (fun result => result.matchedBy) same

/-! ### The results that are shown -/

section Shown

variable {service other : InMemoryKnowledgeService} {request : ContextRequest}

/-- The results that go into the context, before they are redacted. -/
def ContextRequest.shown (request : ContextRequest) (service : InMemoryKnowledgeService) :
    List KnowledgeSearchResult :=
  ((service.results request.needle).insertionSort KnowledgeSearchResult.Precedes).take
    request.budget.knowledge

theorem mem_shown_iff : result ∈ request.shown service ↔ ∃ id item,
    service.items.get? id = some item ∧ scoreItem item request.needle = some result ∧
      request.Shows service item := by
  rw [ContextRequest.shown, mem_take_iff_countP KnowledgeSearchResult.not_precedes_asymm
    (service.pairwise_sorted_results _), List.mem_insertionSort,
    (List.perm_insertionSort ..).countP_eq]
  constructor
  · rintro ⟨found, few⟩
    obtain ⟨id, item, held, scored⟩ := service.mem_results_iff.mp found
    exact ⟨id, item, held, scored, result, scored, few⟩
  · rintro ⟨id, item, held, scored, found, same, few⟩
    obtain rfl : result = found := Option.some.inj (scored.symm.trans same)
    exact ⟨service.mem_results_iff.mpr ⟨id, item, held, scored⟩, few⟩

theorem mem_sorted_of_shown
    (same : ∀ id item, service.items.get? id = some item → request.Shows service item →
      ∃ changed, other.items.get? id = some changed ∧
        (scoreItem item request.needle).map (redactKnowledgeResult policy) =
          (scoreItem changed request.needle).map (redactKnowledgeResult policy)) :
    ∀ redacted ∈ (request.shown service).map (redactKnowledgeResult policy),
      redacted ∈ ((other.results request.needle).insertionSort
        KnowledgeSearchResult.Precedes).map (redactKnowledgeResult policy) := by
  intro redacted member
  obtain ⟨result, shown, rfl⟩ := List.mem_map.mp member
  obtain ⟨id, item, held, scored, shows⟩ := mem_shown_iff.mp shown
  obtain ⟨changed, present, equal⟩ := same id item held shows
  rw [scored, Option.map_some, eq_comm, Option.map_eq_some_iff] at equal
  obtain ⟨counterpart, rescored, redacted⟩ := equal
  exact List.mem_map.mpr ⟨counterpart, (List.mem_insertionSort _).mpr
    (InMemoryKnowledgeService.mem_results_iff.mpr ⟨id, changed, present, rescored⟩), redacted⟩

/-- Where the same is shown, an item that is shown has its counterpart in the other store. -/
theorem counterpart_of_shown {id : KnowledgeId} (held : service.items.get? id = some item)
    (present : other.items.get? id = some changed) (shows : request.Shows service item)
    (same : (request.shown service).map (fun result => (redactKnowledgeResult policy result).1) =
      (request.shown other).map fun result => (redactKnowledgeResult policy result).1) :
    ∃ result counterpart, scoreItem item request.needle = some result ∧
      scoreItem changed request.needle = some counterpart ∧
      (redactKnowledgeResult policy result).1 = (redactKnowledgeResult policy counterpart).1 := by
  obtain ⟨result, scored, few⟩ := shows
  have shown : result ∈ request.shown service :=
    mem_shown_iff.mpr ⟨id, item, held, scored, result, scored, few⟩
  have redacted := List.mem_map_of_mem (f := fun result => (redactKnowledgeResult policy result).1)
    shown
  rw [same, List.mem_map] at redacted
  obtain ⟨counterpart, found, equal⟩ := redacted
  obtain ⟨place, located, stored, rescored, -⟩ := mem_shown_iff.mp found
  obtain rfl : place = id := by
    rw [← other.placed _ _ stored, ← service.placed _ _ held, ← (scoreItem_eq_some scored).1,
      ← (scoreItem_eq_some rescored).1]
    exact congrArg (fun result => result.item.id) equal
  obtain rfl : changed = located := Option.some.inj (present.symm.trans stored)
  exact ⟨result, counterpart, scored, rescored, equal.symm⟩

end Shown

/-! ## Contexts -/

theorem ContextBuilder.Alike.counterparts {left right : ContextBuilder} (alike : left.Alike right)
    (id : KnowledgeId) :
    (∀ one, left.knowledge.items.get? id = some one → ∃ two,
      right.knowledge.items.get? id = some two ∧ one.Alike left.redactionPolicy two) ∧
    ∀ two, right.knowledge.items.get? id = some two → ∃ one,
      left.knowledge.items.get? id = some one ∧ one.Alike left.redactionPolicy two := by
  have related := alike.knowledge id
  generalize left.knowledge.items.get? id = first at related ⊢
  generalize right.knowledge.items.get? id = second at related ⊢
  cases related with
  | some related =>
      exact ⟨fun _ held => Option.some.inj held ▸ ⟨_, rfl, related⟩,
        fun _ held => Option.some.inj held ▸ ⟨_, rfl, related⟩⟩
  | none => simp

theorem map_redact_shown_eq {left right : ContextBuilder} {request : ContextRequest}
    (alike : left.Alike right)
    (looks : ∀ id one two, left.knowledge.items.get? id = some one →
      right.knowledge.items.get? id = some two →
      request.Shows left.knowledge one ∨ request.Shows right.knowledge two →
        one.LooksLike request.needle two) :
    (request.shown left.knowledge).map (redactKnowledgeResult left.redactionPolicy) =
      (request.shown right.knowledge).map (redactKnowledgeResult left.redactionPolicy) := by
  have inRight := @mem_sorted_of_shown left.knowledge right.knowledge request left.redactionPolicy
    fun id one held shows => by
      obtain ⟨two, stored, related⟩ := (alike.counterparts id).1 one held
      exact ⟨two, stored, related.scored_eq (looks id one two held stored (.inl shows))⟩
  have inLeft := @mem_sorted_of_shown right.knowledge left.knowledge request left.redactionPolicy
    fun id two held shows => by
      obtain ⟨one, stored, related⟩ := (alike.counterparts id).2 two held
      exact ⟨one, stored, (related.scored_eq (looks id one two stored held (.inr shows))).symm⟩
  simp only [ContextRequest.shown, List.map_take] at inRight inLeft ⊢
  exact @take_eq_take _ (fun one two => ¬two.1.Precedes one.1)
    (fun one two => KnowledgeSearchResult.not_precedes_asymm one.1 two.1) _ _ _
    (List.pairwise_map.mpr (left.knowledge.pairwise_sorted_results _))
    (List.pairwise_map.mpr (right.knowledge.pairwise_sorted_results _)) inRight inLeft

/-- Two stores that are the same but for replaced words give the same context if and only if
the search cannot tell the items apart that it shows of either. -/
theorem build_eq_iff_of_alike {left right : ContextBuilder} (alike : left.Alike right)
    (request : ContextRequest) :
    left.build request = right.build request ↔
      (Text.isBlank request.query.toList = false → ∀ id one two,
        left.knowledge.items.get? id = some one → right.knowledge.items.get? id = some two →
        request.Shows left.knowledge one ∨ request.Shows right.knowledge two →
          one.LooksLike request.needle two) := by
  have records : left.memory.records.values.map (redactMemoryRecord left.redactionPolicy) =
      right.memory.records.values.map (redactMemoryRecord left.redactionPolicy) := by
    simp only [SortedMap.values, List.map_map]
    exact map_eq_of_forall₂ alike.memory fun _ _ related => related.2.redacted_eq
  have privates := redactAll_chosen records (fun record => record.visibility = .private_ ∧
    record.ownerAgent = some request.agentId ∧ record.isExpiredAt request.nowMs = false)
    (fun _ => rfl) request.budget.privateMemory
  have globals := redactAll_chosen records (fun record => record.visibility = .global ∧
    record.isExpiredAt request.nowMs = false) (fun _ => rfl) request.budget.globalMemory
  have untagged (items : List KnowledgeItem) : items.filter (hasRequiredTags · []) = items := by
    simp [hasRequiredTags]
  simp only [ContextBuilder.build, InMemoryKnowledgeService.search, alike.policy, untagged,
    InMemoryMemoryService.snapshotForAgentAt, InMemoryMemoryService.listPrivateAt,
    InMemoryMemoryService.listGlobalAt, privates, globals]
  cases Text.isBlank request.query.toList with
  | true => simp [rejectIf]
  | false =>
      simp only [rejectIf, Bool.false_eq_true, if_false, ok_bind, pure, Except.pure,
        forall_const]
      constructor
      · intro same id one two inLeft inRight shows
        have shown := congrArg BuiltContext.knowledge (Except.ok.inj same)
        obtain ⟨other, stored, related⟩ := (alike.counterparts id).1 one inLeft
        obtain rfl : two = other := Option.some.inj (inRight.symm.trans stored)
        simp only [ContextBuilder.redactAll, List.map_map] at shown
        rcases shows with shows | shows
        · obtain ⟨_, _, scored, rescored, equal⟩ := counterpart_of_shown inLeft inRight shows shown
          exact related.looksLike scored rescored equal
        · obtain ⟨_, _, rescored, scored, equal⟩ :=
            counterpart_of_shown inRight inLeft shows shown.symm
          exact related.looksLike scored rescored equal.symm
      · intro looks
        have found := redactAll_eq_of_map_eq (map_redact_shown_eq alike looks)
        simp only [ContextRequest.shown, InMemoryKnowledgeService.results,
          ContextRequest.needle] at found
        rw [found]

/-! ### One record and one item -/

def noteRecord (value : String) : MemoryRecord where
  key := "note"
  value
  visibility := .private_
  ownerAgent := some exampleAgent
  retention := .session
  version := 1
  requestId := none
  auditReason := "agent private memory write"
  createdAtMs := 0
  expiresAtMs := none
  compression := .none

def loginItem (content : String) : KnowledgeItem where
  id := ⟨"login", by decide, by decide, by decide, by decide⟩
  source := .new "docs/login.md" "login" (Text.utf8 content.toList)
  summary := "how to log in"
  content
  tags := []
  requestId := none

def loginBuilder (value content : String) : ContextBuilder where
  memory := InMemoryMemoryService.new.place (noteRecord value)
    (show validateMemoryKey "note" = .ok () by decide)
  knowledge := InMemoryKnowledgeService.new.place (loginItem content)
  redactionPolicy := .default

def askFor (query : String) : ContextRequest where
  requestId := ⟨"req-1", by decide⟩
  agentId := exampleAgent
  query
  budget := ⟨8, 8, 8⟩
  nowMs := 0

theorem loginBuilder_alike (values : SameButReplaced .default value other)
    (contents : SameButReplaced .default content changed) :
    (loginBuilder value content).Alike (loginBuilder other changed) where
  policy := rfl
  memory := .cons ⟨rfl, rfl, values⟩ .nil
  knowledge id := by
    have placed (text : String) : (loginBuilder other text).knowledge.items.get? id =
        if id = (loginItem content).id then some (loginItem text) else none := by
      split
      next here => exact here ▸ SortedMap.get?_insert_self
      next elsewhere => exact SortedMap.get?_insert_of_ne elsewhere
    rw [placed, show (loginBuilder value content).knowledge.items.get? id = _ from placed content]
    split
    next => exact .some ⟨rfl, rfl, .same _, contents⟩
    next => exact .none

theorem sameButReplaced_word (one : Text.splitWhitespace left.toList = [left.toList])
    (two : Text.splitWhitespace right.toList = [right.toList])
    (both : BothReplaced .default left.toList right.toList) :
    SameButReplaced .default left right :=
  .replaced rfl (by
    rw [one, two]
    exact .cons (.inr both) .nil)

theorem build_eq_iff_of_alike_login :
    (loginBuilder "token=a" "token=ab").build (askFor "log") =
        (loginBuilder "token=xyz" "token=ba").build (askFor "log") ∧
      (loginBuilder "note" "token=a").build (askFor " ") =
        (loginBuilder "note" "token=ab").build (askFor " ") := by
  refine ⟨(build_eq_iff_of_alike (loginBuilder_alike
    (sameButReplaced_word (by decide) (by decide) ⟨by decide, by decide⟩)
    (sameButReplaced_word (by decide) (by decide) ⟨by decide, by decide⟩)) _).mpr ?_,
    (build_eq_iff_of_alike (loginBuilder_alike (.same _)
      (sameButReplaced_word (by decide) (by decide) ⟨by decide, by decide⟩)) _).mpr ?_⟩
  · intro _ id one two inLeft inRight _
    have left := SortedMap.get?_eq_some_iff.mp inLeft
    have right := SortedMap.get?_eq_some_iff.mp inRight
    obtain rfl : one = loginItem "token=ab" := congrArg Prod.snd (List.mem_singleton.mp left)
    obtain rfl : two = loginItem "token=ba" := congrArg Prod.snd (List.mem_singleton.mp right)
    exact ⟨by decide, by decide, by decide⟩
  · exact fun visible => absurd visible (by decide)

/-- The digest of the unredacted content goes into the context; and where the digests are
the same, the query can still be found in what is replaced. -/
theorem context_tells_replaced_words :
    ((loginBuilder "note" "token=a").Alike (loginBuilder "note" "token=ab") ∧
      (loginBuilder "note" "token=a").build (askFor "log") ≠
        (loginBuilder "note" "token=ab").build (askFor "log")) ∧
    (loginBuilder "note" "token=ab").Alike (loginBuilder "note" "token=ba") ∧
      (loginBuilder "note" "token=ab").build (askFor "=ab") ≠
        (loginBuilder "note" "token=ba").build (askFor "=ab") := by
  refine ⟨⟨loginBuilder_alike (.same _) ?_, by decide⟩,
    loginBuilder_alike (.same _) ?_, by decide +kernel⟩
  · exact sameButReplaced_word (by decide) (by decide) ⟨by decide, by decide⟩
  · exact sameButReplaced_word (by decide) (by decide) ⟨by decide, by decide⟩

end Eva.Memory
