import Eva.Core.Identifiers
import Eva.Foundation.SortedMap
import Eva.Foundation.Unsigned
import Mathlib.Data.String.Basic

/-! # Knowledge of a project

Items are found by a text that some of their fields contain, best matches first.
-/

namespace Eva.Memory

structure IsKnowledgeId (value : String) : Prop where
  visible : Text.isBlank value.toList = false
  trimmed : Text.trim value.toList = value.toList
  separate : '/' ∉ value.toList ∧ '\\' ∉ value.toList

structure KnowledgeId where
  text : String
  valid : IsKnowledgeId text
deriving DecidableEq

namespace KnowledgeId

theorem text_injective : Function.Injective text := by
  rintro ⟨left, _⟩ ⟨right, _⟩ rfl
  rfl

instance : LinearOrder KnowledgeId := LinearOrder.lift' text text_injective

end KnowledgeId

structure KnowledgeSource where
  uri : String
  title : String
  digest : String
deriving DecidableEq

/-- Length and sum of the bytes. -/
def lightweightDigest (bytes : List UInt8) : String :=
  "len:" ++ toString bytes.length ++ ":sum:" ++ toString (bytes.map UInt8.toNat).sum

def KnowledgeSource.new (uri title : String) (bytes : List UInt8) : KnowledgeSource where
  uri
  title
  digest := lightweightDigest bytes

structure KnowledgeItem where
  id : KnowledgeId
  source : KnowledgeSource
  summary : String
  content : String
  tags : List String
  requestId : Option RequestId
deriving DecidableEq

structure KnowledgeSearch where
  query : String
  limit : Nat
  requiredTags : List String

structure KnowledgeSearchResult where
  item : KnowledgeItem
  score : Nat
  matchedBy : List String
deriving DecidableEq

/-- Every item stands under its id. -/
structure InMemoryKnowledgeService where
  items : SortedMap KnowledgeId KnowledgeItem
  placed : ∀ id item, items.get? id = some item → item.id = id

namespace InMemoryKnowledgeService

def new : InMemoryKnowledgeService := ⟨.empty, by simp⟩

def place (service : InMemoryKnowledgeService) (item : KnowledgeItem) :
    InMemoryKnowledgeService where
  items := service.items.insert item.id item
  placed := by
    intro id other found
    by_cases same : id = item.id
    · subst same
      rw [SortedMap.get?_insert_self, Option.some.injEq] at found
      exact found ▸ rfl
    · rw [SortedMap.get?_insert_of_ne same] at found
      exact service.placed id other found

end InMemoryKnowledgeService

/-! ## Search -/

def hasRequiredTags (item : KnowledgeItem) (requiredTags : List String) : Bool :=
  requiredTags.all fun tag => tag ∈ item.tags

/-- One field of an item, with its weight and its name among the matches. -/
structure Haystack where
  weight : Nat
  name : String
  text : String

def Haystack.isHit (haystack : Haystack) (query : List Char) : Bool :=
  Text.contains (Text.toAsciiLowercase haystack.text.toList) query

def KnowledgeItem.haystacks (item : KnowledgeItem) : List Haystack :=
  [⟨3, "id", item.id.text⟩, ⟨3, "title", item.source.title⟩, ⟨3, "summary", item.summary⟩,
   ⟨1, "content", item.content⟩] ++ item.tags.map fun tag => ⟨2, "tag:" ++ tag, tag⟩

def scoreItem (item : KnowledgeItem) (query : List Char) : Option KnowledgeSearchResult :=
  let hits := item.haystacks.filter fun haystack => haystack.isHit query
  let score := (hits.map Haystack.weight).sum
  if 0 < score then some { item, score, matchedBy := hits.map Haystack.name } else none

/-- The higher score first, then the smaller id. -/
def KnowledgeSearchResult.Precedes (left right : KnowledgeSearchResult) : Prop :=
  right.score < left.score ∨ right.score = left.score ∧ left.item.id ≤ right.item.id

instance (left right : KnowledgeSearchResult) : Decidable (left.Precedes right) :=
  inferInstanceAs (Decidable (_ ∨ _ ∧ _))

namespace KnowledgeSearchResult

instance : IsTrans KnowledgeSearchResult Precedes where
  trans := by
    rintro _ _ _ (above | ⟨level, before⟩) (higher | ⟨same, later⟩)
    · exact .inl (higher.trans above)
    · exact .inl (same.trans_lt above)
    · exact .inl (higher.trans_eq level)
    · exact .inr ⟨same.trans level, before.trans later⟩

instance : Std.Total Precedes where
  total left right := by
    rcases Nat.lt_trichotomy left.score right.score with less | same | more
    · exact .inr (.inl less)
    · exact (le_total left.item.id right.item.id).imp (fun before => .inr ⟨same.symm, before⟩)
        fun before => .inr ⟨same, before⟩
    · exact .inl (.inl more)

theorem Precedes.id_eq (first : Precedes left right) (second : Precedes right left) :
    left.item.id = right.item.id := by
  rcases first with above | ⟨level, before⟩
  · rcases second with below | ⟨level, -⟩
    · exact absurd above (Nat.lt_asymm below)
    · exact absurd level (Nat.ne_of_gt above)
  · rcases second with below | ⟨-, after⟩
    · exact absurd level (Nat.ne_of_gt below)
    · exact le_antisymm before after

theorem not_precedes_asymm (left right : KnowledgeSearchResult) (before : ¬right.Precedes left) :
    ¬¬left.Precedes right :=
  not_not.mpr ((total_of Precedes left right).resolve_right before)

end KnowledgeSearchResult

def InMemoryKnowledgeService.search (service : InMemoryKnowledgeService)
    (search : KnowledgeSearch) : Except EvaError (List KnowledgeSearchResult) := do
  rejectIf (Text.isBlank search.query.toList)
    (.invalidArgument "knowledge search query cannot be empty")
  let query := Text.toAsciiLowercase search.query.toList
  let results := (service.items.values.filter (hasRequiredTags · search.requiredTags)).filterMap
    (scoreItem · query)
  pure ((results.insertionSort KnowledgeSearchResult.Precedes).take search.limit)

/-! ### Results -/

theorem scoreItem_eq_some (scored : scoreItem item query = some result) :
    result.item = item ∧ result.matchedBy =
      (item.haystacks.filter fun haystack => haystack.isHit query).map Haystack.name := by
  unfold scoreItem at scored
  dsimp only at scored
  split at scored
  next => exact Option.some.inj scored ▸ ⟨rfl, rfl⟩
  next => cases scored

namespace InMemoryKnowledgeService

def results (service : InMemoryKnowledgeService) (query : List Char) : List KnowledgeSearchResult :=
  service.items.values.filterMap (scoreItem · query)

theorem mem_results_iff {service : InMemoryKnowledgeService} : result ∈ service.results query ↔
    ∃ id item, service.items.get? id = some item ∧ scoreItem item query = some result := by
  simp only [results, SortedMap.values, List.mem_filterMap, List.mem_map, Prod.exists,
    SortedMap.get?_eq_some_iff]
  grind

/-- No two results have the same id, so each is before or behind any other. -/
theorem pairwise_sorted_results (service : InMemoryKnowledgeService) (query : List Char) :
    ((service.results query).insertionSort KnowledgeSearchResult.Precedes).Pairwise
      fun left right => ¬right.Precedes left := by
  have distinct : (service.results query).Pairwise fun left right =>
      left.item.id ≠ right.item.id := by
    have items : service.items.values.Pairwise fun left right => left.id ≠ right.id := by
      refine List.pairwise_map.mpr (service.items.sorted.imp_of_mem fun first second less => ?_)
      rw [service.placed _ _ (SortedMap.get?_eq_some_iff.mpr first),
        service.placed _ _ (SortedMap.get?_eq_some_iff.mpr second)]
      exact ne_of_lt less
    refine items.filterMap _ fun one two different first scored second rescored => ?_
    rwa [(scoreItem_eq_some scored).1, (scoreItem_eq_some rescored).1]
  have permuted := List.perm_insertionSort KnowledgeSearchResult.Precedes (service.results query)
  refine (List.pairwise_insertionSort _ _).imp₂ (fun left right before different after => ?_)
    (permuted.symm.pairwise distinct fun different => different.symm)
  exact different (before.id_eq after)

end InMemoryKnowledgeService

end Eva.Memory
