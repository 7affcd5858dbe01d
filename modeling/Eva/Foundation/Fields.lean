import Eva.Foundation.Checks
import Eva.Foundation.Text
import Mathlib.Data.List.Nodup

/-! # Records of named fields

A record is a text with one `name=value` line for each field. Readers differ in
the lines they skip, the names they allow and what they do with a name that
comes twice; what is written with different names and plain values reads back
under all of these rules.
-/

namespace Eva.Fields

/-- A later field of a name hides an earlier one behind it. -/
abbrev FieldMap := List (String × String)

def line (field : String × String) : List Char := field.1.toList ++ '=' :: field.2.toList

def render (fields : FieldMap) : String :=
  String.ofList (fields.flatMap fun field => line field ++ ['\n'])

structure Rules (Error : Type) where
  skips : List Char → Bool
  malformed : Error
  checkName : String → Except Error Unit
  repeated : String → Except Error Unit

namespace Rules

variable {Error : Type} (rules : Rules Error)

def insertLine (fields : FieldMap) (text : List Char) : Except Error FieldMap := do
  let (name, value) ← orReject rules.malformed (Text.splitOnce '=' text)
  let name := String.ofList name
  rules.checkName name
  if (fields.lookup name).isSome then rules.repeated name else pure ()
  pure ((name, String.ofList value) :: fields)

def parse (text : String) : Except Error FieldMap :=
  ((Text.lines text.toList).filter fun line => !rules.skips line).foldlM rules.insertLine []

/-- Some readers also check each value where it stands. -/
def insertChecked (check : String × String → Except Error Unit) (fields : FieldMap)
    (text : List Char) : Except Error FieldMap := do
  let fields ← rules.insertLine fields text
  match fields.head? with
  | some field => check field
  | none => pure ()
  pure fields

def parseChecked (check : String × String → Except Error Unit) (text : String) :
    Except Error FieldMap :=
  ((Text.lines text.toList).filter fun line => !rules.skips line).foldlM
    (rules.insertChecked check) []

end Rules

/-! ## Reading back -/

open Text

/-- The fields can be told apart and stay within their lines. -/
structure Writable {Error : Type} (rules : Rules Error) (fields : FieldMap) : Prop where
  distinct : (fields.map Prod.fst).Nodup
  names : ∀ field ∈ fields, '=' ∉ field.1.toList ∧ Plain field.1.toList ∧
    rules.checkName field.1 = .ok ()
  values : ∀ field ∈ fields, Plain field.2.toList
  kept : ∀ field ∈ fields, rules.skips (line field) = false

theorem Writable.of_names {rules : Rules Error} (names : List String)
    (named : fields.map Prod.fst = names) (distinct : names.Nodup)
    (checked : ∀ name ∈ names, '=' ∉ name.toList ∧ '\n' ∉ name.toList ∧ '\r' ∉ name.toList ∧
      rules.checkName name = .ok ())
    (kept : ∀ field, rules.skips (line field) = false)
    (values : ∀ field ∈ fields, Plain field.2.toList) : Writable rules fields where
  distinct := named ▸ distinct
  names field member := by
    obtain ⟨separate, feed, carriage, accepted⟩ :=
      checked field.1 (named ▸ List.mem_map_of_mem member)
    exact ⟨separate, ⟨feed, carriage⟩, accepted⟩
  values := values
  kept field _ := kept field

/-- The equals sign between name and value is not blank. -/
theorem isBlank_line (field : String × String) : isBlank (line field) = false := by
  rw [isBlank, List.all_eq_false]
  exact ⟨'=', by simp [line], by decide⟩

theorem plain_line (name : Plain field.1.toList)
    (value : Plain field.2.toList) : Plain (line field) := by
  refine plain_append.mpr ⟨name, ?_⟩
  simpa [Plain] using value

theorem lines_render (inLine : ∀ field ∈ fields, InLine (line field)) :
    Text.lines (render fields).toList = fields.map line := by
  have written : (render fields).toList = Text.unlines (fields.map line) := by
    rw [render, String.toList_ofList, Text.unlines, List.flatMap_map]
  rw [written]
  apply Text.lines_unlines
  · intro part member
    obtain ⟨field, held, rfl⟩ := List.mem_map.mp member
    exact (inLine field held).1
  · intro part member
    obtain ⟨field, held, rfl⟩ := List.mem_map.mp member
    exact (inLine field held).2

/-- Somewhere the second value goes on as the first one and the name of the next line. -/
def RunsOver : FieldMap → FieldMap → Prop
  | (_, short) :: rest, (_, long) :: others =>
      (∃ next ∈ rest.head?, short.toList ++ '\n' :: (next.1.toList ++ ['=']) <+: long.toList) ∨
        RunsOver rest others
  | _, _ => False

theorem not_runsOver_self (fields : FieldMap) : ¬RunsOver fields fields := by
  induction fields with
  | nil => exact id
  | cons field rest induction =>
      rintro (⟨next, -, longer⟩ | runs)
      · have length := longer.length_le
        rw [List.length_append, List.length_cons] at length
        omega
      · exact induction runs

theorem toList_render_cons (field : String × String) (fields : FieldMap) :
    (render (field :: fields)).toList =
      field.1.toList ++ '=' :: (field.2.toList ++ '\n' :: (render fields).toList) := by
  simp [render, line]

private theorem runsOver_cons (named : ∀ name ∈ rest.map Prod.fst, '\n' ∉ name.toList)
    (longer : long.toList = short.toList ++ '\n' :: middle)
    (following : (render rest).toList = middle ++ '\n' :: after) :
    RunsOver ((name, short) :: rest) ((name, long) :: others) := by
  cases rest with
  | nil => simp [render] at following
  | cons next rest =>
      refine .inl ⟨next, rfl, ?_⟩
      have unmarked : '\n' ∉ next.1.toList ++ ['='] := by
        simpa using named next.1 List.mem_cons_self
      rw [longer, List.prefix_append_right_inj, List.prefix_cons_inj]
      rw [toList_render_cons, ← List.singleton_append, ← List.append_assoc] at following
      rcases List.append_eq_append_iff.mp following with
        ⟨between, within, -⟩ | ⟨between, beyond, rest⟩
      · exact ⟨between, within.symm⟩
      · cases between with
        | nil => exact ⟨[], by rw [beyond, List.append_nil, List.append_nil]⟩
        | cons mark between =>
            obtain ⟨rfl, -⟩ := List.cons.inj rest
            exact absurd (beyond ▸ List.mem_append_right _ List.mem_cons_self) unmarked

/-- Fields with the same names and the same text are equal, unless a value runs over into
the next line. -/
theorem render_inj_iff (names : left.map Prod.fst = right.map Prod.fst)
    (named : ∀ name ∈ left.map Prod.fst, '\n' ∉ name.toList)
    (same : render left = render right) :
    left = right ↔ ¬RunsOver left right ∧ ¬RunsOver right left := by
  constructor
  · rintro rfl
    exact ⟨not_runsOver_self left, not_runsOver_self left⟩
  · induction left generalizing right with
    | nil => exact fun _ => (List.map_eq_nil_iff.mp names.symm).symm
    | cons field left induction =>
        cases right with
        | nil => cases names
        | cons other right =>
            obtain ⟨name, short⟩ := field
            obtain ⟨otherName, long⟩ := other
            obtain ⟨rfl, rest⟩ := List.cons.inj names
            rintro ⟨within, inside⟩
            have later : ∀ name ∈ left.map Prod.fst, '\n' ∉ name.toList :=
              fun name member => named name (List.mem_cons_of_mem _ member)
            have texts := congrArg String.toList same
            simp only [toList_render_cons, List.append_cancel_left_eq, List.cons.injEq,
              true_and] at texts
            rcases Text.append_mark_eq_iff.mp texts with
              ⟨values, tails⟩ | ⟨middle, longer, following⟩ | ⟨middle, longer, following⟩
            · obtain rfl := String.toList_injective values
              rw [induction rest later (String.toList_injective tails)
                ⟨fun runs => within (.inr runs), fun runs => inside (.inr runs)⟩]
            · exact absurd (runsOver_cons later longer following) within
            · exact absurd (runsOver_cons (rest ▸ later) longer following) inside

theorem lookup_eq_none_iff {fields : List (String × Value)} :
    fields.lookup name = none ↔ name ∉ fields.map Prod.fst := by
  rw [List.lookup_eq_none_iff, List.mem_map]
  constructor
  · rintro different ⟨field, member, rfl⟩
    simpa using different field member
  · intro absent field member
    exact bne_iff_ne.mpr fun same => absent ⟨field, member, same.symm⟩

theorem lookup_reverse {fields : FieldMap} (distinct : (fields.map Prod.fst).Nodup)
    (name : String) : fields.reverse.lookup name = fields.lookup name := by
  induction fields with
  | nil => rfl
  | cons field fields induction =>
      rw [List.map_cons, List.nodup_cons] at distinct
      rw [List.reverse_cons, List.lookup_append, induction distinct.2, List.lookup_cons,
        List.lookup_cons]
      by_cases same : name = field.1
      · subst same
        simp [lookup_eq_none_iff.mpr distinct.1]
      · simp [beq_false_of_ne same]

theorem lookup_of_mem {fields : FieldMap} (distinct : (fields.map Prod.fst).Nodup)
    (member : field ∈ fields) :
    fields.lookup field.1 = some field.2 := by
  induction fields with
  | nil => cases member
  | cons head fields induction =>
      rw [List.map_cons, List.nodup_cons] at distinct
      rcases List.mem_cons.mp member with rfl | later
      · rw [List.lookup_cons, beq_self_eq_true]
      · have other : field.1 ≠ head.1 := fun same =>
          distinct.1 (same ▸ List.mem_map_of_mem later)
        rw [List.lookup_cons, beq_false_of_ne other]
        exact induction distinct.2 later

theorem lookup_parsed {fields : FieldMap} (distinct : (fields.map Prod.fst).Nodup)
    (member : field ∈ fields) :
    fields.reverse.lookup field.1 = some field.2 :=
  (lookup_reverse distinct _).trans (lookup_of_mem distinct member)

/-! ## Reading written lines

A name may come again where the rules allow it.
-/

section Listed

variable {rules : Rules Error}

private theorem insertChecked_line
    (separate : '=' ∉ field.1.toList) (allowed : rules.checkName field.1 = .ok ())
    (fresh : field.1 ∉ fields.map Prod.fst ∨ rules.repeated field.1 = .ok ())
    (checked : check field = .ok ()) :
    rules.insertChecked check fields (line field) = .ok (field :: fields) := by
  have inserted : rules.insertLine fields (line field) = .ok (field :: fields) := by
    simp only [Rules.insertLine, line, Text.splitOnce_append separate, orReject, ok_bind,
      String.ofList_toList, allowed]
    rcases fresh with fresh | repeated
    · rw [lookup_eq_none_iff.mpr fresh]
      rfl
    · rw [repeated]
      split <;> rfl
  simp only [Rules.insertChecked, inserted, ok_bind, List.head?_cons, checked]
  rfl

private theorem foldlM_insertChecked (rest : FieldMap) (seen : FieldMap)
    (separate : ∀ field ∈ rest, '=' ∉ field.1.toList)
    (allowed : ∀ field ∈ rest, rules.checkName field.1 = .ok ())
    (checked : ∀ field ∈ rest, check field = .ok ())
    (distinct : (rest.map Prod.fst).Pairwise fun earlier later =>
      earlier ≠ later ∨ rules.repeated later = .ok ())
    (fresh : ∀ field ∈ rest, field.1 ∉ seen.map Prod.fst ∨ rules.repeated field.1 = .ok ()) :
    (rest.map line).foldlM (rules.insertChecked check) seen = .ok (rest.reverse ++ seen) := by
  induction rest generalizing seen with
  | nil => rfl
  | cons field rest induction =>
      simp only [List.forall_mem_cons] at separate allowed checked fresh
      rw [List.map_cons, List.pairwise_cons] at distinct
      rw [List.map_cons, List.foldlM_cons,
        insertChecked_line separate.1 allowed.1 fresh.1 checked.1, ok_bind,
        induction (field :: seen) separate.2 allowed.2 checked.2 distinct.2]
      · simp
      · intro later member
        rcases fresh.2 later member with unseen | repeated
        · rcases distinct.1 later.1 (List.mem_map_of_mem member) with different | repeated
          · left
            simpa [different.symm] using unseen
          · exact .inr repeated
        · exact .inr repeated

theorem parseChecked_render (separate : ∀ field ∈ fields, '=' ∉ field.1.toList)
    (plain : ∀ field ∈ fields, Plain field.1.toList ∧ Plain field.2.toList)
    (kept : ∀ field ∈ fields, rules.skips (line field) = false)
    (allowed : ∀ field ∈ fields, rules.checkName field.1 = .ok ())
    (checked : ∀ field ∈ fields, check field = .ok ())
    (distinct : (fields.map Prod.fst).Pairwise fun earlier later =>
      earlier ≠ later ∨ rules.repeated later = .ok ()) :
    rules.parseChecked check (render fields) = .ok fields.reverse := by
  have whole : ((fields.map line).filter fun line => !rules.skips line) = fields.map line := by
    rw [List.filter_eq_self]
    intro text member
    obtain ⟨field, held, rfl⟩ := List.mem_map.mp member
    simp [kept field held]
  rw [Rules.parseChecked, lines_render fun field member => Plain.inLine <|
    plain_line (plain field member).1 (plain field member).2, whole,
    foldlM_insertChecked fields [] separate allowed checked distinct
      (fun field _ => .inl (by simp)), List.append_nil]

theorem parse_render (writable : Writable rules fields) :
    rules.parse (render fields) = .ok fields.reverse := by
  have unchecked : rules.insertLine = rules.insertChecked fun _ => .ok () := by
    funext seen text
    rw [Rules.insertChecked]
    cases rules.insertLine seen text with
    | error error => rfl
    | ok fields => cases fields <;> rfl
  have parsed : rules.parse (render fields) =
      rules.parseChecked (fun _ => .ok ()) (render fields) := by
    rw [Rules.parse, Rules.parseChecked, unchecked]
  rw [parsed]
  exact parseChecked_render (fun field member => (writable.names field member).1)
    (fun field member => ⟨(writable.names field member).2.1, writable.values field member⟩)
    writable.kept (fun field member => (writable.names field member).2.2) (fun _ _ => rfl)
    (writable.distinct.imp .inl)

end Listed

/-! ## Names with an index

A list is written with one group of fields for each item; the position of the item
stands between the stem and the part of each name.
-/

def indexedName (stem : String) (index : Nat) (part : String) : String :=
  stem ++ toString index ++ "_" ++ part

def indexedFields {Item : Type} (stem : String) (parts : Item → FieldMap) :
    Nat → List Item → FieldMap
  | _, [] => []
  | index, item :: items =>
      (parts item).map (fun field => (indexedName stem index field.1, field.2)) ++
        indexedFields stem parts (index + 1) items

/-- The index and the part of a name, where it has them. -/
def splitIndexed (stem name : String) : Option (List Char × List Char) :=
  (Text.stripPrefix stem.toList name.toList).bind (Text.splitOnce '_')

theorem toList_indexedName (stem : String) (index : Nat) (part : String) :
    (indexedName stem index part).toList =
      stem.toList ++ (Nat.toDigits 10 index ++ '_' :: part.toList) := by
  simp [indexedName]

theorem splitIndexed_indexedName (stem : String) (index : Nat) (part : String) :
    splitIndexed stem (indexedName stem index part) =
      some (Nat.toDigits 10 index, part.toList) := by
  have absent : '_' ∉ Nat.toDigits 10 index := by
    intro member
    exact absurd (Nat.isDigit_of_mem_toDigits (by decide) (by decide) member) (by decide)
  rw [splitIndexed, toList_indexedName, Text.stripPrefix_append, Option.bind_some,
    Text.splitOnce_append absent]

theorem indexedName_inj
    (same : indexedName stem left leftPart = indexedName stem right rightPart) :
    left = right ∧ leftPart = rightPart := by
  have split := splitIndexed_indexedName stem left leftPart
  rw [same, splitIndexed_indexedName] at split
  simp only [Option.some.injEq, Prod.mk.injEq] at split
  refine ⟨?_, String.toList_inj.mp split.2.symm⟩
  have number := congrArg (fun digits => Nat.ofDigitChars 10 digits 0) split.1
  simpa [Nat.ofDigitChars_toDigits] using number.symm

section IndexedFields

theorem mem_indexedFields (member : field ∈ indexedFields stem parts start items) :
    ∃ index item part, start ≤ index ∧ item ∈ items ∧ part ∈ parts item ∧
      field = (indexedName stem index part.1, part.2) := by
  induction items generalizing start with
  | nil => cases member
  | cons item items induction =>
      rcases List.mem_append.mp member with here | later
      · obtain ⟨part, held, rfl⟩ := List.mem_map.mp here
        exact ⟨start, item, part, le_rfl, List.mem_cons_self, held, rfl⟩
      · obtain ⟨index, other, part, after, held, within, rfl⟩ := induction later
        exact ⟨index, other, part, by omega, List.mem_cons_of_mem _ held, within, rfl⟩

theorem nodup_indexedFields (start : Nat) (items : List Item)
    (distinct : ∀ item ∈ items, ((parts item).map Prod.fst).Nodup) :
    ((indexedFields stem parts start items).map Prod.fst).Nodup := by
  induction items generalizing start with
  | nil => exact List.nodup_nil
  | cons item items induction =>
      have rest := induction (start + 1) fun other member =>
        distinct other (List.mem_cons_of_mem _ member)
      have here : (((parts item).map Prod.fst).map (indexedName stem start)).Nodup :=
        (distinct item List.mem_cons_self).map fun _ _ same => (indexedName_inj same).2
      rw [indexedFields, List.map_append, List.map_map, List.nodup_append]
      refine ⟨by simpa [Function.comp_def] using here, rest, ?_⟩
      intro name first other later same
      obtain ⟨part, -, rfl⟩ := List.mem_map.mp first
      obtain ⟨field, held, rfl⟩ := List.mem_map.mp later
      obtain ⟨index, -, _, after, -, -, rfl⟩ := mem_indexedFields held
      have equal := (indexedName_inj same).1
      omega

/-- A name that cannot be split is not one of a list. -/
theorem notMem_indexedFields (unsplit : splitIndexed stem name = none) :
    name ∉ (indexedFields stem parts start items).map Prod.fst := by
  intro member
  obtain ⟨field, held, rfl⟩ := List.mem_map.mp member
  obtain ⟨index, -, part, -, -, -, rfl⟩ := mem_indexedFields held
  rw [splitIndexed_indexedName] at unsplit
  cases unsplit

end IndexedFields

end Eva.Fields
