import Eva.Foundation.Panics
import Eva.Foundation.Text
import Mathlib.Data.List.Dedup
import Mathlib.Data.List.Perm.Basic
import Mathlib.Data.List.Sort

/-! # A directory with one file for each record

The name of a file follows from the key of its record. Loading reads every file that
is selected by its name, in the order in which the directory lists them; writing
replaces one file as a whole.
-/

namespace Eva.RecordFiles

/-- The later of two writes of a name hides the earlier one. -/
abbrev Files := List (String × String)

def names (files : Files) : List String := (files.map Prod.fst).dedup

def erase (name : String) (files : Files) : Files := files.filter fun file => file.1 ≠ name

/-- A listing has every name once, in any order. -/
structure Listing where
  order : Files → List String
  complete : ∀ files, (order files).Perm (names files)

def namesInOrder : Listing where
  order := names
  complete _ := .refl _

/-- Where reading the directory fails. -/
inductive LoadFault where
  | directory (ioError : String)
  | entry (ioError : String)
  | file (name ioError : String)

inductive WriteOutcome where
  | written
  /-- The file was not replaced. -/
  | failed (ioError : String)
  /-- The file was replaced before the failure. -/
  | unsynced (ioError : String)

namespace WriteOutcome

def files (outcome : WriteOutcome) (name content : String) (old : Files) : Files :=
  match outcome with
  | failed _ => old
  | written | unsynced _ => (name, content) :: old

def result {Error : Type} (outcome : WriteOutcome) (error : String → Error) : Except Error Unit :=
  match outcome with
  | written => .ok ()
  | failed ioError | unsynced ioError => .error (error ioError)

end WriteOutcome

structure Scheme (Key Record Error : Type) where
  selects : String → Bool
  fileName : Key → String
  key : Record → Key
  render : Record → String
  parse : (name content : String) → Fallible Error Record
  directoryError : String → Error
  entryError : String → Error
  fileError : (name ioError : String) → Error

variable {Record Error : Type}

namespace Scheme

variable (scheme : Scheme Key Record Error)

def readFile (fault : Option LoadFault) (files : Files) (name : String) :
    Fallible Error Record :=
  match fault, files.lookup name with
  | some (.file failing ioError), some content =>
      if failing = name then .error (.reported (scheme.fileError name ioError))
      else scheme.parse name content
  | _, some content => scheme.parse name content
  | _, none => .error (.reported (scheme.fileError name "file is missing"))

def load (fault : Option LoadFault) (listing : Listing) (files : Files) :
    Fallible Error (List Record) :=
  match fault with
  | some (.directory ioError) => .error (.reported (scheme.directoryError ioError))
  | some (.entry ioError) => .error (.reported (scheme.entryError ioError))
  | fault => ((listing.order files).filter scheme.selects).mapM (scheme.readFile fault files)

/-- Names tell keys apart, and a written record reads as its normal form. -/
structure Lawful (normal : Record → Record) (storable : Record → Prop) : Prop where
  injective : ∀ left right, scheme.fileName left = scheme.fileName right → left = right
  selected : ∀ key, scheme.selects (scheme.fileName key) = true
  keyed : ∀ record, scheme.key (normal record) = scheme.key record
  parsed : ∀ record, storable record →
    scheme.parse (scheme.fileName (scheme.key record)) (scheme.render record) =
      .ok (normal record)

structure Represents (files : Files) (records : List Record) : Prop where
  distinct : (records.map scheme.key).Nodup
  held : ∀ record ∈ records, ∃ content,
    files.lookup (scheme.fileName (scheme.key record)) = some content ∧
      scheme.parse (scheme.fileName (scheme.key record)) content = .ok record
  only : ∀ name, scheme.selects name = true → files.lookup name ≠ none →
    ∃ record ∈ records, name = scheme.fileName (scheme.key record)

end Scheme

theorem mem_names_iff :
    name ∈ names files ↔ files.lookup name ≠ none := by
  rw [names, List.mem_dedup, Ne, List.lookup_eq_none_iff, List.mem_map]
  constructor
  · rintro ⟨file, member, rfl⟩ absent
    simpa using absent file member
  · intro found
    by_contra absent
    refine found fun file member => ?_
    simp only [bne_iff_ne, ne_eq]
    rintro rfl
    exact absent ⟨file, member, rfl⟩

@[simp] theorem lookup_erase_self (name : String) (files : Files) :
    (erase name files).lookup name = none := by
  rw [List.lookup_eq_none_iff]
  intro file member
  have kept : file.1 ≠ name := of_decide_eq_true (List.mem_filter.mp member).2
  exact bne_iff_ne.mpr kept.symm

theorem lookup_erase_of_ne (different : other ≠ name) (files : Files) :
    (erase name files).lookup other = files.lookup other := by
  induction files with
  | nil => rfl
  | cons file files induction =>
      rw [erase, List.filter_cons]
      split
      next kept => rw [List.lookup_cons, List.lookup_cons, ← induction, erase]
      next erased =>
        have named : file.1 = name := by simpa using erased
        rw [List.lookup_cons, named, beq_false_of_ne different]
        exact induction

theorem WriteOutcome.lookup_files_of_ne (different : other ≠ name)
    (outcome : WriteOutcome) (content : String) (files : Files) :
    (outcome.files name content files).lookup other = files.lookup other := by
  cases outcome <;> simp [WriteOutcome.files, List.lookup_cons, beq_false_of_ne different]

theorem mapM_perm {step : Item → Except Error Result}
    {left right : List Item} {results : List Result} (same : left.Perm right)
    (ran : right.mapM step = .ok results) :
    ∃ others, left.mapM step = .ok others ∧ others.Perm results := by
  induction same generalizing results with
  | nil => exact ⟨results, ran, .refl _⟩
  | cons item _ induction =>
      obtain ⟨first, rest, stepped, others, rfl⟩ := mapM_cons_eq_ok ran
      obtain ⟨found, mapped, perm⟩ := induction others
      exact ⟨first :: found, by simp [List.mapM_cons, stepped, mapped], perm.cons _⟩
  | swap first second rest =>
      obtain ⟨one, tail, stepped, others, rfl⟩ := mapM_cons_eq_ok ran
      obtain ⟨two, last, second, mapped, rfl⟩ := mapM_cons_eq_ok others
      exact ⟨two :: one :: last, by simp [List.mapM_cons, stepped, second, mapped], .swap _ _ _⟩
  | trans _ _ first second =>
      obtain ⟨middle, mapped, perm⟩ := second ran
      obtain ⟨others, found, further⟩ := first mapped
      exact ⟨others, found, further.trans perm⟩

theorem mapM_map_of_ok {step : Item → Except Error Result}
    {item : Result → Item} {results : List Result}
    (each : ∀ result ∈ results, step (item result) = .ok result) :
    (results.map item).mapM step = .ok results := by
  induction results with
  | nil => rfl
  | cons result results induction =>
      have rest := induction fun other member => each other (List.mem_cons_of_mem _ member)
      rw [List.map_cons, List.mapM_cons, each result List.mem_cons_self, ok_bind, rest]
      rfl

theorem mapM_ok_of_step {step other : Item → Except Error Result}
    {items : List Item} {results : List Result}
    (each : ∀ item result, step item = .ok result → other item = .ok result)
    (ran : items.mapM step = .ok results) : items.mapM other = .ok results := by
  induction items generalizing results with
  | nil => exact ran
  | cons item items induction =>
      obtain ⟨first, rest, stepped, mapped, rfl⟩ := mapM_cons_eq_ok ran
      simp [List.mapM_cons, each item first stepped, induction mapped]

/-- Records that are told apart by their rank have one order. -/
theorem insertionSort_of_perm [LinearOrder Rank] {rank : Record → Rank}
    {loaded records : List Record} (same : loaded.Perm records)
    (sorted : records.Pairwise fun left right => rank left < rank right) :
    (loaded.insertionSort fun left right => rank left ≤ rank right) = records := by
  have distinct : ∀ left ∈ records, ∀ right ∈ records, rank left = rank right → left = right := by
    have ranked : (records.map rank).Nodup :=
      List.pairwise_map.mpr (sorted.imp fun less => ne_of_lt less)
    exact fun left first right second => List.inj_on_of_nodup_map ranked first second
  have permuted := (List.perm_insertionSort (fun left right => rank left ≤ rank right)
    loaded).trans same
  refine permuted.eq_of_pairwise ?_ (List.pairwise_insertionSort _ _)
    (sorted.imp fun less => le_of_lt less)
  intro left right first second lower upper
  exact distinct left (permuted.mem_iff.mp first) right second (le_antisymm lower upper)

/-! ## Lists of records -/

section Replace

variable {Id : Type} [DecidableEq Id] {id : Record → Id}

def replaceBy (id : Record → Id) (record : Record) : List Record → List Record
  | [] => []
  | other :: records =>
      if id other = id record then record :: records else other :: replaceBy id record records

variable {record old : Record} {records : List Record}

theorem replaceBy_self (found : records.find? (fun other => id other = id record) = some record) :
    replaceBy id record records = records := by
  induction records with
  | nil => rfl
  | cons other records induction =>
      rw [List.find?_cons] at found
      unfold replaceBy
      split at found
      next same => rw [if_pos (of_decide_eq_true same), Option.some.inj found]
      next different => rw [if_neg (of_decide_eq_false different), induction found]

theorem map_id_replaceBy : (replaceBy id record records).map id = records.map id := by
  induction records with
  | nil => rfl
  | cons other records induction =>
      unfold replaceBy
      split
      next same => simp [same]
      next => simp [induction]

variable (ids : (records.map id).Nodup)
include ids

theorem replaceBy_eq_map :
    replaceBy id record records =
      records.map fun other => if id other = id record then record else other := by
  induction records with
  | nil => rfl
  | cons head records induction =>
      rw [List.map_cons, List.nodup_cons] at ids
      unfold replaceBy
      rw [List.map_cons]
      by_cases here : id head = id record
      · have others : ∀ other ∈ records, ¬id other = id record := by
          intro other held same
          exact ids.1 (here.trans same.symm ▸ List.mem_map_of_mem held)
        rw [if_pos here, if_pos here,
          List.map_congr_left fun other held => if_neg (others other held), List.map_id']
      · rw [if_neg here, if_neg here, induction ids.2]

variable (member : old ∈ records) (sameId : id record = id old)
include member sameId

omit [DecidableEq Id] in
private theorem id_eq_iff (held : other ∈ records) :
    id other = id record ↔ other = old := by
  rw [sameId]
  exact ⟨fun same => List.inj_on_of_nodup_map ids held member same, fun same => by rw [same]⟩

theorem map_replaceBy (same : value record = value old) :
    (replaceBy id record records).map value = records.map value := by
  rw [replaceBy_eq_map ids, List.map_map]
  apply List.map_congr_left
  intro other held
  rw [Function.comp_apply]
  split
  next found => rw [(id_eq_iff ids member sameId held).mp found, same]
  next => rfl

theorem mem_replaceBy :
    other ∈ replaceBy id record records ↔ other = record ∨ (other ∈ records ∧ other ≠ old) := by
  rw [replaceBy_eq_map ids, List.mem_map]
  constructor
  · rintro ⟨source, held, rfl⟩
    split
    next => exact .inl rfl
    next different => exact .inr ⟨held, mt (id_eq_iff ids member sameId held).mpr different⟩
  · rintro (rfl | ⟨held, different⟩)
    · exact ⟨old, member, if_pos ((id_eq_iff ids member sameId member).mpr rfl)⟩
    · exact ⟨other, held, if_neg (mt (id_eq_iff ids member sameId held).mp different)⟩

/-- The same records as after the file of the record was replaced. -/
theorem perm_replaceBy [DecidableEq Key] {key : Record → Key} (keys : (records.map key).Nodup)
    (sameKey : key record = key old) :
    (replaceBy id record records).Perm
      (record :: records.filter fun other => key other ≠ key record) := by
  have nodup : (replaceBy id record records).Nodup := by
    refine List.Nodup.of_map key ?_
    rw [map_replaceBy ids member sameId sameKey]
    exact keys
  rw [List.perm_ext_iff_of_nodup nodup]
  · intro other
    rw [mem_replaceBy ids member sameId, List.mem_cons, List.mem_filter]
    refine or_congr_right (and_congr_right fun held => ?_)
    rw [decide_eq_true_iff, sameKey]
    exact not_congr ⟨fun same => by rw [same],
      fun same => List.inj_on_of_nodup_map keys held member same⟩
  · rw [List.nodup_cons]
    refine ⟨fun kept => ?_, (List.Nodup.of_map _ keys).filter _⟩
    simpa using (List.mem_filter.mp kept).2

end Replace

/-- `Path::extension`, for an extension without dots. -/
def hasExtension (extension name : String) : Bool :=
  match Text.stripPrefix ('.' :: extension.toList).reverse name.toList.reverse with
  | some stem => stem ≠ []
  | none => false

theorem hasExtension_append (extension : String) (nonempty : stem ≠ "") :
    hasExtension extension (stem ++ "." ++ extension) = true := by
  have stripped : Text.stripPrefix ('.' :: extension.toList).reverse
      (stem ++ "." ++ extension).toList.reverse = some stem.toList.reverse := by
    have split : (stem ++ "." ++ extension).toList.reverse =
        ('.' :: extension.toList).reverse ++ stem.toList.reverse := by simp
    rw [split, Text.stripPrefix_append]
  rw [hasExtension, stripped]
  simpa using nonempty

namespace Scheme

variable {scheme : Scheme Key Record Error}

theorem Represents.nil : scheme.Represents [] [] where
  distinct := .nil
  held _ member := absurd member List.not_mem_nil
  only _ _ present := absurd rfl present

theorem Represents.perm (represents : scheme.Represents files records)
    (same : others.Perm records) : scheme.Represents files others where
  distinct := (same.map scheme.key).nodup_iff.mpr represents.distinct
  held record member := represents.held record (same.mem_iff.mp member)
  only name selected present := by
    obtain ⟨record, member, rfl⟩ := represents.only name selected present
    exact ⟨record, same.mem_iff.mpr member, rfl⟩

/-- Loading gives the records of the directory, in some order. -/
theorem Represents.load (lawful : scheme.Lawful normal storable)
    (represents : scheme.Represents files records) (listing : Listing) :
    ∃ loaded, scheme.load none listing files = .ok loaded ∧ loaded.Perm records := by
  have read : (records.map (scheme.fileName ∘ scheme.key)).mapM (scheme.readFile none files) =
      .ok records := by
    apply mapM_map_of_ok
    intro record member
    obtain ⟨content, found, parsed⟩ := represents.held record member
    simp only [readFile, Function.comp_apply, found, parsed]
  have listed : ((listing.order files).filter scheme.selects).Perm
      (records.map (scheme.fileName ∘ scheme.key)) := by
    rw [List.perm_ext_iff_of_nodup]
    · intro name
      rw [List.mem_filter, (listing.complete files).mem_iff, mem_names_iff, List.mem_map]
      constructor
      · rintro ⟨present, selected⟩
        obtain ⟨record, member, rfl⟩ := represents.only name selected present
        exact ⟨record, member, rfl⟩
      · rintro ⟨record, member, rfl⟩
        obtain ⟨content, found, -⟩ := represents.held record member
        exact ⟨by simp [found], lawful.selected _⟩
    · exact ((listing.complete files).nodup_iff.mpr (List.nodup_dedup _)).filter _
    · rw [← List.map_map]
      exact represents.distinct.map fun left right => lawful.injective left right
  exact mapM_perm listed read

theorem readFile_ok (read : scheme.readFile fault files name = .ok record) :
    scheme.readFile none files name = .ok record := by
  unfold readFile at read ⊢
  cases found : files.lookup name with
  | none =>
      split at read <;> simp_all
  | some content =>
      split at read
      next =>
          split at read
          next => cases read
          next => simp_all
      next => simp_all
      next => simp_all

/-- A load that succeeds was not disturbed. -/
theorem Represents.perm_of_load (lawful : scheme.Lawful normal storable)
    (represents : scheme.Represents files records)
    (read : scheme.load fault listing files = .ok loaded) : loaded.Perm records := by
  obtain ⟨others, undisturbed, perm⟩ := represents.load lawful listing
  have same : scheme.load none listing files = .ok loaded := by
    unfold Scheme.load at read
    split at read
    next => cases read
    next => cases read
    next => exact mapM_ok_of_step (fun _ _ => readFile_ok) read
  rw [undisturbed] at same
  cases same
  exact perm

/-- A file that is replaced as a whole, or added. -/
theorem Represents.write [DecidableEq Key] (lawful : scheme.Lawful normal storable)
    (represents : scheme.Represents files records)
    (stored : storable record) :
    scheme.Represents ((scheme.fileName (scheme.key record), scheme.render record) :: files)
      (normal record :: records.filter fun other => scheme.key other ≠ scheme.key record) where
  distinct := by
    rw [List.map_cons, List.nodup_cons, lawful.keyed]
    constructor
    · intro member
      obtain ⟨other, kept, same⟩ := List.mem_map.mp member
      simpa [same] using (List.mem_filter.mp kept).2
    · exact represents.distinct.sublist (List.filter_sublist.map _)
  held := by
    intro other member
    rcases List.mem_cons.mp member with rfl | kept
    · rw [lawful.keyed]
      exact ⟨scheme.render record, by simp, lawful.parsed record stored⟩
    · obtain ⟨older, different⟩ := List.mem_filter.mp kept
      obtain ⟨content, found, parsed⟩ := represents.held other older
      have otherName : scheme.fileName (scheme.key other) ≠
          scheme.fileName (scheme.key record) := fun same =>
        (of_decide_eq_true different) (lawful.injective _ _ same)
      refine ⟨content, ?_, parsed⟩
      rw [List.lookup_cons, beq_false_of_ne otherName]
      exact found
  only := by
    intro name selected present
    rw [List.lookup_cons] at present
    by_cases same : name = scheme.fileName (scheme.key record)
    · exact ⟨normal record, List.mem_cons_self, by rw [lawful.keyed, same]⟩
    · rw [beq_false_of_ne same] at present
      obtain ⟨other, member, rfl⟩ := represents.only name selected present
      refine ⟨other, List.mem_cons_of_mem _ (List.mem_filter.mpr ⟨member, ?_⟩), rfl⟩
      exact decide_eq_true fun equal => same (congrArg scheme.fileName equal)

end Scheme

end Eva.RecordFiles
