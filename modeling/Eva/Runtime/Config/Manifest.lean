import Eva.Core.Digest
import Eva.Core.Error
import Eva.Foundation.Fields
import Eva.Foundation.Panics
import Eva.Storage.FieldCodec

/-! # The manifest of configuration generations

One file names the active generation and, during a reload, the one before it or the
one to come. A reload writes it three times; recovery takes a reload that was cut short
back to the generation that was active.
-/

namespace Eva.Runtime

open Fields (FieldMap)

/-! ## Generations -/

/-- The number of a generation, and the digest of the configuration it was read from. -/
structure ConfigGeneration where
  generation : U64
  digest : String
deriving DecidableEq

/-- Of a valid project only the bytes of its canonical form are kept. -/
def ConfigGeneration.fromProject (canonical : List UInt8) (generation : U64) :
    Except EvaError ConfigGeneration := do
  rejectIf (generation = 0) (.invalidArgument "config generation must be positive")
  pure { generation, digest := sha256Digest canonical }

inductive GenerationPhase where
  | stable
  | prepared
  | promoted
deriving DecidableEq

def GenerationPhase.text : GenerationPhase → String
  | stable => "stable"
  | prepared => "prepared"
  | promoted => "promoted"

/-- The records of the manifest are the identities of generations. -/
abbrev GenerationRecord := ConfigGeneration

structure GenerationManifest where
  phase : GenerationPhase
  active : GenerationRecord
  previous : Option GenerationRecord
  candidate : Option GenerationRecord
deriving DecidableEq

/-! ## The file -/

def recordFields (stem : String) (record : Option GenerationRecord) : FieldMap :=
  [(stem ++ "_generation", (record.map (·.generation.text)).getD "none"),
    (stem ++ "_digest", (record.map (·.digest)).getD "none")]

def manifestFields (manifest : GenerationManifest) : FieldMap :=
  [("version", "1"), ("phase", manifest.phase.text)] ++
    recordFields "active" (some manifest.active) ++ recordFields "previous" manifest.previous ++
    recordFields "candidate" manifest.candidate

def encode (manifest : GenerationManifest) : String := Fields.render (manifestFields manifest)

def manifestRules : Fields.Rules EvaError where
  skips _ := false
  malformed := .conflict "invalid config generation manifest line"
  checkName _ := .ok ()
  repeated _ := .error (.conflict "duplicate config generation manifest field")

def decodePhase (text : String) : Except EvaError GenerationPhase :=
  if text = "stable" then .ok .stable
  else if text = "prepared" then .ok .prepared
  else if text = "promoted" then .ok .promoted
  else .error (.conflict "invalid config generation phase")

/-- A field that is missing makes the index operator panic. -/
def decodeRecord (fields : FieldMap) (stem : String) :
    Fallible EvaError (Option GenerationRecord) := do
  let generation ← orPanic (fields.lookup (stem ++ "_generation"))
  let digest ← orPanic (fields.lookup (stem ++ "_digest"))
  if generation = "none" ∧ digest = "none" then pure none
  else do
    let number ← fallible (orReject (.conflict "invalid config generation number")
      (Text.parseUnsigned 64 generation.toList))
    fallible (rejectIf (number = 0 ∨
        Text.stripPrefix "sha256:".toList digest.toList = none)
      (.conflict "invalid config generation record"))
    pure (some { generation := number, digest })

def checkPhase (manifest : GenerationManifest) : Except EvaError Unit :=
  match manifest.phase with
  | .stable => rejectIf (manifest.previous ≠ none ∨ manifest.candidate ≠ none)
      (.conflict "stable config generation has transient records")
  | .prepared => rejectIf (manifest.candidate = none ∨ manifest.previous ≠ none)
      (.conflict "invalid prepared config generation")
  | .promoted => rejectIf (manifest.previous = none ∨ manifest.candidate ≠ none)
      (.conflict "invalid promoted config generation")

def decode (text : String) : Fallible EvaError GenerationManifest := do
  let fields ← fallible (manifestRules.parse text)
  fallible (rejectIf (fields.length ≠ 8 ∨ fields.lookup "version" ≠ some "1")
    (.conflict "invalid config generation manifest fields"))
  let phaseText ← orPanic (fields.lookup "phase")
  let phase ← fallible (decodePhase phaseText)
  let activeRecord ← decodeRecord fields "active"
  let active ← fallible (orReject
    (.conflict "config generation manifest missing active") activeRecord)
  let previous ← decodeRecord fields "previous"
  let candidate ← decodeRecord fields "candidate"
  let manifest : GenerationManifest := { phase, active, previous, candidate }
  fallible (checkPhase manifest)
  pure manifest

/-! ## The store -/

/-- What the file holds, if it is there. -/
abbrev ManifestFile := Option String

namespace ConfigGenerationStore

def missingFile : String := "No such file or directory (os error 2)"

def read : ManifestFile → Fallible EvaError GenerationManifest
  | none => .error (.reported ((EvaError.notFound "read config generation manifest").withContext
      "io_error" missingFile))
  | some text => decode text

def write (manifest : GenerationManifest) :
    ManifestFile × Fallible EvaError GenerationManifest :=
  (some (encode manifest), .ok manifest)

def reject (file : ManifestFile) (message : String) :
    ManifestFile × Fallible EvaError GenerationManifest :=
  (file, .error (.reported (.conflict message)))

def recover (file : ManifestFile) : ManifestFile × Fallible EvaError GenerationManifest :=
  match read file with
  | .error failure => (file, .error failure)
  | .ok manifest =>
      match manifest.phase with
      | .stable => (file, .ok manifest)
      | .prepared => write { manifest with phase := .stable, candidate := none }
      | .promoted => write { manifest with phase := .stable, previous := none }

def initializeManifest (file : ManifestFile) (active : ConfigGeneration) :
    ManifestFile × Fallible EvaError GenerationManifest :=
  if file.isSome then recover file
  else write { phase := .stable, active, previous := none, candidate := none }

def prepare (file : ManifestFile) (candidate : ConfigGeneration) :
    ManifestFile × Fallible EvaError GenerationManifest :=
  match recover file with
  | (file, .error failure) => (file, .error failure)
  | (file, .ok manifest) =>
      if manifest.phase ≠ .stable ∨ candidate.generation ≤ manifest.active.generation then
        reject file "config generation prepare is not monotonic"
      else write { manifest with phase := .prepared, candidate := some candidate }

def promote (file : ManifestFile) : ManifestFile × Fallible EvaError GenerationManifest :=
  match read file with
  | .error failure => (file, .error failure)
  | .ok manifest =>
      if manifest.phase ≠ .prepared then reject file "config generation is not prepared"
      else
        match manifest.candidate with
        | none => reject file "prepared generation missing candidate"
        | some candidate => write
            { phase := .promoted
              active := candidate
              previous := some manifest.active
              candidate := none }

def retire (file : ManifestFile) : ManifestFile × Fallible EvaError GenerationManifest :=
  match read file with
  | .error failure => (file, .error failure)
  | .ok manifest =>
      if manifest.phase ≠ .promoted then reject file "config generation is not promoted"
      else write { manifest with phase := .stable, previous := none }

end ConfigGenerationStore

/-! ## Reading back -/

open Text

/-- What the store relies on in the records it is given. -/
structure ConfigGeneration.Valid (record : ConfigGeneration) : Prop where
  positive : record.generation ≠ 0
  hashed : Text.stripPrefix "sha256:".toList record.digest.toList ≠ none
  plain : Plain record.digest.toList

structure GenerationManifest.Valid (manifest : GenerationManifest) : Prop where
  active : manifest.active.Valid
  previous : ∀ record ∈ manifest.previous, record.Valid
  candidate : ∀ record ∈ manifest.candidate, record.Valid
  phase : checkPhase manifest = .ok ()

theorem ConfigGeneration.valid_sha256Digest {generation : U64} (positive : generation ≠ 0) :
    ConfigGeneration.Valid { generation, digest := sha256Digest canonical } := by
  have text : (sha256Digest canonical).toList = "sha256:".toList ++ sha256Hex canonical := by
    simp [sha256Digest]
  refine ⟨positive, ?_, ?_⟩
  · rw [text, stripPrefix_append]
    exact Option.some_ne_none _
  · rw [text, plain_append]
    exact ⟨⟨by decide, by decide⟩,
      plain_of_forall (sha256Hex_isLowerHex canonical) (by decide) (by decide)⟩

private theorem text_ne_none (number : U64) : number.text ≠ "none" := by
  intro same
  have letter : 'n' ∈ number.text.toList := by
    rw [same]
    decide
  rw [Unsigned.text, String.toList_ofList] at letter
  exact absurd (formatUnsigned_isDigit number 'n' letter) (by decide)

private theorem decodeRecord_of_lookup (valid : ∀ value ∈ record, value.Valid)
    (found : ∀ field ∈ recordFields stem record, fields.lookup field.1 = some field.2) :
    decodeRecord fields stem = .ok record := by
  have generation := found _ List.mem_cons_self
  have digest := found _ (List.mem_cons_of_mem _ List.mem_cons_self)
  cases record with
  | none => simp [decodeRecord, generation, digest, orPanic, pure, Except.pure]
  | some record =>
      have checked := valid record rfl
      simp only [decodeRecord, generation, digest, orPanic, ok_bind, Option.map_some,
        Option.getD_some, text_ne_none, false_and, if_false, parseUnsigned_text, orReject, fallible_ok,
        checked.positive, checked.hashed, or_self, rejectIf]
      rfl

private theorem plain_recordFields (stem : String) {record : Option GenerationRecord}
    (valid : ∀ value ∈ record, value.Valid) :
    ∀ field ∈ recordFields stem record, Plain field.2.toList := by
  cases record with
  | none =>
      have absent : Plain ['n', 'o', 'n', 'e'] := ⟨by decide, by decide⟩
      simp [recordFields, absent]
  | some record => simp [recordFields, plain_text, (valid record rfl).plain]

def manifestFieldNames : List String :=
  ["version", "phase", "active_generation", "active_digest", "previous_generation",
    "previous_digest", "candidate_generation", "candidate_digest"]

private theorem writable_manifestFields
    (valid : manifest.Valid) : Fields.Writable manifestRules (manifestFields manifest) := by
  refine .of_names manifestFieldNames rfl (by decide) (by decide) (fun _ => rfl) ?_
  have version : Plain ['1'] := ⟨by decide, by decide⟩
  have phase : Plain manifest.phase.text.toList := by
    cases manifest.phase <;> exact ⟨by decide, by decide⟩
  have active := @plain_recordFields "active" (some manifest.active)
    (by simpa using valid.active)
  have previous := plain_recordFields "previous" valid.previous
  have candidate := plain_recordFields "candidate" valid.candidate
  intro field member
  simp only [manifestFields, List.mem_append, List.mem_cons, List.not_mem_nil, or_false] at member
  rcases member with (((rfl | rfl) | first) | second) | third
  · exact version
  · exact phase
  · exact active field first
  · exact previous field second
  · exact candidate field third

private theorem decodePhase_text (phase : GenerationPhase) :
    decodePhase phase.text = .ok phase := by
  cases phase <;> rfl

theorem decode_encode (valid : manifest.Valid) :
    decode (encode manifest) = .ok manifest := by
  have writable := writable_manifestFields valid
  have found : ∀ field ∈ manifestFields manifest,
      (manifestFields manifest).reverse.lookup field.1 = some field.2 :=
    fun field member => Fields.lookup_parsed writable.distinct member
  have length : (manifestFields manifest).reverse.length = 8 := by
    rfl
  have active : decodeRecord (manifestFields manifest).reverse "active" =
      .ok (some manifest.active) :=
    decodeRecord_of_lookup (by simpa using valid.active) fun field member =>
      found field (by simp [manifestFields, member])
  have previous : decodeRecord (manifestFields manifest).reverse "previous" =
      .ok manifest.previous :=
    decodeRecord_of_lookup valid.previous fun field member =>
      found field (by simp [manifestFields, member])
  have candidate : decodeRecord (manifestFields manifest).reverse "candidate" =
      .ok manifest.candidate :=
    decodeRecord_of_lookup valid.candidate fun field member =>
      found field (by simp [manifestFields, member])
  have version := found ("version", "1") (by simp [manifestFields])
  have phase := found ("phase", manifest.phase.text) (by simp [manifestFields])
  rw [decode, encode, Fields.parse_render writable]
  simp only [fallible_ok, ok_bind, length, version, phase, orPanic, decodePhase_text, active,
    previous, candidate, orReject, valid.phase]
  rfl

/-! ## The store on its own files -/

namespace ConfigGenerationStore

theorem read_encode (valid : manifest.Valid) : read (some (encode manifest)) = .ok manifest :=
  decode_encode valid

def stableAt (active : GenerationRecord) : GenerationManifest where
  phase := .stable
  active := active
  previous := none
  candidate := none

@[simp] theorem stableAt_active (active : GenerationRecord) : (stableAt active).active = active :=
  rfl

theorem valid_stableAt (valid : active.Valid) :
    (stableAt active).Valid :=
  ⟨valid, by simp [stableAt], by simp [stableAt], rfl⟩

theorem eq_stableAt (valid : manifest.Valid) (stable : manifest.phase = .stable) :
    manifest = stableAt manifest.active := by
  obtain ⟨phase, active, previous, candidate⟩ := manifest
  have checked := valid.phase
  subst stable
  simp only [checkPhase, rejectIf_eq_ok_iff, not_or, not_not] at checked
  obtain ⟨rfl, rfl⟩ := checked
  rfl

theorem recover_encode (valid : manifest.Valid) :
    recover (some (encode manifest)) = write (stableAt manifest.active) := by
  have checked := valid.phase
  rw [recover, read_encode valid]
  obtain ⟨phase, active, previous, candidate⟩ := manifest
  cases phase with
  | stable =>
      have settled := eq_stableAt valid rfl
      rw [settled]
      rfl
  | prepared =>
      simp only [checkPhase, rejectIf_eq_ok_iff, not_or, not_not] at checked
      obtain ⟨-, rfl⟩ := checked
      rfl
  | promoted =>
      simp only [checkPhase, rejectIf_eq_ok_iff, not_or, not_not] at checked
      obtain ⟨-, rfl⟩ := checked
      rfl

theorem initialize_encode (valid : manifest.Valid) (active : ConfigGeneration) :
    initializeManifest (some (encode manifest)) active = write (stableAt manifest.active) := by
  simp only [initializeManifest, Option.isSome_some, if_true, recover_encode valid]

def preparedAt (active candidate : GenerationRecord) : GenerationManifest where
  phase := .prepared
  active := active
  previous := none
  candidate := some candidate

@[simp] theorem preparedAt_active (active candidate : GenerationRecord) :
    (preparedAt active candidate).active = active := rfl

theorem valid_preparedAt (valid : active.Valid)
    (next : candidate.Valid) : (preparedAt active candidate).Valid :=
  ⟨valid, by simp [preparedAt], by simpa [preparedAt] using next, rfl⟩

theorem prepare_encode (valid : manifest.Valid) (candidate : ConfigGeneration) :
    prepare (some (encode manifest)) candidate =
      if candidate.generation ≤ manifest.active.generation then
        reject (some (encode (stableAt manifest.active)))
          "config generation prepare is not monotonic"
      else write (preparedAt manifest.active candidate) := by
  rw [prepare, recover_encode valid]
  simp only [write, stableAt, ne_eq, not_true_eq_false, false_or]
  split <;> rfl

def promotedAt (previous active : GenerationRecord) : GenerationManifest where
  phase := .promoted
  active := active
  previous := some previous
  candidate := none

@[simp] theorem promotedAt_active (previous active : GenerationRecord) :
    (promotedAt previous active).active = active := rfl

theorem valid_promotedAt (valid : active.Valid)
    (before : previous.Valid) : (promotedAt previous active).Valid :=
  ⟨valid, by simpa [promotedAt] using before, by simp [promotedAt], rfl⟩

theorem promote_encode (valid : manifest.Valid) (phase : manifest.phase = .prepared)
    (prepared : manifest.candidate = some candidate) :
    promote (some (encode manifest)) = write (promotedAt manifest.active candidate) := by
  rw [promote, read_encode valid]
  simp only [phase, ne_eq, not_true_eq_false, if_false, prepared]
  rfl

theorem retire_encode (valid : manifest.Valid) (phase : manifest.phase = .promoted) :
    retire (some (encode manifest)) = write (stableAt manifest.active) := by
  have checked := valid.phase
  simp only [checkPhase, phase, rejectIf_eq_ok_iff, not_or, not_not] at checked
  rw [retire, read_encode valid]
  simp only [phase, ne_eq, not_true_eq_false, if_false, checked.2]
  rfl

end ConfigGenerationStore

end Eva.Runtime
