import Eva.Core.Error
import Eva.Foundation.Checks
import Eva.Foundation.Replace
import Eva.Foundation.Utf8

/-! # Captured provider streams

The output of a provider is read up to a limit. Secrets are replaced in the bytes that
were kept, and only then these become the preview and the artifact.
-/

namespace Eva.Adapter

open Text

/-! ## Configuration -/

structure ProviderStreamConfig where
  streamName : String
  outputLimitBytes : Nat
  previewLimitBytes : Nat
  chunkSizeBytes : Nat
  artifactRoot : Option String
  artifactKey : Option String
  contentType : String

def validateStreamConfig (config : ProviderStreamConfig) : Except EvaError Unit := do
  rejectIf (isBlank config.streamName.toList)
    (.invalidArgument "provider stream name cannot be empty")
  rejectIf (config.outputLimitBytes = 0)
    (.invalidArgument "provider stream output limit must be greater than zero")
  rejectIf (config.previewLimitBytes = 0)
    (.invalidArgument "provider stream preview limit must be greater than zero")
  rejectIf (config.chunkSizeBytes = 0)
    (.invalidArgument "provider stream chunk size must be greater than zero")
  match config.artifactRoot, config.artifactKey with
  | some _, some key =>
      rejectIf (isBlank key.toList)
        (.invalidArgument "provider stream artifact key cannot be empty")
  | none, none => .ok ()
  | _, _ =>
      .error (.invalidArgument "provider stream artifact root and key must be provided together")

/-! ## Redaction -/

def redactedMark : List Char := "[REDACTED]".toList

def sessionTokenMark : List Char := "eva-provider-session:".toList

def endsSessionToken (char : Char) : Bool :=
  isWhitespace char || char == '"' || char == '\'' || char == '\\' || char == '<' || char == '>'

/-- What follows the token that `text` starts with. Its first character belongs to it. -/
def afterSessionToken (text : List Char) : List Char :=
  (text.drop 1).dropWhile fun char => !endsSessionToken char

/-- The mark of a session token ends none, so the token is longer than its replacement. -/
theorem afterSessionToken_length (starts : sessionTokenMark <+: text) :
    (afterSessionToken text).length + sessionTokenMark.length ≤ text.length := by
  obtain ⟨rest, rfl⟩ := starts
  have token : (sessionTokenMark.drop 1).dropWhile (fun char => !endsSessionToken char) = [] := by
    decide
  have skipped : afterSessionToken (sessionTokenMark ++ rest) =
      rest.dropWhile fun char => !endsSessionToken char := by
    rfl
  rw [skipped, List.length_append, Nat.add_comm]
  exact Nat.add_le_add_left (List.dropWhile_sublist _).length_le _

/-- The next round starts at the beginning again. -/
def redactProviderSessionTokens (text : List Char) : List Char :=
  match _found : splitAtFirst sessionTokenMark text with
  | none => text
  | some (front, back) =>
      redactProviderSessionTokens (front ++ redactedMark ++ afterSessionToken back)
termination_by text.length
decreasing_by
  obtain ⟨rfl, starts⟩ := splitAtFirst_eq_some _found
  have shorter := afterSessionToken_length starts
  have lengths : redactedMark.length < sessionTokenMark.length := by decide
  simp only [List.length_append]
  omega

def redactSensitiveValue (text : List Char) (value : String) : List Char :=
  if value = "" then text else replaceAll value.toList redactedMark text

def redactProviderStreamBytes (bytes : List UInt8) (sensitiveValues : List String) : List UInt8 :=
  utf8 (redactProviderSessionTokens
    (sensitiveValues.foldl redactSensitiveValue (decodeLossy bytes)))

/-! ## Capture -/

structure ProviderStreamArtifact where
  key : String
  digest : String
  sizeBytes : Nat
  contentType : String

structure ProviderStreamCapture where
  streamName : String
  preview : List UInt8
  capturedBytes : Nat
  chunkCount : Nat
  truncated : Bool
  artifact : Option ProviderStreamArtifact

/-- What is handed to the artifact store. -/
structure ArtifactWrite where
  root : String
  key : String
  bytes : List UInt8
  contentType : String
  retentionPolicy : String

/-- The answer of the store to a write. -/
abbrev ArtifactStore := ArtifactWrite → Except EvaError ProviderStreamArtifact

structure CaptureOutcome where
  result : Except EvaError ProviderStreamCapture
  /-- What has reached the artifact store. -/
  stored : List ArtifactWrite

def artifactWrite (config : ProviderStreamConfig) (bytes : List UInt8) : Option ArtifactWrite :=
  match config.artifactRoot, config.artifactKey with
  | some root, some key =>
      some { root, key, bytes, contentType := config.contentType, retentionPolicy := "retain" }
  | _, _ => none

def captureProviderBytes (store : ArtifactStore) (config : ProviderStreamConfig)
    (bytes : List UInt8) (chunkCount : Nat) (truncated : Bool) (sensitiveValues : List String) :
    CaptureOutcome :=
  match validateStreamConfig config with
  | .error error => { result := .error error, stored := [] }
  | .ok () =>
      let kept := bytes.take config.outputLimitBytes
      let redacted := redactProviderStreamBytes kept sensitiveValues
      let capture (artifact : Option ProviderStreamArtifact) : ProviderStreamCapture :=
        { streamName := config.streamName
          preview := redacted.take (min config.previewLimitBytes config.outputLimitBytes)
          capturedBytes := kept.length
          chunkCount
          truncated := truncated || config.outputLimitBytes < bytes.length
          artifact }
      match artifactWrite config redacted with
      | none => { result := .ok (capture none), stored := [] }
      | some write =>
          { result := (store write).map fun artifact => capture (some artifact)
            stored := [write] }

/-- A reader: what its calls return one after the other, and the error in place of the
end of the stream. -/
structure ProviderReader (chunkSizeBytes : Nat) where
  chunks : List (List UInt8)
  nonempty : ∀ chunk ∈ chunks, chunk ≠ []
  fits : ∀ chunk ∈ chunks, chunk.length ≤ chunkSizeBytes
  ioError : Option String

structure CollectedBytes where
  captured : List UInt8
  chunkCount : Nat
  truncated : Bool

/-- Reading stops at the first chunk that does not fit any more. -/
def collectChunks (outputLimitBytes : Nat) (ioError : Option String) :
    CollectedBytes → List (List UInt8) → Except String CollectedBytes
  | collected, [] =>
      match ioError with
      | some ioError => .error ioError
      | none => .ok collected
  | collected, chunk :: rest =>
      let remaining := outputLimitBytes - collected.captured.length
      if remaining < chunk.length then
        .ok { captured := collected.captured ++ chunk.take remaining
              chunkCount := collected.chunkCount + 1
              truncated := true }
      else
        collectChunks outputLimitBytes ioError
          { collected with
            captured := collected.captured ++ chunk
            chunkCount := collected.chunkCount + 1 } rest

def collectProviderStream (store : ArtifactStore) (config : ProviderStreamConfig)
    (reader : ProviderReader config.chunkSizeBytes) (sensitiveValues : List String) :
    CaptureOutcome :=
  match validateStreamConfig config with
  | .error error => { result := .error error, stored := [] }
  | .ok () =>
      let start : CollectedBytes := { captured := [], chunkCount := 0, truncated := false }
      match collectChunks config.outputLimitBytes reader.ioError start reader.chunks with
      | .error ioError =>
          { result := .error (((EvaError.unavailable "failed to read provider stream").withContext
              "stream" config.streamName).withContext "io_error" ioError)
            stored := [] }
      | .ok collected =>
          captureProviderBytes store config collected.captured collected.chunkCount
            collected.truncated sensitiveValues

/-! ## What is captured -/

theorem collectChunks_captured (within : collected.captured.length ≤ outputLimitBytes) :
    ∃ result, collectChunks outputLimitBytes none collected chunks = .ok result ∧
      result.captured = (collected.captured ++ chunks.flatten).take outputLimitBytes := by
  induction chunks generalizing collected with
  | nil => exact ⟨collected, rfl, by simp [List.take_of_length_le within]⟩
  | cons chunk rest induction =>
      unfold collectChunks
      dsimp only
      split
      next exceeded =>
          refine ⟨_, rfl, ?_⟩
          rw [List.flatten_cons, List.take_append, List.take_of_length_le within,
            List.take_append_of_le_length (Nat.le_of_lt exceeded)]
      next fits =>
          have room : (collected.captured ++ chunk).length ≤ outputLimitBytes := by
            rw [List.length_append]
            omega
          obtain ⟨result, read, captured⟩ := @induction
            { collected with
              captured := collected.captured ++ chunk
              chunkCount := collected.chunkCount + 1 } room
          refine ⟨result, read, ?_⟩
          rw [captured, List.flatten_cons, List.append_assoc]

end Eva.Adapter
