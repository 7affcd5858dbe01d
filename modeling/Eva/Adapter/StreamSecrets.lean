import Eva.Adapter.Stream

/-! # Secrets in captured streams

What a provider writes is a template in which it echoes secrets. The evidence of two
runs with different secrets is the same if no echo is cut, every echo is replaced as a
whole and the same stretches of the template are replaced in both runs.
-/

namespace Eva.Adapter

open Text

/-! ## Templates -/

/-- The output of a provider around the secrets that it echoes. -/
structure StreamTemplate (count : Nat) where
  /-- Bytes, and the secret that follows them. -/
  echoes : List (List UInt8 × Fin count)
  rest : List UInt8

namespace StreamTemplate

variable {count : Nat}

def bytes (values : Fin count → String) (template : StreamTemplate count) : List UInt8 :=
  template.echoes.flatMap (fun (front, index) => front ++ utf8 (values index).toList) ++
    template.rest

def cut (sizes : Fin count → Nat) (rest : List UInt8) :
    Nat → List (List UInt8 × Fin count) → Option (StreamTemplate count)
  | limit, [] => some { echoes := [], rest := rest.take limit }
  | limit, (front, index) :: echoes =>
      if limit ≤ front.length then some { echoes := [], rest := front.take limit }
      else if limit < front.length + sizes index then none
      else
        (cut sizes rest (limit - (front.length + sizes index)) echoes).map fun kept =>
          { kept with echoes := (front, index) :: kept.echoes }

end StreamTemplate

/-! ## Stretches -/

/-- Characters of a template and its echoes. What was replaced together stays together. -/
structure Stretch (count : Nat) where
  cells : List (Char ⊕ Fin count)
  replaced : Bool
deriving DecidableEq

namespace Stretch

variable {count : Nat} (values : Fin count → String)

def text (stretch : Stretch count) : List Char :=
  if stretch.replaced then redactedMark
  else stretch.cells.flatMap (Sum.elim (fun char => [char]) fun index => (values index).toList)

def contents (stretches : List (Stretch count)) : List Char := stretches.flatMap (text values)

/-- The values are replaced one after the other. In its turn each starts nowhere but where
some whole stretches are the value. -/
def RedactsTo : List String → List (Stretch count) → List (Stretch count) → Prop
  | [], before, after => before = after
  | value :: rest, before, after =>
      ∃ groups : List (List (Stretch count) × Bool),
        groups.flatMap Prod.fst = before ∧
        StartsOnlyMarked value.toList
          (groups.map fun (stretches, marked) => ⟨contents values stretches, marked⟩) ∧
        RedactsTo rest
          (groups.flatMap fun (stretches, marked) =>
            if marked then [⟨stretches.flatMap Stretch.cells, true⟩] else stretches) after

/-- What was not replaced holds no echo. -/
def Hides (stretches : List (Stretch count)) : Prop :=
  ∀ stretch ∈ stretches, stretch.replaced = false → ∀ cell ∈ stretch.cells, cell.isLeft

variable {values}

theorem foldl_redact (nonempty : ∀ value ∈ secrets, value ≠ "")
    (redacts : RedactsTo values secrets before after) :
    secrets.foldl redactSensitiveValue (contents values before) = contents values after := by
  induction secrets generalizing before with
  | nil => exact congrArg _ redacts
  | cons value rest induction =>
      rw [List.forall_mem_cons] at nonempty
      obtain ⟨groups, rfl, only, later⟩ := redacts
      have text : value.toList ≠ [] := by simpa using nonempty.1
      have grouped : contents values (groups.flatMap Prod.fst) =
          content (groups.map fun (stretches, marked) => ⟨contents values stretches, marked⟩) := by
        simp only [contents, content, List.flatMap_assoc, List.flatMap_map]
      rw [List.foldl_cons, redactSensitiveValue, if_neg nonempty.1, grouped,
        replaceAll_content text only, ← induction nonempty.2 later]
      congr 1
      simp only [contentWith, contents, List.flatMap_map, List.flatMap_assoc]
      refine List.flatMap_congr fun group _ => ?_
      cases group.2 <;> simp [Stretch.text]

theorem contents_of_hides {left right : Fin count → String} (hides : Hides stretches) :
    contents left stretches = contents right stretches := by
  refine List.flatMap_congr fun stretch member => ?_
  cases kept : stretch.replaced with
  | true => simp only [text, kept, if_true]
  | false =>
      simp only [text, kept, Bool.false_eq_true, if_false]
      refine List.flatMap_congr fun cell inside => ?_
      obtain ⟨char, rfl⟩ := Sum.isLeft_iff.mp (hides stretch member kept cell inside)
      rfl

end Stretch

namespace StreamTemplate

variable {count : Nat}

def stretches (template : StreamTemplate count) : List (Stretch count) :=
  template.echoes.flatMap (fun (front, index) =>
    (decodeLossy front).map (fun char => ⟨[.inl char], false⟩) ++ [⟨[.inr index], false⟩]) ++
    (decodeLossy template.rest).map fun char => ⟨[.inl char], false⟩

/-- No echo is cut, each is replaced, and the same stretches are replaced for both choices. -/
def HidesBoth (config : ProviderStreamConfig) (left right : Fin count → String)
    (template : StreamTemplate count) : Prop :=
  ∃ kept after, cut (fun index => (utf8 (left index).toList).length) template.rest
      config.outputLimitBytes template.echoes = some kept ∧
    Stretch.RedactsTo left (List.ofFn left) kept.stretches after ∧
    Stretch.RedactsTo right (List.ofFn right) kept.stretches after ∧ Stretch.Hides after

/-! ## One run -/

variable {template : StreamTemplate count}

theorem take_bytes
    (lengths : ∀ index, (utf8 (values index).toList).length = sizes index) {rest : List UInt8}
    {echoes : List (List UInt8 × Fin count)}
    (whole : cut sizes rest limit echoes = some kept) :
    (bytes values { echoes, rest }).take limit = kept.bytes values := by
  induction echoes generalizing limit kept with
  | nil =>
      cases whole
      rfl
  | cons echo echoes induction =>
      obtain ⟨front, index⟩ := echo
      unfold cut at whole
      split at whole
      next inside =>
          cases whole
          simp [bytes, List.take_append_of_le_length inside]
      next outside =>
          split at whole
          next => cases whole
          next fits =>
              obtain ⟨later, cutLater, rfl⟩ := Option.map_eq_some_iff.mp whole
              have tail := induction cutLater
              have size : (front ++ utf8 (values index).toList).length =
                  front.length + sizes index := by
                rw [List.length_append, lengths]
              have split : bytes values { echoes := (front, index) :: echoes, rest } =
                  (front ++ utf8 (values index).toList) ++ bytes values { echoes, rest } := by
                simp [bytes]
              rw [split, List.take_append, List.take_of_length_le (by omega), size, tail]
              simp [bytes]

theorem contents_characters (values : Fin count → String) (characters : List Char) :
    Stretch.contents values (characters.map fun char => ⟨[.inl char], false⟩) = characters := by
  simp [Stretch.contents, Stretch.text, List.flatMap_map]

theorem decodeLossy_bytes (nonempty : ∀ index, values index ≠ "") :
    decodeLossy (template.bytes values) = Stretch.contents values template.stretches := by
  obtain ⟨echoes, rest⟩ := template
  induction echoes with
  | nil => simpa [bytes, stretches] using (contents_characters values _).symm
  | cons echo echoes induction =>
      obtain ⟨front, index⟩ := echo
      have text : (values index).toList ≠ [] := by simpa using nonempty index
      have split : bytes values { echoes := (front, index) :: echoes, rest } =
          front ++ utf8 (values index).toList ++ bytes values { echoes, rest } := by
        simp [bytes]
      have fronts := contents_characters values (decodeLossy front)
      rw [split, decodeLossy_append_utf8 front text, induction]
      simp only [Stretch.contents, stretches, List.flatMap_append, List.flatMap_cons,
        List.flatMap_nil, List.append_nil, List.append_assoc] at fronts ⊢
      rw [fronts]
      simp [Stretch.text]

/-- What is left of the stream is what no replacement reaches. -/
theorem redact_bytes (nonempty : ∀ index, values index ≠ "")
    (redacts : Stretch.RedactsTo values (List.ofFn values) template.stretches after) :
    redactProviderStreamBytes (template.bytes values) (List.ofFn values) =
      utf8 (redactProviderSessionTokens (Stretch.contents values after)) := by
  have values : ∀ value ∈ List.ofFn values, value ≠ "" := by simpa using nonempty
  rw [redactProviderStreamBytes, decodeLossy_bytes nonempty, Stretch.foldl_redact values redacts]

end StreamTemplate

/-! ## Two runs -/

def CaptureOutcome.evidence (outcome : CaptureOutcome) :
    Except EvaError (List UInt8) × List ArtifactWrite :=
  (outcome.result.map (·.preview), outcome.stored)

theorem captureProviderBytes_evidence (store : ArtifactStore) (config : ProviderStreamConfig)
    (same : redactProviderStreamBytes (left.take config.outputLimitBytes) leftValues =
      redactProviderStreamBytes (right.take config.outputLimitBytes) rightValues)
    (leftCount rightCount : Nat) (leftTruncated rightTruncated : Bool) :
    (captureProviderBytes store config left leftCount leftTruncated leftValues).evidence =
      (captureProviderBytes store config right rightCount rightTruncated rightValues).evidence := by
  unfold captureProviderBytes
  split
  next => rfl
  next =>
      dsimp only
      rw [same]
      split
      next => rfl
      next write _ => cases store write <;> rfl

theorem collectProviderStream_eq (store : ArtifactStore) (config : ProviderStreamConfig)
    (reader : ProviderReader config.chunkSizeBytes) (complete : reader.ioError = none)
    (values : List String) :
    ∃ count truncated, collectProviderStream store config reader values =
      captureProviderBytes store config (reader.chunks.flatten.take config.outputLimitBytes)
        count truncated values := by
  obtain ⟨collected, read, captured⟩ :=
    @collectChunks_captured config.outputLimitBytes
      { captured := [], chunkCount := 0, truncated := false } reader.chunks (Nat.zero_le _)
  refine ⟨collected.chunkCount, collected.truncated, ?_⟩
  rw [List.nil_append] at captured
  simp only [collectProviderStream, complete, read]
  rw [← captured]
  split
  next error invalid => rw [captureProviderBytes, invalid]
  next => rfl

theorem captureProviderBytes_of_error (invalid : validateStreamConfig config = .error error) :
    captureProviderBytes store config bytes count truncated values = ⟨.error error, []⟩ := by
  rw [captureProviderBytes, invalid]

/-- However the stream is read, the preview and the stored bytes are the same for both
choices of secrets, if the same stretches of the template are replaced. -/
theorem evidence_hides_secrets {count : Nat} {template : StreamTemplate count}
    {left right : Fin count → String} (store : ArtifactStore) (config : ProviderStreamConfig)
    {leftReader rightReader : ProviderReader config.chunkSizeBytes}
    (leftComplete : leftReader.ioError = none) (rightComplete : rightReader.ioError = none)
    (leftReads : leftReader.chunks.flatten = template.bytes left)
    (rightReads : rightReader.chunks.flatten = template.bytes right)
    (leftNonempty : ∀ index, left index ≠ "") (rightNonempty : ∀ index, right index ≠ "")
    (lengths : ∀ index, (utf8 (left index).toList).length = (utf8 (right index).toList).length)
    (hidden : validateStreamConfig config = .ok () → template.HidesBoth config left right) :
    (collectProviderStream store config leftReader (List.ofFn left)).evidence =
      (collectProviderStream store config rightReader (List.ofFn right)).evidence := by
  obtain ⟨leftCount, leftTruncated, leftOutcome⟩ :=
    collectProviderStream_eq store config leftReader leftComplete (List.ofFn left)
  obtain ⟨rightCount, rightTruncated, rightOutcome⟩ :=
    collectProviderStream_eq store config rightReader rightComplete (List.ofFn right)
  rw [leftOutcome, rightOutcome]
  cases valid : validateStreamConfig config with
  | error error => rw [captureProviderBytes_of_error valid, captureProviderBytes_of_error valid]
  | ok =>
      obtain ⟨kept, after, whole, leftRedacts, rightRedacts, hides⟩ := hidden valid
      refine captureProviderBytes_evidence store config ?_ _ _ _ _
      have leftKept := StreamTemplate.take_bytes (fun _ => rfl) whole
      have rightKept := StreamTemplate.take_bytes (fun index => (lengths index).symm) whole
      rw [List.take_take, List.take_take, Nat.min_self, leftReads, rightReads, leftKept, rightKept,
        StreamTemplate.redact_bytes leftNonempty leftRedacts,
        StreamTemplate.redact_bytes rightNonempty rightRedacts, Stretch.contents_of_hides hides]

/-! ## Secrets that are seen -/

namespace SeenSecrets

def config (outputLimitBytes : Nat) : ProviderStreamConfig where
  streamName := "stdout"
  outputLimitBytes
  previewLimitBytes := 64
  chunkSizeBytes := 64
  artifactRoot := none
  artifactKey := none
  contentType := "text/plain"

def reader (outputLimitBytes : Nat) (text : String) (nonempty : utf8 text.toList ≠ [])
    (short : (utf8 text.toList).length ≤ 64) :
    ProviderReader (config outputLimitBytes).chunkSizeBytes where
  chunks := [utf8 text.toList]
  nonempty := List.forall_mem_singleton.mpr nonempty
  fits := List.forall_mem_singleton.mpr short
  ioError := none

def store : ArtifactStore := fun _ => .error (.unavailable "no artifact store")

theorem evidence_reader (positive : outputLimitBytes ≠ 0) {text : String}
    {nonempty : utf8 text.toList ≠ []} {short : (utf8 text.toList).length ≤ 64}
    {values : List String} {kept result : List Char}
    (cut : (utf8 text.toList).take outputLimitBytes = utf8 kept)
    (redacted : values.foldl redactSensitiveValue kept = result)
    (plain : splitAtFirst sessionTokenMark result = none) :
    (collectProviderStream store (config outputLimitBytes)
        (reader outputLimitBytes text nonempty short) values).evidence =
      (.ok ((utf8 result).take (min 64 outputLimitBytes)), []) := by
  have valid : validateStreamConfig (config outputLimitBytes) = .ok () := by
    simp only [validateStreamConfig, config, seq_eq_ok_iff]
    exact ⟨rejectIf_eq_ok_iff.mpr (by decide), rejectIf_eq_ok_iff.mpr positive,
      rejectIf_eq_ok_iff.mpr (by decide), rejectIf_eq_ok_iff.mpr (by decide), trivial⟩
  have decoded : decodeLossy (utf8 kept) = kept := by
    simpa [decodeLossy, decodeLossyFrom] using decodeLossy_utf8 kept []
  have bytes : redactProviderStreamBytes (utf8 kept) values = utf8 result := by
    rw [redactProviderStreamBytes, decoded, redacted, redactProviderSessionTokens]
    split
    next => rfl
    next found => cases plain.symm.trans found
  obtain ⟨count, truncated, outcome⟩ := collectProviderStream_eq store (config outputLimitBytes)
    (reader outputLimitBytes text nonempty short) rfl values
  have stream : (reader outputLimitBytes text nonempty short).chunks.flatten =
      utf8 text.toList := List.append_nil _
  have limit : (config outputLimitBytes).outputLimitBytes = outputLimitBytes := rfl
  have twice : ((utf8 text.toList).take outputLimitBytes).take outputLimitBytes = utf8 kept := by
    rw [List.take_take, Nat.min_self, cut]
  simp only [outcome, captureProviderBytes, valid, stream, limit, twice, bytes]
  rfl

end SeenSecrets

namespace SeenSecrets

/-- The second secret is echoed nowhere, but it is a word of the template. -/
def template : StreamTemplate 2 where
  echoes := [(utf8 "x is ".toList, 0)]
  rest := []

def secrets (first : String) (index : Fin 2) : String := if index = 0 then first else "x"

def character (char : Char) : Stretch 2 := ⟨[.inl char], false⟩

theorem redactsTo_template
    (starts : StartsOnlyMarked first.toList [⟨"x is ".toList, false⟩, ⟨first.toList, true⟩]) :
    Stretch.RedactsTo (secrets first) [first, "x"] template.stretches
      ([⟨[.inl 'x'], true⟩] ++ " is ".toList.map character ++ [⟨[.inr 0], true⟩]) := by
  refine ⟨[("x is ".toList.map character, false), ([⟨[.inr 0], false⟩], true)], by decide,
    ?_, [([character 'x'], true), (" is ".toList.map character ++ [⟨[.inr 0], true⟩], false)],
    rfl, ?_, ?_⟩
  · simpa [Stretch.contents, Stretch.text, character, secrets] using starts
  · show StartsOnlyMarked "x".toList [⟨['x'], true⟩, ⟨" is [REDACTED]".toList, false⟩]
    decide
  · simp [Stretch.RedactsTo, character]

end SeenSecrets

open SeenSecrets in
theorem evidence_hides_secrets_word :
    (collectProviderStream store (config 64)
        (reader 64 "x is abcd" (by decide) (by decide)) ["abcd", "x"]).evidence =
      (collectProviderStream store (config 64)
        (reader 64 "x is wxyz" (by decide) (by decide)) ["wxyz", "x"]).evidence :=
  @evidence_hides_secrets 2 template (secrets "abcd") (secrets "wxyz") store (config 64) _ _
    rfl rfl rfl rfl (by decide) (by decide) (by decide) fun _ => ⟨template, _, rfl,
      redactsTo_template (by decide), redactsTo_template (by decide),
      by simp [Stretch.Hides, character]⟩

open SeenSecrets in
/-- The limit cuts an echo, or a secret starts with one that is replaced before it. -/
theorem evidence_shows_secrets :
    (collectProviderStream store (config 2) (reader 2 "abcd" (by decide) (by decide))
        ["abcd"]).evidence ≠
      (collectProviderStream store (config 2) (reader 2 "wxyz" (by decide) (by decide))
        ["wxyz"]).evidence ∧
    (collectProviderStream store (config 64) (reader 64 "abcd" (by decide) (by decide))
        ["ab", "abcd"]).evidence ≠
      (collectProviderStream store (config 64) (reader 64 "abxy" (by decide) (by decide))
        ["ab", "abxy"]).evidence := by
  constructor
  · intro same
    rw [@evidence_reader 2 (by decide) "abcd" _ _ ["abcd"] ['a', 'b'] _ (by decide) rfl (by decide),
      @evidence_reader 2 (by decide) "wxyz" _ _ ["wxyz"] ['w', 'x'] _ (by decide) rfl
        (by decide)] at same
    exact absurd (Except.ok.inj (Prod.ext_iff.mp same).1) (by decide)
  · intro same
    rw [@evidence_reader 64 (by decide) "abcd" _ _ ["ab", "abcd"] "abcd".toList _ (by decide) rfl
        (by decide),
      @evidence_reader 64 (by decide) "abxy" _ _ ["ab", "abxy"] "abxy".toList _ (by decide) rfl
        (by decide)] at same
    exact absurd (Except.ok.inj (Prod.ext_iff.mp same).1) (by decide)

end Eva.Adapter
