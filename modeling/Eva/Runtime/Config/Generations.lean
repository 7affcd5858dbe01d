import Eva.Runtime.Config.Manifest

/-! # Configuration generations over restarts

A daemon counts the generations of its configuration from one, and keeps the manifest
beside its own count. A reload advances both in four steps, between which the daemon
can stop; the files of the configuration can change at any time.
-/

namespace Eva.Runtime

open ConfigGenerationStore

/-! ## The daemon -/

/-- What a daemon does next about its configuration. -/
inductive ReloadStep where
  | idle
  | prepare (candidate : ConfigGeneration)
  | promoteRuntime (candidate : ConfigGeneration)
  | promote
  | retire
deriving DecidableEq

structure RunningDaemon where
  generation : ConfigGeneration
  next : ReloadStep
deriving DecidableEq

structure ConfigSystem where
  /-- The canonical form of the configuration files, which are valid. -/
  canonical : List UInt8
  manifest : ManifestFile
  daemon : Option RunningDaemon
deriving DecidableEq

def promoteGeneration (active candidate : ConfigGeneration) :
    Except EvaError ConfigGeneration := do
  rejectIf (candidate.generation ≤ active.generation)
    (.conflict "runtime config generation must advance monotonically")
  pure candidate

def preflightConfigReload (active : ConfigGeneration) (canonical : List UInt8) :
    Except EvaError ConfigGeneration :=
  ConfigGeneration.fromProject canonical (active.generation.saturatingAdd 1)

def digestMismatch (durable loaded : String) : EvaError :=
  (EvaError.conflict "durable active config digest does not match loaded project")
    |>.withContext "durable_digest" durable
    |>.withContext "loaded_digest" loaded

namespace ConfigSystem

variable (system : ConfigSystem)

/-- The part of `start_daemon_inner` about the configuration. -/
def startDaemon : ConfigSystem × Fallible EvaError Unit :=
  match ConfigGeneration.fromProject system.canonical 1 with
  | .error error => (system, .error (.reported error))
  | .ok runtime =>
      match initializeManifest system.manifest runtime with
      | (manifest, .error failure) => ({ system with manifest }, .error failure)
      | (manifest, .ok recovered) =>
          if recovered.active.digest ≠ runtime.digest then
            ({ system with manifest },
              .error (.reported (digestMismatch recovered.active.digest runtime.digest)))
          else
            ({ system with manifest, daemon := some { generation := runtime, next := .idle } },
              .ok ())

/-- Any error of a reload ends the control loop, and with it the daemon. -/
def settle {Value : Type} (manifest : ManifestFile) (result : Fallible EvaError Value)
    (daemon : Value → RunningDaemon) : ConfigSystem :=
  match result with
  | .error _ => { system with manifest, daemon := none }
  | .ok value => { system with manifest, daemon := some (daemon value) }

def advance : ConfigSystem :=
  match system.daemon with
  | none => system
  | some daemon =>
      match daemon.next with
      | .idle => system
      | .prepare candidate =>
          let (manifest, result) := ConfigGenerationStore.prepare system.manifest candidate
          system.settle manifest result fun _ =>
            { daemon with next := .promoteRuntime candidate }
      | .promoteRuntime candidate =>
          system.settle system.manifest
            (fallible (promoteGeneration daemon.generation candidate)) fun generation =>
            { generation, next := .promote }
      | .promote =>
          let (manifest, result) := ConfigGenerationStore.promote system.manifest
          system.settle manifest result fun _ => { daemon with next := .retire }
      | .retire =>
          let (manifest, result) := ConfigGenerationStore.retire system.manifest
          system.settle manifest result fun _ => { daemon with next := .idle }

/-- The watcher reports a change; a candidate that cannot be built is dropped. -/
def notice : ConfigSystem :=
  match system.daemon with
  | none => system
  | some daemon =>
      if daemon.next ≠ .idle then system
      else
        match preflightConfigReload daemon.generation system.canonical with
        | .error _ => system
        | .ok candidate =>
            { system with daemon := some { daemon with next := .prepare candidate } }

end ConfigSystem

inductive ConfigEvent where
  | edit (canonical : List UInt8)
  /-- The lease refuses a second daemon. -/
  | start
  | notice
  | advance
  /-- A stop or a crash, at any step. -/
  | stop

namespace ConfigSystem

def apply (system : ConfigSystem) : ConfigEvent → ConfigSystem
  | .edit canonical => { system with canonical }
  | .start => if system.daemon.isSome then system else system.startDaemon.1
  | .notice => system.notice
  | .advance => system.advance
  | .stop => { system with daemon := none }

def fresh (canonical : List UInt8) : ConfigSystem := { canonical, manifest := none, daemon := none }

def run (system : ConfigSystem) (events : List ConfigEvent) : ConfigSystem :=
  events.foldl apply system

def activeRecord (system : ConfigSystem) : Option GenerationRecord :=
  (ConfigGenerationStore.read system.manifest).toOption.map (·.active)

/-- There is no manifest yet, or it still names the first generation, read from the
files as they are now. -/
def Restartable (system : ConfigSystem) : Prop :=
  system.manifest = none ∨
    system.activeRecord = some { generation := 1, digest := sha256Digest system.canonical }

/-- Runs in which the daemon is only started where it can be. -/
inductive Reached : ConfigSystem → Prop where
  | fresh (canonical : List UInt8) : Reached (ConfigSystem.fresh canonical)
  | event {system : ConfigSystem} (reached : Reached system) (event : ConfigEvent)
      (restartable : event = .start → system.daemon = none → system.Restartable) :
      Reached (system.apply event)

/-! ## Agreement -/

/-- How the manifest stands to the daemon at each step of a reload. -/
def Agrees (manifest : GenerationManifest) (daemon : RunningDaemon) : Prop :=
  match daemon.next with
  | .idle => manifest.phase = .stable ∧ manifest.active = daemon.generation
  | .prepare candidate => manifest.phase = .stable ∧ manifest.active = daemon.generation ∧
      candidate.Valid ∧
      candidate.generation = daemon.generation.generation.saturatingAdd 1
  | .promoteRuntime candidate => manifest.phase = .prepared ∧
      manifest.candidate = some candidate ∧
      daemon.generation.generation < candidate.generation
  | .promote => manifest.phase = .prepared ∧ manifest.candidate = some daemon.generation
  | .retire => manifest.phase = .promoted ∧ manifest.active = daemon.generation

structure Sound (system : ConfigSystem) : Prop where
  stored : ∀ text ∈ system.manifest, ∃ manifest : GenerationManifest,
    manifest.Valid ∧ text = encode manifest
  agrees : ∀ daemon ∈ system.daemon, ∃ manifest : GenerationManifest,
    manifest.Valid ∧ system.manifest = some (encode manifest) ∧ Agrees manifest daemon

variable {system : ConfigSystem}

theorem activeRecord_of_encode {manifest : GenerationManifest} (valid : manifest.Valid)
    (stored : system.manifest = some (encode manifest)) :
    system.activeRecord = some manifest.active := by
  rw [activeRecord, stored, read_encode valid]
  rfl

def firstGeneration (canonical : List UInt8) : ConfigGeneration where
  generation := 1
  digest := sha256Digest canonical

theorem fromProject_one (canonical : List UInt8) :
    ConfigGeneration.fromProject canonical 1 = .ok (firstGeneration canonical) := rfl

theorem valid_firstGeneration (canonical : List UInt8) : (firstGeneration canonical).Valid :=
  ConfigGeneration.valid_sha256Digest (by decide)

theorem startDaemon_without_manifest (canonical : List UInt8) (daemon : Option RunningDaemon) :
    startDaemon ⟨canonical, none, daemon⟩ =
      (⟨canonical, some (encode (stableAt (firstGeneration canonical))),
        some ⟨firstGeneration canonical, .idle⟩⟩, .ok ()) := by
  have initialized : initializeManifest none (firstGeneration canonical) =
      write (stableAt (firstGeneration canonical)) := rfl
  simp only [startDaemon, fromProject_one, initialized, write, stableAt_active, ne_eq,
    not_true_eq_false, if_false]

theorem startDaemon_with_manifest {manifest : GenerationManifest} (valid : manifest.Valid)
    {canonical : List UInt8} (daemon : Option RunningDaemon)
    (loaded : manifest.active.digest = (firstGeneration canonical).digest) :
    startDaemon ⟨canonical, some (encode manifest), daemon⟩ =
      (⟨canonical, some (encode (stableAt manifest.active)),
        some ⟨firstGeneration canonical, .idle⟩⟩, .ok ()) := by
  simp only [startDaemon, fromProject_one, initialize_encode valid, write, stableAt_active, loaded,
    ne_eq, not_true_eq_false, if_false]

theorem startDaemon_of_restartable (sound : system.Sound) (restartable : system.Restartable) :
    system.startDaemon =
      (⟨system.canonical, some (encode (stableAt (firstGeneration system.canonical))),
        some ⟨firstGeneration system.canonical, .idle⟩⟩, .ok ()) := by
  obtain ⟨canonical, file, daemon⟩ := system
  cases file with
  | none => exact startDaemon_without_manifest canonical daemon
  | some text =>
      obtain ⟨manifest, valid, rfl⟩ := sound.stored text rfl
      rcases restartable with missing | named
      · cases missing
      · rw [activeRecord_of_encode valid rfl, Option.some.injEq] at named
        rw [startDaemon_with_manifest valid daemon (congrArg ConfigGeneration.digest named), named]
        rfl

theorem sound_settle {result : Fallible EvaError Value}
    {daemon : Value → RunningDaemon} {manifest : GenerationManifest} (valid : manifest.Valid)
    (stored : file = some (encode manifest))
    (agrees : ∀ value, result = .ok value → Agrees manifest (daemon value)) :
    (system.settle file result daemon).Sound := by
  subst stored
  cases result with
  | error failure =>
      refine ⟨?_, by simp [settle]⟩
      rintro text ⟨⟩
      exact ⟨manifest, valid, rfl⟩
  | ok value =>
      constructor
      · rintro text ⟨⟩
        exact ⟨manifest, valid, rfl⟩
      · rintro running ⟨⟩
        exact ⟨manifest, valid, rfl, agrees value rfl⟩

theorem advance_sound (sound : system.Sound) : system.advance.Sound := by
  unfold advance
  split
  next => exact sound
  next daemon running =>
    obtain ⟨manifest, valid, stored, agrees⟩ := sound.agrees daemon running
    unfold Agrees at agrees
    split
    next => exact sound
    next candidate step =>
      rw [step] at agrees
      obtain ⟨phase, active, candidateValid, next⟩ := agrees
      rw [stored, prepare_encode valid]
      dsimp only
      split
      next => exact sound_settle (valid_stableAt valid.active) rfl (by simp [reject])
      next advanced =>
        refine sound_settle (valid_preparedAt valid.active candidateValid) rfl ?_
        intro value _
        refine ⟨rfl, rfl, ?_⟩
        rw [active] at advanced
        exact Nat.lt_of_not_le advanced
    next candidate step =>
      rw [step] at agrees
      obtain ⟨phase, prepared, later⟩ := agrees
      refine sound_settle valid stored ?_
      intro generation promoted
      simp only [promoteGeneration, fallible_eq_ok_iff, seq_eq_ok_iff, pure_eq_ok_iff] at promoted
      obtain ⟨-, rfl⟩ := promoted
      exact ⟨phase, prepared⟩
    next step =>
      rw [step] at agrees
      obtain ⟨phase, prepared⟩ := agrees
      rw [stored, promote_encode valid phase prepared]
      exact sound_settle (valid_promotedAt (valid.candidate _ prepared) valid.active) rfl
        fun _ _ => ⟨rfl, rfl⟩
    next step =>
      rw [step] at agrees
      obtain ⟨phase, active⟩ := agrees
      rw [stored, retire_encode valid phase]
      exact sound_settle (valid_stableAt valid.active) rfl fun _ _ => ⟨rfl, active⟩

theorem notice_sound (sound : system.Sound) : system.notice.Sound := by
  unfold notice
  split
  next => exact sound
  next daemon running =>
    split
    next => exact sound
    next idle =>
      have resting : daemon.next = .idle := not_not.mp idle
      split
      next => exact sound
      next candidate built =>
        obtain ⟨manifest, valid, stored, agrees⟩ := sound.agrees daemon running
        rw [Agrees, resting] at agrees
        simp only [preflightConfigReload, ConfigGeneration.fromProject, seq_eq_ok_iff,
          rejectIf_eq_ok_iff, pure_eq_ok_iff] at built
        obtain ⟨positive, rfl⟩ := built
        refine ⟨sound.stored, ?_⟩
        rintro later ⟨⟩
        exact ⟨manifest, valid, stored, agrees.1, agrees.2,
          ConfigGeneration.valid_sha256Digest positive, rfl⟩

theorem Reached.sound (reached : Reached system) : system.Sound := by
  induction reached with
  | fresh canonical => exact ⟨by simp [ConfigSystem.fresh], by simp [ConfigSystem.fresh]⟩
  | @event system _ event restartable sound =>
      cases event with
      | edit canonical => exact ⟨sound.stored, sound.agrees⟩
      | start =>
          change (if system.daemon.isSome then system else system.startDaemon.1).Sound
          split
          next => exact sound
          next stopped =>
            have startable := restartable rfl (Option.not_isSome_iff_eq_none.mp stopped)
            rw [startDaemon_of_restartable sound startable]
            have valid := valid_firstGeneration system.canonical
            constructor
            · rintro text ⟨⟩
              exact ⟨_, valid_stableAt valid, rfl⟩
            · rintro daemon ⟨⟩
              exact ⟨_, valid_stableAt valid, rfl, rfl, rfl⟩
      | notice => exact notice_sound sound
      | advance => exact advance_sound sound
      | stop => exact ⟨sound.stored, by simp [apply]⟩

/-! ## A whole reload -/

theorem lt_saturatingAdd_one (room : number ≠ Unsigned.maximum 64) :
    number < number.saturatingAdd 1 := by
  have below := number.inRange
  have distinct : number.value ≠ 2 ^ 64 - 1 := fun same => room (Unsigned.eq_iff.mpr same)
  have one : (1 : U64).value = 1 := rfl
  rw [Unsigned.lt_iff, Unsigned.saturatingAdd_value, one]
  omega

def nextGeneration (active : ConfigGeneration) (canonical : List UInt8) : ConfigGeneration where
  generation := active.generation.saturatingAdd 1
  digest := sha256Digest canonical

section Steps

variable {canonical : List UInt8} {manifest : GenerationManifest}

theorem saturatingAdd_one_ne_zero (number : U64) : number.saturatingAdd 1 ≠ 0 := by
  intro zero
  have value := congrArg Unsigned.value zero
  have one : (1 : U64).value = 1 := rfl
  have none : (0 : U64).value = 0 := rfl
  rw [Unsigned.saturatingAdd_value, one, none] at value
  omega

theorem notice_of_idle (file : ManifestFile) :
    notice ⟨canonical, file, some ⟨generation, .idle⟩⟩ =
      ⟨canonical, file, some ⟨generation, .prepare (nextGeneration generation canonical)⟩⟩ := by
  have built : preflightConfigReload generation canonical =
      .ok (nextGeneration generation canonical) := by
    simp only [preflightConfigReload, ConfigGeneration.fromProject, rejectIf,
      saturatingAdd_one_ne_zero, if_false]
    rfl
  simp only [notice, ne_eq, not_true_eq_false, if_false, built]

theorem advance_of_prepare (valid : manifest.Valid)
    (later : ¬candidate.generation ≤ manifest.active.generation) :
    advance ⟨canonical, some (encode manifest), some ⟨generation, .prepare candidate⟩⟩ =
      ⟨canonical, some (encode (preparedAt manifest.active candidate)),
        some ⟨generation, .promoteRuntime candidate⟩⟩ := by
  simp only [advance, prepare_encode valid, if_neg later, write, settle]

theorem advance_of_rejected (valid : manifest.Valid)
    (earlier : candidate.generation ≤ manifest.active.generation) :
    advance ⟨canonical, some (encode manifest), some ⟨generation, .prepare candidate⟩⟩ =
      ⟨canonical, some (encode (stableAt manifest.active)), none⟩ := by
  simp only [advance, prepare_encode valid, if_pos earlier, reject, settle]

theorem advance_of_promoteRuntime (file : ManifestFile)
    (later : ¬candidate.generation ≤ generation.generation) :
    advance ⟨canonical, file, some ⟨generation, .promoteRuntime candidate⟩⟩ =
      ⟨canonical, file, some ⟨candidate, .promote⟩⟩ := by
  simp only [advance, promoteGeneration, rejectIf, if_neg later, settle]
  rfl

theorem advance_of_promote (valid : manifest.Valid) (phase : manifest.phase = .prepared)
    (prepared : manifest.candidate = some candidate) :
    advance ⟨canonical, some (encode manifest), some ⟨generation, .promote⟩⟩ =
      ⟨canonical, some (encode (promotedAt manifest.active candidate)),
        some ⟨generation, .retire⟩⟩ := by
  simp only [advance, promote_encode valid phase prepared, write, settle]

theorem advance_of_retire (valid : manifest.Valid) (phase : manifest.phase = .promoted) :
    advance ⟨canonical, some (encode manifest), some ⟨generation, .retire⟩⟩ =
      ⟨canonical, some (encode (stableAt manifest.active)), some ⟨generation, .idle⟩⟩ := by
  simp only [advance, retire_encode valid phase, write, settle]

theorem reload_of_idle (valid : generation.Valid)
    (room : generation.generation ≠ Unsigned.maximum 64) :
    run ⟨canonical, some (encode (stableAt generation)), some ⟨generation, .idle⟩⟩
        [.notice, .advance, .advance, .advance, .advance] =
      ⟨canonical, some (encode (stableAt (nextGeneration generation canonical))),
        some ⟨nextGeneration generation canonical, .idle⟩⟩ := by
  have later : ¬(nextGeneration generation canonical).generation ≤ generation.generation :=
    Nat.not_le_of_lt (lt_saturatingAdd_one room)
  have next : (nextGeneration generation canonical).Valid :=
    ConfigGeneration.valid_sha256Digest (saturatingAdd_one_ne_zero _)
  simp only [run, List.foldl_cons, List.foldl_nil, apply]
  rw [notice_of_idle, advance_of_prepare (valid_stableAt valid) later, stableAt_active,
    advance_of_promoteRuntime _ later,
    advance_of_promote (valid_preparedAt valid next) rfl rfl, preparedAt_active,
    advance_of_retire (valid_promotedAt next valid) rfl, promotedAt_active]

end Steps

/-- As long as the daemon is only started where it can be: a start succeeds and agrees
with the manifest, a daemon between reloads agrees with it, no reload stops a daemon,
and the next edit is promoted. -/
theorem config_generations_agree (reached : Reached system) :
    (system.Restartable → system.daemon = none →
      ∃ daemon, system.startDaemon.2 = .ok () ∧ (system.apply .start).daemon = some daemon ∧
        (system.apply .start).activeRecord = some daemon.generation) ∧
      ∀ daemon ∈ system.daemon, daemon.next = .idle →
        system.activeRecord = some daemon.generation ∧
          (daemon.generation.generation ≠ Unsigned.maximum 64 → ∀ canonical,
            let after := system.run
              [.edit canonical, .notice, .advance, .advance, .advance, .advance]
            let promoted : ConfigGeneration :=
              { generation := daemon.generation.generation.saturatingAdd 1
                digest := sha256Digest canonical }
            after.daemon = some { generation := promoted, next := .idle } ∧
              after.activeRecord = some promoted) := by
  have sound := reached.sound
  constructor
  · intro restartable stopped
    have started := startDaemon_of_restartable sound restartable
    have valid := valid_firstGeneration system.canonical
    simp only [apply, stopped, Option.isSome_none, Bool.false_eq_true, if_false]
    rw [started]
    exact ⟨_, rfl, rfl, activeRecord_of_encode (valid_stableAt valid) rfl⟩
  · rintro ⟨generation, next⟩ running idle
    obtain ⟨manifest, valid, stored, agrees⟩ := sound.agrees _ running
    subst idle
    obtain ⟨stable, rfl⟩ := agrees
    refine ⟨activeRecord_of_encode valid stored, ?_⟩
    intro room canonical
    have settled : system.apply (.edit canonical) =
        ⟨canonical, some (encode (stableAt manifest.active)), some ⟨manifest.active, .idle⟩⟩ := by
      rw [apply, stored, running, ← eq_stableAt valid stable]
    have next : (nextGeneration manifest.active canonical).Valid :=
      ConfigGeneration.valid_sha256Digest (saturatingAdd_one_ne_zero _)
    have reloaded := @reload_of_idle canonical _ valid.active room
    simp only [run, List.foldl_cons, settled] at reloaded ⊢
    rw [reloaded]
    exact ⟨rfl, activeRecord_of_encode (valid_stableAt next) rfl⟩

theorem apply_start_fresh (canonical : List UInt8) :
    (fresh canonical).apply .start =
      ⟨canonical, some (encode (stableAt (firstGeneration canonical))),
        some ⟨firstGeneration canonical, .idle⟩⟩ := by
  have started := startDaemon_without_manifest canonical none
  simp only [apply, fresh, Option.isSome_none, Bool.false_eq_true, if_false, started]

/-- A restart before the first reload. -/
theorem config_generations_agree_once :
    let restarted := (fresh []).run [.start, .stop, .start]
    restarted.activeRecord = some ⟨1, sha256Digest []⟩ ∧
      (restarted.run [.edit [7], .notice, .advance, .advance, .advance, .advance]).activeRecord =
        some ⟨2, sha256Digest [7]⟩ := by
  -- Digests of unknown bytes are not computed.
  have general (before after : List UInt8) :
      let restarted := (fresh before).run [.start, .stop, .start]
      restarted.activeRecord = some ⟨1, sha256Digest before⟩ ∧
        (restarted.run [.edit after, .notice, .advance, .advance, .advance, .advance]).activeRecord =
          some ⟨2, sha256Digest after⟩ := by
    have valid := valid_stableAt (valid_firstGeneration before)
    have stopped : ((fresh before).apply .start).apply .stop =
        ⟨before, some (encode (stableAt (firstGeneration before))), none⟩ := by
      rw [apply_start_fresh]
      rfl
    have reached : Reached ((fresh before).run [.start, .stop, .start]) := by
      refine .event (.event (.event (.fresh before) .start fun _ _ => .inl rfl) .stop (by simp))
        .start fun _ _ => .inr ?_
      rw [stopped]
      exact activeRecord_of_encode valid rfl
    have running : (⟨firstGeneration before, .idle⟩ : RunningDaemon) ∈
        ((fresh before).run [.start, .stop, .start]).daemon := by
      simp only [run, List.foldl_cons, List.foldl_nil, stopped]
      simp only [apply, startDaemon_with_manifest valid none rfl, Option.isSome_none,
        Bool.false_eq_true, if_false]
      rfl
    have agreed := (config_generations_agree reached).2 _ running rfl
    have room : (firstGeneration before).generation ≠ Unsigned.maximum 64 :=
      show (1 : U64) ≠ Unsigned.maximum 64 by decide
    exact ⟨agreed.1, (agreed.2 room after).2⟩
  exact general [] [7]

section Restart

variable (first second third : List UInt8)

private theorem restart_after_reload :
    (fresh first).run
        [.start, .edit second, .notice, .advance, .advance, .advance, .advance, .stop, .start] =
      ⟨second, some (encode (stableAt ⟨2, sha256Digest second⟩)),
        some ⟨firstGeneration second, .idle⟩⟩ := by
  have room : (firstGeneration first).generation ≠ Unsigned.maximum 64 :=
    show (1 : U64) ≠ Unsigned.maximum 64 by decide
  have reloaded := @reload_of_idle second _ (valid_firstGeneration first) room
  have valid : (stableAt ⟨2, sha256Digest second⟩).Valid :=
    valid_stableAt (ConfigGeneration.valid_sha256Digest (by decide))
  have advanced : nextGeneration (firstGeneration first) second = ⟨2, sha256Digest second⟩ := rfl
  have started := @startDaemon_with_manifest _ valid second none rfl
  have edited : ((fresh first).apply .start).apply (.edit second) =
      ⟨second, some (encode (stableAt (firstGeneration first))),
        some ⟨firstGeneration first, .idle⟩⟩ := by
    rw [apply_start_fresh]
    rfl
  rw [advanced] at reloaded
  simp only [run, List.foldl_cons, List.foldl_nil] at reloaded ⊢
  rw [edited, reloaded]
  simp only [apply, Option.isSome_none, Bool.false_eq_true, if_false, started, stableAt_active]

private theorem edit_after_restart :
    run ⟨second, some (encode (stableAt ⟨2, sha256Digest second⟩)),
        some ⟨firstGeneration second, .idle⟩⟩ [.edit third, .notice, .advance] =
      ⟨third, some (encode (stableAt ⟨2, sha256Digest second⟩)), none⟩ := by
  have valid : (stableAt ⟨2, sha256Digest second⟩).Valid :=
    valid_stableAt (ConfigGeneration.valid_sha256Digest (by decide))
  have repeated : (nextGeneration (firstGeneration second) third).generation ≤
      (stableAt ⟨2, sha256Digest second⟩).active.generation :=
    show (2 : U64) ≤ 2 by decide
  simp only [run, List.foldl_cons, List.foldl_nil, apply, notice_of_idle]
  rw [advance_of_rejected valid repeated, stableAt_active]

end Restart

/-- After a reload and a restart the daemon counts from one again: it disagrees with the
manifest, and the next edit stops it. -/
theorem config_generations_disagree_after_restart :
    let restarted := (fresh [1]).run
      [.start, .edit [2], .notice, .advance, .advance, .advance, .advance, .stop, .start]
    restarted.daemon = some ⟨⟨1, sha256Digest [2]⟩, .idle⟩ ∧
      restarted.activeRecord = some ⟨2, sha256Digest [2]⟩ ∧
      (restarted.run [.edit [3], .notice, .advance]).daemon = none := by
  have general (first second third : List UInt8) :
      let restarted := (fresh first).run
        [.start, .edit second, .notice, .advance, .advance, .advance, .advance, .stop, .start]
      restarted.daemon = some ⟨⟨1, sha256Digest second⟩, .idle⟩ ∧
        restarted.activeRecord = some ⟨2, sha256Digest second⟩ ∧
        (restarted.run [.edit third, .notice, .advance]).daemon = none := by
    have valid : (stableAt ⟨2, sha256Digest second⟩).Valid :=
      valid_stableAt (ConfigGeneration.valid_sha256Digest (by decide))
    rw [restart_after_reload first second]
    refine ⟨rfl, activeRecord_of_encode valid rfl, ?_⟩
    rw [edit_after_restart second third]
  exact general [1] [2] [3]

end ConfigSystem

end Eva.Runtime
