import Eva.Foundation.Solo
import Eva.Storage.EffectLedger.System
import Eva.Storage.TaskState.Records

/-! # The runtime over records

A runtime whose task files hold the records themselves can be computed with. Whatever
it does, the runtime over any faithful format does.
-/

namespace Eva.Storage

variable {format : RecordFormat}

def RuntimeFiles.written (format : RecordFormat) (state : RuntimeFiles .record) :
    RuntimeFiles format where
  tasks := state.tasks.written format
  effects := state.effects

section Ledger

variable {state : RuntimeFiles .record} {ledger : FileSystemEffectLedger directory}

private theorem enterClaim_written (holds : Holds state.tasks) (faithful : format.Faithful)
    (intent : EffectLedgerIntent) :
    ledger.enterClaim (state.written format) fault clock writer intent =
      ledger.enterClaim state fault clock writer intent := by
  have verified (generation : WriterGeneration) (observedAtMs : U128) :
      verifyEffectTaskClaim fault directory (state.tasks.written format) intent generation
          observedAtMs =
        verifyEffectTaskClaim fault directory state.tasks intent generation observedAtMs := by
    unfold verifyEffectTaskClaim
    rw [holds.read faithful]
  simp only [FileSystemEffectLedger.enterClaim, RuntimeFiles.written, verified]
  rfl

private theorem pendingLatest_written :
    (state.written format).tasks.pendingLatest.isSome = state.tasks.pendingLatest.isSome :=
  Option.isSome_map ..

end Ledger

theorem RuntimeAction.perform_written {action : RuntimeAction directory outside}
    {response : action.Response} (faithful : format.Faithful) (holds : Holds state.tasks)
    (performed : action.perform state environment = some (after, response)) :
    action.perform (state.written format) environment =
        some (after.written format, response) ∧ Holds after.tasks := by
  cases action with
  | store action =>
      obtain ⟨⟨tasks, answer⟩, acted, same⟩ := Option.map_eq_some_iff.mp performed
      cases same
      obtain ⟨_, image, rfl, held⟩ := (recordSimulation directory faithful).perform
        ⟨rfl, holds⟩ acted
      exact ⟨Option.map_eq_some_iff.mpr ⟨_, image, rfl⟩, held⟩
  | inspect ledger operation =>
      obtain ⟨answer, inspected, same⟩ := Option.map_eq_some_iff.mp performed
      cases same
      refine ⟨Option.map_eq_some_iff.mpr ⟨_, ?_, rfl⟩, holds⟩
      rw [← inspected]
      simp only [FileSystemEffectLedger.inspect, pendingLatest_written]
      rfl
  | inspectForClaim ledger taskStore intent =>
      obtain ⟨answer, inspected, same⟩ := Option.map_eq_some_iff.mp performed
      cases same
      refine ⟨Option.map_eq_some_iff.mpr ⟨_, ?_, rfl⟩, holds⟩
      rw [← inspected]
      simp only [FileSystemEffectLedger.inspectForClaim, pendingLatest_written,
        enterClaim_written holds faithful]
  | prepareForClaim ledger taskStore intent =>
      simp only [RuntimeAction.perform, FileSystemEffectLedger.prepareForClaim,
        pendingLatest_written, enterClaim_written holds faithful] at performed ⊢
      split at performed
      next =>
          cases performed
          exact ⟨rfl, holds⟩
      next =>
          split at performed
          next => cases performed
          next free =>
              rw [if_neg free]
              split at performed <;>
                (cases performed
                 exact ⟨rfl, holds⟩)
  | commitEffect ledger intent resultDigest resultSizeBytes committedAtMs =>
      have entered (writer : DurableWriterGuard) :
          ledger.enterWrite (state.written format) environment.store.fault writer =
            ledger.enterWrite state environment.store.fault writer := rfl
      simp only [RuntimeAction.perform, FileSystemEffectLedger.commit, pendingLatest_written,
        entered] at performed ⊢
      split at performed
      next =>
          cases performed
          exact ⟨rfl, holds⟩
      next =>
          split at performed
          next => cases performed
          next free =>
              rw [if_neg free]
              split at performed <;>
                (cases performed
                 exact ⟨rfl, holds⟩)
  | ask request =>
      cases performed
      exact ⟨rfl, holds⟩

theorem conclude_written {program : RuntimeProgram directory outside Result}
    {result : Result} (faithful : format.Faithful) (holds : Holds state.tasks)
    (concluded : program.conclude RuntimeAction.perform environment state =
      some (after, result)) :
    program.conclude RuntimeAction.perform environment (state.written format) =
        some (after.written format, result) ∧ Holds after.tasks := by
  induction program generalizing state with
  | done answer =>
      cases concluded
      exact ⟨rfl, holds⟩
  | step action next induction =>
      unfold Program.conclude at concluded ⊢
      split at concluded
      next => cases concluded
      next middle response performed =>
          obtain ⟨image, held⟩ := RuntimeAction.perform_written faithful holds performed
          rw [image]
          exact induction response held concluded

end Eva.Storage
