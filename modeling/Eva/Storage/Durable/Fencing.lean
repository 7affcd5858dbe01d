import Eva.Storage.Durable.LeaseObedience
import Eva.Foundation.Execution

/-! # Writer fencing

Each writer that is acquired has a larger generation than all before it, and once it is
acquired no record is changed under a guard with a smaller one.
-/

namespace Eva.Storage.Durable

open Discipline

variable {layout : WriterLayout} {paths : LeasePaths} {initial : State}
  {trace : List (system layout paths).Event}
  {configuration : (system layout paths).Configuration}

def Acquires (act : (system layout paths).Act) (guard : DurableWriterGuard) : Prop :=
  ∃ handle, act.action = .call handle (.completeGuard guard)

/-- The generation file has reached every generation that was acquired, and whoever
advanced it under the lock is ahead of them. -/
structure Reached (trace : List (system layout paths).Event) (state : State) : Prop where
  persisted : ∀ act guard, .act act ∈ trace → Acquires act guard →
    guard.generation ≤ state.writer.generation
  ahead : ∀ tenure generation, state.tenure = some tenure → tenure.guard = none →
    tenure.advanced = some generation → ∀ act guard, .act act ∈ trace → Acquires act guard →
      guard.generation < generation

private theorem advanced_of_effect {request : Call} (effect : request.Effect handle before after)
    (held : after.tenure = some tenure)
    (incomplete : tenure.guard = none) (advanced : tenure.advanced = some generation) :
    (∃ earlier, before.tenure = some earlier ∧ earlier.guard = none ∧
      earlier.advanced = some generation) ∨ request = .writeGeneration generation := by
  rcases effect.frame.tenure with same | concerned
  · exact .inl ⟨tenure, same ▸ held, incomplete, advanced⟩
  cases request with
  | kill process =>
      subst effect
      simp only [State.killed, Option.filter_eq_some_iff] at held
      exact .inl ⟨tenure, held.1, incomplete, advanced⟩
  | tryLockOwner =>
      rcases effect with rfl | ⟨-, rfl⟩
      · exact .inl ⟨tenure, held, incomplete, advanced⟩
      · cases held
        cases advanced
  | writeGeneration written =>
      rcases effect with rfl | rfl
      · exact .inl ⟨tenure, held, incomplete, advanced⟩
      · obtain ⟨earlier, found, rfl⟩ := Option.map_eq_some_iff.mp held
        simp only [WriterTenure.advance] at incomplete advanced
        split at advanced
        next =>
            cases advanced
            exact .inr rfl
        next other =>
            rw [if_neg other] at incomplete
            exact .inl ⟨earlier, found, incomplete, advanced⟩
  | completeGuard guard =>
      subst effect
      obtain ⟨earlier, found, rfl⟩ := Option.map_eq_some_iff.mp held
      split at advanced
      next own =>
          rw [if_pos own] at incomplete
          cases incomplete
      next other =>
          rw [if_neg other] at incomplete
          exact .inl ⟨earlier, found, incomplete, advanced⟩
  | cloneGuard owner =>
      rcases effect with rfl | ⟨earlier, found, complete, rfl⟩
      · exact .inl ⟨tenure, held, incomplete, advanced⟩
      · cases held
        exact absurd incomplete complete
  | dropGuard =>
      subst effect
      obtain ⟨earlier, found, dropped⟩ := Option.bind_eq_some_iff.mp held
      simp only [WriterTenure.drop] at dropped
      split at dropped
      next => cases dropped
      next =>
          cases dropped
          exact .inl ⟨earlier, found, incomplete, advanced⟩
  | _ => cases concerned

private theorem generation_of_effect {request : Call}
    (required : request.requires handle before) (effect : request.Effect handle before after) :
    before.writer.generation ≤ after.writer.generation := by
  rcases effect.frame.writer with same | ⟨generation, rfl⟩ | ⟨owner, rfl⟩
  · rw [same]
    exact Nat.le_refl _
  · have next := required.2
    rcases effect with rfl | rfl
    · exact Nat.le_refl _
    · rw [Unsigned.le_iff]
      simp only
      omega
  · rcases effect with rfl | rfl <;> exact Nat.le_refl _

private theorem Reached.older (reached : Reached trace state)
    (other : ∀ act guard, event = .act act → ¬Acquires act guard) :
    Reached (event :: trace) state := by
  have older {act : (system layout paths).Act} {guard : DurableWriterGuard}
      (member : .act act ∈ event :: trace) (acquires : Acquires act guard) :
      .act act ∈ trace := by
    rcases List.mem_cons.mp member with equal | member
    · exact absurd acquires (other act guard equal.symm)
    · exact member
  refine ⟨fun act guard member acquires => ?_, fun tenure generation held incomplete advanced
    act guard member acquires => ?_⟩
  · exact reached.persisted act guard (older member acquires) acquires
  · exact reached.ahead tenure generation held incomplete advanced act guard
      (older member acquires) acquires

private theorem Reached.act {act : (system layout paths).Act} (reached : Reached trace act.before)
    (required : act.action.requires act.before)
    (performed : act.action.perform act.before act.environment = some (act.after, act.response)) :
    Reached (.act act :: trace) act.after := by
  obtain ⟨thread, label, environment, before, after, action, response⟩ := act
  simp only at reached required performed ⊢
  cases action with
  | enter =>
      cases performed
      have kept : Reached (.act ⟨thread, label, environment, before,
          { before with handedOut := before.handedOut + 1 }, .enter, before.handedOut⟩ :: trace)
            before := by
        refine reached.older ?_
        rintro act guard equal ⟨handle, same⟩
        cases equal
        cases same
      exact ⟨kept.persisted, kept.ahead⟩
  | call handle request =>
      have effect := (perform_call performed).2
      have advances := generation_of_effect required effect
      constructor
      · intro act guard member acquires
        rcases List.mem_cons.mp member with equal | member
        · cases equal
          obtain ⟨caller, same⟩ := acquires
          cases same
          rw [required.2]
          exact advances
        · exact Nat.le_trans (reached.persisted act guard member acquires) advances
      · intro tenure generation held incomplete advanced act guard member acquires
        rcases List.mem_cons.mp member with equal | older
        · -- The lock of a writer that is just complete is not incomplete.
          cases equal
          obtain ⟨caller, same⟩ := acquires
          cases same
          have locked : before.tenure = _ := required.1
          subst effect
          simp only [locked, Option.map_some, if_true, Option.some.injEq] at held
          subst held
          cases incomplete
        · rcases advanced_of_effect effect held incomplete advanced with
            ⟨earlier, found, unfinished, ahead⟩ | rfl
          · exact reached.ahead earlier generation found unfinished ahead act guard older acquires
          · have reachedBefore := reached.persisted act guard older acquires
            have next := required.2
            rw [Unsigned.le_iff] at reachedBefore
            rw [Unsigned.lt_iff]
            omega

theorem run_reached (run : (system layout paths).Run initial trace configuration) :
    Reached trace configuration.state := by
  refine invariant (@obeys layout paths) Reached ?_ ?_ ?_ ?_ run
  · refine ⟨fun act guard member => ?_, fun tenure generation _ _ _ act guard member => ?_⟩
    · cases member
    · cases member
  · intro trace state thread label reached
    exact reached.older fun _ _ => nofun
  · intro trace act reached required performed
    exact reached.act required performed
  · intro trace state reached
    have kept : Reached (.crash :: trace) state := reached.older fun _ _ => nofun
    refine ⟨kept.persisted, fun tenure generation held => ?_⟩
    cases held

/-! ## Fencing -/

structure WriterFencing (trace : List (system layout paths).Event) : Prop where
  increasing : ∀ later second middle first earlier older newer,
    trace = later ++ .act second :: middle ++ .act first :: earlier →
    Acquires first older → Acquires second newer → older.generation < newer.generation
  /-- A record is changed by an operation of some guard, and no guard with a larger
  generation was acquired before. -/
  fenced : ∀ later act earlier, trace = later ++ .act act :: earlier →
    act.after.records ≠ act.before.records →
      ∃ handle guard kind action, act.action = .call handle (.record guard kind action) ∧
        ∀ acquired newer, .act acquired ∈ earlier → Acquires acquired newer →
          ¬guard.generation < newer.generation

/-- Writers are fenced over every interleaving, with crashes anywhere. -/
theorem writerFencing_of_run (run : (system layout paths).Run initial trace configuration) :
    WriterFencing trace where
  increasing later second middle first earlier older newer split acquiresFirst acquiresSecond := by
    subst split
    rw [List.append_assoc, List.cons_append] at run
    have required := act_requires (@obeys layout paths) run
    obtain ⟨before, past, current, -⟩ := run.act_cases
    have reached := run_reached past
    rw [current] at reached
    obtain ⟨handle, completes⟩ := acquiresSecond
    rw [completes] at required
    exact reached.ahead _ _ required.1 rfl rfl first older (by simp) acquiresFirst
  fenced later act earlier split changed := by
    subst split
    have required := act_requires (@obeys layout paths) run
    obtain ⟨before, past, current, performed, -⟩ := run.act_cases
    have reached := run_reached past
    rw [current] at reached
    obtain ⟨thread, label, environment, before, after, action, response⟩ := act
    simp only at required performed changed reached ⊢
    cases action with
    | enter =>
        cases performed
        exact absurd rfl changed
    | call handle request =>
        rcases (perform_call performed).2.frame.records with
          same | ⟨guard, kind, action, rfl, changes⟩
        · exact absurd same changed
        · obtain ⟨tenure, -, -, -, generation⟩ := required changes
          refine ⟨handle, guard, kind, action, rfl, fun acquired newer member acquires => ?_⟩
          have below := reached.persisted acquired newer member acquires
          rw [generation] at below
          exact Nat.not_lt.mpr below

theorem writerFencing_of_two_writers : ∃ trace configuration,
    (system exampleLayout examplePaths).Run freshState trace configuration ∧
      configuration.state.writer.generation = 2 ∧ WriterFencing trace := by
  have acquires : ((system exampleLayout examplePaths).script freshState
      [(fineEnvironment, .writer daemon), (fineEnvironment, .writer daemon)]).any
        (·.state.writer.generation = 2) = true := by
    decide
  obtain ⟨session, executed, advanced⟩ := (Option.any_eq_true _ _).mp acquires
  obtain ⟨threads, run⟩ := (System.script_reached executed).run
  exact ⟨_, _, run, of_decide_eq_true advanced, writerFencing_of_run run⟩

end Eva.Storage.Durable
