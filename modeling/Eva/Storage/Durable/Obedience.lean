import Eva.Storage.Durable.Conduct

/-! # The programs, one after the other -/

namespace Eva.Storage.Durable

open Discipline

variable {layout : WriterLayout} {paths : LeasePaths} {handle : Handle} {Result : Type}
  {holds : State → Prop}

/-- The program provides what its calls require, under the number of its handle. -/
abbrev Provides (layout : WriterLayout) (paths : LeasePaths) (handle : Handle)
    (program : Program Result) (holds : State → Prop) (ends : Result → State → Prop) : Prop :=
  (discipline layout paths).Keeps handle.number program holds ends

/-! ## Single calls -/

theorem provides_ask {later : request.Response → State → Prop}
    (stable : ∀ response, (discipline layout paths).Stable handle.number (later response))
    (performs : ∀ before environment after response, holds before →
      handle.process ∉ before.dead →
      request.perform handle before environment = some (after, response) →
      request.requires handle before ∧ later response after) :
    Provides layout paths handle (ask handle request) holds later := by
  refine keeps_step rfl later stable ?_ fun response => keeps_done fun _ given => given
  intro before environment after response given performed
  have alive := (perform_call performed).1
  simp only [Action.perform, if_neg alive] at performed
  exact performs before environment after response given alive performed

theorem provides_forgetting (unconditional : ∀ state, request.requires handle state) :
    Provides layout paths handle (ask handle request) holds fun _ _ => True :=
  provides_ask (fun _ => stable_true) fun before _ _ _ _ _ _ => ⟨unconditional before, trivial⟩

theorem provides_step (first : Provides layout paths handle (ask handle request) holds later)
    (rest : ∀ response, Provides layout paths handle (next response) (later response) ends) :
    Provides layout paths handle (.step (.call handle request) next) holds ends :=
  first.bind rest

theorem provides_reporting
    (provides : Provides layout paths handle program holds (OnSuccess ends)) :
    Provides layout paths handle (reporting error program) holds (OnSuccess ends) := by
  refine provides.bind fun result => keeps_done fun state given => ?_
  cases result with
  | ok result => exact given
  | error error => trivial

theorem stable_onSuccess (lasting : ∀ result, Lasting layout paths handle.number (ends result))
    (response : Except Error Result) :
    (discipline layout paths).Stable handle.number (OnSuccess ends response) := by
  cases response with
  | ok result => exact (lasting result).stable
  | error error => exact stable_true

/-- Calls that require nothing and change nothing that is known. -/
def Call.isQuiet : Call → Bool
  | io _ | readGeneration | ownerRecordExists | uniqueNumbers | readOwner | pathExists _ |
    openAnchor | linkAnchor | readAnchor | deadlinePassed | readLease | lock _ | unlock _ => true
  | _ => false

theorem effect_of_quiet {request : Call} (quiet : request.isQuiet = true)
    (effect : request.Effect handle before after) : request.requires handle before ∧
      ∃ anchor locks, after = { before with anchor, locks } := by
  cases request with
  | linkAnchor =>
      rcases effect with rfl | rfl
      · exact ⟨trivial, _, _, rfl⟩
      · exact ⟨trivial, _, _, rfl⟩
  | lock | unlock =>
      obtain ⟨locks, rfl⟩ := effect
      exact ⟨trivial, _, locks, rfl⟩
  | io | readGeneration | ownerRecordExists | uniqueNumbers | readOwner | pathExists
  | openAnchor | readAnchor | deadlinePassed | readLease =>
      subst effect
      exact ⟨trivial, _, _, rfl⟩
  | _ => cases quiet

theorem provides_quiet (quiet : request.isQuiet = true)
    (lasting : Lasting layout paths handle.number holds) :
    Provides layout paths handle (ask handle request) holds fun _ => holds := by
  refine provides_ask (fun _ => lasting.stable) ?_
  intro before environment after response given alive performed
  obtain ⟨required, anchor, locks, rfl⟩ := effect_of_quiet quiet (Call.perform_effect performed)
  exact ⟨required, lasting.apart before anchor locks given⟩

def Quiet (handle : Handle) : Program Result → Prop
  | .done _ => True
  | .step (.call caller request) next => caller = handle ∧ request.isQuiet = true ∧
      ∀ response, Quiet handle (next response)
  | .step .enter _ => False

theorem quiet_ask (quiet : request.isQuiet = true) :
    Quiet handle (ask handle request) := ⟨rfl, quiet, fun _ => trivial⟩

theorem Quiet.bind
    (first : Quiet handle program) (second : ∀ result, Quiet handle (continuation result)) :
    Quiet handle (program.bind continuation) := by
  induction program with
  | done result => exact second result
  | step action next induction =>
      cases action with
      | enter => cases first
      | call caller request =>
          obtain ⟨own, quiet, rest⟩ := first
          exact ⟨own, quiet, fun response => induction response (rest response)⟩

theorem Quiet.reporting
    (quiet : Quiet handle program) : Quiet handle (Durable.reporting error program) :=
  quiet.bind fun _ => trivial

theorem Quiet.andThen
    (first : Quiet handle program) (second : ∀ result, Quiet handle (continuation result)) :
    Quiet handle (program.andThen continuation) := by
  refine first.bind fun result => ?_
  cases result with
  | ok result => exact second result
  | error error => trivial

theorem Quiet.provides (quiet : Quiet handle program)
    (lasting : Lasting layout paths handle.number holds) :
    Provides layout paths handle program holds fun _ => holds := by
  induction program with
  | done result => exact keeps_done fun _ given => given
  | step action next induction =>
      cases action with
      | enter => cases quiet
      | call caller request =>
          obtain ⟨rfl, silent, rest⟩ := quiet
          exact provides_step (provides_quiet silent lasting) fun response =>
            induction response (rest response)

theorem Quiet.succeeds
    (quiet : Quiet handle program) (lasting : Lasting layout paths handle.number holds) :
    Provides layout paths handle program holds (OnSuccess fun _ => holds) :=
  (quiet.provides lasting).onSuccess

theorem provides_kept (provides : Provides layout paths handle program holds fun _ => holds) :
    Provides layout paths handle (reporting error program) holds (OnSuccess fun _ => holds) :=
  provides_reporting provides.onSuccess

theorem provides_check {checked : Except EvaError Result}
    (ended : ∀ result, checked = .ok result → ∀ state, holds state → ends result state) :
    Provides layout paths handle (.done checked) holds (OnSuccess ends) := by
  cases checked with
  | ok result => exact keeps_done (ended result rfl)
  | error error => exact keeps_done fun _ _ => trivial

theorem answer_eq_ok {environment : Environment}
    (answered : environment.answer value = .ok result) :
    environment.ioError = none ∧ result = value := by
  unfold Environment.answer at answered
  split at answered
  next => cases answered
  next fine =>
      cases answered
      exact ⟨fine, rfl⟩

theorem atomicWrite_of_fine {environment : Environment} (fine : environment.ioError = none)
    (old new : Result) : environment.atomicWrite old new = new := by
  simp [Environment.atomicWrite, fine]

/-! ## Writers -/

/-- What stays known while the ownership files and the lock of the writer change. -/
structure Beside (layout : WriterLayout) (paths : LeasePaths) (number : Nat)
    (frame : State → Prop) : Prop extends Lasting layout paths number frame where
  beside : ∀ state writer tenure, frame state → frame { state with writer, tenure }

private theorem lasting_locking (framed : Beside layout paths handle.number frame)
    (advanced generation : Option WriterGeneration) :
    Lasting layout paths handle.number fun state =>
      frame state ∧ Locking handle advanced generation state :=
  framed.toLasting.and lasting_hasLock

private theorem lasting_guarding (framed : Beside layout paths handle.number frame)
    (guard : DurableWriterGuard) : Lasting layout paths handle.number fun state =>
      frame state ∧ Guarding handle guard (some guard.generation) state :=
  framed.toLasting.and lasting_hasGuard

theorem readWriterGeneration_quiet : Quiet handle (readWriterGeneration layout handle) :=
  (quiet_ask rfl).reporting

private theorem readsGeneration {ends : WriterGeneration → State → Prop}
    (lasting : ∀ current, Lasting layout paths handle.number (ends current))
    (reads : ∀ state, holds state → handle.process ∉ state.dead →
      ends state.writer.generation state) :
    Provides layout paths handle (readWriterGeneration layout handle) holds (OnSuccess ends) := by
  refine provides_reporting (provides_ask (stable_onSuccess lasting) ?_)
  intro before environment after response given alive performed
  cases performed
  refine ⟨trivial, ?_⟩
  cases answered : environment.answer before.writer.generation with
  | error error => trivial
  | ok current =>
      obtain ⟨-, rfl⟩ := answer_eq_ok answered
      exact reads before given alive

section

variable (framed : Beside layout paths handle.number frame)
include framed

private theorem readWriterGeneration_provides :
    Provides layout paths handle (readWriterGeneration layout handle)
      (fun state => frame state ∧ Locking handle none none state)
      (OnSuccess fun current state => frame state ∧
        Locking handle none (some current) state) := by
  refine readsGeneration (fun current => lasting_locking framed none (some current)) ?_
  intro state given alive
  exact ⟨given.1, fun _ => ⟨(given.2 alive).1, fun known same => Option.some.inj same⟩⟩

private theorem writeGeneration_provides
    (advanced : generation.value = current.value + 1) :
    Provides layout paths handle (ask handle (.writeGeneration generation))
      (fun state => frame state ∧ Locking handle none (some current) state)
      (OnSuccess fun _ state => frame state ∧
        Locking handle (some generation) (some generation) state) := by
  refine provides_ask (stable_onSuccess fun _ =>
    lasting_locking framed (some generation) (some generation)) ?_
  intro before environment after response given alive performed
  cases performed
  obtain ⟨locked, read⟩ := given.2 alive
  refine ⟨⟨locked, by rw [read current rfl]; exact advanced⟩, ?_⟩
  cases answered : environment.answer () with
  | error error => trivial
  | ok result =>
      obtain ⟨fine, -⟩ := answer_eq_ok answered
      rw [atomicWrite_of_fine fine, atomicWrite_of_fine fine]
      refine ⟨framed.beside before _ _ given.1, fun _ => ⟨?_, fun known same => ?_⟩⟩
      · simp only [Locked, show before.tenure = _ from locked, Option.map_some,
          WriterTenure.advance, if_true]
      · exact Option.some.inj same

private theorem writeOwner_provides :
    Provides layout paths handle (ask handle (.writeOwner owner))
      (fun state => frame state ∧
        Locking handle (some owner.generation) (some owner.generation) state)
      (OnSuccess fun _ state => frame state ∧
        Locking handle (some owner.generation) (some owner.generation) state) := by
  refine provides_ask
    (stable_onSuccess fun _ => lasting_locking framed _ (some owner.generation)) ?_
  intro before environment after response given alive performed
  cases performed
  obtain ⟨locked, read⟩ := given.2 alive
  refine ⟨⟨locked, (read _ rfl).symm⟩, ?_⟩
  cases answered : environment.answer () with
  | error error => trivial
  | ok result =>
      obtain ⟨fine, -⟩ := answer_eq_ok answered
      rw [atomicWrite_of_fine fine]
      exact ⟨framed.beside before _ before.tenure given.1, fun _ => ⟨locked, read⟩⟩

private theorem completeGuard_provides
    {guard : DurableWriterGuard} :
    Provides layout paths handle (ask handle (.completeGuard guard))
      (fun state => frame state ∧
        Locking handle (some guard.generation) (some guard.generation) state)
      (fun _ state => frame state ∧ Guarding handle guard (some guard.generation) state) := by
  refine provides_ask (fun _ => (lasting_guarding framed guard).stable) ?_
  intro before environment after response given alive performed
  cases performed
  obtain ⟨locked, read⟩ := given.2 alive
  refine ⟨⟨locked, (read _ rfl).symm⟩, framed.beside before before.writer _ given.1, fun _ => ?_⟩
  refine ⟨{ handle, guard := some guard, holders := [handle.number],
            advanced := some guard.generation }, ?_, rfl, rfl, List.mem_singleton.mpr rfl, read⟩
  simp only [show before.tenure = _ from locked, Option.map_some, if_true]

private theorem persistOwnership_provides
    (fenced : generation ≠ 0)
    (advanced : generation.value = current.value + 1) :
    Provides layout paths handle (persistOwnership layout handle generation fenced)
      (fun state => frame state ∧ Locking handle none (some current) state)
      (OnSuccess fun writer state => frame state ∧
        Guarding handle writer.toDurableWriterGuard (some writer.generation) state) := by
  refine (provides_reporting (writeGeneration_provides framed advanced)).andThen fun _ => ?_
  refine (provides_quiet rfl (lasting_locking framed (some generation) (some generation))).bind
    fun (nanos, counter) => ?_
  refine (provides_reporting (writeOwner_provides framed)).andThen fun _ => ?_
  exact provides_step (completeGuard_provides framed) fun _ => keeps_done fun _ given => given

private theorem acquireLocked_provides :
    Provides layout paths handle (acquireLocked layout handle)
      (fun state => frame state ∧ Locking handle none none state)
      (OnSuccess fun writer state => frame state ∧
        Guarding handle writer.toDurableWriterGuard (some writer.generation) state) := by
  have lasting := lasting_locking framed none none
  refine (provides_kept (provides_quiet rfl lasting)).andThen fun _ => ?_
  refine (provides_kept (provides_quiet rfl lasting)).andThen fun _ => ?_
  refine (readWriterGeneration_provides framed).andThen fun current => ?_
  have known := lasting_locking framed none (some current)
  have initialized : Provides layout paths handle (checkInitialized layout handle current)
      (fun state => frame state ∧ Locking handle none (some current) state)
      (OnSuccess fun _ state => frame state ∧ Locking handle none (some current) state) := by
    unfold checkInitialized
    split
    next =>
        refine (provides_quiet rfl known).bind fun exists' => ?_
        exact provides_check fun _ _ _ given => given
    next => exact keeps_done fun _ given => given
  refine initialized.andThen fun _ => ?_
  split
  next error failed => exact keeps_done fun _ _ => trivial
  next generation advanced =>
      have next := advanced
      simp only [WriterGeneration.checkedNext, orReject_eq_ok_iff,
        Unsigned.checkedAdd_eq_some_iff] at next
      exact persistOwnership_provides framed _ next

end

theorem dropGuard_provides : Provides layout paths handle (ask handle .dropGuard) holds
    fun _ _ => True :=
  provides_forgetting fun _ => trivial

theorem provides_cleanup {program : Program (Except EvaError Result)}
    (unconditional : ∀ state, request.requires handle state)
    (provides : Provides layout paths handle program holds (OnSuccess ends)) :
    Provides layout paths handle (program.bind fun
      | .ok result => .done (.ok result)
      | .error error => .step (.call handle request) fun _ => .done (.error error)) holds
      (OnSuccess ends) := by
  refine provides.bind fun result => ?_
  cases result with
  | ok result => exact keeps_done fun _ given => given
  | error error =>
      exact provides_step (provides_forgetting unconditional) fun _ => keeps_done fun _ _ => trivial

private theorem tryLockOwner_provides (framed : Beside layout paths handle.number frame) :
    Provides layout paths handle (ask handle .tryLockOwner) frame fun
      | .locked => fun state => frame state ∧ Locking handle none none state
      | _ => fun _ => True := by
  refine provides_ask (fun response => ?_) ?_
  · cases response with
    | locked => exact (lasting_locking framed none none).stable
    | wouldBlock | failed => exact stable_true
  · intro before environment after response given alive performed
    refine ⟨trivial, ?_⟩
    simp only [Call.perform] at performed
    split at performed
    next =>
        cases performed
        trivial
    next =>
        cases performed
        trivial
    next =>
        cases performed
        exact ⟨framed.beside before before.writer _ given, fun _ => ⟨rfl, by simp⟩⟩

theorem acquire_provides (framed : Beside layout paths handle.number frame) :
    Provides layout paths handle (acquire layout handle) frame
      (OnSuccess fun writer state => frame state ∧
        Guarding handle writer.toDurableWriterGuard (some writer.generation) state) := by
  refine (provides_kept (provides_quiet rfl framed.toLasting)).andThen fun _ => ?_
  refine provides_step (tryLockOwner_provides framed) fun response => ?_
  cases response with
  | locked => exact provides_cleanup (fun _ => trivial) (acquireLocked_provides framed)
  | wouldBlock => exact keeps_done fun _ _ => trivial
  | failed ioError => exact keeps_done fun _ _ => trivial

theorem verifyCurrent_quiet (guard : DurableWriterGuard) :
    Quiet handle (verifyCurrent layout handle guard) := by
  refine readWriterGeneration_quiet.andThen fun current => ?_
  refine Quiet.andThen trivial fun _ => ?_
  exact (quiet_ask rfl).reporting.andThen fun owner => trivial

theorem verifyCurrent_provides (guard : DurableWriterGuard) :
    Provides layout paths handle (verifyCurrent layout handle guard)
      (Guarding handle guard none)
      (OnSuccess fun _ => Guarding handle guard (some guard.generation)) := by
  have reads : Provides layout paths handle (readWriterGeneration layout handle)
      (Guarding handle guard none)
      (OnSuccess fun current => Guarding handle guard (some current)) := by
    refine readsGeneration (fun _ => lasting_hasGuard) fun state given alive _ => ?_
    obtain ⟨tenure, found, living, complete, member, -⟩ := given alive
    exact ⟨tenure, found, living, complete, member, fun known same => Option.some.inj same⟩
  refine reads.andThen fun current => keeps_check fun _ matching => ?_
  simp only [rejectIf_eq_ok_iff, not_not] at matching
  subst matching
  refine (provides_kept (provides_quiet rfl lasting_hasGuard)).andThen fun owner => ?_
  exact provides_check fun _ _ _ given => given

/-! ## Changes of records -/

private theorem embed_provides (guard : DurableWriterGuard) (kind : RecordKind)
    (program : RecordProgram Result) :
    Provides layout paths handle (program.embed handle guard kind)
      (Guarding handle guard (some guard.generation))
      fun _ _ => True := by
  induction program with
  | done result => exact keeps_done fun _ _ => trivial
  | step action next induction =>
      refine provides_step (provides_ask (fun _ => lasting_hasGuard.stable) ?_) induction
      intro before environment after response given alive performed
      have held := given alive
      refine ⟨fun _ => held.guarded, fun _ => ?_⟩
      have effect : Call.Effect handle before after (.record guard kind action) :=
        Call.perform_effect performed
      rcases effect with rfl | ⟨-, records, rfl⟩
      · exact held
      · exact held

section Transactions

theorem underLock_provides (lasting : Lasting layout paths handle.number holds)
    (provides : Provides layout paths handle operation holds ends) :
    Provides layout paths handle (underLock handle lock error operation) holds
      (OnSuccess fun _ _ => True) := by
  refine (provides_kept (provides_quiet rfl lasting)).andThen fun _ => provides.bind fun _ => ?_
  refine provides_step (provides_forgetting fun _ => trivial) fun _ => ?_
  exact provides_check fun _ _ _ _ => trivial

theorem withRecordLock_provides (lasting : Lasting layout paths handle.number holds)
    (provides : Provides layout paths handle operation holds ends) :
    Provides layout paths handle (withRecordLock handle kind path operation) holds
      (OnSuccess fun _ _ => True) := by
  refine (provides_kept (provides_quiet rfl lasting)).andThen fun _ => ?_
  refine (provides_kept (provides_quiet rfl lasting)).andThen fun _ => ?_
  exact underLock_provides lasting provides

end Transactions

private theorem HasGuard.forget {guard : DurableWriterGuard}
    (held : HasGuard handle guard generation state) : HasGuard handle guard none state := by
  obtain ⟨tenure, found, living, complete, member, -⟩ := held
  exact ⟨tenure, found, living, complete, member, nofun⟩

private theorem transaction_provides (operation : StoreOperation)
    (guard : DurableWriterGuard) :
    Provides layout paths handle (operation.transaction layout handle guard)
      (Guarding handle guard none) (OnSuccess fun _ _ => True) := by
  have body : Provides layout paths handle
      ((verifyCurrent layout handle guard).andThen fun () =>
        operation.embedded handle guard guard.generation)
      (Guarding handle guard none) (OnSuccess fun _ _ => True) :=
    (verifyCurrent_provides guard).andThen fun _ =>
      (embed_provides guard operation.kind (operation.body guard.generation)).onSuccess
  unfold StoreOperation.transaction
  cases operation.kind with
  | task | provider =>
      have again := body.weaken
        (fun _ (held : Guarding handle guard (some guard.generation) _) alive =>
          (held alive).forget) fun _ _ given => given
      exact underLock_provides lasting_hasGuard ((verifyCurrent_provides guard).andThen fun _ =>
        withRecordLock_provides lasting_hasGuard again)
  | effect | eventLog | deadLetter => exact underLock_provides lasting_hasGuard body

private theorem cloneGuard_provides :
    Provides layout paths handle (ask handle (.cloneGuard owner)) (fun _ => True) fun
      | some guard => Guarding handle guard none
      | none => fun _ => True := by
  refine provides_ask (fun response => ?_) ?_
  · cases response with
    | some guard => exact lasting_hasGuard.stable
    | none => exact stable_true
  · intro before environment after response given alive performed
    refine ⟨trivial, ?_⟩
    simp only [Call.perform] at performed
    split at performed
    next tenure found =>
        split at performed
        next matching =>
            cases performed
            obtain ⟨rfl, shared, complete⟩ := matching
            obtain ⟨guard, complete⟩ := Option.ne_none_iff_exists'.mp complete
            rw [complete]
            intro _
            exact ⟨_, rfl, shared, rfl, List.mem_cons_self, by simp⟩
        next =>
            cases performed
            trivial
    next =>
        cases performed
        trivial

theorem operation_provides (operation : StoreOperation) (owner : Handle) :
    Provides layout paths handle (operation.run layout handle owner) (fun _ => True)
      fun _ _ => True := by
  refine provides_step cloneGuard_provides fun response => ?_
  cases response with
  | none => exact keeps_done fun _ _ => trivial
  | some guard =>
      refine (transaction_provides operation guard).bind fun _ => ?_
      exact provides_step dropGuard_provides fun _ => keeps_done fun _ _ => trivial

theorem holdWriter_provides :
    Provides layout paths handle (holdWriter layout handle) (fun _ => True) fun _ _ => True := by
  have framed : Beside layout paths handle.number fun _ => True :=
    { lasting_true with beside := fun _ _ _ _ => trivial }
  refine (acquire_provides framed).bind fun result => ?_
  cases result with
  | error error => exact keeps_done fun _ _ => trivial
  | ok writer => exact provides_step dropGuard_provides fun _ => keeps_done fun _ _ => trivial

end Eva.Storage.Durable
