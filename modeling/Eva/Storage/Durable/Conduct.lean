import Eva.Storage.Durable.System

/-! # Every program provides what its calls require

A process knows what it holds while it lives: the lock of the anchor, and with it what
the lease file contains; the lock of the writer, and with it the generation. Others
cannot end what it knows.
-/

namespace Eva.Storage.Durable

theorem dead_of_effect {request : Call} (effect : request.Effect handle before after)
    (died : process ∈ before.dead) : process ∈ after.dead := by
  rcases effect.frame.dead with same | ⟨killed, -, more⟩
  · rw [same]
    exact died
  · rw [more]
    exact List.mem_cons_of_mem _ died

/-- Numbers are handed out one after the other. -/
def discipline (layout : WriterLayout) (paths : LeasePaths) :
    Discipline (system layout paths) where
  enter := .enter
  number response := response
  actor := Action.actor
  handedOut := State.handedOut
  requires action state := action.requires state
  enters performed := by
    cases performed
    exact ⟨rfl, rfl⟩
  advances {action before environment after response} performed := by
    cases action with
    | enter =>
        cases performed
        exact Nat.le_succ _
    | call handle request =>
        have effect := (perform_call performed).2
        exact Nat.le_of_eq effect.frame.handedOut.symm
  survives _ := Nat.le_refl _
  unnumbered := rfl
  unconditional _ := trivial

variable {layout : WriterLayout} {paths : LeasePaths} {handle : Handle}

/-! ## What a process knows -/

/-- Others do not end it, and it is not about the anchor file or the locks that are
waited for. -/
structure Lasting (layout : WriterLayout) (paths : LeasePaths) (number : Nat)
    (holds : State → Prop) : Prop where
  stable : (discipline layout paths).Stable number holds
  apart : ∀ state anchor locks, holds state → holds { state with anchor, locks }

theorem lasting_true : Lasting layout paths self fun _ => True :=
  ⟨Discipline.stable_true, fun _ _ _ _ => trivial⟩

theorem Lasting.and
    (first : Lasting layout paths self left) (second : Lasting layout paths self right) :
    Lasting layout paths self fun state => left state ∧ right state :=
  ⟨first.stable.and second.stable, fun state anchor locks holds =>
    ⟨first.apart state anchor locks holds.1, second.apart state anchor locks holds.2⟩⟩

def WhileAlive (process : Process) (property : State → Prop) (state : State) : Prop :=
  process ∉ state.dead → property state

theorem lasting_whileAlive (apart : ∀ state handedOut anchor locks, property state →
      property { state with handedOut, anchor, locks })
    (kept : ∀ (other : Handle) (request : Call) (before after : State), other.number ≠ self →
      request.requires other before → request.Effect other before after →
      process ∉ after.dead → property before → property after) :
    Lasting layout paths self (WhileAlive process property) := by
  constructor
  · intro action before environment after response different required performed holds alive
    cases action with
    | enter =>
        cases performed
        exact apart before _ before.anchor before.locks (holds alive)
    | call other request =>
        have effect := (perform_call performed).2
        have alone : other.number ≠ self := fun same => different (congrArg some same)
        refine kept other request before after alone required effect alive (holds fun died => ?_)
        exact alive (dead_of_effect effect died)
  · intro state anchor locks holds alive
    exact apart state state.handedOut anchor locks (holds alive)

def HasAnchor (handle : Handle) (state : State) : Prop := state.anchorLock = some handle

abbrev Anchoring (handle : Handle) : State → Prop :=
  WhileAlive handle.process (HasAnchor handle)

/-- The lock of the anchor is lost only by closing it or by dying. -/
theorem HasAnchor.kept {request : Call} (unclosed : request = .closeAnchor → other ≠ handle)
    (effect : request.Effect other before after)
    (alive : handle.process ∉ after.dead) (held : HasAnchor handle before) :
    HasAnchor handle after := by
  unfold HasAnchor at held ⊢
  rcases effect.frame.anchorLock with same | concerned
  · rw [same]
    exact held
  cases request with
  | kill process =>
      subst effect
      have living : handle.process ≠ process := by
        rintro rfl
        exact alive List.mem_cons_self
      simp [State.killed, held, living]
  | tryLockAnchor =>
      rcases effect with rfl | ⟨free, rfl⟩
      · exact held
      · rw [held] at free
        cases free
  | closeAnchor =>
      subst effect
      have kept : before.anchorLock ≠ some other := by
        rw [held]
        intro same
        cases same
        exact unclosed rfl rfl
      rw [if_neg kept]
      exact held
  | _ => cases concerned

private theorem HasAnchor.kept_by_other {request : Call}
    (different : other.number ≠ handle.number) (effect : request.Effect other before after)
    (alive : handle.process ∉ after.dead) (held : HasAnchor handle before) :
    HasAnchor handle after := by
  refine held.kept (fun _ same => ?_) effect alive
  exact different (congrArg Handle.number same)

theorem lasting_hasAnchor :
    Lasting layout paths handle.number (Anchoring handle) :=
  lasting_whileAlive (fun _ _ _ _ held => held)
    fun _ _ _ _ different _ effect alive held => held.kept_by_other different effect alive

def HasFile (handle : Handle) (property : Option String → Prop) (state : State) : Prop :=
  HasAnchor handle state ∧ property state.lease

abbrev Showing (handle : Handle) (property : Option String → Prop) : State → Prop :=
  WhileAlive handle.process (HasFile handle property)

theorem lasting_hasFile :
    Lasting layout paths handle.number (Showing handle property) := by
  refine lasting_whileAlive (fun _ _ _ _ held => held) ?_
  intro other request before after different required effect alive held
  refine ⟨held.1.kept_by_other different effect alive, ?_⟩
  rcases effect.frame.lease with same | ⟨purpose, next, rfl, -⟩
  · exact same ▸ held.2
  · -- Another one would need the lock.
    have taken : before.anchorLock = some other := required.1
    rw [held.1] at taken
    cases taken
    exact absurd rfl different

theorem writer_of_effect {request : Call}
    (effect : request.Effect other before after) (required : request.requires other before) :
    after.writer = before.writer ∨ ∃ advanced, Locked other advanced before := by
  rcases effect.frame.writer with same | ⟨generation, rfl⟩ | ⟨owner, rfl⟩
  · exact .inl same
  · exact .inr ⟨_, required.1⟩
  · exact .inr ⟨_, required.1⟩

/-- The lock of the writer, with the generation that was written and the one that was
read or written last. -/
def HasLock (handle : Handle) (advanced generation : Option WriterGeneration) (state : State) :
    Prop :=
  Locked handle advanced state ∧
    ∀ known, generation = some known → state.writer.generation = known

abbrev Locking (handle : Handle) (advanced generation : Option WriterGeneration) :
    State → Prop :=
  WhileAlive handle.process (HasLock handle advanced generation)

private theorem Locked.kept {request : Call}
    (different : other.number ≠ handle.number) (effect : request.Effect other before after)
    (alive : handle.process ∉ after.dead) (held : Locked handle advanced before) :
    Locked handle advanced after := by
  have another : handle ≠ other := by
    rintro rfl
    exact different rfl
  unfold Locked at held ⊢
  rcases effect.frame.tenure with same | concerned
  · rw [same]
    exact held
  cases request with
  | kill process =>
      subst effect
      have living : handle.process ≠ process := by
        rintro rfl
        exact alive List.mem_cons_self
      simp [State.killed, held, living]
  | tryLockOwner =>
      rcases effect with rfl | ⟨free, rfl⟩
      · exact held
      · rw [held] at free
        cases free
  | writeGeneration generation =>
      rcases effect with rfl | rfl
      · exact held
      · simp [held, WriterTenure.advance, another]
  | completeGuard guard =>
      subst effect
      simp [held, another]
  | cloneGuard owner =>
      rcases effect with rfl | ⟨tenure, found, complete, rfl⟩
      · exact held
      · rw [held] at found
        cases found
        exact absurd rfl complete
  | dropGuard =>
      subst effect
      simp [held, WriterTenure.drop, different.symm]
  | _ => cases concerned

theorem lasting_hasLock :
    Lasting layout paths handle.number (Locking handle advanced generation) := by
  refine lasting_whileAlive (fun _ _ _ _ held => held) ?_
  intro other request before after different required effect alive held
  refine ⟨held.1.kept different effect alive, fun known given => ?_⟩
  rcases writer_of_effect effect required with same | ⟨_, locked⟩
  · rw [same, held.2 known given]
  · have taken := held.1.symm.trans locked
    cases taken
    exact absurd rfl different

/-- A complete guard, held by a process of the one that acquired it, with the generation
that was read since. -/
def HasGuard (handle : Handle) (guard : DurableWriterGuard)
    (generation : Option WriterGeneration) (state : State) : Prop :=
  ∃ tenure, state.tenure = some tenure ∧ tenure.handle.process = handle.process ∧
    tenure.guard = some guard ∧ handle.number ∈ tenure.holders ∧
    ∀ known, generation = some known → state.writer.generation = known

abbrev Guarding (handle : Handle) (guard : DurableWriterGuard)
    (generation : Option WriterGeneration) : State → Prop :=
  WhileAlive handle.process (HasGuard handle guard generation)

theorem HasGuard.guarded {guard : DurableWriterGuard}
    (held : HasGuard handle guard (some guard.generation) state) :
    Guarded handle.number guard state := by
  obtain ⟨tenure, found, -, complete, member, current⟩ := held
  exact ⟨tenure, found, complete, member, current guard.generation rfl⟩

private theorem tenure_kept {request : Call} {guard : DurableWriterGuard}
    (different : other.number ≠ handle.number) (required : request.requires other before)
    (effect : request.Effect other before after)
    (alive : handle.process ∉ after.dead) (found : before.tenure = some tenure)
    (living : tenure.handle.process = handle.process) (complete : tenure.guard = some guard)
    (member : handle.number ∈ tenure.holders) :
    ∃ next, after.tenure = some next ∧ next.handle.process = handle.process ∧
      next.guard = some guard ∧ handle.number ∈ next.holders := by
  have kept {state : State} (same : state.tenure = before.tenure) :
      ∃ next, state.tenure = some next ∧ next.handle.process = handle.process ∧
        next.guard = some guard ∧ handle.number ∈ next.holders :=
    ⟨tenure, same.trans found, living, complete, member⟩
  rcases effect.frame.tenure with same | concerned
  · exact kept same
  cases request with
  | kill process =>
      subst effect
      have survives : tenure.handle.process ≠ process := by
        rw [living]
        rintro rfl
        exact alive List.mem_cons_self
      exact kept (by simp [State.killed, found, survives])
  | tryLockOwner =>
      rcases effect with rfl | ⟨free, rfl⟩
      · exact kept rfl
      · rw [found] at free
        cases free
  | completeGuard =>
      have locked : Locked other _ before := required.1
      rw [Locked, found] at locked
      cases locked
      cases complete
  | cloneGuard owner =>
      rcases effect with rfl | ⟨cloned, same, -, rfl⟩
      · exact kept rfl
      · rw [found] at same
        cases same
        exact ⟨_, rfl, living, complete, List.mem_cons_of_mem _ member⟩
  | dropGuard =>
      subst effect
      have remains : handle.number ∈ tenure.holders.filter (· ≠ other.number) := by
        simp [member, Ne.symm different]
      have nonempty : tenure.holders.filter (· ≠ other.number) ≠ [] :=
        List.ne_nil_of_mem remains
      refine ⟨{ tenure with holders := tenure.holders.filter (· ≠ other.number) }, ?_, living,
        complete, remains⟩
      simp only [found, Option.bind_some, WriterTenure.drop]
      rw [if_neg nonempty]
  | writeGeneration =>
      have locked : Locked other none before := required.1
      rw [Locked, found] at locked
      cases locked
      cases complete
  | _ => cases concerned

theorem lasting_hasGuard {guard : DurableWriterGuard} :
    Lasting layout paths handle.number (Guarding handle guard generation) := by
  refine lasting_whileAlive (fun _ _ _ _ held => held) ?_
  rintro other request before after different required effect alive
    ⟨tenure, found, living, complete, member, current⟩
  obtain ⟨next, after', process, guarded, holding⟩ :=
    tenure_kept different required effect alive found living complete member
  refine ⟨next, after', process, guarded, holding, fun known given => ?_⟩
  rcases writer_of_effect effect required with same | ⟨_, locked⟩
  · rw [same, current known given]
  · rw [Locked, found] at locked
    cases locked
    cases complete

end Eva.Storage.Durable
