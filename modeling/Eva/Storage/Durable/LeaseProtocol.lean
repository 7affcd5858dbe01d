import Eva.Storage.Durable.LeaseObedience
import Eva.Foundation.Execution

/-! # The lease protocol

Over any run of processes that acquire, renew, release, lose and take over the lease,
there is one live owner at most, an unexpired lease is taken over only by a launcher
that names it, and the records that follow one another in the file are ordered.
-/

namespace Eva.Storage.Durable

open Discipline

variable {layout : WriterLayout} {paths : LeasePaths} {initial : State}
  {trace : List (system layout paths).Event}
  {configuration : (system layout paths).Configuration}

/-! ## Records in the file -/

/-- After the act, the file contains the record that the act wrote. -/
structure Published (act : (system layout paths).Act) (handle : Handle) (purpose : LeaseWrite)
    (record : DurableRuntimeLeaseRecord) : Prop where
  written : act.action = .call handle (.writeLease purpose record)
  replaced : act.after.lease = some record.toStorage

/-- A record of a later ownership, or of the same one and later. -/
def Precedes (earlier later : DurableRuntimeLeaseRecord) : Prop :=
  earlier.generation < later.generation ∨ Continues earlier later

theorem Continues.generation_eq
    (continues : Continues previous next) : next.generation = previous.generation :=
  congrArg (·.generation) continues.identity

theorem Continues.trans
    (left : Continues first second) (right : Continues second third) : Continues first third where
  active := left.active
  identity := right.identity.trans left.identity
  heartbeat := Nat.le_trans left.heartbeat right.heartbeat
  expiry running := Nat.le_trans (left.expiry right.active) (right.expiry running)

theorem Precedes.generation_le
    (precedes : Precedes earlier later) : earlier.generation ≤ later.generation := by
  rcases precedes with older | continues
  · exact Nat.le_of_lt older
  · rw [continues.generation_eq]
    exact Nat.le_refl _

theorem Precedes.continued (precedes : Precedes first second) (continues : Continues second third) :
    Precedes first third := by
  rcases precedes with older | same
  · refine .inl ?_
    rw [continues.generation_eq]
    exact older
  · exact .inr (same.trans continues)

/-- The file shows every record that was published, or one that follows it. -/
def Covers (trace : List (system layout paths).Event) (state : State) : Prop :=
  ∀ act handle purpose record, .act act ∈ trace → Published act handle purpose record →
    ∃ current, Shows state.lease (some current) ∧ (record = current ∨ Precedes record current)

private theorem follows_current {purpose : LeaseWrite}
    (allowed : purpose.Allows next lease)
    (shown : Shows lease (some current)) :
    Precedes current next ∧
      ((∃ mode nowMs, purpose = .claim mode nowMs) → current.generation < next.generation) := by
  cases purpose with
  | claim mode nowMs =>
      obtain ⟨-, previous, found, taken⟩ := allowed
      have newer := (taken current (shows_unique found shown)).2
      exact ⟨.inl newer, fun _ => newer⟩
  | renew previous | release previous =>
      obtain ⟨found, -, continues⟩ := allowed
      obtain rfl := Option.some.inj (shows_unique found shown)
      exact ⟨.inr continues, nofun⟩

private theorem follows_covered {purpose : LeaseWrite}
    (covered : Covers trace state) (allowed : purpose.Allows next state.lease)
    (member : .act act ∈ trace)
    (published : Published act handle written record) :
    Precedes record next ∧
      ((∃ mode nowMs, purpose = .claim mode nowMs) → record.generation < next.generation) := by
  obtain ⟨current, shown, older⟩ := covered act handle written record member published
  obtain ⟨follows, newer⟩ := follows_current allowed shown
  rcases older with rfl | older
  · exact ⟨follows, newer⟩
  · refine ⟨?_, fun claimed => Nat.lt_of_le_of_lt older.generation_le (newer claimed)⟩
    rcases follows with later | continues
    · exact .inl (Nat.lt_of_le_of_lt older.generation_le later)
    · exact older.continued continues

theorem run_covers (run : (system layout paths).Run initial trace configuration) :
    Covers trace configuration.state := by
  refine invariant (@obeys layout paths) Covers ?_ ?_ ?_ ?_ run
  · intro act handle purpose record member
    cases member
  · intro trace state thread label covered act handle purpose record member published
    exact covered act handle purpose record (by simpa using member) published
  · intro trace act covered required performed old handle purpose record member published
    rcases List.mem_cons.mp member with equal | older
    · cases equal
      rw [published.written] at required
      refine ⟨record, ?_, .inl rfl⟩
      rw [published.replaced]
      exact DurableRuntimeLeaseRecord.fromStorage_toStorage required.2.1
    · obtain ⟨thread, label, environment, before, after, action, response⟩ := act
      simp only at covered required performed ⊢
      cases action with
      | enter =>
          cases performed
          exact covered old handle purpose record older published
      | call writer request =>
          rcases (perform_call performed).2.frame.lease with same | ⟨goal, next, rfl, rfl⟩
          · simp only [same]
            exact covered old handle purpose record older published
          · refine ⟨next, DurableRuntimeLeaseRecord.fromStorage_toStorage required.2.1, .inr ?_⟩
            exact (follows_covered covered required.2.2 older published).1
  · intro trace state covered act handle purpose record member published
    exact covered act handle purpose record (by simpa using member) published

/-! ## Owners -/

/-- The handle has claimed the lease, and neither gave up its lock nor died since. -/
structure LiveOwner (trace : List (system layout paths).Event) (state : State)
    (handle : Handle) : Prop where
  claimed : ∃ later act earlier mode nowMs record, trace = later ++ .act act :: earlier ∧
    act.action = .call handle (.writeLease (.claim mode nowMs) record) ∧ .crash ∉ later
  unclosed : ∀ act, .act act ∈ trace → act.action ≠ .call handle .closeAnchor
  alive : handle.process ∉ state.dead

private theorem LiveOwner.older (owner : LiveOwner (event :: trace) after handle)
    (older : ∀ act mode nowMs record, event = .act act →
      act.action ≠ .call handle (.writeLease (.claim mode nowMs) record))
    (alive : handle.process ∉ before.dead) :
    event ≠ .crash ∧ LiveOwner trace before handle := by
  obtain ⟨later, act, earlier, mode, nowMs, record, split, claimed, uncrashed⟩ := owner.claimed
  cases later with
  | nil =>
      cases split
      exact absurd claimed (older act mode nowMs record rfl)
  | cons first later =>
      cases split
      have kept : .crash ∉ later := fun crashed => uncrashed (List.mem_cons_of_mem _ crashed)
      refine ⟨?_, ⟨later, act, earlier, mode, nowMs, record, rfl, claimed, kept⟩, ?_, alive⟩
      · rintro rfl
        exact uncrashed List.mem_cons_self
      · intro act member
        exact owner.unclosed act (List.mem_cons_of_mem _ member)

theorem run_owners (run : (system layout paths).Run initial trace configuration) :
    ∀ handle, LiveOwner trace configuration.state handle →
      HasAnchor handle configuration.state := by
  refine invariant (@obeys layout paths)
    (fun trace state => ∀ handle, LiveOwner trace state handle → HasAnchor handle state)
    ?_ ?_ ?_ ?_ run
  · intro handle owner
    obtain ⟨later, act, earlier, mode, nowMs, record, split, -⟩ := owner.claimed
    simp at split
  · intro trace state thread label anchored handle owner
    exact anchored handle (owner.older (fun _ _ _ _ => nofun) owner.alive).2
  · intro trace act anchored required performed handle owner
    obtain ⟨thread, label, environment, before, after, action, response⟩ := act
    have unclosed := owner.unclosed _ List.mem_cons_self
    simp only at anchored required performed owner unclosed ⊢
    cases action with
    | enter =>
        cases performed
        have alive : handle.process ∉ before.dead := owner.alive
        refine anchored handle (owner.older ?_ alive).2
        intro act mode nowMs record equal
        cases equal
        exact nofun
    | call caller request =>
        have effect := (perform_call performed).2
        have alive : handle.process ∉ before.dead := fun died =>
          owner.alive (dead_of_effect effect died)
        have kept (held : HasAnchor handle before) : HasAnchor handle after := by
          refine held.kept (fun closing same => ?_) effect owner.alive
          exact unclosed (by rw [closing, same])
        by_cases claims : ∃ mode nowMs record,
            caller = handle ∧ request = .writeLease (.claim mode nowMs) record
        · obtain ⟨mode, nowMs, record, rfl, rfl⟩ := claims
          exact kept required.1
        · refine kept (anchored handle (owner.older ?_ alive).2)
          intro act mode nowMs record equal
          cases equal
          intro same
          cases same
          exact claims ⟨mode, nowMs, record, rfl, rfl⟩
  · intro trace state anchored handle owner
    exact absurd rfl (owner.older (fun _ _ _ _ => nofun) owner.alive).1

/-! ## What a guard writes -/

private theorem Quiet.emits (quiet : Quiet handle program)
    (emits : program.Emits past (.call caller request)) :
    request.isQuiet = true := by
  induction program generalizing past with
  | done result => exact absurd emits Program.emits_done
  | step action next induction =>
      cases action with
      | enter => cases quiet
      | call own asked =>
          rcases Program.emits_step_iff.mp emits with ⟨-, same⟩ | ⟨response, rest, -, emits⟩
          · cases same
            exact quiet.2.1
          · exact induction response (quiet.2.2 response) emits

section Guards

variable {guard : DurableRuntimeLeaseGuard}

private theorem verified_emits {next : Program (DurableRuntimeLeaseGuard ×
      Except EvaError DurableRuntimeLeaseRecord)}
    (emits : Program.Emits ((verifyCurrentRecord layout paths handle guard).bind fun
        | .error error => .done (guard, .error error)
        | .ok () => next) past (.call writer (.writeLease purpose record))) :
    ∃ past, next.Emits past (.call writer (.writeLease purpose record)) := by
  rcases Program.emits_bind emits with emits | ⟨left, right, result, -, -, emits⟩
  · cases verifyCurrentRecord_quiet.emits emits
  · cases result with
    | error error => exact absurd emits Program.emits_done
    | ok result => exact ⟨right, emits⟩

private theorem publish_emits (emits : (publish paths handle guard asked next).Emits past
      (.call writer (.writeLease purpose record))) :
    writer = handle ∧ purpose = asked ∧ record = next.record := by
  rcases Program.emits_step_iff.mp emits with ⟨-, same⟩ | ⟨response, rest, -, emits⟩
  · cases same
    exact ⟨rfl, rfl, rfl⟩
  · exact absurd emits Program.emits_done

theorem operation_emits {operation : LeaseOperation}
    (emits : (operation.run layout paths handle guard).Emits past
      (.call writer (.writeLease purpose record))) :
    writer = handle ∧ purpose = operation.purpose guard.record ∧
      record.identity = guard.record.identity := by
  cases operation with
  | renew nowMs =>
      change (renewAt layout paths handle guard nowMs).Emits past _ at emits
      unfold renewAt at emits
      split at emits
      next active =>
          obtain ⟨past, emits⟩ := verified_emits emits
          split at emits
          next => exact absurd emits Program.emits_done
          next next renewed =>
              obtain ⟨rfl, rfl, rfl⟩ := publish_emits emits
              exact ⟨rfl, rfl, (renewed_eq_ok renewed).2.2.identity⟩
      next => exact absurd emits Program.emits_done
  | release nowMs =>
      change (releaseAt layout paths handle guard nowMs).Emits past _ at emits
      unfold releaseAt at emits
      split at emits
      next => exact absurd emits Program.emits_done
      next =>
          obtain ⟨past, emits⟩ := verified_emits emits
          obtain ⟨rfl, rfl, rfl⟩ := publish_emits emits
          exact ⟨rfl, rfl, rfl⟩

end Guards

/-! ## The protocol -/

structure LeaseProtocol (trace : List (system layout paths).Event) (state : State) : Prop where
  single : ∀ first second, LiveOwner trace state first → LiveOwner trace state second →
    first = second
  /-- A lease is claimed while nobody else owns it, over an older record that is not
  active any more, has expired or is named exactly. -/
  takenOver : ∀ later act earlier handle mode nowMs record,
    trace = later ++ .act act :: earlier →
    act.action = .call handle (.writeLease (.claim mode nowMs) record) →
      (∀ other, LiveOwner earlier act.before other → other = handle) ∧
      ∃ previous, Shows act.before.lease previous ∧ ∀ found, previous = some found →
        MayTakeOver mode nowMs found
  /-- Of two records in the file, the later one belongs to a later ownership, and does
  so if it was claimed, or to the same one and is not earlier. -/
  ordered : ∀ later second middle first earlier secondHandle firstHandle secondPurpose
      firstPurpose secondRecord firstRecord,
    trace = later ++ .act second :: middle ++ .act first :: earlier →
    Published first firstHandle firstPurpose firstRecord →
    Published second secondHandle secondPurpose secondRecord →
      Precedes firstRecord secondRecord ∧
      ((∃ mode nowMs, secondPurpose = .claim mode nowMs) →
        firstRecord.generation < secondRecord.generation)
  /-- A guard renews and releases its own record only, and only while the file shows it. -/
  own : ∀ later act earlier handle guard (operation : LeaseOperation) past record,
    trace = later ++ .act act :: earlier →
    (operation.run layout paths handle guard).Emits past act.action →
    act.action = .call handle (.writeLease (operation.purpose guard.record) record) →
      Shows act.before.lease (some guard.record) ∧ record.identity = guard.record.identity

/-- The lease protocol holds over every interleaving, with crashes and any clocks. -/
theorem leaseProtocol_of_run (run : (system layout paths).Run initial trace configuration) :
    LeaseProtocol trace configuration.state where
  single first second left right := by
    have held := run_owners run first left
    exact Option.some.inj (held.symm.trans (run_owners run second right))
  takenOver later act earlier handle mode nowMs record split claimed := by
    subst split
    have required := act_requires (@obeys layout paths) run
    obtain ⟨before, past, current, -⟩ := run.act_cases
    rw [claimed] at required
    obtain ⟨anchored, -, -, previous, shown, taken⟩ := required
    refine ⟨fun other owner => ?_, previous, shown, fun found same => (taken found same).1⟩
    have held := run_owners past other (current ▸ owner)
    rw [current] at held
    exact Option.some.inj (held.symm.trans anchored)
  ordered later second middle first earlier secondHandle firstHandle secondPurpose firstPurpose
      secondRecord firstRecord split old new := by
    subst split
    rw [List.append_assoc, List.cons_append] at run
    have required := act_requires (@obeys layout paths) run
    obtain ⟨before, past, current, -⟩ := run.act_cases
    rw [new.written] at required
    have covered := run_covers past
    rw [current] at covered
    exact follows_covered covered required.2.2 (by simp) old
  own later act earlier handle guard operation past record split emits written := by
    subst split
    have required := act_requires (@obeys layout paths) run
    rw [written] at required emits
    refine ⟨?_, (operation_emits emits).2.2⟩
    cases operation with
    | renew | release => exact required.2.2.1

/-! ## Two owners -/

def successor : Process where
  number := 1
  pid := 8
  positive := by decide

/-- The generations and heartbeats of the records that were written, the last one first. -/
def heartbeats (trace : List (system exampleLayout examplePaths).Event) : List (Nat × Nat) :=
  trace.filterMap fun
    | .act act => match act.action with
        | .call _ (.writeLease _ record) =>
            some (record.generation.value, record.heartbeatAtMs.value)
        | _ => none
    | _ => none

/-- The first owner renews its lease once and drops it, and another process takes it over. -/
theorem leaseProtocol_of_two_owners : ∃ trace configuration,
    (system exampleLayout examplePaths).Run freshState trace configuration ∧
      heartbeats trace = [(2, 20), (2, 20), (1, 6), (1, 6), (1, 5)] ∧
      LeaseProtocol trace configuration.state := by
  have taken : ((system exampleLayout examplePaths).script freshState
      [(fineEnvironment, .lease successor (.normal (some "token")) 20 10 [] none),
        (fineEnvironment, .lease daemon (.normal (some "token")) 5 10 [.renew 6] none)]).any
        (heartbeats ·.trace = [(2, 20), (2, 20), (1, 6), (1, 6), (1, 5)]) = true := by
    decide +kernel
  obtain ⟨session, executed, written⟩ := (Option.any_eq_true _ _).mp taken
  obtain ⟨threads, run⟩ := (System.script_reached executed).run
  exact ⟨_, _, run, of_decide_eq_true written, leaseProtocol_of_run run⟩

end Eva.Storage.Durable
