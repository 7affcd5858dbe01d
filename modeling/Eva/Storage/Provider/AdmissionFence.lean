import Eva.Storage.Provider.AdmissionCalls

/-! # Reservations that are gone

The id of a reservation is made of its session and the time of the call. It is gone
for good if no other call reserves for the session at this time.
-/

namespace Eva.Storage

/-! ## The tables of a directory -/

/-- The files of each table, by the digest in their names. -/
abbrev AdmissionDirectory := String → AdmissionFiles

def AdmissionTable.digest (adapterId : AdapterId) : String :=
  String.ofList (sha256Hex adapterId.text.toUTF8.data.toList)

structure AdmissionRequest where
  adapterId : AdapterId
  call : AdmissionCall

/-- The table that the call is about. -/
def AdmissionRequest.Concerns (request : AdmissionRequest) (adapterId : AdapterId) : Prop :=
  AdmissionTable.digest request.adapterId = AdmissionTable.digest adapterId

instance (request : AdmissionRequest) (adapterId : AdapterId) :
    Decidable (request.Concerns adapterId) :=
  inferInstanceAs (Decidable (_ = _))

namespace AdmissionDirectory

def serve (directory : AdmissionDirectory) (request : AdmissionRequest) : AdmissionDirectory :=
  let name := AdmissionTable.digest request.adapterId
  let outcome := (request.call.program request.adapterId).conclude AdmissionAction.perform none
    (directory name)
  Function.update directory name (outcome.elim (directory name) Prod.fst)

def after (requests : List AdmissionRequest) : AdmissionDirectory :=
  requests.foldl serve fun _ => .new

def reservations (directory : AdmissionDirectory) (adapterId : AdapterId) :
    List ProviderAdmissionReservation :=
  match (directory (AdmissionTable.digest adapterId)).table with
  | none => []
  | some text =>
      match Admission.decode adapterId text with
      | .ok state => state.reservations
      | .error _ => []

/-- Every table can be read, and nobody holds its lock. -/
structure Sound (directory : AdmissionDirectory) : Prop where
  free : ∀ adapterId, (directory (AdmissionTable.digest adapterId)).locked = false
  shows : ∀ adapterId,
    ∃ state, (directory (AdmissionTable.digest adapterId)).Shows adapterId state

theorem reservations_of_shows {directory : AdmissionDirectory}
    (shows : (directory (AdmissionTable.digest adapterId)).Shows adapterId state) :
    directory.reservations adapterId = state.reservations := by
  cases shows with
  | missing none => simp [reservations, none, Admission.empty]
  | written own storable text =>
      subst own
      simp [reservations, text, Admission.decode_encode storable]

end AdmissionDirectory

/-! ## Turns -/

/-- What a call can do to the reservations of an adapter. -/
inductive AdmissionTurn (request : AdmissionRequest) (adapterId : AdapterId)
    (before after : List ProviderAdmissionReservation) : Prop where
  | reserved {maxConcurrency sessionId nowMs ttlMs} (concerns : request.Concerns adapterId)
      (call : request.call = .reserve maxConcurrency sessionId nowMs ttlMs)
      (absent : ∀ reservation ∈ before.filter fun reservation => nowMs < reservation.expiresAtMs,
        reservation.sessionId ≠ sessionId)
      (room : (before.filter fun reservation => nowMs < reservation.expiresAtMs).length <
        maxConcurrency.value)
      (result : after = (before.filter fun reservation => nowMs < reservation.expiresAtMs) ++
        [ProviderAdmissionSnapshot.newReservation sessionId nowMs ttlMs])
  | kept (ids : (after.map (·.ids)).Sublist (before.map (·.ids)))

theorem AdmissionTurn.of_writes (concerns : request.Concerns adapterId)
    (writes : changed = state ∨ request.call.Writes state changed) :
    AdmissionTurn request adapterId state.reservations changed.reservations := by
  rcases writes with rfl | writes
  · exact .kept (List.Sublist.refl _)
  · generalize called : request.call = call at writes
    cases writes with
    | reserve absent room result =>
        subst result
        exact .reserved concerns called absent room rfl
    | keep own limit ids => exact .kept ids

namespace AdmissionDirectory

variable {directory : AdmissionDirectory}

theorem serve_other (adapterId : AdapterId) (other : ¬request.Concerns adapterId) :
    directory.serve request (AdmissionTable.digest adapterId) =
      directory (AdmissionTable.digest adapterId) := by
  have different : AdmissionTable.digest adapterId ≠ AdmissionTable.digest request.adapterId :=
    fun same => other same.symm
  rw [serve, Function.update_of_ne different]

theorem serve_turn (sound : directory.Sound) (storable : request.call.Storable) :
    (directory.serve request).Sound ∧ ∀ adapterId,
      AdmissionTurn request adapterId (directory.reservations adapterId)
        ((directory.serve request).reservations adapterId) := by
  obtain ⟨state, shows⟩ := sound.shows request.adapterId
  obtain ⟨files, result, concluded, free, changed, later, writes⟩ :=
    AdmissionCall.conclude_program storable (sound.free request.adapterId) shows
  have served (adapterId : AdapterId) (concerns : request.Concerns adapterId) :
      directory.serve request (AdmissionTable.digest adapterId) = files := by
    rw [← concerns, serve, concluded, Function.update_self]
    rfl
  refine ⟨⟨fun adapterId => ?_, fun adapterId => ?_⟩, fun adapterId => ?_⟩
  · by_cases concerns : request.Concerns adapterId
    · rw [served adapterId concerns]
      exact free
    · rw [serve_other adapterId concerns]
      exact sound.free adapterId
  · by_cases concerns : request.Concerns adapterId
    · rw [served adapterId concerns]
      exact ⟨_, later.forAdapter adapterId⟩
    · rw [serve_other adapterId concerns]
      exact sound.shows adapterId
  · by_cases concerns : request.Concerns adapterId
    · have before := shows.forAdapter adapterId
      have after := later.forAdapter adapterId
      rw [concerns] at before
      rw [← served adapterId concerns] at after
      rw [reservations_of_shows before, reservations_of_shows after]
      have turn : AdmissionTurn request adapterId state.reservations changed.reservations :=
        .of_writes concerns writes
      exact turn
    · refine .kept ?_
      have same : (directory.serve request).reservations adapterId =
          directory.reservations adapterId := by
        simp only [reservations, serve_other adapterId concerns]
      rw [same]

theorem after_append_singleton (requests : List AdmissionRequest) (request : AdmissionRequest) :
    after (requests ++ [request]) = (after requests).serve request := by
  rw [after, List.foldl_append]
  rfl

theorem sound_after
    (storable : ∀ request ∈ requests, request.call.Storable) : (after requests).Sound := by
  induction requests using List.reverseRecOn with
  | nil => exact ⟨fun _ => rfl, fun _ => ⟨_, .missing rfl⟩⟩
  | append_singleton requests request induction =>
      rw [List.forall_mem_append, List.forall_mem_singleton] at storable
      rw [after_append_singleton]
      exact (serve_turn (induction storable.1) storable.2).1

theorem after_invariant (first : List AdmissionRequest)
    (property : List AdmissionRequest → List ProviderAdmissionReservation → Prop)
    (storable : ∀ request ∈ first ++ later, request.call.Storable)
    (start : property [] ((after first).reservations adapterId))
    (turn : ∀ earlier request before after, earlier ++ [request] <+: later →
      property earlier before → AdmissionTurn request adapterId before after →
      property (earlier ++ [request]) after) :
    property later ((after (first ++ later)).reservations adapterId) := by
  induction later using List.reverseRecOn with
  | nil =>
      rw [List.append_nil]
      exact start
  | append_singleton later request induction =>
      rw [← List.append_assoc, List.forall_mem_append, List.forall_mem_singleton] at storable
      rw [← List.append_assoc, after_append_singleton]
      refine turn later request _ _ (List.prefix_refl _) ?_
        ((serve_turn (sound_after storable.1) storable.2).2 adapterId)
      exact induction storable.1 fun earlier next before after within =>
        turn earlier next before after (within.trans (List.prefix_append _ _))

end AdmissionDirectory

/-! ## Ids -/

/-- The session and the time that the id of a new reservation is made of. -/
def AdmissionRequest.reserveTime (adapterId : AdapterId) (request : AdmissionRequest) :
    Option (String × U128) :=
  if request.Concerns adapterId then
    match request.call with
    | .reserve _ sessionId nowMs _ => some (sessionId, nowMs)
    | _ => none
  else none

def reserveTimes (adapterId : AdapterId) (requests : List AdmissionRequest) :
    List (String × U128) :=
  requests.filterMap (·.reserveTime adapterId)

theorem reservationIdText_injective
    (same : ProviderAdmissionSnapshot.reservationIdText leftSession leftMs =
      ProviderAdmissionSnapshot.reservationIdText rightSession rightMs) :
    leftSession = rightSession ∧ leftMs = rightMs := by
  have characters := congrArg String.toList same
  simp only [ProviderAdmissionSnapshot.reservationIdText, Unsigned.text, String.toList_append,
    String.toList_ofList, List.append_assoc] at characters
  obtain ⟨session, time⟩ := Text.append_formatUnsigned_inj (by decide) characters
  exact ⟨String.toList_inj.mp session, time⟩

section Turn

variable {request : AdmissionRequest} {adapterId : AdapterId}

theorem AdmissionTurn.mem_cases (turn : AdmissionTurn request adapterId before after)
    (member : reservation ∈ after) :
    (∃ old ∈ before, old.ids = reservation.ids) ∨
      ∃ nowMs, request.reserveTime adapterId = some (reservation.sessionId, nowMs) ∧
        reservation.reservationId =
          ProviderAdmissionSnapshot.reservationIdText reservation.sessionId nowMs := by
  cases turn with
  | reserved concerns call absent room result =>
      subst result
      rcases List.mem_append.mp member with old | new
      · exact .inl ⟨reservation, List.mem_of_mem_filter old, rfl⟩
      · rw [List.mem_singleton] at new
        subst new
        refine .inr ⟨_, ?_, rfl⟩
        simp only [AdmissionRequest.reserveTime, concerns, call, if_true]
        rfl
  | kept ids =>
      obtain ⟨old, held, same⟩ := List.mem_map.mp (ids.subset (List.mem_map_of_mem member))
      exact .inl ⟨old, held, same⟩

theorem AdmissionTurn.sessions_nodup (turn : AdmissionTurn request adapterId before after)
    (distinct : (before.map (·.sessionId)).Nodup) : (after.map (·.sessionId)).Nodup := by
  cases turn with
  | @reserved _ sessionOf nowOf _ concerns call absent room result =>
      subst result
      have fresh : sessionOf ∉ (before.filter fun reservation =>
          nowOf < reservation.expiresAtMs).map (·.sessionId) := by
        intro member
        obtain ⟨reservation, held, same⟩ := List.mem_map.mp member
        exact absent reservation held same
      rw [List.map_append, List.map_singleton]
      rw [← List.concat_eq_append]
      exact (distinct.sublist (List.filter_sublist.map _)).concat fresh
  | kept ids =>
      have sessions := ids.map Prod.snd
      simp only [List.map_map] at sessions
      exact distinct.sublist sessions

/-- The limit that the calls for the table agree on. -/
def AdmissionRequest.Within (adapterId : AdapterId) (limit : Usize) (request : AdmissionRequest) :
    Prop :=
  request.Concerns adapterId → ∀ maxConcurrency sessionId nowMs ttlMs,
    request.call = .reserve maxConcurrency sessionId nowMs ttlMs → maxConcurrency = limit

theorem AdmissionTurn.length_le (turn : AdmissionTurn request adapterId before after)
    (within : request.Within adapterId limit) (bounded : before.length ≤ limit.value) :
    after.length ≤ limit.value := by
  cases turn with
  | reserved concerns call absent room result =>
      have agreed := within concerns _ _ _ _ call
      subst result agreed
      rw [List.length_append, List.length_singleton]
      exact room
  | kept ids =>
      have shorter := ids.length_le
      rw [List.length_map, List.length_map] at shorter
      exact shorter.trans bounded

end Turn

/-! ## Whole runs -/

section Run

variable {adapterId : AdapterId} {requests first : List AdmissionRequest}

open AdmissionDirectory

theorem reservationId_after (storable : ∀ request ∈ requests, request.call.Storable) :
    ∀ reservation ∈ (AdmissionDirectory.after requests).reservations adapterId,
      ∃ nowMs, (reservation.sessionId, nowMs) ∈ reserveTimes adapterId requests ∧
        reservation.reservationId =
          ProviderAdmissionSnapshot.reservationIdText reservation.sessionId nowMs := by
  refine after_invariant [] (fun earlier reservations => ∀ reservation ∈ reservations,
    ∃ nowMs, (reservation.sessionId, nowMs) ∈ reserveTimes adapterId earlier ∧
      reservation.reservationId =
        ProviderAdmissionSnapshot.reservationIdText reservation.sessionId nowMs) storable
    (List.forall_mem_nil _) ?_
  intro earlier request before after _ known turn reservation member
  simp only [reserveTimes, List.filterMap_append, List.mem_append]
  rcases turn.mem_cases member with ⟨old, held, same⟩ | ⟨nowMs, made, text⟩
  · simp only [ProviderAdmissionReservation.ids, Prod.mk.injEq] at same
    obtain ⟨nowMs, reserved, text⟩ := known old held
    rw [same.2] at reserved text
    exact ⟨nowMs, .inl reserved, same.1.symm.trans text⟩
  · exact ⟨nowMs, .inr (by simp [made]), text⟩

theorem absent_after (storable : ∀ request ∈ first ++ later, request.call.Storable)
    (gone : ∀ held ∈ (AdmissionDirectory.after first).reservations adapterId,
      held.reservationId ≠ reservationId)
    (unmade : ∀ made ∈ reserveTimes adapterId later,
      ProviderAdmissionSnapshot.reservationIdText made.1 made.2 ≠ reservationId) :
    ∀ held ∈ (AdmissionDirectory.after (first ++ later)).reservations adapterId,
      held.reservationId ≠ reservationId := by
  refine after_invariant first (fun _ reservations => ∀ held ∈ reservations,
    held.reservationId ≠ reservationId) storable gone ?_
  intro earlier request before after within absent turn reservation member
  rcases turn.mem_cases member with ⟨old, held, same⟩ | ⟨nowMs, made, text⟩
  · simp only [ProviderAdmissionReservation.ids, Prod.mk.injEq] at same
    exact same.1 ▸ absent old held
  · rw [text]
    refine unmade (reservation.sessionId, nowMs) (List.mem_filterMap.mpr ⟨request, ?_, made⟩)
    exact within.subset (List.mem_append_right _ List.mem_cons_self)

theorem sessions_nodup_after (storable : ∀ request ∈ requests, request.call.Storable) :
    (((AdmissionDirectory.after requests).reservations adapterId).map (·.sessionId)).Nodup := by
  refine after_invariant [] (fun _ reservations => (reservations.map (·.sessionId)).Nodup)
    storable List.nodup_nil ?_
  exact fun _ _ _ _ _ distinct turn => turn.sessions_nodup distinct

theorem length_le_after (storable : ∀ request ∈ requests, request.call.Storable)
    (within : ∀ request ∈ requests, request.Within adapterId limit) :
    ((AdmissionDirectory.after requests).reservations adapterId).length ≤ limit.value := by
  refine after_invariant [] (fun _ reservations => reservations.length ≤ limit.value)
    storable (Nat.zero_le _) ?_
  intro earlier request before after part bounded turn
  refine turn.length_le (within request ?_) bounded
  exact part.subset (List.mem_append_right _ List.mem_cons_self)

theorem conclude_of_absent {directory : AdmissionDirectory} (sound : directory.Sound)
    (absent : ∀ held ∈ directory.reservations adapterId, held.reservationId ≠ reservationId)
    (sessionId : String) (nowMs ttlMs : U128) :
    (AdmissionTable.renew adapterId reservationId sessionId nowMs ttlMs).conclude
        AdmissionAction.perform none (directory (AdmissionTable.digest adapterId)) =
      some (directory (AdmissionTable.digest adapterId),
        .error ProviderAdmissionSnapshot.notOwned) ∧
    (AdmissionTable.releaseOwned adapterId reservationId sessionId).conclude
        AdmissionAction.perform none (directory (AdmissionTable.digest adapterId)) =
      some (directory (AdmissionTable.digest adapterId),
        .error ProviderAdmissionSnapshot.notOwned) := by
  obtain ⟨state, shows⟩ := sound.shows adapterId
  rw [reservations_of_shows shows] at absent
  have nobody : ∀ held ∈ state.reservations,
      ProviderAdmissionSnapshot.isOwned reservationId sessionId held = false := by
    intro held member
    simp [ProviderAdmissionSnapshot.isOwned, absent held member]
  constructor
  · have failed : state.renew reservationId sessionId nowMs ttlMs =
        .error ProviderAdmissionSnapshot.notOwned := by
      have missing : state.reservations.find?
          (ProviderAdmissionSnapshot.isOwned reservationId sessionId) = none :=
        List.find?_eq_none.mpr fun held member => by simp [nobody held member]
      simp only [ProviderAdmissionSnapshot.renew, missing]
    rw [AdmissionTable.renew, conclude_locked (sound.free adapterId) shows, failed]
    rfl
  · have failed : state.releaseOwned reservationId sessionId =
        .error ProviderAdmissionSnapshot.notOwned := by
      have missing : state.reservations.any
          (ProviderAdmissionSnapshot.isOwned reservationId sessionId) = false :=
        List.any_eq_false.mpr fun held member => by simp [nobody held member]
      simp [ProviderAdmissionSnapshot.releaseOwned, missing]
    rw [AdmissionTable.releaseOwned, conclude_locked (sound.free adapterId) shows, failed]
    rfl

/-- If no two calls reserve for one session of the table at one time, a reservation that
has gone stays gone, and nothing happens to the table with its id. The table keeps to the
limit that its calls agree on, with one reservation per session. -/
theorem reservations_stay_gone (storable : ∀ request ∈ requests, request.call.Storable) :
    (∀ first middle last reservation, requests = first ++ middle ++ last →
      (reserveTimes adapterId requests).Nodup →
      reservation ∈ (AdmissionDirectory.after first).reservations adapterId →
      (∀ held ∈ (AdmissionDirectory.after (first ++ middle)).reservations adapterId,
        held.reservationId ≠ reservation.reservationId) →
      ∀ sessionId nowMs ttlMs,
        let files := AdmissionDirectory.after requests (AdmissionTable.digest adapterId)
        (AdmissionTable.renew adapterId reservation.reservationId sessionId nowMs ttlMs).conclude
            AdmissionAction.perform none files =
          some (files, .error ProviderAdmissionSnapshot.notOwned) ∧
        (AdmissionTable.releaseOwned adapterId reservation.reservationId sessionId).conclude
            AdmissionAction.perform none files =
          some (files, .error ProviderAdmissionSnapshot.notOwned)) ∧
    ∀ limit : Usize, (∀ request ∈ requests, request.Within adapterId limit) →
      ((AdmissionDirectory.after requests).reservations adapterId).length ≤ limit.value ∧
      (((AdmissionDirectory.after requests).reservations adapterId).map (·.sessionId)).Nodup := by
  constructor
  · rintro first middle last reservation rfl once granted gone sessionId nowMs ttlMs
    refine conclude_of_absent (sound_after storable) ?_ sessionId nowMs ttlMs
    refine absent_after storable gone fun made member same => ?_
    rw [List.append_assoc, List.forall_mem_append] at storable
    obtain ⟨grantMs, earlier, text⟩ := reservationId_after storable.1 reservation granted
    obtain ⟨session, time⟩ := reservationIdText_injective (same.trans text)
    -- The call that made the id stands in the first part, and so in no other one.
    simp only [reserveTimes, List.filterMap_append, List.append_assoc] at once
    have apart := (List.nodup_append.mp once).2.2 _ earlier made
      (List.mem_append_right _ member)
    exact apart (Prod.ext session.symm time.symm)
  · exact fun limit within => ⟨length_le_after storable within, sessions_nodup_after storable⟩

end Run

/-! ## Two reservations at one time -/

namespace ReservedTwice

open AdmissionDirectory

def table (reservations : List ProviderAdmissionReservation) : ProviderAdmissionSnapshot where
  adapterId := exampleAdapterId
  maxConcurrency := 1
  reservations

def reservation (nowMs : U128) : ProviderAdmissionReservation :=
  ProviderAdmissionSnapshot.newReservation "session" nowMs 5

def reserve (nowMs : U128) : AdmissionRequest where
  adapterId := exampleAdapterId
  call := .reserve 1 "session" nowMs 5

def release (nowMs : U128) : AdmissionRequest where
  adapterId := exampleAdapterId
  call := .releaseOwned (reservation nowMs).reservationId "session"

def Holds (directory : AdmissionDirectory) (state : ProviderAdmissionSnapshot) : Prop :=
  (directory (AdmissionTable.digest exampleAdapterId)).locked = false ∧
    (directory (AdmissionTable.digest exampleAdapterId)).Shows exampleAdapterId state

theorem Holds.reservations (holds : Holds directory state) :
    directory.reservations exampleAdapterId = state.reservations :=
  reservations_of_shows holds.2

theorem holds_new : Holds (fun _ => .new) (Admission.empty exampleAdapterId) :=
  ⟨rfl, .missing rfl⟩

theorem holds_serve {state changed : ProviderAdmissionSnapshot}
    {call : AdmissionCall} {value : call.Value} (holds : Holds directory state)
    (accepted : call.refusal = none) (outcome : call.change state = .ok (value, some changed))
    (storable : call.Storable) :
    Holds (directory.serve { adapterId := exampleAdapterId, call }) changed := by
  obtain ⟨own, kept⟩ :=
    (AdmissionCall.change_writes outcome).storable storable holds.2.storable
  have concluded := conclude_locked holds.1 holds.2 fun state => call.change state
  have whole : call.program exampleAdapterId =
      AdmissionTable.locked exampleAdapterId fun state => call.change state := by
    rw [AdmissionCall.program_eq, accepted]
  rw [← whole, outcome] at concluded
  simp only [Holds, serve, concluded, Function.update_self]
  exact ⟨holds.1, .written (own.trans holds.2.own) kept rfl⟩

theorem holds_reserve
    (holds : Holds directory state) (empty : state.reservations = []) (nowMs : U128) :
    Holds (directory.serve (reserve nowMs)) (table [reservation nowMs]) := by
  have nothing : ∀ held ∈ state.reservations, held.expiresAtMs ≤ nowMs := by simp [empty]
  have outcome : state.reserve 1 "session" nowMs 5 = _ :=
    reserve_of_expired (by decide) nothing
  have own : table [reservation nowMs] = { state with
      maxConcurrency := 1, reservations := [reservation nowMs] } := by
    rw [holds.2.own]
    rfl
  rw [own]
  exact holds_serve holds rfl outcome ⟨by decide, by decide⟩

theorem holds_release (holds : Holds directory (table [reservation nowMs])) :
    Holds (directory.serve (release nowMs)) (table []) := by
  have outcome : (table [reservation nowMs]).releaseOwned (reservation nowMs).reservationId
      "session" = .ok ((), some (table [])) := by
    have owned : ProviderAdmissionSnapshot.isOwned (reservation nowMs).reservationId "session"
        (reservation nowMs) = true := by
      simp [ProviderAdmissionSnapshot.isOwned, reservation,
        ProviderAdmissionSnapshot.newReservation]
    simp [ProviderAdmissionSnapshot.releaseOwned, table, owned]
  exact @holds_serve _ _ _ (.releaseOwned _ _) _ holds rfl outcome trivial

end ReservedTwice

open ReservedTwice in
/-- The id of a reservation that was released does not renew the next one. -/
theorem reservations_stay_gone_next_time :
    let files := AdmissionDirectory.after [reserve 10, release 10, reserve 11]
      (AdmissionTable.digest exampleAdapterId)
    (AdmissionTable.renew exampleAdapterId (reservation 10).reservationId "session" 12 5).conclude
        AdmissionAction.perform none files =
      some (files, .error ProviderAdmissionSnapshot.notOwned) := by
  have first := holds_reserve holds_new rfl 10
  have second := holds_release first
  have storable : ∀ request ∈ [reserve 10, release 10, reserve 11], request.call.Storable := by
    simp [reserve, release, AdmissionCall.Storable]
  have made (nowMs : U128) : (reserve nowMs).reserveTime exampleAdapterId =
      some ("session", nowMs) := if_pos rfl
  have unmade : (release 10).reserveTime exampleAdapterId = none := if_pos rfl
  have once : (reserveTimes exampleAdapterId [reserve 10, release 10, reserve 11]).Nodup := by
    simp only [reserveTimes, List.filterMap_cons, List.filterMap_nil, made, unmade]
    decide
  have granted : reservation 10 ∈
      (AdmissionDirectory.after [reserve 10]).reservations exampleAdapterId := by
    simp only [AdmissionDirectory.after, List.foldl_cons, List.foldl_nil]
    rw [first.reservations]
    exact List.mem_singleton_self _
  have gone : ∀ held ∈ (AdmissionDirectory.after ([reserve 10] ++ [release 10])).reservations
      exampleAdapterId, held.reservationId ≠ (reservation 10).reservationId := by
    simp only [AdmissionDirectory.after, List.foldl_append, List.foldl_cons, List.foldl_nil]
    rw [second.reservations]
    exact List.forall_mem_nil _
  exact ((reservations_stay_gone storable).1 [reserve 10] [release 10] [reserve 11]
    (reservation 10) rfl once granted gone "session" 12 5).1

open ReservedTwice in
/-- The session reserves twice at one time, and the first holder releases the second
reservation. -/
theorem later_reservation_released :
    (AdmissionDirectory.after [reserve 10]).reservations exampleAdapterId = [reservation 10] ∧
    (AdmissionDirectory.after [reserve 10, release 10]).reservations exampleAdapterId = [] ∧
    (AdmissionDirectory.after [reserve 10, release 10, reserve 10]).reservations
      exampleAdapterId = [reservation 10] ∧
    (AdmissionDirectory.after [reserve 10, release 10, reserve 10, release 10]).reservations
      exampleAdapterId = [] := by
  have first := holds_reserve holds_new rfl 10
  have second := holds_release first
  have third := holds_reserve second rfl 10
  have fourth := holds_release third
  simp only [AdmissionDirectory.after, List.foldl_cons, List.foldl_nil]
  exact ⟨first.reservations, second.reservations, third.reservations, fourth.reservations⟩

end Eva.Storage
