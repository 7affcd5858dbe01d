import Eva.Foundation.Machine
import Eva.Mcp.Sse

/-! # Managed event streams

A thread reads the items of a stream into a bounded queue, and the registry takes them out.
Both change the counter of the queued bytes by exchanges that fail when the other one was
faster. A step is what one thread does between two accesses of the shared state.
-/

namespace Eva.Mcp

def managedStreamQueueItems : Nat := 64

-- The additions saturate, so their order does not matter.
def retainedMessageBytes (message : McpSseMessage) : Nat :=
  let eventId := (message.eventId.map String.utf8ByteSize).getD 0
  let eventType := (message.eventType.map String.utf8ByteSize).getD 0
  let requestId := match message.requestId with
    | some (.number _) => 8
    | some (.string value) => value.utf8ByteSize
    | none => 0
  min (message.data.utf8ByteSize + eventId + eventType + requestId) (2 ^ 64 - 1)

def retainedItemBytes : McpSseItem → Nat
  | .ping => 0
  | .message message => retainedMessageBytes message

inductive ManagedReaderExit where
  | cancelled
  | sourceEnded (providerCode : Option String)
  | queueLimit
deriving DecidableEq

def managedReaderTerminalError : ManagedReaderExit → EvaError
  | .queueLimit =>
      (EvaError.conflict "MCP managed SSE event queue reached its bounded limit").withProviderCode
        "mcp_stream_reader_queue_limit"
  | .sourceEnded providerCode =>
      let error := (EvaError.unavailable "MCP managed SSE reader terminated").withProviderCode
        "mcp_stream_reader_ended"
      (providerCode.map (error.withContext "source_provider_code")).getD error
  | .cancelled =>
      (EvaError.unavailable "MCP managed SSE reader was cancelled").withProviderCode
        "mcp_stream_reader_cancelled"

inductive ManagedHttpSessionState where
  | active
  | cleanupPending
deriving DecidableEq

/-- What the reader does next. An exchange knows the counter as it was loaded last. -/
inductive ReaderStep where
  | poll
  | decode
  | failed (error : EvaError)
  | reserve (item : McpSseItem) (current : Option Nat)
  | send (item : McpSseItem)
  | release (item : McpSseItem) (current : Option Nat)
  | leave (exit : ManagedReaderExit)
  | gone (exit : ManagedReaderExit)

inductive RegistryStep where
  | idle
  | release (item : McpSseItem) (current : Option Nat)

/-- A stream with its reader and the state of its session, all items that were decoded and
all answers to the calls for its items, oldest first. A stream that is aborted leaves with
its queue. -/
structure ManagedStream where
  session : ManagedHttpSessionState := .active
  cancellation : Bool := false
  queuedBytes : Nat := 0
  events : List McpSseItem := []
  registered : Bool := true
  reader : ReaderStep := .poll
  registry : RegistryStep := .idle
  decoded : List McpSseItem := []
  answers : List (Except EvaError (Option McpSseItem)) := []

inductive StreamEvent where
  | cancel
  /-- A call in the session has failed, or its last stream is aborted. -/
  | fence
  | read (nextItem : Except EvaError McpSseItem) (spurious : Bool)
  | take (joinError : Option EvaError) (spurious : Bool)

namespace ManagedStream

/-- Without a loaded value the counter is only loaded. -/
def exchanges (stream : ManagedStream) (current : Option Nat) (spurious : Bool) : Bool :=
  !spurious && current == some stream.queuedBytes

/-- Whether `reserve_queued_bytes` gives up on the value that was loaded. -/
def refusesReserve (outputLimitBytes amount : Nat) (current : Option Nat) : Bool :=
  current.any fun loaded => 2 ^ 64 ≤ loaded + amount || outputLimitBytes < loaded + amount

def runManagedHttpReader (outputLimitBytes : Nat) (nextItem : Except EvaError McpSseItem)
    (spurious : Bool) (stream : ManagedStream) : ManagedStream :=
  match stream.reader with
  | .poll => { stream with reader := if stream.cancellation then .leave .cancelled else .decode }
  | .decode =>
      match nextItem with
      | .ok item =>
          { stream with reader := .reserve item none, decoded := stream.decoded ++ [item] }
      | .error error => { stream with reader := .failed error }
  | .failed error =>
      { stream with
        reader := .leave (if stream.cancellation then .cancelled
          else .sourceEnded (error.providerCode.map ProviderCode.text)) }
  | .reserve item current =>
      if refusesReserve outputLimitBytes (retainedItemBytes item) current then
        { stream with reader := .leave .queueLimit }
      else if stream.exchanges current spurious then
        { stream with
          queuedBytes := stream.queuedBytes + retainedItemBytes item
          reader := .send item }
      else { stream with reader := .reserve item (some stream.queuedBytes) }
  | .send item =>
      if stream.events.length < managedStreamQueueItems then
        { stream with events := stream.events ++ [item], reader := .poll }
      else { stream with reader := .release item none }
  | .release item current =>
      if stream.exchanges current spurious then
        { stream with
          queuedBytes := stream.queuedBytes - retainedItemBytes item
          reader := .leave .queueLimit }
      else { stream with reader := .release item (some stream.queuedBytes) }
  -- The exit is reported before the sender is dropped.
  | .leave exit => { stream with reader := .gone exit }
  | .gone _ => stream

def answer (stream : ManagedStream) (answer : Except EvaError (Option McpSseItem)) :
    ManagedStream :=
  { stream with answers := stream.answers ++ [answer] }

def ensureHttpSessionActive (stream : ManagedStream) : Except EvaError Unit :=
  match stream.session with
  | .cleanupPending => .error ((EvaError.conflict
      "MCP Streamable HTTP session is fenced for cleanup").withProviderCode
        "mcp_http_registry_cleanup_pending")
  | .active => .ok ()

def takeItem (joinError : Option EvaError) (stream : ManagedStream) : ManagedStream :=
  if stream.registered then
    match stream.events, stream.reader with
    | item :: events, _ => { stream with events, registry := .release item none }
    | [], .gone exit =>
        match joinError with
        | some error => stream.answer (.error error)
        | none =>
            { stream with registered := false }.answer (.error (managedReaderTerminalError exit))
    | [], _ => stream.answer (.ok none)
  else
    stream.answer (.error
      ((EvaError.notFound "MCP Streamable HTTP stream is not registered").withProviderCode
        "mcp_http_registry_stream_not_found"))

def tryNextStreamItem (joinError : Option EvaError) (spurious : Bool) (stream : ManagedStream) :
    ManagedStream :=
  match stream.registry with
  | .idle =>
      match stream.ensureHttpSessionActive with
      | .error error => stream.answer (.error error)
      | .ok () => stream.takeItem joinError
  | .release item current =>
      if stream.exchanges current spurious then
        { stream with
          queuedBytes := stream.queuedBytes - retainedItemBytes item
          registry := .idle }.answer (.ok (some item))
      else { stream with registry := .release item (some stream.queuedBytes) }

def machine (outputLimitBytes : Nat) : Machine ManagedStream StreamEvent where
  initial := {}
  step stream
    | .cancel => some { stream with cancellation := true }
    | .fence => some { stream with session := .cleanupPending }
    | .read nextItem spurious =>
        some (stream.runManagedHttpReader outputLimitBytes nextItem spurious)
    | .take joinError spurious => some (stream.tryNextStreamItem joinError spurious)

def received (stream : ManagedStream) : List McpSseItem :=
  stream.answers.filterMap fun answer => answer.toOption.join

end ManagedStream

/-- The item whose bytes the reader has reserved, but not handed over. -/
def ReaderStep.reserved : ReaderStep → List McpSseItem
  | .send item | .release item _ => [item]
  | _ => []

/-- What was decoded and is not in the queue: the item in hand, or the one that did not fit. -/
def ReaderStep.Withholds : ReaderStep → List McpSseItem → Prop
  | .reserve item _, items | .send item, items | .release item _, items => items = [item]
  | .leave .queueLimit, items | .gone .queueLimit, items => items.length = 1
  | _, items => items = []

/-- How many items a cancelled reader still decodes. -/
def ReaderStep.awaited : ReaderStep → Nat
  | .decode => 1
  | _ => 0

def RegistryStep.taken : RegistryStep → List McpSseItem
  | .idle => []
  | .release item _ => [item]

def retainedBytes (items : List McpSseItem) : Nat := (items.map retainedItemBytes).sum

namespace ManagedStream

/-- No call has failed yet. -/
def Quiet (stream : ManagedStream) : Prop :=
  stream.registered = true ∧ ∀ error, .error error ∉ stream.answers

structure Ended (stream : ManagedStream) : Prop where
  idle : stream.registry = .idle
  empty : stream.events = []
  gone : ∃ exit, stream.reader = .gone exit ∧
    (stream.registered = false → .error (managedReaderTerminalError exit) ∈ stream.answers)

structure Sound (outputLimitBytes : Nat) (stream : ManagedStream) : Prop where
  counted : stream.queuedBytes =
    retainedBytes (stream.registry.taken ++ stream.events ++ stream.reader.reserved)
  bounded : stream.queuedBytes ≤ outputLimitBytes
  short : stream.events.length ≤ managedStreamQueueItems
  ordered : ∃ withheld, stream.reader.Withholds withheld ∧
    stream.decoded = stream.received ++ stream.registry.taken ++ stream.events ++ withheld
  settled : stream.session = .active → stream.Quiet ∨ stream.Ended

variable {outputLimitBytes : Nat} {stream : ManagedStream}

/-- In an active session calls fail only after the reader has gone. -/
private theorem Sound.quiet_of_reading (sound : stream.Sound outputLimitBytes)
    (reading : ∀ exit, stream.reader ≠ .gone exit) (active : stream.session = .active) :
    stream.Quiet :=
  (sound.settled active).resolve_right fun ended =>
    ended.gone.elim fun exit gone => reading exit gone.1

theorem Sound.read (sound : stream.Sound outputLimitBytes) :
    (stream.runManagedHttpReader outputLimitBytes nextItem spurious).Sound outputLimitBytes := by
  have ⟨counted, bounded, short, ⟨withheld, withholds, ordered⟩, settled⟩ := sound
  have working := sound.quiet_of_reading
  unfold runManagedHttpReader
  generalize reader : stream.reader = step at counted withholds working ⊢
  cases step with
  | gone exit => exact sound
  | poll | failed error =>
      have quiet := working (by simp)
      dsimp only
      split <;> exact ⟨counted, bounded, short, ⟨withheld, withholds, ordered⟩, .inl ∘ quiet⟩
  | decode =>
      have quiet := working (by simp)
      obtain rfl : withheld = [] := withholds
      cases nextItem with
      | ok item =>
          exact ⟨counted, bounded, short, ⟨_, rfl, by simp [ordered, received]⟩, .inl ∘ quiet⟩
      | error error => exact ⟨counted, bounded, short, ⟨_, rfl, ordered⟩, .inl ∘ quiet⟩
  | reserve item current =>
      have quiet := working (by simp)
      obtain rfl : withheld = [item] := withholds
      dsimp only
      split
      next => exact ⟨counted, bounded, short, ⟨[item], rfl, ordered⟩, .inl ∘ quiet⟩
      next fits =>
        split
        next exchanged =>
          obtain ⟨-, rfl⟩ : _ ∧ current = some stream.queuedBytes := by
            simpa [exchanges] using exchanged
          simp only [refusesReserve, Option.any_some, Bool.or_eq_true, decide_eq_true_eq, not_or,
            not_lt] at fits
          refine ⟨?_, fits.2, short, ⟨_, rfl, ordered⟩, .inl ∘ quiet⟩
          rw [counted]
          simp [retainedBytes, ReaderStep.reserved, Nat.add_assoc]
        next => exact ⟨counted, bounded, short, ⟨_, rfl, ordered⟩, .inl ∘ quiet⟩
  | send item =>
      have quiet := working (by simp)
      obtain rfl : withheld = [item] := withholds
      dsimp only
      split
      next room =>
        refine ⟨?_, bounded, ?_, ⟨_, rfl, by simp [ordered, received]⟩, .inl ∘ quiet⟩
        next => simpa [retainedBytes, ReaderStep.reserved] using counted
        next =>
          rw [List.length_append]
          exact room
      next => exact ⟨counted, bounded, short, ⟨_, rfl, ordered⟩, .inl ∘ quiet⟩
  | release item current =>
      have quiet := working (by simp)
      obtain rfl : withheld = [item] := withholds
      dsimp only
      split
      next =>
        refine ⟨?_, by dsimp only; omega, short, ⟨[item], rfl, ordered⟩, .inl ∘ quiet⟩
        simp [retainedBytes, ReaderStep.reserved] at counted ⊢
        omega
      next => exact ⟨counted, bounded, short, ⟨_, rfl, ordered⟩, .inl ∘ quiet⟩
  | leave exit =>
      have quiet := working (by simp)
      cases exit <;> exact ⟨counted, bounded, short, ⟨withheld, withholds, ordered⟩, .inl ∘ quiet⟩

/-- An answer that hands over no item leaves the queue as it is. -/
private theorem Sound.answered (sound : stream.Sound outputLimitBytes) (registered : Bool)
    (none : result.toOption.join = none)
    (settled : stream.session = .active → ({ stream with registered }.answer result).Quiet ∨
      ({ stream with registered }.answer result).Ended) :
    ({ stream with registered }.answer result).Sound outputLimitBytes := by
  obtain ⟨withheld, withholds, ordered⟩ := sound.ordered
  refine ⟨sound.counted, sound.bounded, sound.short, ⟨withheld, withholds, ?_⟩, settled⟩
  simpa [received, answer, none] using ordered

private theorem Sound.takeItem (sound : stream.Sound outputLimitBytes)
    (idle : stream.registry = .idle) : (stream.takeItem joinError).Sound outputLimitBytes := by
  unfold ManagedStream.takeItem
  split
  next registered =>
    split
    next item events _ queued =>
      obtain ⟨counted, bounded, short, ⟨withheld, withholds, ordered⟩, settled⟩ := sound
      have quiet active : stream.Quiet :=
        (settled active).resolve_right fun ended => by simp [ended.empty] at queued
      rw [idle, queued] at counted ordered
      rw [queued] at short
      refine ⟨?_, bounded, Nat.le_of_succ_le short, ⟨withheld, withholds, ?_⟩, .inl ∘ quiet⟩
      next => simpa [RegistryStep.taken] using counted
      next => simpa [RegistryStep.taken, received] using ordered
    next exit empty gone =>
      split
      next error =>
        refine sound.answered stream.registered rfl fun _ => .inr ⟨idle, empty, exit, gone, ?_⟩
        simp [answer, registered]
      next =>
        refine sound.answered false rfl fun _ => .inr ⟨idle, empty, exit, gone, ?_⟩
        simp [answer]
    next empty working =>
      refine sound.answered stream.registered rfl fun active => .inl ⟨registered, ?_⟩
      simpa [answer] using (sound.quiet_of_reading working active).2
  next removed =>
    refine sound.answered stream.registered rfl fun active => .inr ?_
    have ended := (sound.settled active).resolve_left fun quiet => removed quiet.1
    obtain ⟨exit, gone, told⟩ := ended.gone
    refine ⟨idle, ended.empty, exit, gone, fun removed => ?_⟩
    simp [answer, told removed]

theorem Sound.take (sound : stream.Sound outputLimitBytes) :
    (stream.tryNextStreamItem joinError spurious).Sound outputLimitBytes := by
  unfold tryNextStreamItem
  split
  next idle =>
    split
    next error refused =>
      refine sound.answered stream.registered rfl fun active => ?_
      rw [ensureHttpSessionActive, active] at refused
      cases refused
    next => exact sound.takeItem idle
  next item current releasing =>
    obtain ⟨counted, bounded, short, ⟨withheld, withholds, ordered⟩, settled⟩ := sound
    have quiet active : stream.Quiet :=
      (settled active).resolve_right fun ended => by simp [ended.idle] at releasing
    rw [releasing] at counted ordered
    split
    next =>
      refine ⟨?_, by dsimp only [answer]; omega, short, ⟨withheld, withholds, ?_⟩,
        fun active => .inl ?_⟩
      next =>
        simp [retainedBytes, RegistryStep.taken, answer] at counted ⊢
        omega
      next => simpa [RegistryStep.taken, received, answer, Except.toOption] using ordered
      next => exact ⟨(quiet active).1, by simpa [answer] using (quiet active).2⟩
    next =>
      exact ⟨counted, bounded, short, ⟨withheld, withholds, ordered⟩,
        .inl ∘ quiet⟩

theorem sound_of_run (run : (machine outputLimitBytes).Run trace stream) :
    stream.Sound outputLimitBytes := by
  induction run with
  | start =>
      exact ⟨rfl, Nat.zero_le _, Nat.zero_le _, ⟨[], rfl, rfl⟩,
        fun _ => .inl ⟨rfl, by simp [machine]⟩⟩
  | @step _ before event _ _ stepped sound =>
      cases event with
      | cancel =>
          obtain rfl := Option.some.inj stepped
          exact ⟨sound.counted, sound.bounded, sound.short, sound.ordered,
            fun active => (sound.settled active).imp_right fun ended => { ended with }⟩
      | fence =>
          obtain rfl := Option.some.inj stepped
          exact ⟨sound.counted, sound.bounded, sound.short, sound.ordered, by simp⟩
      | read nextItem spurious =>
          obtain rfl := Option.some.inj stepped
          exact sound.read
      | take joinError spurious =>
          obtain rfl := Option.some.inj stepped
          exact sound.take

theorem Sound.received_prefix (sound : stream.Sound outputLimitBytes) :
    stream.received <+: stream.decoded := by
  obtain ⟨withheld, -, ordered⟩ := sound.ordered
  rw [ordered, List.append_assoc, List.append_assoc]
  exact List.prefix_append _ _

/-- However the reader and the registry get into each other's way, the counter is the number
of bytes that are on their way from one to the other. -/
theorem queuedBytes_of_run (run : (machine outputLimitBytes).Run trace stream) :
    stream.queuedBytes =
        retainedBytes (stream.registry.taken ++ stream.events ++ stream.reader.reserved) ∧
      stream.queuedBytes ≤ outputLimitBytes ∧
      stream.events.length ≤ managedStreamQueueItems := by
  have sound := sound_of_run run
  exact ⟨sound.counted, sound.bounded, sound.short⟩

def exampleItem : McpSseItem := .message ⟨⟨none, .notification⟩, none, none, "[]"⟩

def exampleRead : StreamEvent := .read (.ok exampleItem) false

/-- The reader loads the counter before the registry releases an item. -/
def contested : List StreamEvent :=
  List.replicate 8 exampleRead ++ List.replicate 3 (.take none false) ++
    List.replicate 2 exampleRead

theorem queuedBytes_of_contested :
    ∃ stream, (machine 4).Run contested.reverse stream ∧ stream.queuedBytes = 2 ∧
      stream.queuedBytes =
        retainedBytes (stream.registry.taken ++ stream.events ++ stream.reader.reserved) := by
  have run := @Machine.run_follow _ _ (machine 4) contested rfl
  exact ⟨_, run, rfl, (queuedBytes_of_run run).1⟩

/-- While the session is active, every error comes after all items, and only an item that
did not fit is missing. -/
theorem received_of_run (run : (machine outputLimitBytes).Run trace stream) :
    stream.received <+: stream.decoded ∧ (stream.session = .active →
      (∀ error, .error error ∈ stream.answers → ∃ exit lost,
        stream.reader = .gone exit ∧ stream.decoded = stream.received ++ lost ∧
          lost.length = if exit = .queueLimit then 1 else 0) ∧
      (stream.registered = false → ∃ exit, stream.reader = .gone exit ∧
        .error (managedReaderTerminalError exit) ∈ stream.answers)) := by
  have sound := sound_of_run run
  refine ⟨sound.received_prefix, fun active => ⟨?_, ?_⟩⟩
  · intro error member
    obtain ⟨withheld, withholds, ordered⟩ := sound.ordered
    have ended := (sound.settled active).resolve_left fun quiet => quiet.2 error member
    obtain ⟨exit, gone, -⟩ := ended.gone
    rw [ended.idle, ended.empty] at ordered
    refine ⟨exit, withheld, gone, by simpa [RegistryStep.taken] using ordered, ?_⟩
    rw [gone] at withholds
    cases exit with
    | queueLimit => exact withholds
    | cancelled => exact congrArg List.length withholds
    | sourceEnded providerCode => exact congrArg List.length withholds
  · intro removed
    have ended := (sound.settled active).resolve_left fun quiet => by simp [quiet.1] at removed
    obtain ⟨exit, gone, told⟩ := ended.gone
    exact ⟨exit, gone, told removed⟩

def overrun : List StreamEvent :=
  List.replicate 10 exampleRead ++ List.replicate 4 (.take none false)

theorem received_of_overrun :
    ∃ stream, (machine 2).Run overrun.reverse stream ∧ stream.registered = false ∧
      stream.received <+: stream.decoded ∧ ∃ exit, stream.reader = .gone exit ∧
        .error (managedReaderTerminalError exit) ∈ stream.answers := by
  have run := @Machine.run_follow _ _ (machine 2) overrun rfl
  exact ⟨_, run, rfl, (received_of_run run).1,
    ((received_of_run run).2 rfl).2 rfl⟩

theorem awaited_of_step (cancelled : stream.cancellation = true)
    (stepped : (machine outputLimitBytes).step stream event = some after) :
    after.cancellation = true ∧ after.decoded.length + after.reader.awaited ≤
      stream.decoded.length + stream.reader.awaited := by
  cases event with
  | cancel =>
      obtain rfl := Option.some.inj stepped
      exact ⟨rfl, Nat.le_refl _⟩
  | fence =>
      obtain rfl := Option.some.inj stepped
      exact ⟨cancelled, Nat.le_refl _⟩
  | read nextItem spurious =>
      obtain rfl := Option.some.inj stepped
      unfold runManagedHttpReader
      generalize reader : stream.reader = step
      cases step <;> dsimp only <;> repeat' split
      all_goals simp_all [ReaderStep.awaited]
  | take joinError spurious =>
      obtain rfl := Option.some.inj stepped
      unfold tryNextStreamItem takeItem
      repeat' split
      all_goals exact ⟨cancelled, Nat.le_refl _⟩

theorem decoded_of_cancelled (cancelled : stream.cancellation = true)
    (followed : (machine outputLimitBytes).follow stream rest = some after) :
    after.decoded.length ≤ stream.decoded.length + stream.reader.awaited := by
  induction rest generalizing stream with
  | nil =>
      obtain rfl := Option.some.inj followed
      exact Nat.le_add_right _ _
  | cons event rest induction =>
      obtain ⟨between, stepped, followed⟩ := Option.bind_eq_some_iff.mp followed
      obtain ⟨cancelled, awaited⟩ := awaited_of_step cancelled stepped
      exact (induction cancelled followed).trans awaited

theorem decoded_of_cancelled_late :
    let late : ManagedStream := { cancellation := true, reader := .decode }
    ∃ after, (machine 2).follow late overrun = some after ∧
      after.decoded.length ≤ late.decoded.length + late.reader.awaited := by
  intro late
  have followed : (machine 2).follow late overrun = some _ := rfl
  exact ⟨_, followed, decoded_of_cancelled rfl followed⟩

/-- The items on their way out of the queue and into it. -/
def handed (stream : ManagedStream) : List McpSseItem :=
  stream.registry.taken ++ stream.reader.reserved

theorem length_handed_le (stream : ManagedStream) : stream.handed.length ≤ 2 := by
  unfold handed RegistryStep.taken ReaderStep.reserved
  split <;> split <;> simp

theorem Sound.counted_handed (sound : stream.Sound outputLimitBytes) :
    stream.queuedBytes = retainedBytes stream.events + retainedBytes stream.handed := by
  rw [sound.counted]
  simp only [handed, retainedBytes, List.map_append, List.sum_append]
  omega

theorem Sound.handed_le (sound : stream.Sound outputLimitBytes) (held : item ∈ stream.handed) :
    retainedItemBytes item ≤ stream.queuedBytes := by
  obtain ⟨before, after, split⟩ := List.append_of_mem held
  rw [sound.counted_handed, split]
  simp only [retainedBytes, List.map_append, List.map_cons, List.sum_append, List.sum_cons]
  omega

/-- An item in the reader's hand and one in the registry's are counted, but not queued. No
release takes more than the counter holds. -/
theorem managed_stream_queue (run : (machine outputLimitBytes).Run trace stream) :
    stream.queuedBytes = retainedBytes stream.events + retainedBytes stream.handed ∧
      stream.handed.length ≤ 2 ∧ stream.queuedBytes ≤ outputLimitBytes ∧
      (∀ item ∈ stream.handed, retainedItemBytes item ≤ stream.queuedBytes) ∧
      stream.received <+: stream.decoded ∧
      (stream.session = .active → ∀ error, .error error ∈ stream.answers →
        stream.events = [] ∧ stream.handed = [] ∧ ∃ exit, stream.reader = .gone exit) := by
  have sound := sound_of_run run
  refine ⟨sound.counted_handed, stream.length_handed_le, sound.bounded, fun _ => sound.handed_le,
    sound.received_prefix, fun active error member => ?_⟩
  have ended := (sound.settled active).resolve_left fun quiet => quiet.2 error member
  obtain ⟨exit, gone, -⟩ := ended.gone
  exact ⟨ended.empty, by rw [handed, ended.idle, gone]; rfl, exit, gone⟩

theorem managed_stream_queue_contested :
    ∃ stream, (machine 4).Run contested.reverse stream ∧
      stream.queuedBytes = retainedBytes stream.events + retainedBytes stream.handed := by
  have run := @Machine.run_follow _ _ (machine 4) contested rfl
  exact ⟨_, run, (managed_stream_queue run).1⟩

/-- The registry has taken the first item, and the reader has reserved the second. -/
theorem two_items_handed_over :
    ∃ stream, (machine 4).Run (contested.take 8 ++ [.take none false, exampleRead]).reverse stream ∧
      stream.events = [] ∧ stream.queuedBytes = 4 ∧
      ∀ item ∈ stream.decoded, stream.queuedBytes ≠ retainedBytes (item :: stream.events) := by
  refine ⟨_, Machine.run_follow _ rfl, rfl, rfl, fun item decoded => ?_⟩
  obtain rfl : item = exampleItem := by
    simpa using (show item ∈ [exampleItem, exampleItem] from decoded)
  exact (show 4 ≠ 2 by decide)

end ManagedStream

end Eva.Mcp
