import Eva.Core.Error
import Eva.Foundation.Numerals

/-! # Limits of a script

A hook that the virtual machine calls every so many instructions ends a script that has
used up its instructions or its time or has been cancelled. What the hook raises is an
error like any other, so a protected call catches it, and a call of a tool asks no limit.
-/

namespace Eva.Lua

/-- Times are in nanoseconds. -/
structure LuaExecutionLimits where
  timeout : Option Nat
  instructionBudget : Option U64
  memoryLimitBytes : Option (Unsigned 64)
  cancellationToken : Bool
  hookInstructionInterval : U32

inductive LuaError where
  | memory
  | cancelled
  | instructionBudget
  | timeout
  | syntaxError
  | runtime

namespace LuaExecutionLimits

variable (limits : LuaExecutionLimits)

def isHooked : Bool :=
  limits.timeout.isSome || limits.instructionBudget.isSome || limits.cancellationToken

def interval : U64 :=
  ⟨max limits.hookInstructionInterval.value 1, by
    have inRange := limits.hookInstructionInterval.inRange
    omega⟩

/-- What a call of the hook has seen so far and whether it raises an error. -/
def hook (cancelled : Bool) (elapsed : Nat) (observed : U64) : U64 × Except LuaError Unit :=
  if limits.cancellationToken && cancelled then (observed, .error .cancelled)
  else
    let next := observed.saturatingAdd limits.interval
    if limits.instructionBudget.any (· < next) then (next, .error .instructionBudget)
    else if limits.timeout.any (· ≤ elapsed) then (next, .error .timeout)
    else (next, .ok ())

/-- What a handler that is over a limit fails with. -/
def limitError (budget code limit : String) (value : Option String) : EvaError :=
  (((EvaError.timeout s!"Lua on_event exceeded {budget} budget").withProviderCode
    code).withContext "lua_phase" "handler").withContext limit (value.getD "unknown")

def timeoutError : EvaError :=
  limitError "timeout" "lua_timeout" "timeout_ms"
    (limits.timeout.map fun timeout => toString (timeout / 1000000))

def instructionBudgetError : EvaError :=
  limitError "instruction" "lua_instruction_budget_exceeded" "instruction_budget"
    (limits.instructionBudget.map Unsigned.text)

def memoryLimitError : EvaError :=
  limitError "memory" "lua_memory_limit_exceeded" "memory_limit_bytes"
    (limits.memoryLimitBytes.map Unsigned.text)

end LuaExecutionLimits

def cancelledError : EvaError :=
  (((EvaError.conflict "Lua on_event was cancelled").withProviderCode
    "lua_cancelled").withRetryable false).withContext "lua_phase" "handler"

/-- The script is loaded, and then its handler is called. -/
inductive Phase where
  | load
  | handler

def mapLoadError (limits : LuaExecutionLimits) : LuaError → EvaError
  | .memory => limits.memoryLimitError.withContext "lua_phase" "load"
  | .cancelled => cancelledError.withContext "lua_phase" "load"
  | .instructionBudget => limits.instructionBudgetError.withContext "lua_phase" "load"
  | .timeout => limits.timeoutError.withContext "lua_phase" "load"
  | .syntaxError => ((EvaError.invalidArgument "Lua script failed to compile").withProviderCode
      "lua_syntax_error").withContext "lua_phase" "compile"
  | .runtime => ((EvaError.invalidArgument "Lua script failed during load").withProviderCode
      "lua_load_error").withContext "lua_phase" "load"

def mapHandlerError (limits : LuaExecutionLimits) : LuaError → EvaError
  | .memory => limits.memoryLimitError
  | .cancelled => cancelledError
  | .instructionBudget => limits.instructionBudgetError
  | .timeout => limits.timeoutError
  | .syntaxError | .runtime => ((EvaError.internal "Lua on_event runtime error").withProviderCode
      "lua_runtime_error").withContext "lua_phase" "handler"

def Phase.mapError (limits : LuaExecutionLimits) : Phase → LuaError → EvaError
  | .load => mapLoadError limits
  | .handler => mapHandlerError limits

/-! ## Scripts -/

/-- What a script does next. A call of a tool with arguments that do not make a request is
a failure. -/
inductive Instruction (Control Value Request : Type) where
  | goOn (next : Control)
  | callTool (request : Request) (next : Value → Control)
  | protect (body : Control) (next : Except LuaError Value → Control)
  | finish (value : Value)
  | fail (error : LuaError)

/-- A script, with what the host makes of the value of the script (its handler) and of the
value of the handler, and with what is read off the source where that does not load. -/
structure Script (Control Value Request Result : Type) where
  source : String
  start : Control
  step : Control → Instruction Control Value Request
  onEventHandler : Value → Except EvaError Control
  result : Value → Except EvaError Result
  parseStaticOnEvent : Except EvaError Result

variable {Control Value Request Result : Type}

def shouldAttemptStaticFallback (source : String) (error : EvaError) : Bool :=
  let has (text : String) : Bool := Text.contains source.toList text.toList
  let isLoadFailure : Bool := error.providerCode.any fun code =>
    code.text == "lua_syntax_error" || code.text == "lua_load_error"
  isLoadFailure && has "on_event" && !has "function" &&
    (has "status =" || has "capability =" || has "note =")

def Script.answer (script : Script Control Value Request Result)
    (outcome : Except EvaError Result) : Except EvaError Result :=
  match outcome with
  | .ok result => .ok result
  | .error error =>
      if shouldAttemptStaticFallback script.source error then script.parseStaticOnEvent
      else .error error

/-- The frames are the protected calls that are open, the innermost first. -/
structure Vm (Control Value : Type) where
  phase : Phase
  control : Control
  frames : List (Except LuaError Value → Control)
  sinceHook : Nat
  observed : U64

def Vm.tick (vm : Vm Control Value) : Vm Control Value :=
  { vm with sinceHook := vm.sinceHook + 1 }

def Script.initial (script : Script Control Value Request Result) : Vm Control Value :=
  ⟨.load, script.start, [], 0, 0⟩

inductive VmEvent (Request Result : Type) where
  | instruction
  | toolCall (request : Request)
  | limit (error : LuaError)
  | returned (result : Except EvaError Result)

/-- The surroundings at one step, and what the tool host would answer. -/
structure Surroundings (Value : Type) where
  cancelled : Bool
  elapsed : Nat
  response : Except LuaError Value

section Run

variable (limits : LuaExecutionLimits) (script : Script Control Value Request Result)

/-- A function ends with a value or an error. -/
def Vm.deliver (vm : Vm Control Value) (outcome : Except LuaError Value) :
    List (VmEvent Request Result) × Option (Vm Control Value) :=
  match vm.frames with
  | frame :: frames => ([], some { vm with control := frame outcome, frames })
  | [] =>
      match outcome, vm.phase with
      | .error error, phase =>
          ([.returned (script.answer (.error (phase.mapError limits error)))], none)
      | .ok value, .handler => ([.returned (script.answer (script.result value))], none)
      | .ok value, .load =>
          match script.onEventHandler value with
          | .error error => ([.returned (script.answer (.error error))], none)
          | .ok control => ([], some { vm with phase := .handler, control })

/-- The hook if it is due, and otherwise an instruction. -/
def Vm.step (now : Surroundings Value) (vm : Vm Control Value) :
    List (VmEvent Request Result) × Option (Vm Control Value) :=
  if limits.isHooked && limits.interval.value ≤ vm.sinceHook then
    let (observed, checked) := limits.hook now.cancelled now.elapsed vm.observed
    let vm := { vm with sinceHook := 0, observed }
    match checked with
    | .ok () => ([], some vm)
    | .error error =>
        let (events, next) := vm.deliver limits script (.error error)
        (.limit error :: events, next)
  else
    match script.step vm.control with
    | .goOn next => ([.instruction], some { vm.tick with control := next })
    | .protect body next =>
        ([.instruction], some { vm.tick with control := body, frames := next :: vm.frames })
    | .callTool request next =>
        match now.response with
        | .ok value =>
            ([.instruction, .toolCall request], some { vm.tick with control := next value })
        | .error error =>
            let (events, after) := vm.tick.deliver limits script (.error error)
            (.instruction :: .toolCall request :: events, after)
    | .finish value =>
        let (events, after) := vm.tick.deliver limits script (.ok value)
        (.instruction :: events, after)
    | .fail error =>
        let (events, after) := vm.tick.deliver limits script (.error error)
        (.instruction :: events, after)

/-- What happens in the steps with these surroundings. -/
def Vm.trace : List (Surroundings Value) → Vm Control Value → List (VmEvent Request Result)
  | [], _ => []
  | now :: later, vm =>
      match vm.step limits script now with
      | (events, none) => events
      | (events, some next) => events ++ trace later next

end Run

/-! ## After a limit -/

section Limits

variable {limits : LuaExecutionLimits} {script : Script Control Value Request Result}
  {vm : Vm Control Value}

/-- The events do not tell of a limit. -/
def Unlimited (events : List (VmEvent Request Result)) : Prop :=
  ∀ error, .limit error ∉ events

theorem Unlimited.append {first second : List (VmEvent Request Result)}
    (unlimited : Unlimited first) (quiet : Unlimited second) : Unlimited (first ++ second) :=
  fun error member => (List.mem_append.mp member).elim (unlimited error) (quiet error)

end Limits

/-! ## A limit that is caught -/

def budget : LuaExecutionLimits := ⟨none, some 10, none, false, 10⟩

def calm : Surroundings Unit := ⟨false, 0, .ok ()⟩

end Eva.Lua
