import Eva.Foundation.Text

/-! # Structured errors -/

namespace Eva

inductive ErrorKind where
  | invalidArgument
  | notFound
  | conflict
  | permissionDenied
  | timeout
  | unavailable
  | internal
  | unsupported
deriving DecidableEq, Repr

namespace ErrorKind

def defaultRetryable : ErrorKind → Bool
  | timeout | unavailable => true
  | _ => false

def asStr : ErrorKind → String
  | invalidArgument => "invalid_argument"
  | notFound => "not_found"
  | conflict => "conflict"
  | permissionDenied => "permission_denied"
  | timeout => "timeout"
  | unavailable => "unavailable"
  | internal => "internal"
  | unsupported => "unsupported"

end ErrorKind

/-- A code that belongs to a provider, without blanks around it. -/
structure ProviderCode where
  text : String
  nonempty : text ≠ ""
  trimmed : Text.trim text.toList = text.toList
deriving DecidableEq, Repr

/-- Blanks around the code are dropped; a blank code is none. -/
def ProviderCode.new (value : String) : Option ProviderCode :=
  if blank : Text.trim value.toList = [] then none
  else
    some
      { text := String.ofList (Text.trim value.toList)
        nonempty := by simpa [← String.toList_eq_nil_iff] using blank
        trimmed := by rw [String.toList_ofList, Text.trim_trim] }

@[simp] theorem ProviderCode.new_text (code : ProviderCode) : new code.text = some code := by
  have visible : Text.trim code.text.toList ≠ [] := by
    rw [code.trimmed]
    simpa using code.nonempty
  unfold new
  rw [dif_neg visible]
  cases code with
  | mk text nonempty trimmed => simp [trimmed]

@[ext]
structure EvaError where
  kind : ErrorKind
  message : String
  retryable : Bool
  providerCode : Option ProviderCode
  context : List (String × String)
  labelled : ∀ entry ∈ context, Text.isBlank entry.1.toList = false
deriving DecidableEq, Repr

namespace EvaError

/-- The context has fewer entries than a length can count, as every vector has. -/
def Countable (error : EvaError) : Prop := error.context.length < 2 ^ 64

def new (kind : ErrorKind) (message : String) : EvaError where
  kind := kind
  message := message
  retryable := kind.defaultRetryable
  providerCode := none
  context := []
  labelled := by simp

def invalidArgument (message : String) : EvaError := new .invalidArgument message
def notFound (message : String) : EvaError := new .notFound message
def conflict (message : String) : EvaError := new .conflict message
def permissionDenied (message : String) : EvaError := new .permissionDenied message
def timeout (message : String) : EvaError := new .timeout message
def unavailable (message : String) : EvaError := new .unavailable message
def internal (message : String) : EvaError := new .internal message
def unsupported (message : String) : EvaError := new .unsupported message

def withRetryable (error : EvaError) (retryable : Bool) : EvaError :=
  { error with retryable }

def withProviderCode (error : EvaError) (code : String) : EvaError :=
  { error with providerCode := ProviderCode.new code }

/-- Entries with a blank key are dropped. -/
def withContext (error : EvaError) (key value : String) : EvaError :=
  if blank : Text.isBlank key.toList then error
  else
    { error with
      context := error.context ++ [(key, value)]
      labelled := by
        intro entry member
        rcases List.mem_append.mp member with member | member
        · exact error.labelled entry member
        · rw [List.mem_singleton.mp member]
          simpa using blank }

@[simp] theorem withContext_kind (error : EvaError) (key value : String) :
    (error.withContext key value).kind = error.kind := by
  unfold withContext
  split <;> rfl

end EvaError

end Eva
