import Mathlib.Data.String.Basic
import Eva.Core.Error
import Eva.Foundation.Checks
import Eva.Foundation.Numerals
import Eva.Foundation.SortedMap

/-! # The input of a tool call

A script passes any value to a tool. The tables of the value are the nodes of a graph,
and the host writes it as JSON by going down from table to table without a mark on
those it has been to.
-/

namespace Eva.Lua

/-- A number comes with its text if it is finite, and a table with its address. -/
inductive LuaValue where
  | nil
  | boolean (value : Bool)
  | integer (value : Int)
  | number (text : Option String)
  | string (bytes : List UInt8)
  | table (address : Nat)
  | other

/-- The pairs of every table, in the order of a traversal. -/
abbrev Heap := Nat → List (LuaValue × LuaValue)

def jsonValueError (message : String) : EvaError :=
  ((EvaError.invalidArgument message).withProviderCode "lua_tool_json_error").withContext
    "lua_phase" "tool_call"

def jsonCharacter (character : Char) : List Char :=
  if character = '"' then "\\\"".toList
  else if character = '\\' then "\\\\".toList
  else if character = '\n' then "\\n".toList
  else if character = '\r' then "\\r".toList
  else if character = '\t' then "\\t".toList
  -- No control character is beyond the first 256.
  else if Text.isControl character then
    "\\u00".toList ++ Text.encodeHex [UInt8.ofNat character.toNat]
  else [character]

def jsonString (value : String) : String :=
  String.ofList ('"' :: value.toList.flatMap jsonCharacter ++ ['"'])

def toStr (bytes : List UInt8) : Except EvaError String :=
  orReject (jsonValueError "Lua value could not be converted to JSON")
    (String.fromUTF8? ⟨bytes.toArray⟩)

/-- What has been written of a table. -/
structure TableEntries where
  array : SortedMap Int String
  object : List (String × String)

namespace TableEntries

def add (entries : TableEntries) (key : LuaValue) (value : String) :
    Except EvaError TableEntries :=
  let refused : Except EvaError TableEntries := .error (jsonValueError
    "object keys must be strings and array keys must be positive integers")
  match key with
  | .integer index =>
      if index ≤ 0 then refused
      else if (entries.array.get? index).isSome then
        .error (jsonValueError "array indexes must be unique")
      else .ok { entries with array := entries.array.insert index value }
  | .string bytes => do
      let key ← toStr bytes
      pure { entries with object := entries.object ++ [(key, value)] }
  | _ => refused

def text (entries : TableEntries) : Except EvaError String :=
  let indexes := entries.array.entries.map Prod.fst
  if indexes ≠ [] ∧ entries.object ≠ [] then
    .error (jsonValueError "table cannot mix array and object keys")
  else if indexes ≠ [] then
    if indexes ≠ (List.range indexes.length).map fun index => (index + 1 : Int) then
      .error (jsonValueError "array indexes must be contiguous from 1")
    else .ok ("[" ++ ",".intercalate entries.array.values ++ "]")
  else
    let members := entries.object.mergeSort fun left right => left.1 ≤ right.1
    .ok ("\x7b" ++ ",".intercalate (members.map fun member =>
      jsonString member.1 ++ ":" ++ member.2) ++ "\x7d")

end TableEntries

namespace TableEntries

/-- The keys alone decide what is refused. -/
def blank (entries : TableEntries) : TableEntries where
  array := entries.array.mapValues fun _ => ""
  object := entries.object.map fun member => (member.1, "")

end TableEntries

/-! ## Depth -/

/-- Every value can be written, and every key fits. -/
def PairsWritable (writable : LuaValue → Prop) :
    List (LuaValue × LuaValue) → TableEntries → Prop
  | [], entries => ∃ text, entries.text = .ok text
  | (key, value) :: pairs, entries =>
      writable value ∧ ∃ next, entries.add key "" = .ok next ∧ PairsWritable writable pairs next

/-- The value and what is below it can be written, within a limit of nested tables. -/
def Writable (heap : Heap) : (limit : Nat) → LuaValue → Prop
  | _, .number none | _, .other => False
  | _, .string bytes => ∃ text, toStr bytes = .ok text
  | 0, .table _ => False
  | limit + 1, .table address => PairsWritable (Writable heap limit) (heap address) ⟨.empty, []⟩
  | _, _ => True

section Pairs

variable {convert : LuaValue → Option (Except EvaError String)} {nests writable : LuaValue → Prop}
  (writes : ∀ value, writable value ↔ ∃ text, convert value = some (.ok text))

include writes

end Pairs

end Eva.Lua
