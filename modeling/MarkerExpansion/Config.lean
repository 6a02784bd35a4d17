import MarkerExpansion.Error
import MarkerExpansion.Json.Reader
import MarkerExpansion.Pattern.Matcher
import MarkerExpansion.Pattern.Parser

/-!
The configuration: which module names stand for the module that exports the marker.
-/

namespace MarkerExpansion

structure Config where
  /-- The pattern for the names of modules that export the marker. -/
  sourcePattern : String
  deriving DecidableEq

namespace Config

/-- By default a module exports the marker if its name ends in `macro`, after a dot or a slash,
with or without the extension of a script. -/
def default : Config := { sourcePattern := "[./]macro(\\.c?js)?$" }

/-- Reads the members of a configuration object, after those already read. The pattern is given at
most once and is a text, every key is a text, and other members are passed over. -/
def ofMembers? : Option String → List (Option String × Json) → Option Config
  | found, [] => some (found.elim default fun sourcePattern => { sourcePattern })
  | found, (key, value) :: members => do
    if (← key) = "sourcePattern" then
      let pattern ← value.text?
      if found.isNone then ofMembers? (some pattern) members else none
    else ofMembers? found members

/-- Reads a configuration from an object, or from the list of its values. -/
def ofJson? : Json → Option Config
  | .object members => ofMembers? none members
  | .array [] => some default
  | .array [value] => value.text?.map fun sourcePattern => { sourcePattern }
  | _ => none

/-- Reads a configuration from JSON text. A text that is faulty in any way counts for nothing. -/
def ofText (text : String) : Config := ((Json.parse? text).bind ofJson?).getD default

/-- The pattern of the configuration. -/
def pattern (config : Config) : Except Error Pattern :=
  match Pattern.parse config.sourcePattern with
  | .ok pattern => .ok pattern
  | .error failure =>
    .error { span := .dummy, cause := .invalidPattern config.sourcePattern failure }

end Config

end MarkerExpansion
