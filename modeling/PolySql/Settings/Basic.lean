import PolySql.Builder
import PolySql.Environment
import PolySql.Registry

/-!
# Settings

What a builder is made from: the name of an engine, which may refer to environment variables, the
kind of placeholders and the marker of named ones.  Settings are valid when the expanded name is
registered and the marker is neither alphanumeric nor white space.
-/

namespace PolySql

/-- Settings of a builder. -/
structure Settings where
  /-- The engine, before its variables are expanded. -/
  dialect : String
  mode : ParamMode
  marker : Char
  deriving DecidableEq, Repr

/-- What can be wrong with settings or their file. -/
inductive SettingsError where
  | fileNotFound (path : String)
  | unreadable
  | malformed
  | missingVariable (name : String)
  | unsupportedDialect (name : String)
  | invalidMarker (marker : Char)
  deriving DecidableEq, Repr

/-- The wording of an error.  What is wrong inside a file is left to whoever reads it. -/
def SettingsError.message? : SettingsError → Option String
  | fileNotFound path => some s!"Config file not found: {path}"
  | unreadable | malformed => none
  | missingVariable name => some s!"Missing environment variable: {name}"
  | unsupportedDialect name => some s!"Unsupported dialect: {name}"
  | invalidMarker marker =>
    some ("Invalid configuration: named_prefix must be a punctuation character, got " ++
      Text.shownChar marker)

namespace Settings

def default : Settings := ⟨"mysql", .positional, ':'⟩

instance : Inhabited Settings := ⟨default⟩

/-- The name of the engine with its variables expanded. -/
def engineName (s : Settings) (env : Environment) : Except String String := env.expand s.dialect

/-- The expanded name of the engine, if the settings are valid. -/
def validate (s : Settings) (env : Environment) : Except SettingsError String := do
  let name ← (s.engineName env).mapError .missingVariable
  if !Registry.builtins.contains name then throw (.unsupportedDialect name)
  if Text.isAlphanumeric s.marker || Text.isWhitespace s.marker then throw (.invalidMarker s.marker)
  return name

end Settings

namespace Builder

/-- A builder for a registered engine. -/
def ofEngine (name : String) (mode : ParamMode) : Except CompileError Builder :=
  return new (← Registry.builtins.get name) mode

/-- A builder as the settings say. -/
def ofSettings (s : Settings) (env : Environment) : Except CompileError Builder := do
  let name ← (s.engineName env).mapError .missingVariable
  return (← ofEngine name s.mode).withMarker s.marker

end Builder

end PolySql
