import LiveModels.Files.Tree
import LiveModels.Registry.Basic
import LiveModels.Schema.Error

/-!
# Failures of a build

Everything that can go wrong while models are built, with a short code for each kind of failure and
the text that is reported.
-/

namespace LiveModels

/-- Why a source was not compiled, or a module not loaded. -/
structure CompileError where
  module : String
  text : String
  deriving DecidableEq, Repr

/-- What is reported about a source that was not compiled. -/
def CompileError.message (e : CompileError) : String :=
  "Failed to compile module " ++ Text.quote e.module ++ ": " ++ e.text

/-- A duration of whole milliseconds in the largest unit that gives a whole part, with the fraction
that is left. -/
def durationText (milliseconds : Nat) : String :=
  if milliseconds = 0 then "0ns"
  else if milliseconds < 1000 then Text.decimal milliseconds ++ "ms"
  else
    let digits (n : Nat) : List Char :=
      [n / 100, n / 10 % 10, n % 10].map fun d => Char.ofNat ('0'.toNat + d)
    let fraction := ((digits (milliseconds % 1000)).reverse.dropWhile (· == '0')).reverse
    Text.decimal (milliseconds / 1000)
      ++ (if fraction.isEmpty then "" else "." ++ String.ofList fraction) ++ "s"

/-- Why models were not built. -/
inductive ModelsError
  | schema (cause : SchemaError)
  | compile (cause : CompileError)
  | shape (cause : ShapeError)
  /-- The lock of the models directory was not free within a time in milliseconds. -/
  | lockTimeout (path : Path) (waited : Nat)
  | emit (text : String)
  /-- An operation on files failed. -/
  | io (context : String) (cause : FileFault)
  | watch (text : String)
  deriving DecidableEq, Repr

namespace ModelsError

/-- The short name of the kind of failure. -/
def code : ModelsError → String
  | .schema _ => "SCHEMA_ERROR"
  | .compile _ => "COMPILE_ERROR"
  | .shape _ => "CONSTRUCTOR_SHAPE_ERROR"
  | .lockTimeout _ _ => "LOCK_TIMEOUT"
  | .emit _ => "EMIT_ERROR"
  | .io _ _ => "IO_ERROR"
  | .watch _ => "WATCH_ERROR"

/-- What is reported about a failure. -/
def message : ModelsError → String
  | .schema cause => cause.message
  | .compile cause => cause.message
  | .shape cause => cause.message
  | .lockTimeout path waited =>
    "Timed out after " ++ durationText waited ++ " waiting for models directory lock "
      ++ Text.quote path.text
  | .emit text => "Code emission failed: " ++ text
  | .io context cause => context ++ ": " ++ cause.message
  | .watch text => "File watcher error: " ++ text

/-- The code and the report of a failure, as it is recorded. -/
def record (e : ModelsError) : String :=
  "[" ++ e.code ++ "] " ++ e.message

end ModelsError

end LiveModels
