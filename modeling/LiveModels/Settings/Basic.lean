import LiveModels.Files.Path
import LiveModels.Naming.Policy
import LiveModels.Settings.EnvFile
import LiveModels.Text.Lines
import LiveModels.Text.Quoted

/-!
# Settings

The settings of the service, read from variables. A variable that is not set gives the default; the
first one with an invalid value is reported.
-/

namespace LiveModels

/-- The settings of the service. -/
structure Settings where
  host : String := "0.0.0.0"
  port : Nat := 3000
  allowedOrigins : List String := ["http://localhost:3001"]
  directory : Path := ⟨"./data/models"⟩
  schemaFile : Path := (Path.mk "./data/models").join "schema.json"
  moduleName : String := "Generated.Models"
  naming : NamingPolicy := .pascalAlias
  lockTimeoutSeconds : Nat := 120
  flagOutOfDate : Bool := true
  watchFiles : Bool := true
  deriving DecidableEq, Repr, Inhabited

/-- Why there are no settings. -/
inductive SettingsError
  | environment (fault : EnvFile.Fault)
  | invalid (key value reason : String)
  deriving DecidableEq, Repr

/-- What is reported when there are no settings. -/
def SettingsError.message : SettingsError → String
  | .environment fault => "Failed to load environment variables: " ++ fault.message
  | .invalid key value reason =>
    "Invalid configuration value for " ++ key ++ ": " ++ Text.quote value ++ ": " ++ reason

namespace Settings

open Text

/-! ### Values -/

/-- Whether a text is an octet in decimal digits without leading zeros. -/
def isOctet (s : List Char) : Bool :=
  !s.isEmpty && s.all Char.isDigit && decide (s.length ≤ 3)
    && (s.length == 1 || s.head? != some '0')
    && match parseUnsigned 255 s with
      | .ok _ => true
      | .error _ => false

/-- An address of four octets. -/
def parseHost (s : String) : Except String String :=
  let octets := pieces '.' s.toList
  if octets.length = 4 ∧ octets.all isOctet then .ok s else .error "invalid IPv4 address syntax"

/-- A number without a sign, at most `most`. -/
def parseNumber (most : Nat) (s : String) : Except String Nat :=
  match parseUnsigned most s.toList with
  | .ok n => .ok n
  | .error e => .error e.message

/-- A truth value. -/
def parseBool (s : String) : Except String Bool :=
  if s = "true" then .ok true
  else if s = "false" then .ok false
  else .error "provided string was not `true` or `false`"

/-- The value of a variable, without the white space around it, or a default. -/
def parsed {α : Type} (value? : String → Option String) (key : String) (default : α)
    (parse : String → Except String α) : Except SettingsError α :=
  match value? key with
  | none => .ok default
  | some raw =>
    match parse (trimmed raw) with
    | .ok a => .ok a
    | .error reason => .error (.invalid key raw reason)

/-- The entries of a list with commas between them, without white space and empty entries. -/
def parseOrigins (s : String) : List String :=
  ((pieces ',' s.toList).map fun entry => String.ofList (trim entry)).filter fun o => !o.isEmpty

/-! ### Reading -/

/-- The settings that variables give, of which only the values are known. -/
def ofVariables (value? : String → Option String) : Except SettingsError Settings := do
  let host ← parsed value? "HOST" "0.0.0.0" parseHost
  let port ← parsed value? "PORT" 3000 (parseNumber 0xffff)
  let directory : Path := ⟨(value? "MODELS_DIR").getD "./data/models"⟩
  let naming ← parsed value? "MODELS_BINDING_NAMES" .pascalAlias NamingPolicy.ofText
  let lockTimeoutSeconds ← parsed value? "MODELS_LOCK_TIMEOUT_SECS" 120 (parseNumber largestWord)
  let flagOutOfDate ← parsed value? "MODELS_FLAG_OUT_OF_DATE" true parseBool
  let watchFiles ← parsed value? "MODELS_WATCH_FILES" true parseBool
  return {
    host := host
    port := port
    allowedOrigins :=
      match value? "ALLOWED_ORIGINS" with
      | some text => parseOrigins text
      | none => ["http://localhost:3001"]
    directory := directory
    schemaFile :=
      match value? "SCHEMA_FILE" with
      | some text => ⟨text⟩
      | none => directory.join "schema.json"
    moduleName := (value? "MODELS_MODULE_NAME").getD "Generated.Models"
    naming := naming
    lockTimeoutSeconds := lockTimeoutSeconds
    flagOutOfDate := flagOutOfDate
    watchFiles := watchFiles }

/-- The settings that an environment gives together with an environment file, if there is one. The
environment wins over the file. -/
def load (vars : EnvFile.Variables) (envFile : Option String) : Except SettingsError Settings :=
  match envFile with
  | none => ofVariables (EnvFile.lookUp vars)
  | some text =>
    match EnvFile.load vars text with
    | .ok vars => ofVariables (EnvFile.lookUp vars)
    | .error fault => .error (.environment fault)

end Settings

end LiveModels
