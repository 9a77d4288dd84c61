import PersistenceLayer.Config
import PersistenceLayer.Model.Decode
import PersistenceLayer.Model.Validation
import PersistenceLayer.Run.Writing
import PersistenceLayer.Sample

/-!
# Command line

The program generates the artifacts of a model, validates a model, or generates
those of the sample model. Switches given as arguments replace those from the
environment.
-/

namespace PersistenceLayer.CommandLine

/-! ## Arguments -/

/-- The switches given as arguments. -/
structure Switches where
  composableData : Option Bool := none
  constrainedData : Option Bool := none
  jsonAwareData : Option Bool := none
  onlyData : Option Bool := none
  deriving DecidableEq, Repr

/-- Options with the given switches replaced. -/
def Switches.apply (switches : Switches) (options : Options) : Options :=
  { composableData := switches.composableData.getD options.composableData
    constrainedData := switches.constrainedData.getD options.constrainedData
    jsonAwareData := switches.jsonAwareData.getD options.jsonAwareData
    onlyData := switches.onlyData.getD options.onlyData }

/-- What the program is asked to do. -/
inductive Command where
  | generate (model : Path) (output : Option Path) (switches : Switches)
  | validate (model : Path)
  | sample (output : Option Path)
  deriving DecidableEq, Repr

/-- The kinds of options: those that take a path, and switches whose value may be left out. -/
inductive OptionKind where
  | path
  | switch
  deriving DecidableEq, Repr

/-- The options that a command has, by name. -/
def generateOptions : List (String × OptionKind) :=
  [("model", .path), ("output", .path), ("composable-data", .switch),
    ("constrained-data", .switch), ("json-aware-data", .switch), ("only-data", .switch)]

/-- The options of a validation. -/
def validateOptions : List (String × OptionKind) := [("model", .path)]

/-- The options of the sample. -/
def sampleOptions : List (String × OptionKind) := [("output", .path)]

/-- An argument that starts an option: its name, and its value if that is part of it. -/
def optionStart? (argument : String) : Option (String × Option String) :=
  match argument.toList with
  | '-' :: '-' :: chars =>
    let name := chars.takeWhile (· != '=')
    match chars.dropWhile (· != '=') with
    | [] => some (String.ofList name, none)
    | _ :: value => some (String.ofList name, some (String.ofList value))
  | _ => none

/-- Whether an argument can be the value of the option before it. -/
def isValue (argument : String) : Bool :=
  argument == "-" || argument.toList.head? != some '-'

/-- Whether a value suits an option: a path is not empty, a switch is one of two words. -/
def suits (kind : OptionKind) (value : String) : Bool :=
  match kind with
  | .path => value != ""
  | .switch => value == "true" || value == "false"

/-- The values of options, by name. Every option may be given once, and every value has to suit its
option. A path needs a value; a switch without one is set. -/
def readOptions (known : List (String × OptionKind)) (given : List (String × String)) :
    List String → Option (List (String × String))
  | [] => some given
  | ["--"] => some given
  | argument :: arguments =>
    match optionStart? argument with
    | none => none
    | some (name, attached) =>
      match known.lookup name with
      | none => none
      | some kind =>
        if (given.lookup name).isSome then none
        else
          match attached, arguments with
          | some value, arguments =>
            if suits kind value then readOptions known (given ++ [(name, value)]) arguments
            else none
          | none, next :: following =>
            if isValue next then
              if suits kind next then readOptions known (given ++ [(name, next)]) following
              else none
            else if kind = .switch then
              readOptions known (given ++ [(name, "true")]) (next :: following)
            else none
          | none, [] => if kind = .switch then some (given ++ [(name, "true")]) else none

/-- The switch of a name among option values. -/
def switch? (given : List (String × String)) (name : String) : Option Bool :=
  (given.lookup name).map fun value => value == "true"

/-- The path of a name among option values. -/
def path? (given : List (String × String)) (name : String) : Option Path :=
  (given.lookup name).map Path.mk

/-- The command that arguments ask for, if they can be understood. -/
def parse : List String → Option Command
  | "generate" :: arguments => do
    let given ← readOptions generateOptions [] arguments
    return .generate (← path? given "model") (path? given "output")
      { composableData := switch? given "composable-data"
        constrainedData := switch? given "constrained-data"
        jsonAwareData := switch? given "json-aware-data"
        onlyData := switch? given "only-data" }
  | "validate" :: arguments => do
    let given ← readOptions validateOptions [] arguments
    return .validate (← path? given "model")
  | "sample" :: arguments => do
    let given ← readOptions sampleOptions [] arguments
    return .sample (path? given "output")
  | _ => none

/-! ## Reports -/

/-- The result of a program: its exit code and what it prints. -/
structure Outcome where
  exitCode : UInt32
  output : String
  errors : String
  deriving DecidableEq, Repr

/-- How arguments are given. -/
def usage : String :=
  "usage: generate --model FILE [--output DIR] [--composable-data [true|false]]\n" ++
    "         [--constrained-data [true|false]] [--json-aware-data [true|false]]\n" ++
    "         [--only-data [true|false]]\n" ++
    "       validate --model FILE\n" ++
    "       sample [--output DIR]\n"

/-- A cause with its further lines indented as far as its first one. -/
def indented (first further cause : String) : String :=
  first ++ ("\n" ++ further).intercalate (Text.splitAt '\n' cause)

/-- The causes of an error, numbered if there are several. -/
def causeLines : List String → List String
  | [] => []
  | [cause] => [indented "    " "    " cause]
  | causes => causes.zipIdx.map fun (cause, number) =>
    indented ("    " ++ toString number ++ ": ") "       " cause

/-- The report of an error and its causes, the outermost first. -/
def errorReport (error : String) (causes : List String) : String :=
  "Error: " ++ error ++
    (if causes.isEmpty then "\n"
    else "\n\nCaused by:\n" ++ String.join ((causeLines causes).map fun line => line ++ "\n"))

/-- The outcome of an error. -/
def failed (error : String) (causes : List String) : Outcome :=
  ⟨1, "", errorReport error causes⟩

/-- The outcome of arguments that cannot be understood. -/
def misused : Outcome := ⟨2, "", usage⟩

/-- The wording of a text that is no model. -/
def malformedModel (fault : String) : String := "malformed entity model: " ++ fault

/-- The causes of a failed run, the outermost first. -/
def failureCauses (failure : Failure) : List String :=
  match failure with
  | .storage _ reason => [failure.message, reason]
  | _ => [failure.message]

/-- The outcome of a validation. -/
def validationOutcome (set : EntitySet) : Outcome :=
  match set.findings.map Finding.message with
  | [] => ⟨0, toString set.size ++ " entities, no defects\n", ""⟩
  | defects =>
    let report := String.join (defects.map fun defect => "  - " ++ defect ++ "\n")
    let error := "entity model has " ++ toString defects.length ++ " defect(s)"
    ⟨1, "", report ++ errorReport error []⟩

/-! ## Running -/

variable {m : Type → Type} [Monad m] {Temporary : Type}

/-- Loads the model at a path, or tells why that fails. -/
def loadModel (readText : Path → m (Except String String)) (path : Path) :
    m (Except Outcome EntitySet) := do
  match ← readText path with
  | .error reason => return .error (failed ("failed to read entity model " ++ path.text) [reason])
  | .ok text =>
    match EntitySet.ofJson text with
    | .ok set => return .ok set
    | .error fault =>
      let error := "failed to load entity model " ++ path.text
      return .error (failed error [malformedModel fault.describe, fault.describe])

/-- Generates the artifacts of a set. -/
def generate (storage : Storage m Temporary) (config : Config) (set : EntitySet) : m Outcome := do
  match ← storage.generateAll config.outputDirectory set config.options with
  | .ok _ => return ⟨0, "", ""⟩
  | .error failure => return failed "code generation failed" (failureCauses failure)

/-- Carries out a command. -/
def execute (storage : Storage m Temporary) (readText : Path → m (Except String String))
    (config : Config) : Command → m Outcome
  | .generate model output switches => do
    match ← loadModel readText model with
    | .error outcome => return outcome
    | .ok set =>
      let config :=
        { options := switches.apply config.options
          outputDirectory := output.getD config.outputDirectory }
      generate storage config set
  | .validate model => do
    match ← loadModel readText model with
    | .error outcome => return outcome
    | .ok set => return validationOutcome set
  | .sample output =>
    match Sample.model with
    | .error defect =>
      return failed "failed to build sample entity model" [defect.message]
    | .ok set =>
      generate storage { config with outputDirectory := output.getD config.outputDirectory } set

/-- Runs the program with an environment and arguments. -/
def run (storage : Storage m Temporary) (readText : Path → m (Except String String))
    (lookup : String → Option String) (arguments : List String) : m Outcome :=
  match parse arguments with
  | none => return misused
  | some command => execute storage readText (Config.ofEnvironment lookup) command

end PersistenceLayer.CommandLine
