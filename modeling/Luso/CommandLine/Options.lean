/-!
# Options

The arguments are read from the left.  Whatever cannot be accepted ends the reading, and so does a
request for the version or for help, wherever it is met.
-/

namespace Luso
namespace CommandLine

/-- What a run is asked to do. -/
structure Options where
  /-- The source file. -/
  input : String
  /-- The directory for the generated file, if not that of the source file. -/
  outDir? : Option String
  /-- Stop after the analysis. -/
  check : Bool
  /-- List the tokens and do nothing else. -/
  tokens : Bool
deriving DecidableEq

/-- What the arguments ask for. -/
inductive Request where
  /-- A run. -/
  | run (options : Options)
  /-- The version. -/
  | version
  /-- A summary of the options. -/
  | help
  /-- The arguments cannot be accepted. -/
  | misuse
deriving DecidableEq

/-- What the next argument may be. -/
inductive Mode where
  /-- An option or the source file. -/
  | free
  /-- The directory for the generated file. -/
  | directory
  /-- Only the source file. -/
  | operands
deriving DecidableEq

/-- What was read so far. -/
structure Draft where
  /-- What the next argument may be. -/
  mode : Mode
  /-- The source file. -/
  input? : Option String
  /-- The directory for the generated file. -/
  outDir? : Option String
  /-- Stop after the analysis. -/
  check : Bool
  /-- List the tokens and do nothing else. -/
  tokens : Bool
deriving DecidableEq

namespace Draft

/-- Before the first argument. -/
def initial : Draft :=
  { mode := .free, input? := none, outDir? := none, check := false, tokens := false }

/-- Take the source file. -/
def withInput (draft : Draft) (value : String) : Except Request Draft :=
  if value = "" ∨ draft.input?.isSome then .error .misuse
  else .ok { draft with input? := some value }

/-- Take the directory for the generated file. -/
def withOutDir (draft : Draft) (value : String) : Except Request Draft :=
  if value = "" ∨ draft.outDir?.isSome then .error .misuse
  else .ok { draft with mode := .free, outDir? := some value }

/-- Let the next argument be the directory for the generated file. -/
def awaitOutDir (draft : Draft) : Except Request Draft :=
  .ok { draft with mode := .directory }

/-- Take the option to stop after the analysis. -/
def withCheck (draft : Draft) : Except Request Draft :=
  if draft.check then .error .misuse else .ok { draft with check := true }

/-- Take the option to list the tokens. -/
def withTokens (draft : Draft) : Except Request Draft :=
  if draft.tokens then .error .misuse else .ok { draft with tokens := true }

/-- Take the letters of an argument with one dash.  The letter of an option with a value takes the
rest of the argument, or the next argument if nothing is left. -/
def withLetters (draft : Draft) : List Char → Except Request Draft
  | [] => .ok draft
  | 'v' :: rest => draft.withLetters rest
  | 'V' :: _ => .error .version
  | 'h' :: _ => .error .help
  | ['o'] => draft.awaitOutDir
  | 'o' :: '=' :: value => draft.withOutDir (String.ofList value)
  | 'o' :: value => draft.withOutDir (String.ofList value)
  | _ => .error .misuse

/-- Take an option named in full, with its value if one is attached. -/
def withName (draft : Draft) (name : String) (value? : Option String) : Except Request Draft :=
  match name, value? with
  | "out-dir", some value => draft.withOutDir value
  | "out-dir", none => draft.awaitOutDir
  | "check", none => draft.withCheck
  | "tokens", none => draft.withTokens
  | "verbose", none => .ok draft
  | "version", none => .error .version
  | "help", none => .error .help
  | _, _ => .error .misuse

/-- The name and the attached value of an option named in full. -/
def splitName (text : List Char) : String × Option String :=
  let name := String.ofList (text.takeWhile (· != '='))
  match text.dropWhile (· != '=') with
  | [] => (name, none)
  | _ :: value => (name, some (String.ofList value))

/-- Take one more argument. -/
def step (draft : Draft) (argument : String) : Except Request Draft :=
  match draft.mode, argument.toList with
  | .operands, _ => draft.withInput argument
  | .directory, '-' :: _ :: _ => .error .misuse
  | .directory, _ => draft.withOutDir argument
  | .free, ['-', '-'] => .ok { draft with mode := .operands }
  | .free, '-' :: '-' :: text =>
      let (name, value?) := splitName text
      draft.withName name value?
  | .free, '-' :: letter :: letters => draft.withLetters (letter :: letters)
  | .free, _ => draft.withInput argument

/-- What is asked for when no argument is left. -/
def finish (draft : Draft) : Request :=
  match draft.mode, draft.input? with
  | .directory, _ | _, none => .misuse
  | _, some input =>
      .run { input, outDir? := draft.outDir?, check := draft.check, tokens := draft.tokens }

/-- Take all remaining arguments. -/
def steps (draft : Draft) : List String → Request
  | [] => draft.finish
  | argument :: rest =>
      match draft.step argument with
      | .error request => request
      | .ok next => next.steps rest

end Draft

/-- What a list of arguments asks for. -/
def Request.ofArguments (arguments : List String) : Request :=
  Draft.initial.steps arguments

end CommandLine
end Luso
