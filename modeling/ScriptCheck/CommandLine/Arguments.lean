/-! # Command Line Arguments

  The command line names one input and can set three options:

  * `-m`, `--mode`: what is analyzed;
  * `-c`, `--config`: the settings file;
  * `--log-level`: how much is logged.

  Arguments are read from left to right. An option that has no value attached
  takes the next argument, unless that looks like an option itself. What an
  option was given is examined only when the next option or the input comes, or
  at the end. So an argument that is unknown is reported in place of a bad value
  right before it.
-/

namespace ScriptCheck.CommandLine

/-! ## Section 1: Requests and refusals -/

inductive Mode where
  /-- Tokens and counts. -/
  | lexical
  /-- The syntax check. -/
  | check
  /-- Both. -/
  | full
  deriving DecidableEq, Repr, Inhabited

namespace Mode

def all : List Mode := [.lexical, .check, .full]

def name : Mode → String
  | .lexical => "lexical"
  | .check => "syntax"
  | .full => "full"

def ofName? (text : String) : Option Mode := all.find? fun mode => mode.name == text

end Mode

structure Request where
  /-- Path of the source file. -/
  input : String
  mode : Mode := .full
  /-- Path of the settings file, if one is named. -/
  config : Option String := none
  logLevel : String := "warn"
  deriving DecidableEq, Repr

/-- Why a command line asks for no analysis. -/
inductive Refusal where
  /-- No input is named. -/
  | missingInput
  /-- An option has no value, or none that it can have. -/
  | invalidValue
  /-- An option does not exist, or there is a second input. -/
  | unknownArgument
  /-- An option is given twice. -/
  | repeated
  /-- A value is attached to an option that takes none. -/
  | unneededValue
  /-- Help is asked for. -/
  | help
  /-- The version is asked for. -/
  | version
  deriving DecidableEq, Repr

/-! ## Section 2: Options -/

inductive ValueOption where
  | mode
  | config
  | logLevel
  deriving DecidableEq, Repr

/-- What the name of an option stands for. -/
inductive Switch where
  | value (option : ValueOption)
  | help
  | version
  deriving DecidableEq, Repr

namespace Switch

def ofLongName? : String → Option Switch
  | "mode" => some (.value .mode)
  | "config" => some (.value .config)
  | "log-level" => some (.value .logLevel)
  | "help" => some .help
  | "version" => some .version
  | _ => none

def ofShortName? : Char → Option Switch
  | 'm' => some (.value .mode)
  | 'c' => some (.value .config)
  | 'h' => some .help
  | 'V' => some .version
  | _ => none

end Switch

/-- What an argument looks like, by its first characters. -/
inductive Shape where
  /-- Two hyphens alone: only inputs follow. -/
  | separator
  /-- Two hyphens and a name, perhaps with a value after an equals sign. -/
  | long (name : String) (attached : Option String)
  /-- One hyphen and a letter, perhaps with a value after it. -/
  | short (letter : Char) (attached : Option String)
  /-- Anything else, a single hyphen included. -/
  | plain
  deriving DecidableEq, Repr

def Shape.of (argument : String) : Shape :=
  match argument.toList with
  | ['-', '-'] => .separator
  | '-' :: '-' :: rest =>
    let name := String.ofList (rest.takeWhile (· != '='))
    match rest.dropWhile (· != '=') with
    | [] => .long name none
    | _ :: value => .long name (some (String.ofList value))
  | ['-'] => .plain
  | '-' :: letter :: rest =>
    match rest with
    | [] => .short letter none
    | '=' :: value => .short letter (some (String.ofList value))
    | value => .short letter (some (String.ofList value))
  | _ => .plain

/-! ## Section 3: Reading -/

/-- An option whose value has not been examined. -/
inductive Pending where
  /-- The value is still to come. -/
  | waiting (option : ValueOption)
  | given (option : ValueOption) (value : String)
  deriving DecidableEq, Repr

/-- The command line as far as it has been read. -/
structure Progress where
  input : Option String := none
  mode : Option Mode := none
  config : Option String := none
  logLevel : Option String := none
  pending : Option Pending := none
  /-- The separator has been met. -/
  onlyInputs : Bool := false

namespace Progress

/-- Take the value of an option. An option given twice is refused before its value is looked at. -/
def take (p : Progress) (option : ValueOption) (value : String) : Except Refusal Progress :=
  match option with
  | .mode =>
    if p.mode.isSome then .error .repeated
    else match Mode.ofName? value with
      | some mode => .ok { p with mode := some mode }
      | none => .error .invalidValue
  | .config =>
    if p.config.isSome then .error .repeated else .ok { p with config := some value }
  | .logLevel =>
    if p.logLevel.isSome then .error .repeated else .ok { p with logLevel := some value }

def settle (p : Progress) : Except Refusal Progress :=
  match p.pending with
  | none => .ok p
  | some (.waiting _) => .error .invalidValue
  | some (.given option value) => { p with pending := none }.take option value

def takeInput (p : Progress) (argument : String) : Except Refusal Progress :=
  if p.input.isSome then .error .unknownArgument
  else do
    let p ← p.settle
    return { p with input := some argument }

/-- Take an option by its name, with the value attached to it, if there is one. -/
def takeSwitch (p : Progress) (switch : Option Switch) (attached : Option String) :
    Except Refusal Progress :=
  match switch, attached with
  | none, _ => .error .unknownArgument
  | some (.value option), some value => do (← p.settle).take option value
  | some (.value option), none => do
    let p ← p.settle
    return { p with pending := some (.waiting option) }
  | some .help, _ => do
    let _ ← p.settle
    .error .help
  | some .version, _ => do
    let _ ← p.settle
    .error .version

/-- An option that takes no value has one attached to its long name. -/
def isUnneeded (switch : Option Switch) (attached : Option String) : Bool :=
  match switch, attached with
  | some .help, some _ => true
  | some .version, some _ => true
  | _, _ => false

def read (p : Progress) (argument : String) : Except Refusal Progress :=
  if p.onlyInputs then p.takeInput argument
  else match Shape.of argument with
    | .separator => .ok { p with onlyInputs := true }
    | .long name attached =>
      let switch := Switch.ofLongName? name
      if isUnneeded switch attached then .error .unneededValue else p.takeSwitch switch attached
    | .short letter attached => p.takeSwitch (Switch.ofShortName? letter) attached
    | .plain =>
      match p.pending with
      | some (.waiting option) => .ok { p with pending := some (.given option argument) }
      | _ => p.takeInput argument

/-- The request that the arguments make, when all have been read. -/
def finish (p : Progress) : Except Refusal Request := do
  let p ← p.settle
  match p.input with
  | none => .error .missingInput
  | some input =>
    let base : Request := { input }
    return { base with
      mode := p.mode.getD base.mode
      config := p.config
      logLevel := p.logLevel.getD base.logLevel }

end Progress

/-- The request that the arguments after the name of the program make. -/
def parseArguments (arguments : List String) : Except Refusal Request := do
  (← arguments.foldlM Progress.read {}).finish

end ScriptCheck.CommandLine
