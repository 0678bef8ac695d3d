import SchemaMocks.CommandLine.Basic
import SchemaMocks.Text.Numeral

set_option autoImplicit false
set_option relaxedAutoImplicit false

/-!
Reading the arguments of the program from left to right. The first mistake counts, unless help is
asked for before it. A value follows its option, after an equals sign or as the next argument, which
then must not look like an option; after two dashes nothing is an option.
-/

namespace SchemaMocks

inductive UsageError where
  | noCommand
  | unknownCommand (name : String)
  | unexpected (argument : String)
  | noValue (o : CommandOption)
  | badValue (o : CommandOption) (value : String)
  | badAssignment (fault : AssignmentFault)
  | repeated (o : CommandOption)
  | absent (o : CommandOption)
  | noFields
  deriving DecidableEq

def UsageError.message : UsageError → String
  | noCommand => "a command is required"
  | unknownCommand name => "unrecognized subcommand '" ++ name ++ "'"
  | unexpected argument => "unexpected argument '" ++ argument ++ "' found"
  | noValue o => "a value is required for '" ++ o.usage ++ "' but none was supplied"
  | badValue o value => "invalid value '" ++ value ++ "' for '" ++ o.usage ++ "'"
  | badAssignment fault =>
    "invalid value for '" ++ CommandOption.set.usage ++ "': " ++ fault.message
  | repeated o => "the argument '" ++ o.usage ++ "' cannot be used multiple times"
  | absent o => "the following required argument was not provided: " ++ o.usage
  | noFields => "the following required argument was not provided: <FIELDS>..."

inductive Invocation where
  | run (command : Command)
  | help (verb : Option Verb)
  | version

/-- The values of options and the names of fields that were met so far. -/
structure Arguments where
  input : Option Path
  output : Option Path
  model : Option String
  count : Option Nat
  seed : Option UInt64
  settings : Option Path
  assignments : List Assignment
  log : Option Path
  fields : List String

namespace Arguments

def none : Arguments :=
  ⟨.none, .none, .none, .none, .none, .none, [], .none, []⟩

/-- The value of an option that is given once, read by `read?`. -/
def once {α : Type} (o : CommandOption) (known : Option α) (read? : String → Option α)
    (value : String) : Except UsageError (Option α) :=
  match known, read? value with
  | some _, _ => .error (.repeated o)
  | .none, some x => .ok (some x)
  | .none, .none => .error (.badValue o value)

/-- The path that a text is; it must not be empty. -/
def path? (value : String) : Option Path :=
  if value.isEmpty then .none else some ⟨value⟩

def take (args : Arguments) (o : CommandOption) (value : String) : Except UsageError Arguments :=
  match o with
  | .dmmf => (once o args.input path? value).map fun x => { args with input := x }
  | .out => (once o args.output path? value).map fun x => { args with output := x }
  | .model => (once o args.model some value).map fun x => { args with model := x }
  | .count =>
    (once o args.count (fun s => (Text.word64? s).map UInt64.toNat) value).map fun x =>
      { args with count := x }
  | .seed => (once o args.seed Text.word64? value).map fun x => { args with seed := x }
  | .config => (once o args.settings path? value).map fun x => { args with settings := x }
  | .logFile => (once o args.log path? value).map fun x => { args with log := x }
  | .set =>
    match Assignment.ofText value with
    | .ok a => .ok { args with assignments := args.assignments ++ [a] }
    | .error fault => .error (.badAssignment fault)

def takeField (args : Arguments) (verb : Verb) (argument : String) : Except UsageError Arguments :=
  if verb.takesFields then .ok { args with fields := args.fields ++ [argument] }
  else .error (.unexpected argument)

def looksLikeOption (argument : String) : Bool :=
  Text.startsWith argument "-" && argument != "-"

/-- The name of a long option, and its value where one is attached. -/
def longOption? (argument : String) : Option (String × Option String) :=
  match argument.toList with
  | '-' :: '-' :: rest =>
    match Text.cut? '=' rest with
    | .none => some (String.ofList rest, .none)
    | some (name, value) => some (String.ofList name, some (String.ofList value))
  | _ => .none

/-- Reads the arguments of a command; none where help is asked for. -/
def read (verb : Verb) : List String → Arguments → Except UsageError (Option Arguments)
  | [], args => .ok (some args)
  | argument :: rest, args =>
    if argument = "--" then do
      let args ← rest.foldlM (fun args field => args.takeField verb field) args
      return some args
    else match longOption? argument with
      | some (name, attached) =>
        if name = "help" ∧ attached = .none then .ok .none
        else match verb.option? name, attached, rest with
          | .none, _, _ => .error (.unexpected argument)
          | some o, some value, rest => do
            let args ← args.take o value
            read verb rest args
          | some o, .none, value :: rest =>
            if looksLikeOption value then .error (.noValue o)
            else do
              let args ← args.take o value
              read verb rest args
          | some o, .none, [] => .error (.noValue o)
      | .none =>
        if Text.startsWith argument "-h" then .ok .none
        else if looksLikeOption argument then .error (.unexpected argument)
        else do
          let args ← args.takeField verb argument
          read verb rest args

def needed {α : Type} (o : CommandOption) : Option α → Except UsageError α
  | some x => .ok x
  | .none => .error (.absent o)

def source (args : Arguments) : Except UsageError CommandSource :=
  (needed .dmmf args.input).map fun input => ⟨input, args.settings, args.assignments⟩

def command (args : Arguments) : Verb → Except UsageError Command
  | .generate => args.source.map fun source => .generate source args.output
  | .sample => do
    let source ← args.source
    let model ← needed .model args.model
    return .sample source model (args.count.getD 1) args.seed
  | .analyze => if args.fields.isEmpty then .error .noFields else .ok (.analyze args.fields)
  | .configSchema => .ok .configSchema
  | .prisma => .ok (.serve args.log)

end Arguments

namespace Invocation

def ofVerb (verb : Verb) (rest : List String) : Except UsageError Invocation := do
  match ← Arguments.read verb rest Arguments.none with
  | none => return help (some verb)
  | some args => return run (← args.command verb)

/-- What is asked for after the word for help: a command, or the program. -/
def ofHelp : List String → Except UsageError Invocation
  | [] => .ok (help none)
  | ["help"] => .ok (help none)
  | [name] =>
    match Verb.ofName? name with
    | some verb => .ok (help (some verb))
    | none => .error (.unknownCommand name)
  | name :: other :: _ =>
    if name = "help" ∨ (Verb.ofName? name).isSome then .error (.unknownCommand other)
    else .error (.unknownCommand name)

def ofArguments : List String → Except UsageError Invocation
  | [] => .error .noCommand
  | argument :: rest =>
    if argument = "--help" ∨ Text.startsWith argument "-h" then .ok (help none)
    else if argument = "--version" ∨ Text.startsWith argument "-V" then .ok version
    else if Arguments.looksLikeOption argument then .error (.unexpected argument)
    else if argument = "help" then ofHelp rest
    else match Verb.ofName? argument with
      | some verb => ofVerb verb rest
      | none => .error (.unknownCommand argument)

end Invocation

end SchemaMocks
