import AdmissionRules.CommandLine.Options

set_option autoImplicit false

/-! # Arguments

Options are given as arguments: the name behind two dashes, and the value behind an equals sign
or as the next argument, which then must not look like an option. What no argument gives is taken
from the environment, and what that does not give has its default. The value of a next argument
is only looked at when the option after it begins, so that an argument that is no option at all
is reported before it. -/

namespace AdmissionRules

/-! ## Outcomes -/

/-- Why the arguments give no options. -/
inductive ArgumentStop where
  | value (key : OptionKey) (problem : ValueProblem)
  | missingValue (key : OptionKey)
  | unknown (argument : String)
  | repeated (key : OptionKey)
  /-- A value for an argument that takes none. -/
  | unexpectedValue (argument : String)
  | help
  | version
deriving DecidableEq

/-- The name and the version of the program. -/
def versionText : String := "generic-validator 0.1.0\n"

/-! ## Reading arguments -/

/-- The options so far, the keys given so far, and an option whose value is still to come or to
    be looked at. -/
structure ArgumentState where
  options : Options
  given : List OptionKey
  pending : Option (OptionKey × Option String)

namespace ArgumentState

def start : ArgumentState := { options := .default, given := [], pending := none }

/-- Takes the value of an option, which must not have been given before. -/
def assign (state : ArgumentState) (key : OptionKey) (value : String) :
    Except ArgumentStop ArgumentState :=
  if key ∈ state.given then .error (.repeated key)
  else
    match state.options.take key value with
    | .ok options => .ok { state with options, given := key :: state.given }
    | .error problem => .error (.value key problem)

/-- Looks at the option that is pending. -/
def settle (state : ArgumentState) : Except ArgumentStop ArgumentState :=
  match state.pending with
  | none => .ok state
  | some (key, none) => .error (.missingValue key)
  | some (key, some value) => { state with pending := none }.assign key value

/-- The name and the value of an argument behind its dashes. -/
def splitValue (cs : List Char) : String × Option String :=
  let name := String.ofList (cs.takeWhile (· ≠ '='))
  match cs.dropWhile (· ≠ '=') with
  | _ :: value => (name, some (String.ofList value))
  | [] => (name, none)

/-- An argument that asks for something and stops the reading. -/
def stopWith (state : ArgumentState) (stop : ArgumentStop) : Except ArgumentStop ArgumentState := do
  let _ ← state.settle
  .error stop

/-- An argument that begins with two dashes. -/
def long (state : ArgumentState) (argument : String) (cs : List Char) :
    Except ArgumentStop ArgumentState :=
  match splitValue cs with
  | ("help", none) => state.stopWith .help
  | ("version", none) => state.stopWith .version
  | (name, value) =>
    if name = "help" ∨ name = "version" then .error (.unexpectedValue argument)
    else
      match OptionKey.ofName? name, value with
      | none, _ => .error (.unknown argument)
      | some key, some value => do (← state.settle).assign key value
      | some key, none => do .ok { (← state.settle) with pending := some (key, none) }

/-- An argument that begins with one dash and a letter. -/
def short (state : ArgumentState) (argument : String) (letter : Char) :
    Except ArgumentStop ArgumentState :=
  if letter = 'h' then state.stopWith .help
  else if letter = 'V' then state.stopWith .version
  else .error (.unknown argument)

/-- An argument that does not look like an option: the value of the option before it. -/
def plain (state : ArgumentState) (argument : String) : Except ArgumentStop ArgumentState :=
  match state.pending with
  | some (key, none) => .ok { state with pending := some (key, some argument) }
  | _ => .error (.unknown argument)

def step (state : ArgumentState) (argument : String) : Except ArgumentStop ArgumentState :=
  match argument.toList with
  | '-' :: '-' :: cs => state.long argument cs
  | '-' :: letter :: _ => state.short argument letter
  | _ => state.plain argument

/-- Reads arguments up to the end, or up to two dashes, which nothing may follow. -/
def readAll (state : ArgumentState) : List String → Except ArgumentStop ArgumentState
  | [] => state.settle
  | argument :: rest =>
    if argument = "--" then
      match rest with
      | [] => state.settle
      | next :: _ => .error (.unknown next)
    else do readAll (← state.step argument) rest

/-- Takes from the environment what no argument has given. -/
def readVariables (state : ArgumentState) (lookup? : String → Option String) :
    List OptionKey → Except ArgumentStop ArgumentState
  | [] => .ok state
  | key :: rest => do
    let next ←
      if key ∈ state.given then .ok state
      else
        match lookup? key.variableName with
        | some value => state.assign key value
        | none => .ok state
    readVariables next lookup? rest

end ArgumentState

/-- The options that arguments and the environment give. -/
def Options.parse (arguments : List String) (lookup? : String → Option String) :
    Except ArgumentStop Options := do
  let state ← ArgumentState.start.readAll arguments
  let state ← state.readVariables lookup? OptionKey.all
  .ok state.options

end AdmissionRules
