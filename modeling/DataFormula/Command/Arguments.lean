import DataFormula.Command.Render

/-!
# Command line arguments

The arguments name a subcommand, its switches and its source, in that order for
the subcommand and in any order for the rest. `--` ends the switches. Switches of
one letter may be joined, no switch may be repeated, and there is at most one
source.
-/

namespace DataFormula.Command

/-- What is asked for. -/
inductive Action where
  /-- Print the formula of a source. -/
  | parse (format : OutputFormat)
  /-- List the tokens of a source. -/
  | tokens
  /-- Say whether a source is a formula. -/
  | check
deriving DecidableEq

/-- A meaning of the command line. -/
inductive Invocation where
  /-- Print the version. -/
  | version
  /-- Do something with a source, or with the standard input if there is none. -/
  | run (action : Action) (source : Option String)
deriving DecidableEq

/-- The first word of the command line. -/
inductive Subcommand where
  | parse
  | tokens
  | check
deriving DecidableEq

/-- The subcommand of a given name. -/
def Subcommand.ofName? (name : String) : Option Subcommand :=
  if name = "parse" then some .parse
  else if name = "tokens" then some .tokens
  else if name = "check" then some .check
  else none

/-- What is known from the arguments behind a subcommand. -/
structure Operands where
  /-- Whether JSON is asked for. -/
  json : Bool
  /-- Whether indentation is asked for. -/
  pretty : Bool
  /-- The source. -/
  source : Option String
deriving DecidableEq

namespace Operands

/-- Nothing is known yet. -/
def empty : Operands := ⟨false, false, none⟩

/-- Notes the source, of which there may be only one. -/
def setSource? (operands : Operands) (source : String) : Option Operands :=
  if operands.source.isNone then some { operands with source := some source } else none

/-- Notes that JSON is asked for, which may be said only once. -/
def setJson? (operands : Operands) : Option Operands :=
  if operands.json then none else some { operands with json := true }

/-- Notes that indentation is asked for, which may be said only once. -/
def setPretty? (operands : Operands) : Option Operands :=
  if operands.pretty then none else some { operands with pretty := true }

/-- Notes a switch by its long name. Only `parse` has switches. -/
def setLong? (subcommand : Subcommand) (name : String) (operands : Operands) : Option Operands :=
  if subcommand ≠ .parse then none
  else if name = "json" then operands.setJson?
  else if name = "pretty" then operands.setPretty?
  else none

/-- Notes a switch by its letter. Only `parse` has switches. -/
def setShort? (subcommand : Subcommand) (letter : Char) (operands : Operands) : Option Operands :=
  if subcommand ≠ .parse then none
  else if letter = 'j' then operands.setJson?
  else if letter = 'p' then operands.setPretty?
  else none

/-- Notes one argument before `--`. -/
def addArgument? (subcommand : Subcommand) (operands : Operands) (argument : String) :
    Option Operands :=
  match argument.toList with
  | '-' :: '-' :: name => operands.setLong? subcommand (String.ofList name)
  | '-' :: letter :: letters =>
    (letter :: letters).foldlM (fun operands c => operands.setShort? subcommand c) operands
  | _ => operands.setSource? argument

/-- Notes all arguments behind a subcommand. -/
def addArguments? (subcommand : Subcommand) (operands : Operands) :
    List String → Option Operands
  | [] => some operands
  | argument :: arguments =>
    if argument = "--" then arguments.foldlM setSource? operands
    else (operands.addArgument? subcommand argument).bind fun operands =>
      operands.addArguments? subcommand arguments

/-- The action that a subcommand and its switches ask for. Indentation may be
asked for only with JSON. -/
def action? (operands : Operands) : Subcommand → Option Action
  | .tokens => some .tokens
  | .check => some .check
  | .parse =>
    match operands.json, operands.pretty with
    | true, true => some (.parse .prettyJson)
    | true, false => some (.parse .json)
    | false, false => some (.parse .standard)
    | false, true => none

end Operands

/-- What the arguments behind a subcommand ask for, unless they are in error. -/
def Subcommand.invocation? (subcommand : Subcommand) (arguments : List String) :
    Option Invocation := do
  let operands ← Operands.empty.addArguments? subcommand arguments
  let action ← operands.action? subcommand
  return .run action operands.source

/-- What a command line asks for, unless it is in error. The switch for the
version is obeyed at once, whatever follows it. -/
def Invocation.ofArguments? : List String → Option Invocation
  | [] => none
  | first :: arguments =>
    if first = "--version" then some .version
    else if first.toList.take 2 = ['-', 'V'] then some .version
    else (Subcommand.ofName? first).bind fun subcommand => subcommand.invocation? arguments

end DataFormula.Command
