import DataFormula.Command.Arguments
import DataFormula.Command.Check

/-!
# Running a command line

A command line and the bytes of the standard input determine everything that is
printed and the exit code: `0` for an answer, `1` for a failure, `2` for a command
line in error.
-/

namespace DataFormula.Command

/-- What a run leaves behind. -/
structure Exit where
  /-- The exit code. -/
  code : Nat
  /-- What is written to the standard output. -/
  stdout : String
  /-- What is written to the standard error output. -/
  stderr : String
deriving DecidableEq

/-- The name and version that are printed on request. -/
def versionText : String := "heluna 0.2.0"

/-- What is said about a command line in error. -/
def usageText : String :=
  "usage: heluna parse [-j|--json [-p|--pretty]] [SOURCE]\n" ++
  "       heluna tokens [SOURCE]\n" ++
  "       heluna check [SOURCE]\n" ++
  "       heluna -V|--version"

/-- Bytes as text, if they are valid UTF-8. -/
def decodeInput (bytes : ByteArray) : Except Failure String :=
  match String.fromUTF8? bytes with
  | some text => .ok text
  | none => .error (.unreadable "stream did not contain valid UTF-8")

/-- The source of a command: the argument if there is one, or the standard input. -/
def sourceOf (argument : Option String) (stdin : ByteArray) : Except Failure String :=
  match argument with
  | some source => .ok source
  | none => decodeInput stdin

/-- What an action prints about a source. -/
def Action.answer (action : Action) (source : String) : Except Failure String :=
  match action with
  | .parse format => (Command.check (some source)).map fun verdict => renderExpr verdict.expr format
  | .tokens => ((tokenize source).mapError .syntaxError).map renderTokens
  | .check => (Command.check (some source)).map Verdict.text

/-- The exit with an answer or a failure, each ended by a line feed. -/
def Exit.of : Except Failure String → Exit
  | .ok answer => ⟨0, answer ++ "\n", ""⟩
  | .error failure => ⟨1, "", failure.text ++ "\n"⟩

/-- The exit of an invocation, given the bytes of the standard input. -/
def Invocation.exit (stdin : ByteArray) : Invocation → Exit
  | .version => .of (.ok versionText)
  | .run action argument => .of ((sourceOf argument stdin).bind action.answer)

/-- Runs a command line on the bytes of the standard input. -/
def run (arguments : List String) (stdin : ByteArray) : Exit :=
  match Invocation.ofArguments? arguments with
  | some invocation => invocation.exit stdin
  | none => ⟨2, "", usageText ++ "\n"⟩

/-- Whether a command line makes use of the standard input. -/
def readsInput (arguments : List String) : Bool :=
  match Invocation.ofArguments? arguments with
  | some (.run _ none) => true
  | _ => false

/-- A command line that makes no use of the standard input runs the same whatever
that holds. -/
theorem run_eq_of_readsInput_eq_false {arguments : List String}
    (independent : readsInput arguments = false) (first second : ByteArray) :
    run arguments first = run arguments second := by
  unfold readsInput at independent
  unfold run
  cases meaning : Invocation.ofArguments? arguments with
  | none => rfl
  | some invocation =>
    cases invocation with
    | version => rfl
    | run action argument =>
      cases argument with
      | none => simp [meaning] at independent
      | some source => rfl

end DataFormula.Command
