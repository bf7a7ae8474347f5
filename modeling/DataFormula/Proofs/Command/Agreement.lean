import DataFormula.Command.Run
import DataFormula.Proofs.Command.Verdict

/-!
# The commands agree

A command answers to a source, be it the argument behind `--` or the whole of the standard
input (`Command.run_argument`, `Command.run_input`). What it answers is told by three kinds
of sources: those without tokens, those whose tokens start with no formula, and those whose
tokens start with one (`Command.answer_cases`). Across the commands this tells which of them
succeed together, and that they fail alike (`Command.commands_agree`).
-/

namespace DataFormula.Command

/-! ## The two ways to give a source -/

/-- A command line asks for an action on the standard input, and does not end its switches. -/
structure Asks (words : List String) (action : Action) : Prop where
  unended : "--" ∉ words
  meaning : Invocation.ofArguments? words = some (.run action none)

/-- The words that ask for an action, with switches by their long names. -/
def Action.words : Action → List String
  | parse .tree => ["parse"]
  | parse .json => ["parse", "--json"]
  | parse .prettyJson => ["parse", "--json", "--pretty"]
  | tokens => ["tokens"]
  | check => ["check"]

theorem Action.asks_words (action : Action) : Asks action.words action := by
  cases action with
  | parse format => cases format <;> exact ⟨by decide, by decide⟩
  | _ => exact ⟨by decide, by decide⟩

section Source

variable {words : List String} {action : Action} {subcommand : Subcommand} {source : String}

/-- Behind `--` stands a source, whatever it looks like. -/
theorem Operands.addArguments?_append (operands : Operands) (unended : "--" ∉ words) :
    operands.addArguments? subcommand (words ++ ["--", source]) =
      (operands.addArguments? subcommand words).bind (·.setSource? source) := by
  induction words generalizing operands with
  | nil => cases operands.source <;> simp [addArguments?, setSource?]
  | cons word words ih =>
      rw [List.mem_cons, not_or] at unended
      have other : word ≠ "--" := Ne.symm unended.1
      rw [List.cons_append, addArguments?, addArguments?, if_neg other, if_neg other,
        Option.bind_assoc]
      congr 1
      funext operands
      exact ih operands unended.2

/-- The source does not decide what is asked for. -/
theorem Operands.action?_withSource (operands : Operands) (source : Option String)
    (subcommand : Subcommand) :
    action? { operands with source := source } subcommand = operands.action? subcommand := by
  cases subcommand <;> rfl

theorem Subcommand.invocation?_append (unended : "--" ∉ words)
    (asked : subcommand.invocation? words = some (.run action none)) :
    subcommand.invocation? (words ++ ["--", source]) = some (.run action (some source)) := by
  simp only [invocation?, Option.bind_eq_bind, Option.pure_def, Option.bind_eq_some_iff,
    Option.some.injEq, Invocation.run.injEq] at asked
  obtain ⟨operands, added, _, means, rfl, sourceless⟩ := asked
  have noted : operands.setSource? source = some { operands with source := some source } := by
    rw [Operands.setSource?, sourceless]
    rfl
  simp only [invocation?, Option.bind_eq_bind, Option.pure_def,
    Operands.addArguments?_append _ unended, added, Option.bind_some, noted,
    Operands.action?_withSource, means]

/-- A source behind `--` is the source of the command. -/
theorem Invocation.ofArguments?_append (asks : Asks words action) :
    ofArguments? (words ++ ["--", source]) = some (.run action (some source)) := by
  obtain ⟨unended, meaning⟩ := asks
  cases words with
  | nil => cases meaning
  | cons first words =>
      simp only [List.cons_append, ofArguments?] at meaning ⊢
      split at meaning
      · cases meaning
      split at meaning
      · cases meaning
      rename_i noVersion noLetter
      rw [if_neg noVersion, if_neg noLetter]
      obtain ⟨subcommand, named, asked⟩ := Option.bind_eq_some_iff.mp meaning
      rw [named, Option.bind_some]
      apply Subcommand.invocation?_append _ asked
      exact fun member => unended (List.mem_cons_of_mem _ member)

/-- A command answers to its argument, whatever the standard input holds. -/
theorem run_argument (asks : Asks words action) (source : String) (stdin : ByteArray) :
    run (words ++ ["--", source]) stdin = .of (action.answer source) := by
  rw [run, Invocation.ofArguments?_append asks]
  rfl

theorem decodeInput_toUTF8 (source : String) : decodeInput source.toUTF8 = .ok source := by
  have decoded : String.fromUTF8? source.toUTF8 = some source := dif_pos source.isValidUTF8
  rw [decodeInput, decoded]

/-- Bytes are read as a text only if they encode one. -/
theorem decodeInput_of_no_text {bytes : ByteArray} (noText : ∀ text : String, text.toUTF8 ≠ bytes) :
    decodeInput bytes = .error (.unreadable "stream did not contain valid UTF-8") := by
  have invalid : ¬ bytes.IsValidUTF8 := fun valid => noText (.fromUTF8 bytes valid) rfl
  have undecoded : String.fromUTF8? bytes = none := dif_neg invalid
  rw [decodeInput, undecoded]

/-- A command answers to the text that the standard input encodes. -/
theorem run_input (asks : Asks words action) (source : String) :
    run words source.toUTF8 = .of (action.answer source) := by
  simp only [run, asks.meaning, Invocation.exit, sourceOf, decodeInput_toUTF8]
  rfl

theorem run_no_text (asks : Asks words action) {bytes : ByteArray}
    (noText : ∀ text : String, text.toUTF8 ≠ bytes) :
    run words bytes = ⟨1, "", "IO error: stream did not contain valid UTF-8\n"⟩ := by
  simp only [run, asks.meaning, Invocation.exit, sourceOf, decodeInput_of_no_text noText]
  rfl

end Source

/-! ## What the commands answer to one source -/

variable {source : String}

/-- A source has no tokens, or its tokens start with no formula, or with one. The commands
answer accordingly. -/
theorem answer_cases (source : String) :
    (∃ error, tokenize source = .error error ∧
      ∀ action : Action, action.answer source = .error (.syntaxError error)) ∨
    (∃ tokens error, tokenize source = .ok tokens ∧
      Action.tokens.answer source = .ok (renderTokens tokens) ∧
      Action.check.answer source = .error (.syntaxError error) ∧
      ∀ format, (Action.parse format).answer source = .error (.syntaxError error)) ∨
    ∃ expr rest, Expr.ofSource source = .ok expr ∧ tokenize source = .ok (expr.tokens ++ rest) ∧
      Action.tokens.answer source = .ok (renderTokens (expr.tokens ++ rest)) ∧
      Action.check.answer source = .ok (Verdict.of expr rest).text ∧
      ∀ format, (Action.parse format).answer source = .ok (renderExpr expr format) := by
  cases given : tokenize source with
  | error error =>
      have failed := (check_of_lexical given).1
      refine .inl ⟨error, rfl, fun action => ?_⟩
      cases action with
      | tokens =>
          rw [Action.answer, given]
          rfl
      | _ => simp only [Action.answer, failed, Except.map]
  | ok tokens =>
      have listed : Action.tokens.answer source = .ok (renderTokens tokens) := by
        rw [Action.answer, given]
        rfl
      rcases check_cases source with ⟨error, failed, -⟩ | ⟨others, expr, rest, same, found⟩
      · refine .inr (.inl ⟨tokens, error, rfl, listed, ?_, fun format => ?_⟩) <;>
          simp only [Action.answer, failed, Except.map]
      · rw [given] at same
        cases same
        obtain ⟨checked, parsed⟩ := check_of_found given found
        obtain rfl := (Grammar.expression_eq_found_iff.mp found).2.2.1
        refine .inr (.inr ⟨expr, rest, parsed, rfl, listed, ?_, fun format => ?_⟩)
        · simp only [Action.answer, checked, Except.map]
        · simp only [Action.answer, checked, Except.map, Verdict.expr_of]

/-- An answer goes to the standard output and a failure to the standard error output. -/
theorem Exit.code_of (result : Except Failure String) :
    ((Exit.of result).code = 0 ∧ (Exit.of result).stderr = "") ∨
      ((Exit.of result).code = 1 ∧ (Exit.of result).stdout = "") := by
  cases result with
  | ok answer => exact .inl ⟨rfl, rfl⟩
  | error failure => exact .inr ⟨rfl, rfl⟩

/-- A verdict counts what is left, if anything is. -/
theorem Verdict.text_of (expr : Expr) (rest : List Token) :
    (of expr rest).text = if rest = [] then "Syntax is valid" else
      "Syntax is valid (" ++ rest.length.repr ++ " trailing tokens ignored)" := by
  cases rest <;> rfl

/-- A verdict that counts what is left says more than one that does not. -/
theorem Verdict.text_of_eq_valid_iff {expr : Expr} {rest : List Token} :
    (of expr rest).text ++ "\n" = "Syntax is valid\n" ↔ rest = [] := by
  rw [text_of]
  split
  · rename_i none
    exact iff_of_true rfl none
  · rename_i some
    refine iff_of_false (fun same => ?_) some
    have lengths := congrArg String.length same
    simp only [String.length_append] at lengths
    have counted : "Syntax is valid (".length + "\n".length ≤ "Syntax is valid\n".length := by omega
    exact absurd counted (by decide)

/-- All forms of `parse` exit as `check` does, but for their answers. -/
theorem exit_parse_eq (source : String) (format : OutputFormat) :
    (Exit.of ((Action.parse format).answer source)).code =
        (Exit.of (Action.check.answer source)).code ∧
      (Exit.of ((Action.parse format).answer source)).stderr =
        (Exit.of (Action.check.answer source)).stderr := by
  rcases answer_cases source with ⟨error, -, answers⟩ | ⟨_, error, -, -, checked, parsed⟩ |
    ⟨expr, rest, -, -, -, checked, parsed⟩
  · rw [answers, answers]
    exact ⟨rfl, rfl⟩
  · rw [checked, parsed]
    exact ⟨rfl, rfl⟩
  · rw [checked, parsed]
    exact ⟨rfl, rfl⟩

/-- `tokens` succeeds exactly on the sources that have tokens. -/
theorem exit_tokens_code_eq_zero_iff :
    (Exit.of (Action.tokens.answer source)).code = 0 ↔
      ∃ tokens, tokenize source = .ok tokens := by
  rcases answer_cases source with ⟨error, given, answers⟩ | ⟨tokens, error, given, listed, -⟩ |
    ⟨expr, rest, -, given, listed, -⟩
  · rw [answers, given]
    refine iff_of_false Nat.one_ne_zero fun found => ?_
    obtain ⟨_, found⟩ := found
    cases found
  · rw [listed]
    exact iff_of_true rfl ⟨tokens, given⟩
  · rw [listed]
    exact iff_of_true rfl ⟨expr.tokens ++ rest, given⟩

/-- Where `tokens` fails, every command fails with the same error. -/
theorem exit_eq_of_tokens_failed (failed : (Exit.of (Action.tokens.answer source)).code = 1)
    (action : Action) :
    (Exit.of (action.answer source)).code = 1 ∧
      (Exit.of (action.answer source)).stderr =
        (Exit.of (Action.tokens.answer source)).stderr := by
  rcases answer_cases source with ⟨error, -, answers⟩ | ⟨_, _, -, listed, -⟩ |
    ⟨_, _, -, -, listed, -⟩
  · rw [answers, answers]
    exact ⟨rfl, rfl⟩
  · rw [listed] at failed
    cases failed
  · rw [listed] at failed
    cases failed

/-- Where `check` succeeds, it counts the tokens behind those of the formula that `parse`
prints. -/
theorem exit_check_counts (succeeded : (Exit.of (Action.check.answer source)).code = 0) :
    ∃ expr others, Expr.ofSource source = .ok expr ∧
      (∀ format, (Exit.of ((Action.parse format).answer source)).stdout =
        renderExpr expr format ++ "\n") ∧
      tokenize source = .ok (expr.tokens ++ others) ∧
      ((Exit.of (Action.check.answer source)).stdout = "Syntax is valid\n" ↔
        tokenize source = .ok expr.tokens) ∧
      (tokenize source ≠ .ok expr.tokens → (Exit.of (Action.check.answer source)).stdout =
        "Syntax is valid (" ++ others.length.repr ++ " trailing tokens ignored)" ++ "\n") := by
  rcases answer_cases source with ⟨error, -, answers⟩ | ⟨_, error, -, -, checked, -⟩ |
    ⟨expr, rest, read, given, -, checked, parsed⟩
  · rw [answers] at succeeded
    cases succeeded
  · rw [checked] at succeeded
    cases succeeded
  · have whole : tokenize source = .ok expr.tokens ↔ rest = [] := by
      rw [given, Except.ok.injEq, List.append_right_eq_self]
    refine ⟨expr, rest, read, fun format => by rw [parsed]; rfl, given, ?_, fun more => ?_⟩
    · rw [checked, whole]
      exact Verdict.text_of_eq_valid_iff
    · rw [checked]
      change (Verdict.of expr rest).text ++ "\n" = _
      rw [Verdict.text_of, if_neg (mt whole.mpr more)]

/-- **The commands agree with each other.** Every command line that asks for an action comes
to the same exit, whether a source is its argument behind `--` or its standard input; the
words of the action are such a command line. All forms of `parse` and `check` exit with the
same code and the same failure. `tokens` succeeds exactly if the source has tokens, and
where it fails so do the others, alike. If `check` succeeds, it says how many tokens are
left behind those of the formula that `parse` prints, or that there are none. What succeeds
fails with nothing, what fails answers nothing, and bytes that are no text fail all
commands alike. -/
theorem commands_agree (source : String) :
    let exit (action : Action) : Exit := run action.words source.toUTF8
    (∀ action, Asks action.words action ∧ ∀ words, Asks words action →
      run words source.toUTF8 = exit action ∧
        ∀ stdin, run (words ++ ["--", source]) stdin = exit action) ∧
    (∀ format, (exit (.parse format)).code = (exit .check).code ∧
      (exit (.parse format)).stderr = (exit .check).stderr) ∧
    ((exit .tokens).code = 0 ↔ ∃ tokens, tokenize source = .ok tokens) ∧
    ((exit .tokens).code = 1 → ∀ action, (exit action).code = 1 ∧
      (exit action).stderr = (exit .tokens).stderr) ∧
    ((exit .check).code = 0 → ∃ expr others, Expr.ofSource source = .ok expr ∧
      (∀ format, (exit (.parse format)).stdout = renderExpr expr format ++ "\n") ∧
      tokenize source = .ok (expr.tokens ++ others) ∧
      ((exit .check).stdout = "Syntax is valid\n" ↔ tokenize source = .ok expr.tokens) ∧
      (tokenize source ≠ .ok expr.tokens → (exit .check).stdout =
        "Syntax is valid (" ++ others.length.repr ++ " trailing tokens ignored)" ++ "\n")) ∧
    (∀ action, ((exit action).code = 0 ∧ (exit action).stderr = "") ∨
      ((exit action).code = 1 ∧ (exit action).stdout = "")) ∧
    ∀ bytes, (∀ text : String, text.toUTF8 ≠ bytes) → ∀ words action, Asks words action →
      run words bytes = ⟨1, "", "IO error: stream did not contain valid UTF-8\n"⟩ := by
  intro exit
  have exits (action : Action) : exit action = .of (action.answer source) :=
    run_input action.asks_words source
  simp only [exits]
  have channels (action : Action) : Asks action.words action ∧ ∀ words, Asks words action →
      run words source.toUTF8 = .of (action.answer source) ∧
        ∀ stdin, run (words ++ ["--", source]) stdin = .of (action.answer source) :=
    ⟨action.asks_words, fun words asks => ⟨run_input asks source, run_argument asks source⟩⟩
  refine ⟨channels, exit_parse_eq source, exit_tokens_code_eq_zero_iff, exit_eq_of_tokens_failed,
    exit_check_counts, fun action => Exit.code_of _, ?_⟩
  intro bytes noText words action asks
  exact run_no_text asks noText

/-- `-1 2` is a formula with a number behind it, and a lone byte `FF` is no text. -/
theorem commands_agree_trailing :
    let invalid : ByteArray := ⟨#[0xff]⟩
    Asks ["parse", "-pj"] (.parse .prettyJson) ∧ (∀ text : String, text.toUTF8 ≠ invalid) ∧
    run ["parse", "-pj", "--", "-1 2"] invalid =
      run ["parse", "--json", "--pretty"] "-1 2".toUTF8 ∧
    (run ["parse", "-pj", "--", "-1 2"] invalid).code = 0 ∧
    run ["check", "--", "-1 2"] invalid =
      ⟨0, "Syntax is valid (1 trailing tokens ignored)\n", ""⟩ ∧
    run ["parse", "-pj"] invalid = ⟨1, "", "IO error: stream did not contain valid UTF-8\n"⟩ := by
  intro invalid
  have asks : Asks ["parse", "-pj"] (.parse .prettyJson) := ⟨by decide, by decide⟩
  have noText (text : String) : text.toUTF8 ≠ invalid := by
    intro same
    have valid : invalid.IsValidUTF8 := same ▸ text.isValidUTF8
    exact absurd valid (by decide +kernel)
  obtain ⟨channels, alike, -, -, -, -, unread⟩ := commands_agree "-1 2"
  have answer : run ["check"] "-1 2".toUTF8 =
      ⟨0, "Syntax is valid (1 trailing tokens ignored)\n", ""⟩ := by decide +kernel
  have printed : run ["parse", "-pj", "--", "-1 2"] invalid =
      run ["parse", "--json", "--pretty"] "-1 2".toUTF8 := ((channels _).2 _ asks).2 invalid
  have checked : run ["check", "--", "-1 2"] invalid = run ["check"] "-1 2".toUTF8 :=
    ((channels .check).2 _ (channels .check).1).2 invalid
  have succeeds : (run ["parse", "--json", "--pretty"] "-1 2".toUTF8).code = 0 :=
    (alike .prettyJson).1.trans (congrArg Exit.code answer)
  exact ⟨asks, noText, printed, printed ▸ succeeds, checked.trans answer, unread _ noText _ _ asks⟩

end DataFormula.Command
