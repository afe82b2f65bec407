import HostExpr.Check

/-!
# The command line

* `Request`: what the arguments ask for, and `Request.ofArgs`, how they are read;
* `Request.readsInput`: whether the standard input is needed;
* `Response`: the exit code and what is printed;
* `Request.respond`: the response to a request.

The one command is `check EXPRESSION`, with the options `-c`/`--context JSON`, `-p`/`--pretty`,
`--syntax-only` and `--no-helpers`.  Short options may share a hyphen, a value may follow its
option directly or after an equals sign, every option may be given once, and after `--` all
arguments are values.  What no rule covers is a misuse.
-/

namespace HostExpr

/-- A text of help. -/
inductive HelpTopic where
  | program
  | check
  | help
  deriving DecidableEq, Repr

/-- What the arguments ask for. -/
inductive Request where
  | check (check : Check)
  | version
  | help (topic : HelpTopic)
  | misuse (reason : String)

namespace CommandLine

/-! ### Reading the arguments of a check -/

/-- The options and the value of a check that were read so far. -/
structure Draft where
  expression? : Option String := none
  context? : Option String := none
  pretty : Bool := false
  syntaxOnly : Bool := false
  noHelpers : Bool := false

/-- What becomes of a draft at one more argument: it goes on, or the request is known. -/
abbrev Step := Except Request Draft

/-- The request cannot be fulfilled. -/
def misuse {α : Type} (reason : String) : Except Request α :=
  .error (.misuse reason)

/-- Takes a flag that may be given once. -/
def once (name : String) (given : Bool) (d : Draft) : Step :=
  if given then misuse (name ++ " cannot be used multiple times") else .ok d

/-- Takes the context. -/
def setContext (json : String) (d : Draft) : Step :=
  once "--context" d.context?.isSome { d with context? := some json }

/-- Takes the expression. -/
def setExpression (value : String) (d : Draft) : Step :=
  match d.expression? with
  | none => .ok { d with expression? := some value }
  | some _ => misuse ("unexpected argument " ++ value)

/-- Takes a long option without a value. -/
def longFlag (name : String) (d : Draft) : Step :=
  if name = "pretty" then once "--pretty" d.pretty { d with pretty := true }
  else if name = "syntax-only" then once "--syntax-only" d.syntaxOnly { d with syntaxOnly := true }
  else if name = "no-helpers" then once "--no-helpers" d.noHelpers { d with noHelpers := true }
  else if name = "help" then .error (.help .check)
  else misuse ("unexpected argument --" ++ name)

/-- Whether an argument looks like an option; such an argument is no value of an option before
it. -/
def looksLikeOption (arg : String) : Bool :=
  match arg.toList with
  | '-' :: _ :: _ => true
  | _ => false

/-- Takes the short options that share a hyphen.  The result tells whether the context is still to
come in the next argument. -/
def shortOptions : List Char → Draft → Except Request (Draft × Bool)
  | [], d => .ok (d, false)
  | 'p' :: cs, d => do shortOptions cs (← longFlag "pretty" d)
  | 'h' :: _, _ => .error (.help .check)
  | ['c'], d => .ok (d, true)
  | 'c' :: '=' :: cs, d => do return (← setContext (String.ofList cs) d, false)
  | 'c' :: cs, d => do return (← setContext (String.ofList cs) d, false)
  | c :: _, _ => misuse ("unexpected argument -" ++ String.ofList [c])

/-- Takes the values after `--`. -/
def values : List String → Draft → Step
  | [], d => .ok d
  | arg :: args, d => do values args (← setExpression arg d)

mutual

/-- Takes the arguments of a check. -/
def arguments : List String → Draft → Step
  | [], d => .ok d
  | arg :: args, d =>
    match arg.toList with
    | ['-', '-'] => values args d
    | '-' :: '-' :: name =>
      if name = "context".toList then contextThen args d
      else
        match name.dropWhile (· ≠ '=') with
        | _ :: json =>
          if name.takeWhile (· ≠ '=') = "context".toList then do
            arguments args (← setContext (String.ofList json) d)
          else misuse ("unexpected value in " ++ arg)
        | [] => do arguments args (← longFlag (String.ofList name) d)
    | '-' :: c :: cs => do
      let (d, open?) ← shortOptions (c :: cs) d
      if open? then contextThen args d else arguments args d
    | _ => do arguments args (← setExpression arg d)

/-- Takes the context from the next argument, and then the other arguments. -/
def contextThen : List String → Draft → Step
  | [], _ => misuse "a value is required for --context"
  | arg :: args, d =>
    if looksLikeOption arg then misuse "a value is required for --context"
    else do arguments args (← setContext arg d)

end

/-- The check that a draft describes. -/
def finish (d : Draft) : Request :=
  match d.expression? with
  | none => .misuse "an expression is required"
  | some expression =>
    .check { expression, context? := d.context?, pretty := d.pretty, syntaxOnly := d.syntaxOnly,
             noHelpers := d.noHelpers }

/-! ### Reading all arguments -/

/-- The topic of the `help` command. -/
def helpTopic : List String → Request
  | [] => .help .program
  | ["check"] => .help .check
  | ["help"] => .help .help
  | _ => .misuse "unrecognized subcommand"

/-- What all arguments ask for. -/
def request : List String → Request
  | "check" :: args =>
    match arguments args {} with
    | .ok d => finish d
    | .error r => r
  | "help" :: args => helpTopic args
  | arg :: _ =>
    match arg.toList with
    | '-' :: 'h' :: _ => .help .program
    | '-' :: 'V' :: _ => .version
    | _ =>
      if arg = "--help" then .help .program
      else if arg = "--version" then .version
      else .misuse ("unrecognized argument " ++ arg)
  | [] => .misuse "a subcommand is required"

/-! ### Texts of help -/

/-- The name and version of the program. -/
def versionText : String := "eel 0.1.0"

/-- A text of several lines. -/
def lines (ls : List String) : String :=
  "\n".intercalate ls

/-- The help for the program. -/
def programHelp : String :=
  lines [
    "EEL - an embeddable expression language evaluated against JSON contexts",
    "",
    "Usage: eel <COMMAND>",
    "",
    "Commands:",
    "  check  Validate and evaluate an expression",
    "  help   Print this message or the help of the given subcommand(s)",
    "",
    "Options:",
    "  -h, --help     Print help",
    "  -V, --version  Print version"]

/-- The help for a check. -/
def checkHelp : String :=
  lines [
    "Validate and evaluate an expression",
    "",
    "Usage: eel check [OPTIONS] <EXPRESSION>",
    "",
    "Arguments:",
    "  <EXPRESSION>  The expression to evaluate",
    "",
    "Options:",
    "  -c, --context <CONTEXT>  JSON context (reads from stdin if not provided and stdin is piped)",
    "  -p, --pretty             Pretty-print the output",
    "      --syntax-only        Only validate syntax, don't evaluate",
    "      --no-helpers         Don't bind the bundled String and Array helpers",
    "  -h, --help               Print help"]

/-- The help for the help. -/
def helpHelp : String :=
  lines [
    "Print this message or the help of the given subcommand(s)",
    "",
    "Usage: eel help [COMMAND]",
    "",
    "Commands:",
    "  check  Validate and evaluate an expression",
    "  help   Print this message or the help of the given subcommand(s)"]

end CommandLine

/-! ### Responses -/

/-- The help for a topic. -/
def HelpTopic.text : HelpTopic → String
  | program => CommandLine.programHelp
  | check => CommandLine.checkHelp
  | help => CommandLine.helpHelp

/-- What the program answers: its exit code and what it prints. -/
structure Response where
  code : Nat
  stdout : String := ""
  stderr : String := ""

namespace Request

/-- What the arguments ask for. -/
def ofArgs (args : List String) : Request :=
  CommandLine.request args

/-- Whether the context comes from the standard input. -/
def readsInput : Request → Bool
  | check c => c.context?.isNone && !c.syntaxOnly
  | _ => false

/-- The check with the standard input as its context, if it needs one and the input is not blank. -/
def withInput (input : String) (c : Check) : Check :=
  if (check c).readsInput && !input.toList.all Blank.isBlank then { c with context? := some input }
  else c

/-- The response to a request, given the text of the standard input.  A failed check exits with 1
and a misuse with 2. -/
def respond (input : String) : Request → Response
  | check c =>
    let c := withInput input c
    match c.run with
    | .ok result => { code := 0, stdout := c.report result ++ "\n" }
    | .error e => { code := 1, stderr := e.message ++ "\n" }
  | version => { code := 0, stdout := CommandLine.versionText ++ "\n" }
  | help topic => { code := 0, stdout := topic.text ++ "\n" }
  | misuse reason => { code := 2, stderr := "error: " ++ reason ++ "\n" }

end Request

end HostExpr
