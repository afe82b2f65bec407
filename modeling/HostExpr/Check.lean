import HostExpr.Eval
import HostExpr.Host.Bundled
import HostExpr.Json.Reader

/-!
# Checking an expression against a JSON context

* `Check`: an expression, the JSON text of its context, and what to do with them;
* `Check.run`: the outcome: the syntax is valid, or the JSON document of the value;
* `CheckError`: what can go wrong, and `CheckError.message`, the words for it.

The expression is parsed first, then the context is read, then the expression is evaluated.
-/

namespace HostExpr

/-- An expression to check. -/
structure Check where
  expression : String
  /-- The JSON text of the context; without it the context is empty. -/
  context? : Option String := none
  /-- Print the result with an item a line. -/
  pretty : Bool := false
  /-- Parse the expression and do nothing else. -/
  syntaxOnly : Bool := false
  /-- Leave the bundled host objects unbound. -/
  noHelpers : Bool := false

/-- What came of a check. -/
inductive CheckResult where
  | valid
  | value (doc : Json)

/-- Why a check failed. -/
inductive CheckError where
  | parse (error : ParseError)
  | eval (error : EvalError)
  | json

/-- The words for a failed check. -/
def CheckError.message : CheckError → String
  | parse e => "Parse error: " ++ e.message
  | eval e => "Evaluation error: " ++ e.message
  | json => "Invalid JSON: the context is not a JSON document"

namespace Check

/-- The value that the JSON text of a context stands for. -/
def readRoot : Option String → Except CheckError Value
  | none => .ok (.map [])
  | some source =>
    match Json.read? source with
    | some doc => .ok doc.toValue
    | none => .error .json

/-- The context and the host objects of a check. -/
def setup (check : Check) (root : Value) : Setup Unit :=
  let setup : Setup Unit := ⟨⟨root⟩, {}⟩
  if check.noHelpers then setup else setup.bindBundled ()

/-- Runs a check. -/
def run (check : Check) : Except CheckError CheckResult := do
  let e ← (parse check.expression).mapError .parse
  if check.syntaxOnly then return .valid
  let root ← readRoot check.context?
  let setup := check.setup root
  let v ← (e.run HostTable.interface setup.context setup.hosts).1.mapError .eval
  return .value (.ofValue v)

/-- The text that reports an outcome. -/
def report (check : Check) : CheckResult → String
  | .valid => "Syntax is valid"
  | .value doc => doc.toText (if check.pretty then .indented else .compact)

end Check

end HostExpr
