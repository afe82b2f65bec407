import HostExpr.Host.Argument
import HostExpr.Host.Object
import HostExpr.Regex.Replace
import HostExpr.Text.Case

/-!
# The bundled host object for texts

Places and lengths count characters.

* `TextHost.slice`: the characters from a place on, at most as many as asked for;
* `TextHost.findPlace?`: the first place where a text occurs in another;
* `TextHost.matchGroups`: what the groups of a pattern match;
* `TextHost.descriptor`: the host type `String` that declares them and the other methods.
-/

namespace HostExpr.TextHost

/-! ### Methods -/

/-- The characters from a place on: all of them if the length is negative, else at most as many.
A place before the start counts as the start. -/
def slice (cs : List Char) (start length : Int) : List Char :=
  let rest := cs.drop start.toNat
  if length < 0 then rest else rest.take length.toNat

/-- The first place at which a text occurs. -/
def findPlace? (needle : List Char) : List Char → Option Nat
  | [] => if needle = [] then some 0 else none
  | c :: cs =>
    if needle.isPrefixOf (c :: cs) then some 0 else (findPlace? needle cs).map (· + 1)

/-- The groups of the first match of a pattern as a list, the whole match first; null for a group
that took no part, and for no match at all. -/
def matchGroups (pattern : Regex.Program) (s : String) : Value :=
  match pattern.captures? s.toList with
  | none => .null
  | some groups =>
    .list (groups.map fun group => (group.map fun cs => Value.text (String.ofList cs)).getD .null)

/-- A method that needs a pattern. -/
def withPattern (method pattern : String) (f : Regex.Program → Value) : Except EvalError Value :=
  match Regex.Program.compile? pattern with
  | none => .error (.invalidPattern method)
  | some p => .ok (f p)

/-- A method on characters. -/
def onChars (f : List Char → List Char) (s : String) : Value :=
  .text (String.ofList (f s.toList))

/-! ### Declarations -/

/-- A parameter for a text. -/
def textParam (name : String) : Param :=
  { name, kind := .text }

/-- The methods that an object allows. -/
def allowed : List String :=
  ["substr", "toUpperCase", "toLowerCase", "trim", "length", "indexOf", "pregMatch", "pregReplace"]

/-- The host type of the text object. -/
def descriptor {σ : Type} : Descriptor σ :=
  let base : Descriptor σ :=
    { typeName := "String", allows := fun _ method => allowed.contains method }
  base
    |>.withMember "name" (fun _ => .text "String")
    |>.withReading "substr"
      [textParam "input", { name := "start", kind := .integer },
        { name := "length", kind := .integer, default? := some (.number (-1.0)) }]
      (fun _ args =>
        .ok (onChars (slice · (Arg.integer args 1) (Arg.integer args 2)) (Arg.text args 0)))
    |>.withReading "toUpperCase" [textParam "input"]
      (fun _ args => .ok (onChars Case.toUpper (Arg.text args 0)))
    |>.withReading "toLowerCase" [textParam "input"]
      (fun _ args => .ok (onChars Case.toLower (Arg.text args 0)))
    |>.withReading "trim" [textParam "input"]
      (fun _ args => .ok (onChars Blank.trim (Arg.text args 0)))
    |>.withReading "length" [textParam "input"]
      (fun _ args => .ok (.ofCount (Arg.text args 0).length))
    |>.withReading "indexOf" [textParam "input", textParam "search"]
      (fun _ args => .ok (.ofPlace (findPlace? (Arg.text args 1).toList (Arg.text args 0).toList)))
    |>.withReading "pregMatch" [textParam "input", textParam "pattern"]
      (fun _ args =>
        withPattern "pregMatch" (Arg.text args 1) fun p => matchGroups p (Arg.text args 0))
    |>.withReading "pregReplace" [textParam "input", textParam "pattern", textParam "replacement"]
      (fun _ args =>
        withPattern "pregReplace" (Arg.text args 1) fun p =>
          onChars (p.replaceAll · (Arg.text args 2).toList) (Arg.text args 0))

end HostExpr.TextHost
