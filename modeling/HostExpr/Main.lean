import HostExpr.CommandLine

/-!
# The program

Reads the arguments, and the standard input where it holds the context, and prints the response.
-/

/-- Runs the command line. -/
def main (args : List String) : IO UInt32 := do
  let request := HostExpr.Request.ofArgs args
  let input ← if request.readsInput then (← IO.getStdin).readToEnd else pure ""
  let response := request.respond input
  (← IO.getStdout).putStr response.stdout
  (← IO.getStderr).putStr response.stderr
  return response.code.toUInt32
