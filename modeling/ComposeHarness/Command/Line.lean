import ComposeHarness.Text.Blank

/-!
# Command lines as one line of text

Arguments follow the program, each after one space. An argument that is empty or holds a blank
stands between single quotes; nothing is escaped.
-/
namespace ComposeHarness.Command

def needsQuotes (argument : String) : Bool :=
  argument.isEmpty || argument.toList.any Text.isBlank

def word (argument : String) : String :=
  if needsQuotes argument then "'" ++ argument ++ "'" else argument

/-- The invocation as it is quoted in results and failures. -/
def line (program : String) (arguments : List String) : String :=
  arguments.foldl (fun text argument => text ++ " " ++ word argument) program

end ComposeHarness.Command
