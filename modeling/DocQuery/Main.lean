import DocQuery.CommandLine.Invocation
/-!
# The program

Reads the files that the command line names and prints what it asks for.
-/

namespace DocQuery.CommandLine

/-- The reason that the system gives for a failure, with its number. -/
def systemReason : IO.Error → String
  | .noFileOrDirectory _ code details => details ++ " (os error " ++ toString code ++ ")"
  | .inappropriateType _ code details => details ++ " (os error " ++ toString code ++ ")"
  | .permissionDenied _ code details => details ++ " (os error " ++ toString code ++ ")"
  | e => toString e

/-- What is found under a path. -/
def lookAt (path : String) : IO FileState := do
  try
    let bytes ← IO.FS.readBinFile path
    return match String.fromUTF8? bytes with
      | some content => .text content
      | none => .unreadable "stream did not contain valid UTF-8"
  catch e =>
    return match e with
      | .noFileOrDirectory _ _ _ => .missing (systemReason e)
      | _ => .unreadable (systemReason e)

def usage : String :=
  "Usage: [-c CONFIG] [-f text|json|toon] derive METHOD -e ENTITY [-a ARG]... " ++
    "[--page N --size N] [--count]\n" ++
    "       [-c CONFIG] [-f text|json|toon] compile FILE [--count]"

end DocQuery.CommandLine

open DocQuery.CommandLine in
/-- Prints the output of the command line, or why there is none. -/
def main (words : List String) : IO UInt32 := do
  let found ← (paths words).mapM fun path => return (path, ← lookAt path)
  match output words fun path => (found.lookup path).getD (.missing "not looked at") with
  | .ok text =>
    IO.println text
    return 0
  | .error (.usage .help) =>
    IO.println usage
    return 0
  | .error (.usage fault) =>
    IO.eprintln usage
    return if fault = .version then 0 else 2
  | .error fault =>
    IO.eprintln ("Error: " ++ fault.message)
    return 1
