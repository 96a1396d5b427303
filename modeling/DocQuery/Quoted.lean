/-!
# Quoted text

Identifiers stand between backticks and string literals between double quotes.
Inside, the quote itself is written twice, so that a quote that stands alone
ends the run.
-/

namespace DocQuery.Quoted

/-- `cs` with every `q` written twice. -/
def double (q : Char) : List Char → List Char
  | [] => []
  | c :: cs => if c = q then q :: q :: double q cs else c :: double q cs

/-- `s` between two `q`, with every `q` inside written twice. -/
def wrap (q : Char) (s : String) : String :=
  String.ofList (q :: double q s.toList ++ [q])

/-- The quote of identifiers. -/
abbrev backtick : Char := '\x60'

/-- An identifier between backticks. -/
def identifier (s : String) : String := wrap backtick s

/-- A string literal between double quotes. -/
def literal (s : String) : String := wrap '"' s

/-- Whether the text begins and ends with a quote `q`, two different ones. -/
def isWrappedIn (q : Char) : List Char → Bool
  | c :: d :: cs => c == q && (d :: cs).getLast? == some q
  | _ => false

/-- Whether the text already looks like a quoted identifier or a string literal. -/
def isQuoted (s : String) : Bool :=
  isWrappedIn backtick s.toList || isWrappedIn '"' s.toList

end DocQuery.Quoted
