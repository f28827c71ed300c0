import LootSpawn.Session.Basic

/-!
# Command-line tools

A tool is a function of its arguments, the files it may read and the text on its standard input. It
ends with an exit code and with what it has written.
-/

namespace LootSpawn.Tool

/-- What a tool has written, and the code with which it ends. -/
structure Result where
  code : Nat := 0
  out : String := ""
  err : String := ""
  deriving DecidableEq, Repr

/-- Puts what was written before in front of the output. -/
def Result.after (result : Result) (before : String) : Result :=
  { result with out := before ++ result.out }

/-- What becomes of a counter that leaves its range: the tool is broken off, or the counter goes on
at the other end. Which of the two it is, is settled when the tool is built. -/
inductive Overflow where
  | breaks
  | wraps
  deriving DecidableEq, Repr

/-- A counter of 32 bits after one more. -/
def Overflow.next? (overflow : Overflow) (count : Int32) : Option Int32 :=
  match overflow with
  | .breaks => if count = Int32.maxValue then none else some (count + 1)
  | .wraps => some (count + 1)

/-- The end of a tool that is broken off. The place in the program is not part of the report. -/
def Result.broken : Result := { code := 101, err := "attempt to add with overflow\n" }

/-- A complaint on standard error, on a line of its own. A complaint about a malformed document is
followed by details of the notation, which are left out together with the line break. -/
def complaint (about : String) : LoadError → String
  | .config .malformed => s!"{about}{(LoadError.config .malformed).message}"
  | error => s!"{about}{error.message}\n"

/-- The first argument asks for help, or there is none. -/
def wantsHelp : List String → Bool
  | [] => true
  | first :: _ => first == "--help" || first == "-h"

end LootSpawn.Tool
