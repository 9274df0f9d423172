import EntityDiagram.Text.Basic

/-!
# What a run reports on the way

A run tells what it is doing in records of four weights. Records are values like any other: a
computation that reports returns its records beside its result, so what was reported can be compared
and reasoned about, and nothing is written out before the program as a whole decides to.
-/

namespace EntityDiagram

inductive Severity where
  | debug | info | warning | error
  deriving DecidableEq, Repr

def Severity.name : Severity → Text
  | debug => "DEBUG"
  | info => "INFO"
  | warning => "WARNING"
  | error => "ERROR"

structure LogRecord where
  severity : Severity
  message : Text
  deriving DecidableEq

abbrev Log := List LogRecord

end EntityDiagram
