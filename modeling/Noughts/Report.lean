/-!
What is said about an error.

An error may have another one behind it.  Its report is then made from the report
of that one (`Report.wrap`), whose message it repeats after words of its own and
lists first among its causes.
-/

namespace Noughts

structure Report where
  message : String
  /-- The messages of the errors behind this one, the nearest first. -/
  causes : List String
deriving DecidableEq, Repr

namespace Report

def ofMessage (message : String) : Report :=
  { message, causes := [] }

/-- The report of an error that has another one behind it. -/
def wrap (lead : String) (cause : Report) : Report :=
  { message := lead ++ cause.message, causes := cause.message :: cause.causes }

end Report
end Noughts
