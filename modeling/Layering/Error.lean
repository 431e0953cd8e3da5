import Layering.Config.Fault
import Layering.Naming.Rules
import Layering.PathFilter

/-!
# Errors

The ways in which an operation of the library can fail.
-/

namespace Layering

/-- A pattern that cannot be used. -/
inductive PatternFault where
  | naming (fault : Naming.Fault)
  | filter (fault : PathFilter.Fault)

def PatternFault.message : PatternFault → String
  | .naming fault => fault.message
  | .filter fault => "Invalid pattern '" ++ fault.pattern ++ "': " ++ fault.fault.message

/-- Why a rule cannot be used. -/
inductive RuleFault where
  /-- Its name has not the form of a family and a policy. -/
  | name (found : String)
  | naming (faults : List Naming.RuleFault)
  /-- It refused its options for a reason of its own. -/
  | refused (reason : String)

def RuleFault.message : RuleFault → String
  | .name found => "rule name '" ++ found ++ "' is not of the form <family>.<policy>"
  | .naming faults => "; ".intercalate (faults.map Naming.RuleFault.message)
  | .refused reason => reason

/-- An error. -/
inductive Error where
  | configuration (fault : Config.Fault)
  | io (fault : FileFault)
  | fileRead (path : String) (fault : FileFault)
  | pattern (fault : PatternFault)
  | ruleNotFound (id : String)
  | invalidRule (id : String) (fault : RuleFault)
  | validation (reason : String)

def Error.message : Error → String
  | .configuration fault => "Configuration error: " ++ fault.message
  | .io fault => "IO error: " ++ fault.message
  | .fileRead path fault => "Failed to read " ++ path ++ ": " ++ fault.message
  | .pattern fault => "Pattern error: " ++ fault.message
  | .ruleNotFound id => "Rule not found: " ++ id
  | .invalidRule id fault => "Invalid rule '" ++ id ++ "': " ++ fault.message
  | .validation reason => "Validation error: " ++ reason

/-- The error of a root to look for files at. -/
def Error.ofRoot (fault : PathFilter.RootFault) : Error := .validation fault.message

end Layering
