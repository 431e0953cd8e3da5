import Layering.Regex.Meaning

/-!
# Naming patterns

A naming pattern is a regular expression, either bare or between two equal delimiters with flag
letters after the second one.
-/

namespace Layering.Naming

/-- Why a naming pattern is refused. -/
inductive Fault where
  | unsupportedFlag (flag : Char) (pattern : String)
  | malformed (pattern : String) (fault : Regex.Fault)
  /-- An entry without a pattern. -/
  | missing
  /-- An entry that is neither a text nor a mapping. -/
  | notPattern
deriving DecidableEq, Repr

def Fault.message : Fault → String
  | .unsupportedFlag flag pattern =>
    "Unsupported flag '" ++ flag.toString ++ "' in pattern '" ++ pattern ++ "'"
  | .malformed pattern fault => "Invalid pattern '" ++ pattern ++ "': " ++ fault.message
  | .missing => "naming rule without 'pattern'"
  | .notPattern => "naming rule must be a string or a map"

/-- The characters that can delimit a pattern. -/
def delimiters : List Char := ['/', '#', '~', '!', '@', '%', '|']

/-- Body and flags of a delimited pattern: the body ends at the last occurrence of the
delimiter, the flags are ASCII letters. -/
def splitDelimited? (pattern : List Char) : Option (List Char × List Char) :=
  match pattern with
  | [] => none
  | delimiter :: rest =>
    if !delimiters.contains delimiter then none
    else
      let flags := (rest.reverse.takeWhile (· != delimiter)).reverse
      match rest.reverse.dropWhile (· != delimiter) with
      | [] => none
      | _ :: body => if flags.all Char.isAlpha then some (body.reverse, flags) else none

/-- Switch on one flag; nothing for a letter that is no flag. -/
def switchOn? (flags : Regex.Flags) (letter : Char) : Option Regex.Flags :=
  match letter with
  | 'i' => some { flags with fold := true }
  | 'm' => some { flags with lines := true }
  | 's' => some { flags with dotAll := true }
  | 'x' => some { flags with verbose := true }
  | 'u' => some { flags with unicode := true }
  | _ => none

/-- Switch on the flags of a list, or give the first letter that is none. -/
def switchAll : List Char → Regex.Flags → Except Char Regex.Flags
  | [], flags => .ok flags
  | letter :: rest, flags => match switchOn? flags letter with
    | some flags => switchAll rest flags
    | none => .error letter

/-- Compile a naming pattern. -/
def compile (pattern : String) : Except Fault Regex :=
  let (body, letters) := (splitDelimited? pattern.toList).getD (pattern.toList, [])
  match switchAll letters {} with
  | .error letter => .error (.unsupportedFlag letter pattern)
  | .ok flags => match Regex.parse flags (String.ofList body) with
    | .ok r => .ok r
    | .error fault => .error (.malformed pattern fault)

end Layering.Naming
