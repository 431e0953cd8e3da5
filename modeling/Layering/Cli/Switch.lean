/-!
# Switches

The options of the command line. A switch has a long name and may have a letter; it stands alone
or takes a value, and only some may be given more than once.
-/

namespace Layering.Cli

/-- An option of the command line. -/
inductive Switch where
  | help
  | version
  | verbose
  | logJson
  | config
  | format
  | minSeverity
  | maxViolations
  | exclude
  | enable
  | output
  | noParallel
  | noColor
  | family
  | force
deriving DecidableEq, Repr

namespace Switch

/-- The name after two dashes. -/
def long : Switch → String
  | .help => "help"
  | .version => "version"
  | .verbose => "verbose"
  | .logJson => "log-json"
  | .config => "config"
  | .format => "format"
  | .minSeverity => "min-severity"
  | .maxViolations => "max-violations"
  | .exclude => "exclude"
  | .enable => "enable"
  | .output => "output"
  | .noParallel => "no-parallel"
  | .noColor => "no-color"
  | .family => "family"
  | .force => "force"

/-- The letter after one dash. -/
def letter? : Switch → Option Char
  | .help => some 'h'
  | .version => some 'V'
  | .verbose => some 'v'
  | .config => some 'c'
  | .format => some 'f'
  | .minSeverity => some 's'
  | .output => some 'o'
  | _ => none

/-- Whether a value follows. -/
def takesValue : Switch → Bool
  | .config | .format | .minSeverity | .maxViolations | .exclude | .enable | .output | .family =>
    true
  | _ => false

/-- Whether the switch may be given more than once. -/
def repeats : Switch → Bool
  | .exclude | .enable => true
  | _ => false

/-- The switches that every command takes, and that may also stand before the command. -/
def shared : List Switch := [.help, .verbose, .logJson, .config]

end Switch

end Layering.Cli
