import Layering.FileSystem
import Layering.Family
import Layering.Glob
import Layering.Naming.Pattern
import Layering.Report.Format
import Layering.Text.Quoted
import Layering.Yaml.Basic

/-!
# Faults of configurations

Everything that can be wrong with a configuration, from reading its file to writing it back.
-/

namespace Layering.Config

open Text Yaml

/-- Why a value is not what a place in a configuration needs. -/
inductive DecodeFault where
  /-- A value of another kind than the one expected. -/
  | kind (found : Value) (expected : String)
  /-- An integer out of range. -/
  | range (found : Int) (expected : String)
  | missing (field : String)
  | duplicate (field : String)
  /-- A report format that does not exist. -/
  | format (name : String)

/-- What a value is, for messages. -/
def describe : Value → String
  | .null => "unit value"
  | .bool b => "boolean \x60" ++ (if b then "true" else "false") ++ "\x60"
  | .int n => "integer \x60" ++ Number.Binary64.integerText n ++ "\x60"
  | .float x => "floating point \x60" ++ x.messageText ++ "\x60"
  | .string s => "string " ++ quoted s
  | .sequence _ => "sequence"
  | .mapping _ => "map"
  | .tagged _ _ => "enum"

def DecodeFault.message : DecodeFault → String
  | .kind found expected => "invalid type: " ++ describe found ++ ", expected " ++ expected
  | .range found expected =>
    "invalid value: integer \x60" ++ Number.Binary64.integerText found ++ "\x60, expected " ++ expected
  | .missing field => "missing field \x60" ++ field ++ "\x60"
  | .duplicate field => "duplicate field \x60" ++ field ++ "\x60"
  | .format name =>
    "unknown variant \x60" ++ name ++ "\x60, expected one of " ++
      ", ".intercalate
        (["console", "human", "json", "github", "github-actions"].map fun f => "\x60" ++ f ++ "\x60")

/-- Why a configuration has no JSON text. -/
inductive KeyFault where
  | notText
  | notFinite
deriving DecidableEq, Repr

def KeyFault.message : KeyFault → String
  | .notText => "key must be a string"
  | .notFinite => "float key must be finite"

/-- What is wrong with a configuration. -/
inductive Fault where
  | unreadable (path : String) (fault : FileFault)
  | unparsable
  | rootNotMapping
  | invalid (fault : DecodeFault)
  | version (found : String)
  | exclude (pattern : String) (fault : Glob.Fault)
  | unknownRule (rule : String) (family : Family)
  | namingWithoutPattern
  | naming (fault : Naming.Fault)
  | unwritable (fault : KeyFault)
  | unknownFormat (name : String)
  /-- A fault of the configuration in a file. -/
  | inFile (path : String) (fault : Fault)

/-- The versions a configuration may have. -/
def supportedVersions : List String := ["1.0"]

def Fault.message : Fault → String
  | .unreadable path fault => "Failed to read config file '" ++ path ++ "': " ++ fault.message
  | .unparsable => "Failed to parse config"
  | .rootNotMapping => "Configuration root must be a mapping"
  | .invalid fault => "Invalid configuration: " ++ fault.message
  | .version found =>
    "Unsupported configuration version: " ++ found ++ ". Supported versions: " ++
      ", ".intercalate supportedVersions
  | .exclude pattern fault => "Invalid exclude pattern '" ++ pattern ++ "': " ++ fault.message
  | .unknownRule rule family => "Unknown rule '" ++ rule ++ "' in analyzers." ++ family.key ++ ".rules"
  | .namingWithoutPattern => "Naming rules need a 'pattern' string"
  | .naming fault => "Invalid naming rule: Pattern error: " ++ fault.message
  | .unwritable fault => "Failed to serialize config: " ++ fault.message
  | .unknownFormat name =>
    "Unknown output format '" ++ name ++ "'. Available: " ++ ", ".intercalate Report.Format.names
  | .inFile path fault => path ++ ": " ++ fault.message

end Layering.Config
