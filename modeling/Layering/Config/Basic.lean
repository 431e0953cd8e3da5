import Layering.Family
import Layering.Options
import Layering.Path
import Layering.PathFilter
import Layering.Report.Format
import Layering.Severity
import Layering.Table

/-!
# Configurations

What a run needs to know: for each family whether it runs and with which options, which files
are analysed, and how the report is written.
-/

namespace Layering

open Yaml

/-- The settings of a family of rules. -/
structure Config.FamilySettings where
  enabled : Bool := false
  /-- Options for every rule of the family. -/
  options : Options := {}
  /-- Options for single rules, on top of the family's. -/
  rules : Table Options := .empty
  /-- Further rules, by the id they are registered under. -/
  customRules : Table Options := .empty
deriving Inhabited

/-- Which files are analysed. -/
structure Config.PathSettings where
  extensions : List String := [PathFilter.defaultExtension]
  excludes : List String := PathFilter.defaultExcludes
deriving DecidableEq, Repr, Inhabited

/-- How the report is written. -/
structure Config.ReportSettings where
  format : Report.Format := .human
  /-- What is below this severity is neither shown nor fails the run. -/
  minSeverity : Severity := .warning
  useColors : Bool := true
  maxViolations : Option Nat := none
  /-- The file to write the report to. -/
  output : Option String := none
deriving DecidableEq, Repr, Inhabited

/-- A configuration. -/
structure Config where
  version : String
  ddd : Config.FamilySettings
  clean : Config.FamilySettings
  hexagonal : Config.FamilySettings
  custom : Config.FamilySettings
  paths : Config.PathSettings
  report : Config.ReportSettings
deriving Inhabited

namespace Config

/-- The settings of a family. -/
def family (c : Config) : Family → FamilySettings
  | .ddd => c.ddd
  | .clean => c.clean
  | .hexagonal => c.hexagonal
  | .custom => c.custom

/-- Change the settings of a family. -/
def modifyFamily (c : Config) (f : Family) (change : FamilySettings → FamilySettings) : Config :=
  match f with
  | .ddd => { c with ddd := change c.ddd }
  | .clean => { c with clean := change c.clean }
  | .hexagonal => { c with hexagonal := change c.hexagonal }
  | .custom => { c with custom := change c.custom }

/-- Switch a family on. -/
def enable (c : Config) (f : Family) : Config :=
  c.modifyFamily f fun s => { s with enabled := true }

/-- Switch several families on. -/
def enableAll (c : Config) (families : List Family) : Config := families.foldl enable c

/-- The families that run, in order. -/
def enabledFamilies (c : Config) : List Family := Family.all.filter fun f => (c.family f).enabled

/-- The options a rule of a family gets: the family's with those for the rule on top. -/
def FamilySettings.optionsOf (s : FamilySettings) (rule : String) : Options :=
  match s.rules.get? rule with
  | some overrides => s.options.merged overrides
  | none => s.options

/-! ## Defaults -/

/-- Types of the standard library, which every layer may use. -/
def standardTypes : List String :=
  ["DateTimeInterface", "DateTime", "DateTimeImmutable", "Exception", "stdClass"]

/-- The default options of a family. -/
def defaultOptions : Family → Options
  | .ddd => Options.empty
    |>.withList "domain_namespaces" ["Domain", "Model"]
    |>.withList "application_namespaces" ["Application"]
    |>.withList "infrastructure_namespaces" ["Infrastructure", "Infra"]
  | .clean => Options.empty
    |>.withList "entity_namespaces" ["Entity", "Domain\\Entity", "Domain\\Model"]
    |>.withList "use_case_namespaces" ["UseCase", "Application", "Domain\\UseCase"]
    |>.withList "controller_namespaces" ["Controller", "Interfaces", "Presentation", "UI"]
    |>.withList "framework_namespaces" ["Framework", "Infrastructure", "External", "Persistence"]
  | .hexagonal => Options.empty
    |>.withList "domain_namespaces" ["Domain", "Core", "Application"]
    |>.withList "port_namespaces" ["Port", "Domain\\Port", "Application\\Port", "Domain\\Contract"]
    |>.withList "adapter_namespaces" ["Infrastructure", "Adapter", "Framework", "UI", "Persistence"]
    |>.withFlag "adapters_should_implement_ports" true
  | .custom => Options.empty
    |>.withValue "naming_rules" (.mapping [])
    |>.withValue "dependency_rules" (.mapping [])
    |>.withList "global_allowed_dependencies" standardTypes

/-- The configuration without any document: no family runs. -/
def default : Config :=
  { version := "1.0"
    ddd := { options := defaultOptions .ddd }
    clean := { options := defaultOptions .clean }
    hexagonal := { options := defaultOptions .hexagonal }
    custom := { options := defaultOptions .custom }
    paths := {}
    report := {} }

/-! ## Equality -/

/-- Equality of options, in which keys have no order. -/
def sameOptions (a b : Options) : Bool := (Value.mapping a.entries).same (.mapping b.entries)

/-- Equality of tables of options. -/
def sameTable (a b : Table Options) : Bool :=
  a.keys == b.keys && (a.entries.zip b.entries).all fun (x, y) => sameOptions x.2 y.2

def FamilySettings.same (a b : FamilySettings) : Bool :=
  a.enabled == b.enabled && sameOptions a.options b.options && sameTable a.rules b.rules &&
    sameTable a.customRules b.customRules

/-- Equality of places to write to, by path. -/
def sameOutput : Option String → Option String → Bool
  | none, none => true
  | some a, some b => Path.same a b
  | _, _ => false

/-- Equality of configurations, in which option keys have no order and paths compare by
component. -/
def same (a b : Config) : Bool :=
  a.version == b.version && Family.all.all (fun f => (a.family f).same (b.family f)) &&
    a.paths == b.paths && a.report.format == b.report.format &&
    a.report.minSeverity == b.report.minSeverity && a.report.useColors == b.report.useColors &&
    a.report.maxViolations == b.report.maxViolations &&
    sameOutput a.report.output b.report.output

end Config

end Layering
