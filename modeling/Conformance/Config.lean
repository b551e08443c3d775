import Conformance.Error
import Conformance.Sample.Impact
import Conformance.Text.Quoted
import Conformance.Toml.Parser
import Conformance.Toml.Printer

/-! The configuration of the engine: three sections in a TOML document, in which every section and
every field may be missing. -/

namespace Conformance

/-- How problems are collected. -/
structure ProblemsConfig where
  /-- Whether to collect stuck criteria that are not failed, instead of only warning about them. -/
  includeUnfailedStuck : Bool := true
deriving DecidableEq, Repr

/-- How sample edits are committed. -/
structure SampleEditConfig where
  /-- The name of the retention policy, as it is written. -/
  orphanRetention : String := "discard"
deriving DecidableEq, Repr

/-- How events are reported. -/
structure ObservabilityConfig where
  logLevel : String := "info"
  json : Bool := false
deriving DecidableEq, Repr

structure Config where
  problems : ProblemsConfig := {}
  sampleEdit : SampleEditConfig := {}
  observability : ObservabilityConfig := {}
deriving DecidableEq, Repr

open RecordReader

def ProblemsConfig.reader : RecordReader ProblemsConfig := do
  let includeUnfailedStuck ← optional "include_unfailed_stuck" true
  return { includeUnfailedStuck }

def SampleEditConfig.reader : RecordReader SampleEditConfig := do
  let orphanRetention ← optional "orphan_retention" "discard"
  return { orphanRetention }

def ObservabilityConfig.reader : RecordReader ObservabilityConfig := do
  let logLevel ← optional "log_level" "info"
  let json ← optional "json" false
  return { logLevel, json }

instance : JsonForm ProblemsConfig where
  toJson c := .object [("include_unfailed_stuck", toJson c.includeUnfailedStuck)]
  ofJson? := run ProblemsConfig.reader

instance : JsonForm SampleEditConfig where
  toJson c := .object [("orphan_retention", toJson c.orphanRetention)]
  ofJson? := run SampleEditConfig.reader

instance : JsonForm ObservabilityConfig where
  toJson c := .object [("log_level", toJson c.logLevel), ("json", toJson c.json)]
  ofJson? := run ObservabilityConfig.reader

instance : JsonForm Config where
  toJson c := .object [("problems", toJson c.problems), ("sample_edit", toJson c.sampleEdit),
    ("observability", toJson c.observability)]
  ofJson? := run do
    let problems ← optional "problems" {}
    let sampleEdit ← optional "sample_edit" {}
    let observability ← optional "observability" {}
    return { problems, sampleEdit, observability }

/-- The retention policy in effect: the one named, or the default for an unknown name. -/
def SampleEditConfig.effectiveRetention (c : SampleEditConfig) : OrphanRetention :=
  (OrphanRetention.ofText? c.orphanRetention).getD .discard

namespace Config

def logLevels : List String := ["trace", "debug", "info", "warn", "error"]

/-- Accepts a configuration whose retention policy and log level are known. -/
def validate (c : Config) : Except ConfigError Unit :=
  if (OrphanRetention.ofText? c.sampleEdit.orphanRetention).isNone then
    .error (.invalidValue "sample_edit.orphan_retention"
      ("expected \"discard\" or \"retain\", got " ++ Text.quoted c.sampleEdit.orphanRetention))
  else if !logLevels.contains (Text.lower c.observability.logLevel) then
    .error (.invalidValue "observability.log_level"
      ("unknown level " ++ Text.quoted c.observability.logLevel))
  else .ok ()

/-- The section of a document under a name, or its default if there is none. A section written as
an array may hold more than its fields. -/
def readSection {α : Type} (entries : Toml.Entries) (name : String) (reader : RecordReader α)
    (absent : α) : Option α :=
  match entries.lookup name with
  | none => some absent
  | some node => runLeading reader node.toJson

/-- The configuration that a document holds, before it is validated. -/
def decode? (source : String) : Option Config := do
  let entries ← Toml.parse? source
  let problems ← readSection entries "problems" ProblemsConfig.reader {}
  let sampleEdit ← readSection entries "sample_edit" SampleEditConfig.reader {}
  let observability ← readSection entries "observability" ObservabilityConfig.reader {}
  return { problems, sampleEdit, observability }

/-- The configuration of a document. -/
def ofToml (source : String) : Except ConfigError Config :=
  match decode? source with
  | none => .error (.malformed "not a configuration document")
  | some c => c.validate.map fun _ => c

/-- A truth value as it is written. -/
def printFlag (b : Bool) : String := if b then "true" else "false"

/-- The document of a configuration, with every section and field. -/
def toToml (c : Config) : String :=
  "[problems]\ninclude_unfailed_stuck = " ++ printFlag c.problems.includeUnfailedStuck ++
  "\n\n[sample_edit]\norphan_retention = " ++ Toml.printText c.sampleEdit.orphanRetention ++
  "\n\n[observability]\nlog_level = " ++ Toml.printText c.observability.logLevel ++
  "\njson = " ++ printFlag c.observability.json ++ "\n"

end Config
end Conformance
