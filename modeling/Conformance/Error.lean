import Conformance.Lifecycle
import Conformance.RuleFile

/-! The errors of the operations that may be refused. Everything else about an audit degrades to
defaults instead of failing. -/

namespace Conformance

/-- Why a configuration was not accepted. -/
inductive ConfigError
  | malformed (reason : String)
  | invalidValue (field reason : String)
deriving DecidableEq, Repr

instance : Notice ConfigError where
  code _ := "CONFIG_ERROR"
  message
    | .malformed reason => "config parse error: " ++ reason
    | .invalidValue field reason => "invalid config value for " ++ field ++ ": " ++ reason

/-- Why an operation on an audit was refused. -/
inductive AuditError
  | invalidRuleFile (cause : RuleFileError)
  | reportMismatch (expected actual : String)
  | staleImpact (sampleId : String)
  | sampleNotFound (sampleId : String)
  | requirementNotFound (key : String)
  | lifecycle (cause : LifecycleError)
  | config (cause : ConfigError)
  | malformedRecord
deriving DecidableEq, Repr

instance : Notice AuditError where
  code
    | .invalidRuleFile cause => Notice.code cause
    | .reportMismatch .. => "REPORT_MISMATCH"
    | .staleImpact _ => "STALE_IMPACT"
    | .sampleNotFound _ => "SAMPLE_NOT_FOUND"
    | .requirementNotFound _ => "REQUIREMENT_NOT_FOUND"
    | .lifecycle cause => Notice.code cause
    | .config cause => Notice.code cause
    | .malformedRecord => "SERIALIZATION_ERROR"
  message
    | .invalidRuleFile cause => "invalid rule file: " ++ Notice.message cause
    | .reportMismatch expected actual =>
      "change report does not match this update: expected " ++ expected ++ ", got " ++ actual
    | .staleImpact sampleId => "sample edit impact is stale for sample " ++ sampleId
    | .sampleNotFound sampleId => "sample not found: " ++ sampleId
    | .requirementNotFound key => "requirement not found: " ++ key
    | .lifecycle cause => Notice.message cause
    | .config cause => Notice.message cause
    | .malformedRecord => "malformed record"

end Conformance
