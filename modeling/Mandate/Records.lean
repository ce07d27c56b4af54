import Mandate.Engine.Decide
import Mandate.Engine.Report

/-!
# Records

The types whose values are stored or exchanged. Each can be read back from what is written of it,
with one exception: a response is written without its trace. Contracts are only written here,
since reading one takes the time into account.
-/

namespace Mandate

open Mandate.Json

instance : Record PrincipalTrace where
  json := PrincipalTrace.json
  decode := PrincipalTrace.decode

instance : Record RuleTrace where
  json := RuleTrace.json
  decode := RuleTrace.decode

instance : Record Trace where
  json := Trace.json
  decode := Trace.decode

instance : Record Decision where
  json := Decision.json
  decode := Decision.decode

instance : Record VersionStatus where
  json := VersionStatus.json
  decode := VersionStatus.decode

instance : Record ScopeType where
  json := ScopeType.json
  decode := ScopeType.decode

instance : Record Policy where
  json := Policy.json
  decode := Policy.decode

instance : Record PolicyVersion where
  json := PolicyVersion.json
  decode := PolicyVersion.decode

instance : Record PolicyApproval where
  json := PolicyApproval.json
  decode := PolicyApproval.decode

instance : Record PolicyAssignment where
  json := PolicyAssignment.json
  decode := PolicyAssignment.decode

instance : Record PolicyRollout where
  json := PolicyRollout.json
  decode := PolicyRollout.decode

instance : Record ApprovalOutcome where
  json := ApprovalOutcome.json
  decode := ApprovalOutcome.decode

instance : Record AuditAction where
  json := AuditAction.json
  decode := AuditAction.decode

instance : Record LedgerEntry where
  json := LedgerEntry.json
  decode := LedgerEntry.decode

instance : Record Relation.Node where
  json := Relation.Node.json
  decode := Relation.Node.decode

instance : Record Relation.Tuple where
  json := Relation.Tuple.json
  decode := Relation.Tuple.decode

instance : Record Relation.Expansion where
  json := Relation.Expansion.json
  decode := Relation.Expansion.decode

instance : Record Federation.Scope where
  json := Federation.Scope.json
  decode := Federation.Scope.decode

instance : Record Risk.Signals where
  json := Risk.Signals.json
  decode := Risk.Signals.decode

instance : Record Token.Claims where
  json := Token.Claims.json
  decode := Token.Claims.decode

instance : Record TraceRecord where
  json := TraceRecord.json
  decode := TraceRecord.decode

instance : Record Principal where
  json := Principal.json
  decode := Principal.decode

instance : Record Request where
  json := Request.json
  decode := Request.decode

instance : Record Response where
  json := Response.json
  decode := Response.decode

instance : Record Config where
  json := Config.json
  decode := Config.decode

instance : Written Uuid := ⟨.uuid⟩

instance : Written Federation.Contract := ⟨Federation.Contract.json⟩

instance : Written Reputation := ⟨Reputation.json⟩

instance : Written Metrics := ⟨Metrics.json⟩

instance : Written PolicyError := ⟨PolicyError.report⟩

instance : Written GraphError := ⟨GraphError.report⟩

instance : Written AuditError := ⟨AuditError.report id⟩

instance : Written DecisionError := ⟨DecisionError.report⟩

end Mandate
