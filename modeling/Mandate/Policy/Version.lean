import Mandate.Decision
import Mandate.Digest

/-!
# Policies, their versions and where they apply

A policy is created once and never changes; what changes is added as a further version. A version
begins as a draft, becomes approved once enough people have signed it, and active when it is put
to use. An assignment binds a policy to a scope, and a rollout sends a share of the requests to
one particular version.
-/

namespace Mandate

open Mandate.Json Mandate.Time

/-- A named authorization artifact of an organisation. Its engine decides what a body means. -/
structure Policy where
  id : Uuid
  orgId : Uuid
  name : String
  engine : String
  createdBy : Option Uuid
  createdAt : Timestamp
  deriving DecidableEq, Repr, Inhabited

/-- How far a version has come. -/
inductive VersionStatus where
  | draft
  | approved
  | active
  deriving DecidableEq, Repr, Inhabited

/-- A numbered snapshot of a policy body. Only its status and the marks that go with the status
ever change. -/
structure PolicyVersion where
  policyId : Uuid
  version : Nat
  body : Value
  checksum : String
  status : VersionStatus
  createdBy : Option Uuid
  createdAt : Timestamp
  approvedBy : Option Uuid
  approvedAt : Option Timestamp
  activatedAt : Option Timestamp
  deriving DecidableEq, Repr, Inhabited

/-- One person's signature under a version. -/
structure PolicyApproval where
  policyId : Uuid
  version : Nat
  userId : Uuid
  approvedAt : Timestamp
  deriving DecidableEq, Repr, Inhabited

/-- The kinds of scopes a policy can be bound to. -/
inductive ScopeType where
  | org
  | team
  | agent
  deriving DecidableEq, Repr, Inhabited

/-- Binds a policy to a scope. -/
structure PolicyAssignment where
  policyId : Uuid
  scopeType : ScopeType
  scopeId : String
  createdAt : Timestamp
  deriving DecidableEq, Repr, Inhabited

/-- Sends a percentage of an organisation's requests to a version. -/
structure PolicyRollout where
  orgId : Uuid
  policyId : Uuid
  version : Nat
  percent : Nat
  active : Bool
  createdAt : Timestamp
  deriving DecidableEq, Repr, Inhabited

/-- A policy with its active version. -/
structure ActiveAssignment where
  policy : Policy
  version : PolicyVersion
  deriving DecidableEq, Repr, Inhabited

namespace VersionStatus

def name : VersionStatus → String
  | .draft => "draft"
  | .approved => "approved"
  | .active => "active"

def ofName? : String → Option VersionStatus
  | "draft" => some .draft
  | "approved" => some .approved
  | "active" => some .active
  | _ => none

theorem ofName?_name (s : VersionStatus) : ofName? s.name = some s := by
  cases s <;> rfl

/-- The forward steps. Approving an approved version again changes nothing and is allowed. -/
def canBecome : VersionStatus → VersionStatus → Bool
  | .draft, .approved => true
  | .approved, .approved => true
  | .approved, .active => true
  | _, _ => false

def json (s : VersionStatus) : Value := .string s.name

def decode : Decoder VersionStatus := Decoder.name ofName?

end VersionStatus

namespace ScopeType

def name : ScopeType → String
  | .org => "org"
  | .team => "team"
  | .agent => "agent"

def ofName? : String → Option ScopeType
  | "org" => some .org
  | "team" => some .team
  | "agent" => some .agent
  | _ => none

theorem ofName?_name (s : ScopeType) : ofName? s.name = some s := by
  cases s <;> rfl

def json (s : ScopeType) : Value := .string s.name

def decode : Decoder ScopeType := Decoder.name ofName?

end ScopeType

namespace Policy

def json (p : Policy) : Value :=
  .object <| field "id" (.uuid p.id) ++ field "org_id" (.uuid p.orgId) ++
    field "name" (.string p.name) ++ field "engine_type" (.string p.engine) ++
    optionalField "created_by" p.createdBy .uuid ++ field "created_at" (.time p.createdAt)

def decode : Decoder Policy := Decoder.record do
  let id ← Fields.required "id" Decoder.uuid
  let orgId ← Fields.required "org_id" Decoder.uuid
  let name ← Fields.required "name" Decoder.string
  let engine ← Fields.required "engine_type" Decoder.string
  let createdBy ← Fields.optional "created_by" Decoder.uuid
  let createdAt ← Fields.required "created_at" Decoder.time
  return { id, orgId, name, engine, createdBy, createdAt }

end Policy

namespace PolicyVersion

/-- A fresh draft. -/
def draft (policyId : Uuid) (version : Nat) (body : Value) (createdBy : Option Uuid)
    (now : Timestamp) : PolicyVersion :=
  { policyId, version, body, checksum := Digest.checksum body, status := .draft, createdBy,
    createdAt := now, approvedBy := none, approvedAt := none, activatedAt := none }

/-- What identifies a version: its policy and its number. -/
def key (v : PolicyVersion) : Uuid × Nat := (v.policyId, v.version)

/-- The version once it is approved. -/
def approved (v : PolicyVersion) (approvedBy : Option Uuid) (now : Timestamp) : PolicyVersion :=
  { v with status := .approved, approvedBy, approvedAt := some now }

/-- The version once it is active. -/
def activated (v : PolicyVersion) (now : Timestamp) : PolicyVersion :=
  { v with status := .active, activatedAt := some now }

/-- The version once another one has become active. -/
def demoted (v : PolicyVersion) : PolicyVersion :=
  { v with status := .draft }

def json (v : PolicyVersion) : Value :=
  .object <| field "policy_id" (.uuid v.policyId) ++ field "version" (.nat v.version) ++
    field "body" v.body ++ field "checksum" (.string v.checksum) ++
    field "status" v.status.json ++ optionalField "created_by" v.createdBy .uuid ++
    field "created_at" (.time v.createdAt) ++ optionalField "approved_by" v.approvedBy .uuid ++
    optionalField "approved_at" v.approvedAt .time ++
    optionalField "activated_at" v.activatedAt .time

def decode : Decoder PolicyVersion := Decoder.record do
  let policyId ← Fields.required "policy_id" Decoder.uuid
  let version ← Fields.required "version" (Decoder.unsigned 32)
  let body ← Fields.required "body" Decoder.document
  let checksum ← Fields.required "checksum" Decoder.string
  let status ← Fields.required "status" VersionStatus.decode
  let createdBy ← Fields.optional "created_by" Decoder.uuid
  let createdAt ← Fields.required "created_at" Decoder.time
  let approvedBy ← Fields.optional "approved_by" Decoder.uuid
  let approvedAt ← Fields.optional "approved_at" Decoder.time
  let activatedAt ← Fields.optional "activated_at" Decoder.time
  return { policyId, version, body, checksum, status, createdBy, createdAt, approvedBy,
           approvedAt, activatedAt }

end PolicyVersion

namespace PolicyApproval

/-- What identifies a signature: the version and who signed it. -/
def key (a : PolicyApproval) : Uuid × Nat × Uuid := (a.policyId, a.version, a.userId)

def json (a : PolicyApproval) : Value :=
  .object <| field "policy_id" (.uuid a.policyId) ++ field "version" (.nat a.version) ++
    field "user_id" (.uuid a.userId) ++ field "approved_at" (.time a.approvedAt)

def decode : Decoder PolicyApproval := Decoder.record do
  let policyId ← Fields.required "policy_id" Decoder.uuid
  let version ← Fields.required "version" (Decoder.unsigned 32)
  let userId ← Fields.required "user_id" Decoder.uuid
  let approvedAt ← Fields.required "approved_at" Decoder.time
  return ⟨policyId, version, userId, approvedAt⟩

end PolicyApproval

namespace PolicyAssignment

def json (a : PolicyAssignment) : Value :=
  .object <| field "policy_id" (.uuid a.policyId) ++ field "scope_type" a.scopeType.json ++
    field "scope_id" (.string a.scopeId) ++ field "created_at" (.time a.createdAt)

def decode : Decoder PolicyAssignment := Decoder.record do
  let policyId ← Fields.required "policy_id" Decoder.uuid
  let scopeType ← Fields.required "scope_type" ScopeType.decode
  let scopeId ← Fields.required "scope_id" Decoder.string
  let createdAt ← Fields.required "created_at" Decoder.time
  return ⟨policyId, scopeType, scopeId, createdAt⟩

end PolicyAssignment

namespace PolicyRollout

def json (r : PolicyRollout) : Value :=
  .object <| field "org_id" (.uuid r.orgId) ++ field "policy_id" (.uuid r.policyId) ++
    field "version" (.nat r.version) ++ field "percent" (.nat r.percent) ++
    field "active" (.bool r.active) ++ field "created_at" (.time r.createdAt)

def decode : Decoder PolicyRollout := Decoder.record do
  let orgId ← Fields.required "org_id" Decoder.uuid
  let policyId ← Fields.required "policy_id" Decoder.uuid
  let version ← Fields.required "version" (Decoder.unsigned 32)
  let percent ← Fields.required "percent" (Decoder.unsigned 8)
  let active ← Fields.required "active" Decoder.bool
  let createdAt ← Fields.required "created_at" Decoder.time
  return ⟨orgId, policyId, version, percent, active, createdAt⟩

end PolicyRollout

end Mandate
