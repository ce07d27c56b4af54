import Mandate.Decision
import Mandate.Regex.Parser

/-!
# Federation

An organisation may act in another one under a contract. The scope of a contract lists what may
be done and to which resources; an empty list restricts nothing. Among several active contracts
the latest one counts.

An entry of a list is `*` for everything, `re:` and a regular expression, a text with a trailing
`*` for everything that begins with it, or else a text that stands for itself. An expression that
cannot be read matches nothing.
-/

namespace Mandate.Federation

open Mandate.Json Mandate.Time Mandate.Text

/-- The wording of the refusals that concern federation. -/
def noContract : String := "No federation contract"

def actionNotAllowed : String := "Federation: action not allowed by contract"

def resourceNotAllowed : String := "Federation: resource not allowed by contract"

def attestationRequired : String := "Cross-org requires attestation auth"

/-- The kind of authentication that satisfies zero trust. -/
def attest : String := "attest"

/-- An entry of a list of what is allowed. -/
inductive Entry where
  | everything
  | expression (pattern : Option Regex.Pattern)
  | startingWith (start : List Char)
  | exactly (text : String)

namespace Entry

/-- Read an entry. -/
def ofText (text : String) : Entry :=
  let s := text.toList
  if s = ['*'] then .everything
  else
    match dropStart? ['r', 'e', ':'] s with
    | some pattern => .expression (Regex.Pattern.ofText? (String.ofList pattern))
    | none =>
        if s.getLast? = some '*' then .startingWith s.dropLast else .exactly text

/-- Whether an entry allows a value. -/
def allows (value : String) : Entry → Bool
  | .everything => true
  | .expression (some pattern) => pattern.isMatch value
  | .expression none => false
  | .startingWith start => start.isPrefixOf value.toList
  | .exactly text => value == text

end Entry

/-- Whether any entry of a list allows a value. -/
def matchesAllowed (value : String) (allowed : List String) : Bool :=
  allowed.any fun entry => (Entry.ofText entry).allows value

/-- What a contract permits. -/
structure Scope where
  allowedActions : List String
  allowedResources : List String
  deriving DecidableEq, Repr, Inhabited

namespace Scope

/-- The scope that restricts nothing. -/
def unrestricted : Scope := ⟨[], []⟩

/-- Whether a list permits a value. No value, and no list, needs no permission. -/
def permits (allowed : List String) (value : String) : Bool :=
  value.isEmpty || allowed.isEmpty || matchesAllowed value allowed

def permitsAction (scope : Scope) (action : String) : Bool :=
  permits scope.allowedActions action

def permitsResource (scope : Scope) (resource : String) : Bool :=
  permits scope.allowedResources resource

def json (scope : Scope) : Value :=
  .object <| field "allowed_actions" (.strings scope.allowedActions) ++
    field "allowed_resources" (.strings scope.allowedResources)

def decode : Decoder Scope := Decoder.record do
  let allowedActions ← Fields.withDefault "allowed_actions" Decoder.strings []
  let allowedResources ← Fields.withDefault "allowed_resources" Decoder.strings []
  return ⟨allowedActions, allowedResources⟩

end Scope

/-- An agreement that lets one organisation act in another. -/
structure Contract where
  orgId : Uuid
  counterpartyOrgId : Uuid
  scope : Scope
  active : Bool
  createdAt : Timestamp
  deriving DecidableEq, Repr, Inhabited

namespace Contract

def json (c : Contract) : Value :=
  .object <| field "org_id" (.uuid c.orgId) ++
    field "counterparty_org_id" (.uuid c.counterpartyOrgId) ++ field "scope" c.scope.json ++
    field "active" (.bool c.active) ++ field "created_at" (.time c.createdAt)

/-- Read a contract. One without a time is made now. -/
def decode (now : Timestamp) : Decoder Contract := Decoder.record do
  let orgId ← Fields.required "org_id" Decoder.uuid
  let counterpartyOrgId ← Fields.required "counterparty_org_id" Decoder.uuid
  let scope ← Fields.withDefault "scope" Scope.decode .unrestricted
  let active ← Fields.withDefault "active" Decoder.bool true
  let createdAt ← Fields.withDefault "created_at" Decoder.time now
  return { orgId, counterpartyOrgId, scope, active, createdAt }

/-- Whether a contract is in force from one organisation to another. -/
def binds (c : Contract) (org counterparty : Uuid) : Bool :=
  c.active && c.orgId == org && c.counterpartyOrgId == counterparty

/-- The later of two contracts; the second of two that were made at the same time. -/
def later (best : Option Contract) (c : Contract) : Option Contract :=
  match best with
  | some b => if b.createdAt.le c.createdAt then some c else some b
  | none => some c

end Contract

/-- The contracts in the order in which they were made known. -/
structure Contracts where
  contracts : List Contract := []
  deriving DecidableEq, Repr, Inhabited

namespace Contracts

/-- Make a contract known. -/
def insert (store : Contracts) (c : Contract) : Contracts :=
  ⟨store.contracts ++ [c]⟩

/-- The latest contract in force from one organisation to another. -/
def active? (store : Contracts) (org counterparty : Uuid) : Option Contract :=
  (store.contracts.filter (·.binds org counterparty)).foldl Contract.later none

end Contracts

end Mandate.Federation
