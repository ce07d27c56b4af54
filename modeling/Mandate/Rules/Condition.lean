import Mandate.Number.Reading
import Mandate.Rules.FieldPath

/-!
# Conditions

The condition of a rule is a boolean expression over the input document. It is parsed once and
then only evaluated:

* nothing, null or an empty object always holds;
* an object with the single key `and`, `or` or `not` combines further objects;
* any other object maps field paths to objects of operators, all of which have to hold.

A field that is not there fails all of its operators. Comparison for equality and membership
goes by the plain text of a value, so `"7"`, `7` and `7.0` are equal; comparison by size goes by
number.
-/

namespace Mandate.Rules

open Mandate.Json Mandate.Text

/-- A comparison of a field with an operand. -/
inductive Op where
  | eq
  | neq
  | gt
  | gte
  | lt
  | lte
  | isIn
  | contains
  deriving DecidableEq, Repr

/-- The operator with a given name, in any case. -/
def Op.ofName? (name : String) : Option Op :=
  match lowerAscii name with
  | "eq" => some .eq
  | "neq" => some .neq
  | "gt" => some .gt
  | "gte" => some .gte
  | "lt" => some .lt
  | "lte" => some .lte
  | "in" => some .isIn
  | "contains" => some .contains
  | _ => none

/-- A field with the operators that it has to satisfy. -/
structure FieldTest where
  path : FieldPath
  ops : List (Op × Value)
  deriving DecidableEq, Repr

/-- A boolean expression over the input document. -/
inductive Condition where
  | always
  | all (conditions : List Condition)
  | any (conditions : List Condition)
  | not (condition : Condition)
  | fields (tests : List FieldTest)
  deriving Repr

/-- Doubles below this bound that are integral are rendered as integers. -/
def integralBound : Nat := 1000000000000000

/-- The plain text of a value: a string without quotes, an integral double without fraction. -/
def render : Value → String
  | .string s => s
  | .number (.float x) =>
      match x.toInt? with
      | some n =>
          if n.natAbs < integralBound then String.ofList (Number.int n).chars
          else String.ofList x.toPlain
      | none => String.ofList x.toPlain
  | v => v.text

/-- The number that a value is or spells. -/
def toNumber? : Value → Option Binary64
  | .number (.int n) => some (Binary64.ofInt n)
  | .number (.float x) => some x
  | .string s => Binary64.ofText? (trim s.toList)
  | _ => none

/-- Compare two values by number. It fails if one of them is none. -/
def compareBy (holds : Binary64 → Binary64 → Bool) (lhs rhs : Value) : Bool :=
  match toNumber? lhs, toNumber? rhs with
  | some x, some y => holds x y
  | _, _ => false

/-- Whether a value occurs among items, by plain text. -/
def isAmong (needle : Value) (items : List Value) : Bool :=
  items.any fun item => render item == render needle

/-- Whether a field value satisfies an operator with its operand. -/
def Op.holds (op : Op) (lhs rhs : Value) : Bool :=
  match op with
  | .eq => render lhs == render rhs
  | .neq => render lhs != render rhs
  | .gt => compareBy (fun x y => y.lt x) lhs rhs
  | .gte => compareBy (fun x y => y.le x) lhs rhs
  | .lt => compareBy Binary64.lt lhs rhs
  | .lte => compareBy Binary64.le lhs rhs
  | .isIn =>
      match rhs with
      | .array items => isAmong lhs items
      | _ => false
  | .contains =>
      match lhs with
      | .array items => isAmong rhs items
      | _ => occursIn (render rhs).toList (render lhs).toList

/-- Whether a document satisfies a field test. -/
def FieldTest.holds (test : FieldTest) (input : Value) : Bool :=
  match test.path.resolve input with
  | some value => test.ops.all fun (op, rhs) => op.holds value rhs
  | none => false

namespace Condition

mutual

/-- Whether a document satisfies a condition. -/
def holds (input : Value) : Condition → Bool
  | .always => true
  | .all conditions => allHold input conditions
  | .any conditions => anyHolds input conditions
  | .not condition => !holds input condition
  | .fields tests => tests.all (·.holds input)

def allHold (input : Value) : List Condition → Bool
  | [] => true
  | c :: rest => holds input c && allHold input rest

def anyHolds (input : Value) : List Condition → Bool
  | [] => false
  | c :: rest => holds input c || anyHolds input rest

end

/-- The operators of one field. -/
def parseOps (path : String) : Members → Except BodyFault (List (Op × Value))
  | [] => .ok []
  | (name, rhs) :: rest =>
      match Op.ofName? name with
      | none => .error (.unknownOperator name path)
      | some op => (parseOps path rest).map ((op, rhs) :: ·)

/-- The tests of a map from field paths to operators. -/
def parseFields : Members → Except BodyFault (List FieldTest)
  | [] => .ok []
  | (path, .object ops) :: rest => do
      let ops ← parseOps path ops
      let parsed ← FieldPath.parse path
      let more ← parseFields rest
      return ⟨parsed, ops⟩ :: more
  | (path, _) :: _ => .error (.fieldNotObject path)

/-- The keys that combine expressions. The first of them that is present counts. -/
def combinators : List String := ["and", "or", "not"]

/-- The combinator that an object uses. -/
def combinator? (members : Members) : Option String :=
  combinators.find? (members.has ·)

mutual

/-- Parse an expression that has to be there. -/
def parse : Value → Except BodyFault Condition
  | .object [] => .ok .always
  | .object [(key, value)] =>
      if key = "not" then (parse value).map .not
      else if key = "and" ∨ key = "or" then
        match value with
        | .array items =>
            (parseAll items).map (if key = "and" then Condition.all else Condition.any)
        | _ => .error (.combinatorNotArray key)
      else (parseFields [(key, value)]).map .fields
  | .object members =>
      match combinator? members with
      | some key => .error (.mixedCombinator key)
      | none => (parseFields members).map .fields
  | other => .error (.expressionNotObject other)

/-- Parse every expression of a list. -/
def parseAll : List Value → Except BodyFault (List Condition)
  | [] => .ok []
  | v :: rest => do
      let c ← parse v
      let cs ← parseAll rest
      return c :: cs

end

/-- Parse the condition of a rule, which may be absent or null. -/
def parseWhen : Option Value → Except BodyFault Condition
  | none => .ok .always
  | some .null => .ok .always
  | some v => parse v

/-- Whether a condition is the one that always holds. -/
def isAlways : Condition → Bool
  | .always => true
  | _ => false

end Condition

end Mandate.Rules
