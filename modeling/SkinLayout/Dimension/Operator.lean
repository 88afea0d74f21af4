import SkinLayout.Outcome
import SkinLayout.Text.Blank
/-!
# Operators

Arithmetic on two operands.  Doing nothing gives zero, and so does dividing by
zero; only the invalid operator has no answer.
-/
namespace SkinLayout

inductive Operator where
  | noop
  | add
  | subtract
  | multiply
  | divide
  | invalid
  deriving DecidableEq, Inhabited, Repr

namespace Operator

def name : Operator → String
  | .noop => "Noop"
  | .add => "Add"
  | .subtract => "Subtract"
  | .multiply => "Multiply"
  | .divide => "Divide"
  | .invalid => "Invalid"

/-- The operator of a name.  No name stands for the invalid one, its own neither. -/
def ofName? (s : String) : Option Operator :=
  match s with
  | "Noop" => some .noop
  | "Add" => some .add
  | "Subtract" => some .subtract
  | "Multiply" => some .multiply
  | "Divide" => some .divide
  | _ => none

theorem ofName?_name {op : Operator} (h : op ≠ .invalid) : ofName? op.name = some op := by
  cases op <;> first | rfl | exact absurd rfl h

def apply (op : Operator) (left right : Float32) : Except BadRequest Float32 :=
  match op with
  | .noop => .ok 0
  | .add => .ok (left + right)
  | .subtract => .ok (left - right)
  | .multiply => .ok (left * right)
  | .divide => .ok (if right == 0 then 0 else left / right)
  | .invalid => .error .invalidOperator

end Operator

/-! ## Names in text

Blanks around a name do not count.  Unknown roles and operators become the invalid
ones, so a skin with a misspelt name still loads. -/

def Role.ofText (s : String) : Logged Role :=
  match Role.ofName? (trimmed s) with
  | some r => pure r
  | none => do
    Logged.report (.unknownRole (trimmed s))
    return .invalid

def Operator.ofText (s : String) : Logged Operator :=
  match Operator.ofName? (trimmed s) with
  | some op => pure op
  | none => do
    Logged.report (.unknownOperator (trimmed s))
    return .invalid

def FontMeasure.ofText (s : String) : Except BadRequest FontMeasure :=
  match FontMeasure.ofName? (trimmed s) with
  | some m => .ok m
  | none => .error (.unknownFontMeasure (trimmed s))

def ImageMeasure.ofText (s : String) : Except BadRequest ImageMeasure :=
  match ImageMeasure.ofName? (trimmed s) with
  | some m => .ok m
  | none => .error (.unknownImageMeasure (trimmed s))

end SkinLayout
