import Parley.Expression.Node
import Parley.Value.Writing

/-!
# Parley.Expression.Evaluation

The value of an expression tree over named properties. A path without a value is nothing, and
every comparison has a truth value: operands that cannot be compared are neither greater nor less.
-/

namespace Parley

namespace Value

/-- The value read as a number: numbers, and texts that spell a real. -/
def asReal? : Value → Option Extended
  | number n => n.toDouble?.map .finite
  | text s => Number.readReal (Text.trimChars s.toList)
  | _ => none

/-- Numbers are equal when they are near each other. A text equals a value that is neither text nor
nothing when it displays it. All else is equal when it is the same. -/
def equal (left right : Value) : Bool :=
  match left, right with
  | number m, number n =>
    match m.toDouble?, n.toDouble? with
    | some x, some y => x.near y
    | _, _ => m.same n
  | text s, text t => s = t
  | text _, null => false
  | null, text _ => false
  | text s, other => s = other.display
  | other, text s => s = other.display
  | left, right => left.same right

/-- Numbers by size, also where both are spelled in texts; other texts by their characters. -/
def order? (left right : Value) : Option Ordering :=
  match left.asReal?, right.asReal? with
  | some x, some y => x.compare? y
  | _, _ =>
    match left, right with
    | text s, text t => some (compare s t)
    | _, _ => none

/-- A text contains what the value displays, a list an equal item, an object a field of that
name. -/
def holds (container item : Value) : Bool :=
  match container with
  | text s => Text.contains s item.display
  | list items => items.any fun x => x.equal item
  | object fields => Fields.contains item.display fields
  | _ => false

end Value

namespace Comparison

def holds (op : Comparison) (left right : Value) : Bool :=
  match op with
  | equal => left.equal right
  | notEqual => !left.equal right
  | contains => left.holds right
  | greater => left.order? right = some .gt
  | less => left.order? right = some .lt
  | greaterOrEqual => left.order? right = some .gt || left.order? right = some .eq
  | lessOrEqual => left.order? right = some .lt || left.order? right = some .eq

end Comparison

namespace Node

def eval (property? : Path → Option Value) : Node → Value
  | literal value => value
  | path segments => (property? segments).getD .null
  | not inner => .bool !(inner.eval property?).truthy
  | and left right => .bool ((left.eval property?).truthy && (right.eval property?).truthy)
  | or left right => .bool ((left.eval property?).truthy || (right.eval property?).truthy)
  | compare op left right => .bool (op.holds (left.eval property?) (right.eval property?))

end Node

end Parley
