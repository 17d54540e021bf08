import GraphSegments.Sql.Condition

/-!
How deep the trees of printed conditions are. A database takes no statement whose tree, together
with those of the subqueries that it is read in, is deeper than its limit.
-/

namespace GraphSegments

/-- The height of a column, or of the call that gives its lower case. -/
def Term.height : Term → Nat
  | .plain _ => 1
  | .lowered _ => 2

namespace Condition

/-- The height of a list of conditions that an operator joins one after the other; `joined` is that
of the ones before. -/
def chainHeight (joined : Nat) : List Nat → Nat
  | [] => joined
  | height :: rest => chainHeight (1 + max joined height) rest

/-- The height of conditions that an operator joins. Without any a constant stands for them. -/
def joinedHeight : List Nat → Nat
  | [] => 1
  | height :: rest => chainHeight height rest

mutual

/-- The height of the tree of a condition, subqueries included. A list of one is read as a
comparison with its element, and a negation is a node of its own. -/
def height : Condition → Nat
  | compare term _ _ => 1 + term.height
  | oneOf _ params => if params.length = 1 then 3 else 2
  | noneOf _ params =>
    if params.isEmpty then 2 else if params.length = 1 then 4 else 3
  | present _ | never => 2
  | locate term _ => 2 + term.height
  | matchesPattern term _ => 1 + term.height
  | among inner => 1 + height inner
  | notAmong inner => 2 + height inner
  | all conditions | any conditions => joinedHeight (heights conditions)

def heights : List Condition → List Nat
  | [] => []
  | condition :: rest => height condition :: heights rest

end

mutual

/-- The deepest that reading the subqueries of a condition goes. Each is read within the condition
that has it. -/
def subqueryDepth : Condition → Nat
  | among inner | notAmong inner => height inner + subqueryDepth inner
  | all conditions | any conditions => subqueryDepths conditions
  | _ => 0

def subqueryDepths : List Condition → Nat
  | [] => 0
  | condition :: rest => max (subqueryDepth condition) (subqueryDepths rest)

end

/-- How deep reading a condition goes. -/
def depth (condition : Condition) : Nat := condition.height + condition.subqueryDepth

end Condition

end GraphSegments
