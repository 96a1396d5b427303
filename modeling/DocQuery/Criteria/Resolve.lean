import DocQuery.Criteria.Basic
/-!
# Resolving deferred operands

The operands of a criteria that wait for arguments take them one by one, in the
order in which they are written. A step hands on the arguments that are left,
also when it fails; an argument that cannot be converted is used up.
-/

namespace DocQuery

/-- A step that takes arguments from the front of a list. -/
abbrev Taking (α : Type) := ExceptT Fault (StateM (List Argument)) α

namespace Taking

/-- The next argument, converted. -/
def argument (conversion : Argument.Conversion) : Taking Value := fun
  | [] => (.error (.misuse .missingArgument), [])
  | a :: rest => (conversion.apply a, rest)

end Taking

/-- The operand with its value. -/
def Operand.resolve : Operand → Taking Operand
  | .value v => return .value v
  | .deferred conversion => return .value (← Taking.argument conversion)

/-- The test with the values of its operands. -/
def Test.resolve : Test → Taking Test
  | .check c => return .check c
  | .relation r operand => return .relation r (← operand.resolve)
  | .between low high => return .between (← low.resolve) (← high.resolve)

/-- The criteria with the values of its operands. -/
def Criteria.resolve : Criteria → Taking Criteria
  | .comparison c negated grouped =>
    return .comparison { c with test := ← c.test.resolve } negated grouped
  | .junction j left right negated grouped =>
    return .junction j (← left.resolve) (← right.resolve) negated grouped
  | .not child grouped => return .not (← child.resolve) grouped

end DocQuery
