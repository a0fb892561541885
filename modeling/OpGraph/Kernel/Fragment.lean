import OpGraph.Kernel.Template

/-!
# Kernel fragments

The kernel of one operator: its code and, in the indexed dialect only, the execution plan
that is written after the code.
-/
namespace OpGraph

structure Fragment where
  dialect : Dialect
  code : String
  plan : Option String
  deriving DecidableEq, Inhabited

namespace Fragment

def make (dialect : Dialect) (code : String) (plan : Option String) : Except Failure Fragment :=
  match plan, dialect with
  | some plan, .direct => .error (.planOutsideIndexed plan)
  | plan, dialect => .ok ⟨dialect, code, plan⟩

def direct (code : String) : Fragment :=
  ⟨.direct, code, none⟩

def indexed (code plan : String) : Fragment :=
  ⟨.indexed, code, some plan⟩

def planRule (fragment : Fragment) : String :=
  match fragment.plan with
  | none => ""
  | some plan => " ## @: plan/" ++ plan ++ " "

def text (fragment : Fragment) : String :=
  fragment.code ++ fragment.planRule

end Fragment

namespace Dialect

def ofName (name : String) : Except Failure Dialect :=
  match ofName? name with
  | some dialect => .ok dialect
  | none => .error (.unknownDialect name)

/-- A dialect by its name exactly. -/
def ofExactName (name : String) : Except Failure Dialect :=
  match all.find? fun dialect => dialect.name == name with
  | some dialect => .ok dialect
  | none => .error .notADialect

def ofValue : Value → Except Failure Dialect
  | .text name => ofName name
  | _ => .error .notAText

end Dialect

end OpGraph
