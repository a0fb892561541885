/-!
# Kernel dialects

Kernels are written in two dialects: direct calls of backend primitives, and statements over
named indices.
-/
namespace OpGraph

inductive Dialect where
  | direct
  | indexed
  deriving DecidableEq, Inhabited

namespace Dialect

def all : List Dialect :=
  [direct, indexed]

def name : Dialect → String
  | direct => "direct"
  | indexed => "indexed"

/-- Dialect names are read in any case. -/
def ofName? (text : String) : Option Dialect :=
  all.find? fun dialect => dialect.name.toList == text.toList.map Char.toLower

end Dialect

end OpGraph
