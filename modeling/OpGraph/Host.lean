/-!
# Hosts

What is computed may not fit the memory of the host that computes it. How much it holds differs
from host to host.
-/
namespace OpGraph

class Host where
  /-- Arrays of so many bytes cannot be held. -/
  memoryLimit : Nat
  /-- Lists of so many dimensions cannot be held. -/
  rankLimit : Nat

/-- A host with the address space of a 64-bit machine. -/
@[reducible]
def Host.wide : Host where
  memoryLimit := Nat.pow 2 47
  rankLimit := Nat.pow 2 44

end OpGraph
