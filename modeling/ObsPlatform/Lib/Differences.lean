import ObsPlatform.Lib.Assoc

/-!
# Where two dictionaries differ

The keys of two association lists that are looked up differently, in ascending order. The list
depends on the lookups alone, and on neither side in particular.
-/

namespace ObsPlatform

variable {κ β : Type} [LinearOrder κ] [BEq κ] [LawfulBEq κ] [DecidableEq β]

/- sorted(set(a) | set(b)). -/
def sortedKeys (a b : List (κ × β)) : List κ :=
  ((a ++ b).map Prod.fst).dedup.insertionSort (· ≤ ·)

def differingKeys (a b : List (κ × β)) : List κ :=
  (sortedKeys a b).filter fun k => a.lookup k ≠ b.lookup k

section Keys
variable (a b : List (κ × β))

end Keys

end ObsPlatform
