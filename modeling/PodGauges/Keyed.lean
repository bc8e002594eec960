/-!
Lists of values under distinct keys, in the order in which the keys first came.
-/

namespace PodGauges

/-- A value under each of some keys, in order of arrival. -/
abbrev Keyed (κ ν : Type) := List (κ × ν)

namespace Keyed

variable {κ ν : Type} [DecidableEq κ]

/-- A key that is there keeps its place and takes the new value; a new one goes to the end. -/
def put (k : κ) (v : ν) : Keyed κ ν → Keyed κ ν
  | [] => [(k, v)]
  | (k', v') :: rest => if k' = k then (k, v) :: rest else (k', v') :: put k v rest

def get? (k : κ) : Keyed κ ν → Option ν
  | [] => none
  | (k', v') :: rest => if k' = k then some v' else get? k rest

/-- Pairs put one after another. -/
def ofPairs (pairs : List (κ × ν)) : Keyed κ ν :=
  pairs.foldl (fun table (k, v) => table.put k v) []

end Keyed

end PodGauges
