/-! # Association lists in key order

Lists of pairs whose keys strictly increase: at most one value for a key, and one list for each
assignment of values to keys.
-/

namespace TokenGovernance.Keyed

variable {κ α : Type} [LT κ] [DecidableLT κ] [DecidableEq κ]

/-- The list with a value for a key, in place of the one it had. -/
def insert (k : κ) (a : α) : List (κ × α) → List (κ × α)
  | [] => [(k, a)]
  | (k', a') :: rest =>
    if k = k' then (k, a) :: rest
    else if k < k' then (k, a) :: (k', a') :: rest
    else (k', a') :: insert k a rest

def find? (k : κ) : List (κ × α) → Option α
  | [] => none
  | (k', a) :: rest => if k = k' then some a else find? k rest

/-- The list of the pairs given, a later pair for a key replacing an earlier one. -/
def ofList (pairs : List (κ × α)) : List (κ × α) :=
  pairs.foldl (fun l (k, a) => insert k a l) []

end TokenGovernance.Keyed
