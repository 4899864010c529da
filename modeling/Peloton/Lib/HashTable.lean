import Mathlib.Data.List.Basic

set_option autoImplicit false

namespace HashTable

variable {K V : Type} (hash : K → UInt64) (equal : K → K → Bool)

def Matches (probe : K) (entry : K × V) : Bool := hash entry.1 == hash probe && equal probe entry.1

def find? (table : List (K × V)) (probe : K) : Option (K × V) :=
  table.find? (Matches hash equal probe)

def upsert (table : List (K × V)) (probe : K) (init : V) (f : V → V) : List (K × V) :=
  match table with
  | [] => [(probe, f init)]
  | entry :: rest =>
    if Matches hash equal probe entry then (entry.1, f entry.2) :: rest
    else entry :: upsert rest probe init f

def modify (table : List (K × V)) (probe : K) (f : V → V) : List (K × V) :=
  match table with
  | [] => []
  | entry :: rest =>
    if Matches hash equal probe entry then (entry.1, f entry.2) :: rest
    else entry :: modify rest probe f

variable {hash equal}

theorem matches_self {probe : K} (v : V) (reflexive : equal probe probe = true) :
    Matches hash equal probe (probe, v) = true := by
  simp [Matches, reflexive]

@[simp] theorem find?_nil (probe : K) : find? hash equal ([] : List (K × V)) probe = none := rfl

theorem find?_cons (entry : K × V) (rest : List (K × V)) (probe : K) :
    find? hash equal (entry :: rest) probe =
      if Matches hash equal probe entry then some entry else find? hash equal rest probe := by
  by_cases h : Matches hash equal probe entry <;> simp [find?, List.find?_cons, h]

end HashTable
