import RecordQuery.Text.Basic

/-!
# Query parameters

Parameters give each key a list of values. The keys are held in the order of their bytes, each
once. A key may be present without values; `firstValues` passes it over.
-/

namespace RecordQuery

open Text

namespace Params

abbrev Sorted (entries : List (String × List String)) : Prop :=
  entries.Pairwise fun a b => compareBytes a.1 b.1 = .lt

def updateEntries (key : String) (f : List String → List String) :
    List (String × List String) → List (String × List String)
  | [] => [(key, f [])]
  | (k, values) :: entries =>
    match compareBytes key k with
    | .lt => (key, f []) :: (k, values) :: entries
    | .eq => (k, f values) :: entries
    | .gt => (k, values) :: updateEntries key f entries

theorem mem_updateEntries {key : String} {f : List String → List String}
    {e : String × List String} : ∀ {entries},
      e ∈ updateEntries key f entries → e.1 = key ∨ e ∈ entries
  | [], h => by simp_all [updateEntries]
  | (k, values) :: entries, h => by
      rw [updateEntries] at h
      split at h
      · rcases List.mem_cons.1 h with rfl | h
        · exact .inl rfl
        · exact .inr h
      · rename_i hk
        rcases List.mem_cons.1 h with rfl | h
        · exact .inl (compareBytes_eq_iff.1 hk).symm
        · exact .inr (List.mem_cons_of_mem _ h)
      · rcases List.mem_cons.1 h with rfl | h
        · exact .inr (by simp)
        · exact (mem_updateEntries h).imp id (List.mem_cons_of_mem _)

theorem sorted_updateEntries (key : String) (f : List String → List String) :
    ∀ {entries}, Sorted entries → Sorted (updateEntries key f entries)
  | [], _ => by simp [updateEntries, Sorted]
  | (k, values) :: entries, h => by
      obtain ⟨hk, hs⟩ := List.pairwise_cons.1 h
      rw [updateEntries]
      split
      · rename_i hlt
        refine List.pairwise_cons.2 ⟨fun e he => ?_, h⟩
        rcases List.mem_cons.1 he with rfl | he
        · exact hlt
        · exact compareBytes_lt_trans hlt (hk e he)
      · exact List.pairwise_cons.2 ⟨hk, hs⟩
      · rename_i hgt
        refine List.pairwise_cons.2 ⟨fun e he => ?_, sorted_updateEntries key f hs⟩
        rcases mem_updateEntries he with he | he
        · simpa [he] using compareBytes_gt_iff.1 hgt
        · exact hk e he

end Params

structure Params where
  entries : List (String × List String)
  sorted : Params.Sorted entries
deriving DecidableEq

namespace Params

def empty : Params := ⟨[], .nil⟩

def update (p : Params) (key : String) (f : List String → List String) : Params :=
  ⟨updateEntries key f p.entries, sorted_updateEntries key f p.sorted⟩

def append (p : Params) (key value : String) : Params := p.update key (· ++ [value])

def set (p : Params) (key value : String) : Params := p.update key fun _ => [value]

def setAll (p : Params) (key : String) (values : List String) : Params :=
  p.update key fun _ => values

def extend (p : Params) (pairs : List (String × String)) : Params :=
  pairs.foldl (fun p (key, value) => p.append key value) p

def ofPairs (pairs : List (String × String)) : Params := empty.extend pairs

/-- The parameters with the given lists of values; of two lists for one key the later counts. -/
def ofLists (lists : List (String × List String)) : Params :=
  lists.foldl (fun p (key, values) => p.setAll key values) empty

def getAll (p : Params) (key : String) : List String := (List.lookup key p.entries).getD []

def get? (p : Params) (key : String) : Option String := (p.getAll key).head?

/-- The keys that have a value, in order, each with its first value. -/
def firstValues (p : Params) : List (String × String) :=
  p.entries.filterMap fun (key, values) => values.head?.map (key, ·)

/-- The count of keys, with or without values. -/
def size (p : Params) : Nat := p.entries.length

end Params

end RecordQuery
