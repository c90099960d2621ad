/-!
# Pages

A page of a list of results, with the figures that a client needs to ask for the next one. Counts
are words of 64 bits: the start and the end of a page stop at the greatest word instead of passing
it, and at the end of the list.
-/

namespace RecordQuery

def maxCount : Nat := Nat.pow 2 64 - 1

structure Page (α : Type) where
  items : List α
  total : Nat
  page : Nat
  limit : Nat
  hasNext : Bool

namespace Page

variable {α β : Type}

def map (f : α → β) (p : Page α) : Page β := { p with items := p.items.map f }

/-- The page with a number, counted from one, when a page holds `limit` items. -/
def ofList (items : List α) (page limit : Nat) : Page α :=
  let total := items.length
  let start := min (min ((page - 1) * limit) maxCount) total
  let stop := min (min (start + limit) maxCount) total
  { items := (items.drop start).take (stop - start)
    total, page, limit
    hasNext := stop < total }

theorem map_ofList (f : α → β) (items : List α) (page limit : Nat) :
    (ofList items page limit).map f = ofList (items.map f) page limit := by
  simp only [map, ofList, List.map_take, List.map_drop, List.length_map]

end Page

end RecordQuery
