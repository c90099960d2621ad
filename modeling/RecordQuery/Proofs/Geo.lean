import RecordQuery.Geo
import RecordQuery.Proofs.Order.Sorted

/-!
# Nearest first

A record is located when both coordinates lead to numbers (`Coordinates.locate_eq_some_iff`), and
then it has one distance from the origin. Sorting by distance is a stable sort of the located items
with their distances (`nearestBy_eq`): it leaves out the other items and nothing else, no item is
farther away than one behind it, and items at one distance keep their order (`nearestBy_sorts`).
-/

namespace RecordQuery

theorem Value.asNumber?_eq_some_iff {v : Value} {n : Number} :
    v.asNumber? = some n ↔ v = .number n := by
  cases v <;> simp [asNumber?]

namespace Geo

/-! ## Places of records -/

def LeadsTo (r : Record) (path : FieldPath) (n : Number) : Prop :=
  ∃ v, r.resolve path = .ok v ∧ v.deref = some (.number n)

theorem degrees?_eq_some_iff {r : Record} {path : FieldPath} {x : Binary .double} :
    degrees? r path = some x ↔ ∃ n, LeadsTo r path n ∧ n.toDouble = x := by
  unfold degrees? LeadsTo
  cases r.resolve path with
  | error e => simp
  | ok v => simp [Option.bind_eq_some_iff, Value.asNumber?_eq_some_iff]

namespace Coordinates

variable {c : Coordinates} {r : Record}

def LocatedAt (c : Coordinates) (r : Record) (p : Point) : Prop :=
  ∃ m n, LeadsTo r c.lat m ∧ LeadsTo r c.lng n ∧ p = ⟨m.toDouble, n.toDouble⟩

theorem locate_eq_some_iff {p : Point} : c.locate r = some p ↔ c.LocatedAt r p := by
  simp only [locate, Option.bind_eq_some_iff, Option.map_eq_some_iff, degrees?_eq_some_iff]
  constructor
  · rintro ⟨_, ⟨m, hm, rfl⟩, _, ⟨n, hn, rfl⟩, rfl⟩
    exact ⟨m, n, hm, hn, rfl⟩
  · rintro ⟨m, n, hm, hn, rfl⟩
    exact ⟨_, ⟨m, hm, rfl⟩, _, ⟨n, hn, rfl⟩, rfl⟩

def Locates (c : Coordinates) (r : Record) : Prop :=
  (∃ m, LeadsTo r c.lat m) ∧ ∃ n, LeadsTo r c.lng n

theorem locates_iff : c.Locates r ↔ (c.locate r).isSome = true := by
  simp only [Option.isSome_iff_exists, locate_eq_some_iff, LocatedAt, Locates]
  constructor
  · rintro ⟨⟨m, hm⟩, n, hn⟩
    exact ⟨_, m, n, hm, hn, rfl⟩
  · rintro ⟨_, m, n, hm, hn, -⟩
    exact ⟨⟨m, hm⟩, n, hn⟩

instance : Decidable (c.Locates r) := decidable_of_iff _ locates_iff.symm

end Coordinates

/-! ## Distances -/

section Distances

variable {α : Type} {measure : Point → Point → Binary .double} {record : α → Record}
  {c : Coordinates} {origin : Point} {items : List α}

def IsAway (measure : Point → Point → Binary .double) (c : Coordinates) (origin : Point)
    (r : Record) (d : Binary .double) : Prop :=
  ∃ p, c.LocatedAt r p ∧ measure origin p = d

theorem isAway_iff {r : Record} {d : Binary .double} :
    IsAway measure c origin r d ↔ (c.locate r).map (measure origin) = some d := by
  simp only [IsAway, Option.map_eq_some_iff, Coordinates.locate_eq_some_iff]

theorem IsAway.unique {r : Record} {d e : Binary .double} (hd : IsAway measure c origin r d)
    (he : IsAway measure c origin r e) : d = e :=
  Option.some.inj ((isAway_iff.1 hd).symm.trans (isAway_iff.1 he))

def withDistances (measure : Point → Point → Binary .double) (record : α → Record)
    (c : Coordinates) (origin : Point) (items : List α) : List (Binary .double × α) :=
  items.filterMap fun item => (c.locate (record item)).map fun p => (measure origin p, item)

def nearer (a b : Binary .double × α) : Bool := a.1.totalKey < b.1.totalKey

theorem nearestBy_eq : nearestBy measure record c origin items =
    (Order.stableSort nearer (withDistances measure record c origin items)).map (·.2) :=
  rfl

theorem mem_withDistances_iff {x : Binary .double × α} :
    x ∈ withDistances measure record c origin items ↔
      x.2 ∈ items ∧ IsAway measure c origin (record x.2) x.1 := by
  simp only [withDistances, List.mem_filterMap, isAway_iff, Option.map_eq_some_iff]
  constructor
  · rintro ⟨item, hitem, p, hp, rfl⟩
    exact ⟨hitem, p, hp, rfl⟩
  · rintro ⟨hitem, p, hp, heq⟩
    exact ⟨x.2, hitem, p, hp, Prod.ext heq rfl⟩

theorem map_withDistances : (withDistances measure record c origin items).map (·.2) =
    items.filter fun item => c.Locates (record item) := by
  rw [withDistances, List.map_filterMap, ← List.filterMap_eq_filter]
  refine List.filterMap_congr fun item _ => ?_
  cases hp : c.locate (record item) <;> simp [Option.guard, Coordinates.locates_iff, hp]

theorem preordered_nearer (S : Binary .double × α → Prop) : Order.Preordered nearer S where
  asymm {a b} _ _ hab := by
    simp only [nearer, decide_eq_true_eq, decide_eq_false_iff_not] at hab ⊢
    omega
  trans {a b c} _ _ _ hab hbc := by
    simp only [nearer, decide_eq_false_iff_not] at hab hbc ⊢
    omega

/-- Sorting by distance keeps exactly the items whose records have numbers at both coordinates, each
as often as it occurs. No item is farther from the origin than one behind it, in the total order of
the distances, and a choice of items that all are at one distance keeps its order. -/
theorem nearestBy_sorts {α : Type} (measure : Point → Point → Binary .double) (record : α → Record)
    (c : Coordinates) (origin : Point) (items : List α) :
    let sorted := nearestBy measure record c origin items
    sorted.Perm (items.filter fun item => c.Locates (record item)) ∧
      sorted.Pairwise (fun a b => ∀ d e, IsAway measure c origin (record a) d →
        IsAway measure c origin (record b) e → d.totalKey ≤ e.totalKey) ∧
      ∀ P : α → Bool,
        (∀ a ∈ items, ∀ b ∈ items, P a = true → P b = true →
          ∀ d e, IsAway measure c origin (record a) d → IsAway measure c origin (record b) e →
            d.totalKey = e.totalKey) →
        sorted.filter P = (items.filter fun item => c.Locates (record item)).filter P := by
  intro sorted
  let pairs := withDistances measure record c origin items
  have hsorted : sorted = (Order.stableSort nearer pairs).map (·.2) := nearestBy_eq
  have hperm : (Order.stableSort nearer pairs).Perm pairs := Order.stableSort_perm nearer pairs
  refine ⟨?_, ?_, fun P hties => ?_⟩
  · rw [hsorted, ← map_withDistances]
    exact hperm.map _
  · have hrising : (Order.stableSort nearer pairs).Pairwise fun a b => nearer b a = false :=
      Order.pairwise_stableSort (preordered_nearer _)
    rw [hsorted, List.pairwise_map]
    refine hrising.imp_of_mem fun {a b} ha hb hab d e hd he => ?_
    obtain ⟨-, ha⟩ := mem_withDistances_iff.1 (hperm.mem_iff.1 ha)
    obtain ⟨-, hb⟩ := mem_withDistances_iff.1 (hperm.mem_iff.1 hb)
    rw [hd.unique ha, he.unique hb]
    exact not_lt.1 (of_decide_eq_false hab)
  · have hpairs : ∀ a ∈ pairs, ∀ b ∈ pairs, P a.2 = true → P b.2 = true → nearer b a = false := by
      intro a ha b hb hPa hPb
      obtain ⟨hitem, ha⟩ := mem_withDistances_iff.1 ha
      obtain ⟨hitem', hb⟩ := mem_withDistances_iff.1 hb
      rw [nearer, hties a.2 hitem b.2 hitem' hPa hPb _ _ ha hb]
      exact decide_eq_false (lt_irrefl _)
    calc sorted.filter P
        = ((Order.stableSort nearer pairs).filter (P ·.2)).map (·.2) := by
          rw [hsorted, List.filter_map]
          rfl
      _ = (pairs.filter (P ·.2)).map (·.2) := by
          rw [Order.filter_stableSort_of_ties (preordered_nearer _) hpairs]
      _ = (pairs.map (·.2)).filter P := (List.filter_map ..).symm
      _ = _ := by rw [map_withDistances]

/-- Places measured by their latitude alone: two tie, one has no longitude and one no number. -/
theorem nearestBy_sorts_places :
    let measure : Point → Point → Binary .double := fun _ p => p.lat
    let c : Coordinates := ⟨.parse "lat", .parse "lng"⟩
    let origin : Point := ⟨.ofInt .double 0, .ofInt .double 0⟩
    let degrees : Int → Value := fun n => .number (.double (.ofInt .double n))
    let record : String × Value × Value → Record :=
      fun item => ⟨.never, [("lat", item.2.1), ("lng", item.2.2)]⟩
    let items : List (String × Value × Value) := [
      ("north", degrees 60, degrees 10), ("lost", degrees 1, .null),
      ("east", .number (.integer ⟨.u8, 5, by decide⟩), .present (degrees 70)),
      ("text", .string "5", degrees 0), ("west", .present (degrees 5), degrees (-70))]
    let level : String × Value × Value → Bool := fun item => item.1 = "east" ∨ item.1 = "west"
    let sorted := nearestBy measure record c origin items
    (∀ a ∈ items, ∀ b ∈ items, level a = true → level b = true →
      ∀ d e, IsAway measure c origin (record a) d → IsAway measure c origin (record b) e →
        d.totalKey = e.totalKey) ∧
      sorted.map (·.1) = ["east", "west", "north"] ∧
      sorted.Perm (items.filter fun item => c.Locates (record item)) ∧
      sorted.Pairwise (fun a b => ∀ d e, IsAway measure c origin (record a) d →
        IsAway measure c origin (record b) e → d.totalKey ≤ e.totalKey) ∧
      sorted.filter level = (items.filter fun item => c.Locates (record item)).filter level := by
  intro measure c origin degrees record items level sorted
  have hsame : ∀ a ∈ items, ∀ b ∈ items, level a = true → level b = true →
      (c.locate (record a)).map (measure origin) = (c.locate (record b)).map (measure origin) := by
    decide +kernel
  have hties : ∀ a ∈ items, ∀ b ∈ items, level a = true → level b = true →
      ∀ d e, IsAway measure c origin (record a) d → IsAway measure c origin (record b) e →
        d.totalKey = e.totalKey := by
    intro a ha b hb hla hlb d e hd he
    rw [isAway_iff, hsame a ha b hb hla hlb] at hd
    rw [IsAway.unique (isAway_iff.2 hd) he]
  obtain ⟨hperm, hpairs, hstable⟩ := nearestBy_sorts measure record c origin items
  exact ⟨hties, by decide +kernel, hperm, hpairs, hstable level hties⟩

end Distances

end Geo

end RecordQuery
