import RecordQuery.Order

/-!
# Places on the globe

A record is located by two numeric fields, latitude and longitude in degrees. Distances are
great-circle distances on a sphere, in kilometres. An area is a circle or a rectangle, the border
belonging to it.
-/

namespace RecordQuery

namespace Binary

def toFloat (x : Binary .double) : Float := Float.ofBits x.toBits.toUInt64

def ofFloat (x : Float) : Binary .double := .ofBits .double x.toBits.toNat

/-- Less than or equal to; an undefined number is neither. -/
def atMost (x y : Binary .double) : Bool :=
  match x.compare y with
  | some .gt => false
  | some _ => true
  | none => false

end Binary

namespace Geo

/-- The mean radius of the Earth in kilometres. -/
def earthRadius : Float := 6371.0

structure Point where
  lat : Binary .double
  lng : Binary .double
deriving DecidableEq

def radians (degrees : Float) : Float := degrees * (3.141592653589793 / 180.0)

def square (x : Float) : Float := x * x

/-- The distance of two points by the haversine formula. -/
def distance (a b : Point) : Binary .double :=
  let dLat := radians (b.lat.toFloat - a.lat.toFloat)
  let dLng := radians (b.lng.toFloat - a.lng.toFloat)
  let h := square (dLat / 2.0).sin
    + (radians a.lat.toFloat).cos * (radians b.lat.toFloat).cos * square (dLng / 2.0).sin
  .ofFloat (2.0 * earthRadius * Float.atan2 h.sqrt (1.0 - h).sqrt)

structure Box where
  southWest : Point
  northEast : Point
deriving DecidableEq

def Box.contains (b : Box) (p : Point) : Bool :=
  b.southWest.lat.atMost p.lat && p.lat.atMost b.northEast.lat &&
    b.southWest.lng.atMost p.lng && p.lng.atMost b.northEast.lng

inductive Area where
  | circle (center : Point) (km : Binary .double)
  | box (b : Box)
deriving DecidableEq

def Area.contains : Area → Point → Bool
  | circle center km, p => (distance center p).atMost km
  | box b, p => b.contains p

structure Coordinates where
  lat : FieldPath
  lng : FieldPath
deriving DecidableEq

def degrees? (r : Record) (path : FieldPath) : Option (Binary .double) :=
  match r.resolve path with
  | .error _ => none
  | .ok v => v.deref.bind fun v => v.asNumber?.map (·.toDouble)

def Coordinates.locate (c : Coordinates) (r : Record) : Option Point :=
  (degrees? r c.lat).bind fun lat => (degrees? r c.lng).map fun lng => ⟨lat, lng⟩

structure Clause where
  coordinates : Coordinates
  area : Area
deriving DecidableEq

def Clause.holds (c : Clause) (r : Record) : Bool := (c.coordinates.locate r).any c.area.contains

/-! ## Nearest first -/

/-- The items whose records have a position, nearest first by a given measure of distance. Items at
one distance keep their places. -/
def nearestBy {α : Type} (measure : Point → Point → Binary .double) (record : α → Record)
    (c : Coordinates) (origin : Point) (items : List α) : List α :=
  let located := items.filterMap fun item =>
    (c.locate (record item)).map fun p => (measure origin p, item)
  (Order.stableSort (fun a b => a.1.totalKey < b.1.totalKey) located).map (·.2)

def nearestFirst {α : Type} (record : α → Record) (c : Coordinates) (origin : Point)
    (items : List α) : List α :=
  nearestBy distance record c origin items

end Geo

end RecordQuery
