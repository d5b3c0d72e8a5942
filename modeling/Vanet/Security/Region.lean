/-
**`is_within`: positions and regions within regions.**

The distance on the WGS84 ellipsoid, which the source takes from GeographicLib, is a parameter.
-/

import Mathlib.Algebra.Order.Ring.Rat
import Vanet.Security.Elements

namespace Vanet.Security

/-- The geodesic distance of two locations in metres. -/
abbrev Geodesic := TwoDLocation → TwoDLocation → ℚ

def ThreeDLocation.toTwoD (threeD : ThreeDLocation) : TwoDLocation :=
  ⟨threeD.latitude, threeD.longitude⟩

variable (geod : Geodesic)

def isWithinCircle (position : TwoDLocation) (circular : CircularRegion) : Bool :=
  decide (geod position circular.center ≤ circular.radius.toNat)

def isWithinRectangle (position : TwoDLocation) (rectangle : RectangularRegion) : Bool :=
  if rectangle.northwest.latitude ≤ rectangle.southeast.latitude then false
  else if rectangle.southeast.longitude ≤ rectangle.northwest.longitude then false
  -- position is north, west, south or east of the rectangle
  else if rectangle.northwest.latitude < position.latitude then false
  else if position.longitude < rectangle.northwest.longitude then false
  else if position.latitude < rectangle.southeast.latitude then false
  else if rectangle.southeast.longitude < position.longitude then false
  else true

def maxRectangles : ℕ := 6

def isWithinRectangles (position : TwoDLocation) (rectangles : List RectangularRegion) : Bool :=
  if maxRectangles < rectangles.length then false
  else rectangles.any (isWithinRectangle position)

/-- Polygons and identified regions are not supported: nothing is within them. -/
def isWithin (position : TwoDLocation) : GeographicRegion → Bool
  | .none => true
  | .circle region => isWithinCircle geod position region
  | .rectangles regions => isWithinRectangles position regions
  | .polygon _ => false
  | .identified _ => false

def regionIsWithinCircle (inner : GeographicRegion) (outer : CircularRegion) : Bool :=
  match inner with
  | .circle inner =>
    inner = outer || geod inner.center outer.center + inner.radius.toNat ≤ outer.radius.toNat
  | _ => false

/-- Only exact matches are implemented. -/
def regionIsWithinRectangles (inner : GeographicRegion) (outer : List RectangularRegion) : Bool :=
  match inner with
  | .rectangles inner => inner = outer
  | _ => false

def regionIsWithin (inner : GeographicRegion) : GeographicRegion → Bool
  | .none => true
  | .circle outer => regionIsWithinCircle geod inner outer
  | .rectangles outer => regionIsWithinRectangles inner outer
  | .polygon _ => false
  | .identified _ => false

end Vanet.Security
