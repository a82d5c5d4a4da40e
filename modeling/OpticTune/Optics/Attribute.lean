namespace OpticTune.Optics

/-! The columns of the surface table, of the ray-start table, and of a trace.

Surface attributes are used by number, since most of them have no name of their
own; the attributes of rays and traces are few and all named.
-/

namespace Surface

/-- The named columns, numbered from zero; the last is the first Zernike one. -/
def columnNames : List String :=
  ["X", "Y", "Z", "TILT", "PITCH", "ROLL", "CURVE", "CURVX", "SHAPE", "ASPHER",
   "A1", "A2", "A3", "A4", "A5", "A6", "A7", "A8", "A9", "A10", "A11", "A12", "A13", "A14",
   "Z00"]

def shape : Int := 8
def aspher : Int := 9
def firstPolynomial : Int := 10
def lastPolynomial : Int := 23
def firstZernike : Int := 24
def zernikeCount : Nat := 36
def columnCount : Nat := 60

def positions : List Int := [0, 1, 2]

/-- TILT, PITCH and ROLL, which are measured in degrees. -/
def angles : List Int := [3, 4, 5]

/-- CURVE and CURVX. -/
def curvatures : List Int := [6, 7]

def isZernike (column : Int) : Bool :=
  decide (firstZernike ≤ column) && decide (column < firstZernike + zernikeCount)

/-- The order of a polynomial column, zero for any other column. -/
def polynomialOrder (column : Int) : Nat :=
  if firstPolynomial ≤ column ∧ column ≤ lastPolynomial then
    (column - firstPolynomial + 1).toNat
  else 0

end Surface

/-- A column of the ray-start table: a place and a direction. -/
inductive RayAttribute where
  | x | y | z | u | v | w
deriving Repr, DecidableEq

namespace RayAttribute

def all : List RayAttribute := [.x, .y, .z, .u, .v, .w]

def columnCount : Nat := 6

def positions : List Int := [0, 1, 2]

def number : RayAttribute → Nat
  | .x => 0
  | .y => 1
  | .z => 2
  | .u => 3
  | .v => 4
  | .w => 5

def name : RayAttribute → String
  | .x => "X"
  | .y => "Y"
  | .z => "Z"
  | .u => "U"
  | .v => "V"
  | .w => "W"

def ofNumber? (number : Int) : Option RayAttribute :=
  all.find? fun candidate => (candidate.number : Int) == number

end RayAttribute

/-- What a trace gives for a ray at a surface: the place and the direction in the
surface's own frame, then in the frame of the laboratory. -/
inductive TraceAttribute where
  | xl | yl | zl | ul | vl | wl | xg | yg | zg | ug | vg | wg
deriving Repr, DecidableEq

namespace TraceAttribute

def all : List TraceAttribute :=
  [.xl, .yl, .zl, .ul, .vl, .wl, .xg, .yg, .zg, .ug, .vg, .wg]

def number : TraceAttribute → Nat
  | .xl => 0
  | .yl => 1
  | .zl => 2
  | .ul => 3
  | .vl => 4
  | .wl => 5
  | .xg => 6
  | .yg => 7
  | .zg => 8
  | .ug => 9
  | .vg => 10
  | .wg => 11

def name : TraceAttribute → String
  | .xl => "XL"
  | .yl => "YL"
  | .zl => "ZL"
  | .ul => "UL"
  | .vl => "VL"
  | .wl => "WL"
  | .xg => "XG"
  | .yg => "YG"
  | .zg => "ZG"
  | .ug => "UG"
  | .vg => "VG"
  | .wg => "WG"

def ofNumber? (number : Int) : Option TraceAttribute :=
  all.find? fun candidate => (candidate.number : Int) == number

end TraceAttribute

end OpticTune.Optics
