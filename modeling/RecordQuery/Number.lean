import RecordQuery.Binary.Text

/-!
# Numbers

A number is an integer that fits one of eight widths, or a floating-point number of one of two
precisions. Numbers compare by value: integers exactly whatever their widths, any number with a
single precision one after rounding to single precision, and the other mixtures in double
precision. Only an undefined number compares with nothing.
-/

namespace RecordQuery

inductive Width where
  | i8
  | i16
  | i32
  | i64
  | u8
  | u16
  | u32
  | u64
deriving DecidableEq

namespace Width

def isSigned : Width → Bool
  | i8 | i16 | i32 | i64 => true
  | u8 | u16 | u32 | u64 => false

def bits : Width → Nat
  | i8 | u8 => 8
  | i16 | u16 => 16
  | i32 | u32 => 32
  | i64 | u64 => 64

def least (w : Width) : Int := if w.isSigned then -Nat.pow 2 (w.bits - 1) else 0

def greatest (w : Width) : Int :=
  if w.isSigned then Nat.pow 2 (w.bits - 1) - 1 else Nat.pow 2 w.bits - 1

def name : Width → String
  | i8 => "i8"
  | i16 => "i16"
  | i32 => "i32"
  | i64 => "i64"
  | u8 => "u8"
  | u16 => "u16"
  | u32 => "u32"
  | u64 => "u64"

def Holds (w : Width) (n : Int) : Prop := w.least ≤ n ∧ n ≤ w.greatest

instance (w : Width) (n : Int) : Decidable (w.Holds n) := inferInstanceAs (Decidable (_ ∧ _))

end Width

structure Sized where
  width : Width
  value : Int
  fits : width.Holds value
deriving DecidableEq

inductive Number where
  | integer (n : Sized)
  | single (x : Binary .single)
  | double (x : Binary .double)
deriving DecidableEq

namespace Number

def asInteger : Number → Option Int
  | integer n => some n.value
  | single _ => none
  | double _ => none

def toDouble : Number → Binary .double
  | integer n => .ofInt .double n.value
  | single x => x.convert .double
  | double x => x

/-- The nearest single precision number; an integer is rounded to double precision on the way. -/
def toSingle : Number → Binary .single
  | integer n => (Binary.ofInt .double n.value).convert .single
  | single x => x
  | double x => x.convert .single

def isFloat : Number → Bool
  | integer _ => false
  | single _ => true
  | double _ => true

def isNaN : Number → Bool
  | integer _ => false
  | single x => x.isNaN
  | double x => x.isNaN

def isZero : Number → Bool
  | integer n => n.value == 0
  | single x => x.isZero
  | double x => x.isZero

def compare : Number → Number → Option Ordering
  | single x, b => x.compare b.toSingle
  | a, single y => a.toSingle.compare y
  | integer m, integer n => some (Ord.compare m.value n.value)
  | a, b => a.toDouble.compare b.toDouble

/-- Equal in width as well as in value; an undefined number is not the same as itself. -/
def same : Number → Number → Bool
  | integer m, integer n => m == n
  | single x, single y => x.compare y == some .eq
  | double x, double y => x.compare y == some .eq
  | _, _ => false

def widthName : Number → String
  | integer n => n.width.name
  | single _ => "f32"
  | double _ => "f64"

def display : Number → String
  | integer n => toString n.value
  | single x => x.display
  | double x => x.display

end Number

end RecordQuery
