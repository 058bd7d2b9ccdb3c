import Mathlib.Data.Rat.Defs

namespace GDTAdapter

/-! # Foundation and UIKit values

Objects the adapter only passes on (controllers, views, windows) are their
identities.  Numbers that the source reads with `floatValue` are rationals, so
that comparisons and the truncating stores into integer properties are exact.
-/

abbrev UIViewController := Nat
abbrev UIView := Nat
abbrev UIWindow := Nat

structure CGSize where
  width : ℚ
  height : ℚ
deriving DecidableEq, Repr

structure NSError where
  domain : String
  code : Int
  localizedDescription : Option String
deriving DecidableEq, Repr

inductive GDTMediaPlayerStatus where
  | initial
  | loading
  | started
  | paused
  | stoped
  | error
deriving DecidableEq, Repr

/-- What the custom events read from the info dictionary, one field for each
key; `none` is an absent key. -/
structure Info where
  adunit : Option String := none
  whRatio : Option ℚ := none
  interval : Option ℚ := none
  rootVC : Option UIViewController := none
  width : Option ℚ := none
  count : Option Int := none
  bottomView : Option UIView := none
  delay : Option ℚ := none
  backImageView : Option UIView := none
deriving DecidableEq, Repr

/-- `[[info objectForKey:key] floatValue]`; a message to nil answers zero.  The
rounding to a 32-bit float is left out. -/
def floatValue (number : Option ℚ) : ℚ := number.getD 0

/-- `[[info objectForKey:key] intValue]`, without its range of 32 bits. -/
def intValue (number : Option Int) : Int := number.getD 0

/-- Storing a floating-point value in an integer property drops its fraction. -/
def truncate (value : ℚ) : Int := value.num.tdiv value.den

/-- What the clock and the GDT objects answer while one method runs.  GDT ads
are named by the reference the adapter received from their initialiser. -/
structure Reading where
  now : ℚ
  isAdValid : Nat → Bool
  expiredTimestamp : Nat → Int

end GDTAdapter
