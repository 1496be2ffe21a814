import GranularBonds.Material
import GranularBonds.Vec3

/-!
# Contact records

What is remembered of a pair from step to step: whether it touches, how far it
has been sheared, and what became of its bond.  A bond is formed once and can
break once, in tension or in shear; a pair whose bond broke is a plain
frictional contact.
-/

namespace GranularBonds

/-- What became of the bond of a pair. -/
inductive BondState where
  | neverBonded
  | bonded
  | brokenTensile
  | brokenShear
  deriving DecidableEq, Repr

namespace BondState

/-- Whether the bond holds. -/
def isCohesive (state : BondState) : Bool := state == bonded

/-- Whether there was a bond that failed. -/
def isBroken (state : BondState) : Bool := state == brokenTensile || state == brokenShear

/-- Name of the state in checkpoints and reports. -/
def name : BondState → String
  | neverBonded => "NeverBonded"
  | bonded => "Bonded"
  | brokenTensile => "BrokenTensile"
  | brokenShear => "BrokenShear"

/-- Every state. -/
def all : List BondState := [neverBonded, bonded, brokenTensile, brokenShear]

end BondState

/-- Memory of one pair. -/
structure ContactRecord (α : Type) where
  /-- Whether the pair was in contact when it was last visited. -/
  touching : Bool
  /-- Tangential displacement, as seen with the lower tag first. -/
  shear : Vec3 α
  bond : BondState
  /-- Overlap at which the bond formed, negative if it bridged a gap. -/
  initialGap : α
  /-- How far the bond may be pulled before it tears. -/
  tensileLimit : TensileLimit α
  shearBreaks : Nat
  tensileBreaks : Nat

namespace ContactRecord

variable {α : Type} [Scalar α]

/-- The record of a pair without a past. -/
def fresh : ContactRecord α where
  touching := false
  shear := 0
  bond := .neverBonded
  initialGap := 0
  tensileLimit := .bounded 0
  shearBreaks := 0
  tensileBreaks := 0

/-- The record of a pair that has just bonded. -/
def bonded (initialGap : α) (tensileLimit : TensileLimit α) : ContactRecord α :=
  { (fresh : ContactRecord α) with
    bond := .bonded, initialGap, tensileLimit := tensileLimit.nonnegative }

omit [Scalar α] in
/-- Whether the bond of the pair holds. -/
def isCohesive (record : ContactRecord α) : Bool := record.bond.isCohesive

/-- A displacement seen from the other side is reversed. -/
def turned (flipped : Bool) (shear : Vec3 α) : Vec3 α := if flipped then -shear else shear

/-- The shear as a visit with the given orientation sees it. -/
def shearFor (record : ContactRecord α) (flipped : Bool) : Vec3 α :=
  turned flipped record.shear

/-- Store a shear that a visit with the given orientation has seen. -/
def withShear (record : ContactRecord α) (flipped : Bool) (shear : Vec3 α) :
    ContactRecord α :=
  { record with shear := turned flipped shear }

omit [Scalar α] in
/-- The record of a pair in contact. -/
def touched (record : ContactRecord α) : ContactRecord α := { record with touching := true }

/-- The record of a pair that has come apart. -/
def apart (record : ContactRecord α) : ContactRecord α :=
  { record with touching := false, shear := 0 }

/-- The record without its bond, in a state that tells how it failed. -/
def released (record : ContactRecord α) (bond : BondState) : ContactRecord α :=
  { record with bond, initialGap := 0, tensileLimit := .bounded 0 }

/-- Tear the bond, if it holds. -/
def torn (record : ContactRecord α) : ContactRecord α :=
  if record.isCohesive then
    { record.released .brokenTensile with tensileBreaks := record.tensileBreaks + 1 }
  else
    record

/-- Shear the bond off, if it holds. -/
def sheared (record : ContactRecord α) : ContactRecord α :=
  if record.isCohesive then
    { record.released .brokenShear with shearBreaks := record.shearBreaks + 1 }
  else
    record

end ContactRecord

end GranularBonds
