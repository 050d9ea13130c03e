/-!
# 左右の履帯

車体には左と右の履帯があり、それぞれ制御基板の slave 0 と 1 にあたる。
-/

namespace TankDrive

/-- 履帯の側。 -/
inductive Track where
  | left
  | right
deriving Repr, DecidableEq, Inhabited

namespace Track

/-- 両側を左、右の順に。 -/
def all : List Track := [.left, .right]

/-- 制御基板での slave の番号。 -/
def slave : Track → UInt8
  | .left => 0
  | .right => 1

/-- 記録に書く名前。 -/
def label : Track → String
  | .left => "Left"
  | .right => "Right"

/-- JSON での名前。 -/
def key : Track → String
  | .left => "left"
  | .right => "right"

end Track

/-- 左右の組。 -/
structure PerTrack (α : Type) where
  left : α
  right : α
deriving Repr, DecidableEq, Inhabited

namespace PerTrack

/-- 片側を読む。 -/
def get (p : PerTrack α) : Track → α
  | .left => p.left
  | .right => p.right

/-- 片側を置き換える。 -/
def set (p : PerTrack α) : Track → α → PerTrack α
  | .left, a => { p with left := a }
  | .right, a => { p with right := a }

/-- 両側に同じ値。 -/
def both (a : α) : PerTrack α := ⟨a, a⟩

@[simp] theorem get_set_self (p : PerTrack α) (t : Track) (a : α) : (p.set t a).get t = a := by
  cases t <;> rfl

theorem get_set_other (p : PerTrack α) {t u : Track} (h : t ≠ u) (a : α) :
    (p.set t a).get u = p.get u := by
  cases t <;> cases u <;> first | rfl | exact absurd rfl h

end PerTrack

end TankDrive
