import Opscript.Proofs.Value.RoundTrip

/-!
# Values that equal themselves

Equality compares floats as numbers, and a NaN is no number. A value therefore equals itself exactly
if there is no NaN in it, at any depth (`beq_self_eq_nanFree`), and what is equal to another value
has none either (`nanFree_of_beq`). So one that differs from itself differs from every value
(`beq_eq_false_of_not_nanFree`).
-/

namespace Opscript.Value

/-! ## Floats -/

section

open Float.Model

/-- Only a NaN does not compare with itself. -/
theorem compare_self (u : UnpackedFloat) : u.compare u = if u.isNaN then none else some .eq := by
  cases u with
  | notANumber => rfl
  | infinity s => cases s <;> rfl
  | zero s => cases s <;> rfl
  | finite s m e _ =>
    have heq : (compare e e).then (compare m m) = .eq := by
      rw [Std.compare_self, Std.compare_self]
      rfl
    cases s with
    | positive => exact congrArg some heq
    | negative => exact congrArg (some ·.swap) heq

theorem compare_of_isNaN (u : UnpackedFloat) {w : UnpackedFloat} (h : w.isNaN = true) :
    u.compare w = none := by
  cases w with
  | notANumber => cases u <;> rfl
  | infinity _ => nomatch h
  | zero _ => nomatch h
  | finite _ _ _ _ => nomatch h

theorem beq_self_float (x : Float) : (x == x) = !x.isNaN := by
  change (x.toModel.unpack.compare x.toModel.unpack == some .eq) = !x.toModel.unpack.isNaN
  rw [compare_self]
  cases x.toModel.unpack.isNaN <;> rfl

theorem isNaN_of_beq_float {x y : Float} (h : (x == y) = true) : y.isNaN = false := by
  change (x.toModel.unpack.compare y.toModel.unpack == some .eq) = true at h
  change y.toModel.unpack.isNaN = false
  by_contra hy
  rw [compare_of_isNaN _ (Bool.not_eq_false _ ▸ hy)] at h
  nomatch h

end

/-! ## Values -/

def isNaN : Value → Bool
  | float x => x.isNaN
  | _ => false

/-- There is no NaN in the value, at any depth. -/
def nanFree (v : Value) : Bool := v.all (!·.isNaN)

-- By recursion on the value, as equality is: only a float can differ from itself, and arrays and
-- objects pass on what their parts say.
mutual

theorem same_self : ∀ v : Value, same v v = v.all (!·.isNaN)
  | null => rfl
  | bool b => beq_self_eq_true b
  | int n => beq_self_eq_true n
  | float x => beq_self_float x
  | string s => beq_self_eq_true s
  | array items => sameItems_self items
  | object fields => sameFields_self fields

theorem sameItems_self : ∀ items : List Value, sameItems items items = allItems (!·.isNaN) items
  | [] => rfl
  | v :: vs => by rw [sameItems, allItems, same_self v, sameItems_self vs]

theorem sameFields_self :
    ∀ fields : List (String × Value), sameFields fields fields = allFields (!·.isNaN) fields
  | [] => rfl
  | (k, v) :: vs => by
    rw [sameFields, allFields, same_self v, sameFields_self vs, beq_self_eq_true, Bool.true_and]

end

mutual

theorem all_of_same : ∀ v w : Value, same v w = true → w.all (!·.isNaN) = true
  | null, null, _ => rfl
  | bool _, bool _, _ => rfl
  | int _, int _, _ => rfl
  | float _, float _, h => congrArg (!·) (isNaN_of_beq_float h)
  | string _, string _, _ => rfl
  | array a, array b, h => allItems_of_sameItems a b h
  | object a, object b, h => allFields_of_sameFields a b h

theorem allItems_of_sameItems :
    ∀ a b : List Value, sameItems a b = true → allItems (!·.isNaN) b = true
  | [], [], _ => rfl
  | v :: vs, w :: ws, h => by
    obtain ⟨hv, hvs⟩ := Bool.and_eq_true_iff.1 h
    rw [allItems, all_of_same v w hv, allItems_of_sameItems vs ws hvs, Bool.and_self]

theorem allFields_of_sameFields :
    ∀ a b : List (String × Value), sameFields a b = true → allFields (!·.isNaN) b = true
  | [], [], _ => rfl
  | (_, v) :: vs, (_, w) :: ws, h => by
    obtain ⟨hkv, hvs⟩ := Bool.and_eq_true_iff.1 h
    obtain ⟨-, hv⟩ := Bool.and_eq_true_iff.1 hkv
    rw [allFields, all_of_same v w hv, allFields_of_sameFields vs ws hvs, Bool.and_self]

end

/-- A value equals itself exactly if there is no NaN in it. -/
theorem beq_self_eq_nanFree (v : Value) : (v == v) = v.nanFree := same_self v

theorem nanFree_of_beq {v w : Value} (h : (v == w) = true) : w.nanFree = true := all_of_same v w h

/-- A value with a NaN in it equals nothing, not even itself. -/
theorem beq_eq_false_of_not_nanFree {w : Value} (h : w.nanFree = false) (v : Value) :
    (v == w) = false := by
  by_contra hvw
  rw [nanFree_of_beq (Bool.not_eq_false _ ▸ hvw)] at h
  nomatch h

end Opscript.Value
