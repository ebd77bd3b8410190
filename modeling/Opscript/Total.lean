/-!
# Totals

`total size` adds up a size over the elements of a list.
-/

namespace Opscript

variable {α β : Type}

def total (size : α → Nat) : List α → Nat
  | [] => 0
  | a :: rest => size a + total size rest

@[simp] theorem total_nil (size : α → Nat) : total size [] = 0 := rfl

@[simp] theorem total_cons (size : α → Nat) (a : α) (l : List α) :
    total size (a :: l) = size a + total size l := rfl

@[simp] theorem total_append (size : α → Nat) (l m : List α) :
    total size (l ++ m) = total size l + total size m := by
  induction l with
  | nil => exact (Nat.zero_add _).symm
  | cons a rest ih => rw [List.cons_append, total_cons, ih, total_cons, Nat.add_assoc]

theorem total_map (size : β → Nat) (f : α → β) (l : List α) :
    total size (l.map f) = total (fun a => size (f a)) l := by
  induction l with
  | nil => rfl
  | cons a rest ih => rw [List.map_cons, total_cons, ih, total_cons]

theorem total_eq_zero_iff {size : α → Nat} {l : List α} :
    total size l = 0 ↔ ∀ a ∈ l, size a = 0 := by
  induction l with
  | nil => exact iff_of_true rfl nofun
  | cons a rest ih => rw [total_cons, Nat.add_eq_zero_iff, ih, List.forall_mem_cons]

theorem length_flatMap_eq_total (f : α → List β) (l : List α) :
    (l.flatMap f).length = total (fun a => (f a).length) l := by
  induction l with
  | nil => rfl
  | cons a rest ih => rw [List.flatMap_cons, List.length_append, ih, total_cons]

end Opscript
