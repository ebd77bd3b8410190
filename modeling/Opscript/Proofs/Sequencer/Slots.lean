import Opscript.Proofs.Registry.Latest
import Opscript.Proofs.Sequencer.Course

/-!
# The registries of a sequencer

A sequencer has three registries, and registering means the same for each: the entries whose symbol
is valid are inserted, one after the other, and nothing else is different apart from the reports.
`Slot` is a registry as it is read and written, `lands_registerEach` says so of any of them.
-/

namespace Opscript.Sequencer

/-- A registry of a sequencer. -/
structure Slot (κ ν : Type) where
  read : Sequencer → Ordered κ ν
  write : Sequencer → Ordered κ ν → Sequencer
  read_write : ∀ q m, read (write q m) = m
  write_read : ∀ q, write q (read q) = q
  write_write : ∀ q m m', write (write q m) m' = write q m'
  /-- Reports do not reach it. -/
  read_of_untouched : ∀ {q q'}, q.Untouched q' → read q' = read q
  write_of_untouched : ∀ {q q'} m, q.Untouched q' → (write q m).Untouched (write q' m)

namespace Slot

def operations : Slot Code Callback where
  read := Sequencer.operations
  write q m := { q with operations := m }
  read_write _ _ := rfl
  write_read _ := rfl
  write_write _ _ _ := rfl
  read_of_untouched h := by rw [h]
  write_of_untouched _ h := by rw [h]; rfl

def values : Slot Code Value where
  read := Sequencer.values
  write q m := { q with values := m }
  read_write _ _ := rfl
  write_read _ := rfl
  write_write _ _ _ := rfl
  read_of_untouched h := by rw [h]
  write_of_untouched _ h := by rw [h]; rfl

def labels : Slot String Code where
  read := Sequencer.labels
  write q m := { q with labels := m }
  read_write _ _ := rfl
  write_read _ := rfl
  write_write _ _ _ := rfl
  read_of_untouched h := by rw [h]
  write_of_untouched _ h := by rw [h]; rfl

variable {κ ν : Type} [DecidableEq κ] (x : Slot κ ν)

/-- Up to reports, `q'` is `q` with the entries in the registry. -/
def Lands (q : Sequencer) (es : List (κ × ν)) (q' : Sequencer) : Prop :=
  (x.write q ((x.read q).insertAll es)).Untouched q'

variable {x} {q q' q'' : Sequencer} {es fs : List (κ × ν)}

theorem lands_nothing (h : q.Untouched q') : x.Lands q [] q' := by
  unfold Lands
  rw [Ordered.insertAll, List.foldl_nil, x.write_read]
  exact h

theorem Lands.read_eq (h : x.Lands q es q') : x.read q' = (x.read q).insertAll es := by
  rw [x.read_of_untouched h, x.read_write]

theorem Lands.trans (h : x.Lands q es q') (h' : x.Lands q' fs q'') :
    x.Lands q (es ++ fs) q'' := by
  have hread := h.read_eq
  unfold Lands at h h' ⊢
  have hwrite := x.write_of_untouched ((x.read q').insertAll fs) h
  rw [x.write_write, hread, ← Ordered.insertAll_append] at hwrite
  rw [hread, ← Ordered.insertAll_append] at h'
  exact hwrite.trans h'

/-- Behind reports, the entries land as they would without. -/
theorem Lands.of_untouched (h : q.Untouched q') (h' : x.Lands q' es q'') : x.Lands q es q'' :=
  (lands_nothing h).trans h'

theorem lands_guarded {α : Type} (check : Except Violation α) (entry : α → κ × ν) :
    x.Lands q (check.toOption.map entry).toList
      (q.guarded check false fun a =>
        (true, x.write q ((x.read q).insert (entry a).1 (entry a).2))).2 := by
  cases check with
  | ok a => exact .refl _
  | error v => exact lands_nothing (untouched_report q v)

theorem lands_registerEach {ε : Type} {register : Sequencer → ε → Bool × Sequencer}
    {entry : ε → Option (κ × ν)} (h : ∀ q e, x.Lands q (entry e).toList (register q e).2)
    (q : Sequencer) (es : List ε) :
    x.Lands q (es.filterMap entry) (registerEach register q es).2 := by
  induction es generalizing q with
  | nil => exact lands_nothing (.refl q)
  | cons e rest ih =>
    rw [List.filterMap_eq_flatMap_toList, List.flatMap_cons, ← List.filterMap_eq_flatMap_toList]
    exact (h q e).trans (ih (register q e).2)

end Slot

section

variable (q : Sequencer)

theorem lands_registerOperations (es : List (Symbol × Callback)) :
    Slot.operations.Lands q (resolved es) (q.registerOperations es).2 := by
  refine Slot.lands_registerEach (fun q e => ?_) q es
  rw [registerOperation_eq]
  exact Slot.lands_guarded e.1.code fun c => (c, e.2)

theorem lands_registerValues (es : List (Symbol × Value)) :
    Slot.values.Lands q (resolved es) (q.registerValues es).2 := by
  refine Slot.lands_registerEach (fun q e => ?_) q es
  rw [registerValue_eq]
  exact Slot.lands_guarded e.1.code fun c => (c, e.2)

theorem lands_registerLabels (es : List (String × Symbol)) :
    Slot.labels.Lands q (resolvedLabels es) (q.registerLabels es).2 := by
  refine Slot.lands_registerEach (fun q e => ?_) q es
  rw [registerLabel_eq]
  exact Slot.lands_guarded e.2.code fun c => (e.1, c)

end

end Opscript.Sequencer
