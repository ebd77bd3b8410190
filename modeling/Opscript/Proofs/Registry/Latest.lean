import Opscript.Registry
import Opscript.Violation

/-!
# Entries of which the last one counts

A registry is filled from a list of entries. Under each key it then holds what the list has last
under it (`latest?`), and what it held before if the list has nothing there; its keys are in the
order in which they first came. Entries are given under symbols; those whose symbol stands for no
code are left out (`resolved`).
-/

namespace Opscript

section

variable {κ ν : Type} [DecidableEq κ]

/-- The last payload under a key. -/
def latest? (k : κ) (es : List (κ × ν)) : Option ν := es.reverse.lookup k

theorem latest?_cons (k : κ) (e : κ × ν) (es : List (κ × ν)) :
    latest? k (e :: es) = (latest? k es).or (if k = e.1 then some e.2 else none) := by
  unfold latest?
  rw [List.reverse_cons, List.lookup_append, Ordered.lookup_cons_eq, List.lookup_nil]

theorem mem_of_latest? {k : κ} {es : List (κ × ν)} {v : ν} (h : latest? k es = some v) :
    (k, v) ∈ es := by
  obtain ⟨before, behind, hes, -⟩ := List.lookup_eq_some_iff.1 h
  rw [← List.mem_reverse, hes]
  exact List.mem_append_right _ List.mem_cons_self

/-- Inserts entries one after the other. -/
def Ordered.insertAll (m : Ordered κ ν) (es : List (κ × ν)) : Ordered κ ν :=
  es.foldl (fun m e => m.insert e.1 e.2) m

theorem Ordered.insertAll_cons (m : Ordered κ ν) (e : κ × ν) (es : List (κ × ν)) :
    m.insertAll (e :: es) = (m.insert e.1 e.2).insertAll es := rfl

theorem Ordered.insertAll_append (m : Ordered κ ν) (es fs : List (κ × ν)) :
    m.insertAll (es ++ fs) = (m.insertAll es).insertAll fs :=
  List.foldl_append

/-- The last entry under a key counts, and without one what was there before. -/
theorem Ordered.get?_insertAll (m : Ordered κ ν) (es : List (κ × ν)) (k : κ) :
    (m.insertAll es).get? k = (latest? k es).or (m.get? k) := by
  induction es generalizing m with
  | nil => rfl
  | cons e rest ih =>
    rw [insertAll_cons, ih, get?_insert, latest?_cons, Option.or_assoc]
    by_cases h : k = e.1
    · rw [if_pos h, if_pos h, Option.some_or]
    · rw [if_neg h, if_neg h, Option.none_or]

theorem Ordered.get?_empty_insertAll (es : List (κ × ν)) (k : κ) :
    (Ordered.empty.insertAll es).get? k = latest? k es := by
  rw [get?_insertAll]
  exact Option.or_none

/-- Known keys keep their places, and new ones follow in the order in which they first come. -/
theorem Ordered.keys_insertAll (m : Ordered κ ν) (es : List (κ × ν)) :
    (m.insertAll es).keys =
      m.keys ++ ((es.map Prod.fst).filter (· ∉ m.keys)).eraseDups := by
  induction es generalizing m with
  | nil => exact (List.append_nil _).symm
  | cons e rest ih =>
    rw [insertAll_cons, ih, keys_insert, List.map_cons]
    by_cases h : e.1 ∈ m.keys
    · rw [if_pos h, List.filter_cons_of_neg (by simp [h])]
    · rw [if_neg h, List.filter_cons_of_pos (by simp [h]), List.eraseDups_cons, List.filter_filter,
        List.append_assoc, List.singleton_append]
      -- Where the key comes again, it is a known one.
      have hnew : (fun k => decide (k ∉ m.keys ++ [e.1])) =
          fun k => (!k == e.1) && decide (k ∉ m.keys) := by
        funext k
        by_cases hk : k = e.1 <;> simp [hk]
      rw [hnew]

end

/-- The entry of a symbol under its code, if it stands for one. -/
def entry? {ν : Type} (e : Symbol × ν) : Option (Code × ν) :=
  e.1.code.toOption.map fun c => (c, e.2)

/-- The entry of a label, if its symbol stands for a code. -/
def labelEntry? (e : String × Symbol) : Option (String × Code) :=
  e.2.code.toOption.map fun c => (e.1, c)

/-- The valid entries under their codes. -/
def resolved {ν : Type} (es : List (Symbol × ν)) : List (Code × ν) := es.filterMap entry?

/-- The valid entries of labels. -/
def resolvedLabels (es : List (String × Symbol)) : List (String × Code) := es.filterMap labelEntry?

end Opscript
