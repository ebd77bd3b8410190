import Opscript.Decoding

/-!
# Scans as a recursion on the codes

The scan of a sequence moves a position over an array. `draftsFrom` finds the same drafts by
recursion on the codes that are left: at an operation the arguments are the codes up to the next
one. `drafts_decode` says that the two agree. The other lemmas are about `draftsFrom` in front of a
given rest, so that a decoding can be followed code by code.
-/

namespace Opscript

section

variable (isOperation : Code → Bool)

/-- The codes up to the next operation. -/
def argumentsOf (u : List Code) : List Code := u.takeWhile fun c => !isOperation c

/-- The drafts of `u`, whose first code has the position `pos`. -/
def draftsFrom (pos : Nat) : List Code → List Draft
  | [] => []
  | c :: rest =>
    if isOperation c then
      ⟨c, argumentsOf isOperation rest, ⟨pos, pos + 1 + (argumentsOf isOperation rest).length⟩⟩ ::
        draftsFrom (pos + 1) rest
    else draftsFrom (pos + 1) rest

variable {isOperation}

theorem argumentsOf_cons_of_operation {c : Code} (h : isOperation c = true) (u : List Code) :
    argumentsOf isOperation (c :: u) = [] := by
  simp [argumentsOf, h]

theorem argumentsOf_cons_of_other {c : Code} (h : isOperation c = false) (u : List Code) :
    argumentsOf isOperation (c :: u) = c :: argumentsOf isOperation u := by
  simp [argumentsOf, h]

theorem not_operation_of_mem_argumentsOf {u : List Code} {a : Code}
    (h : a ∈ argumentsOf isOperation u) : isOperation a = false := by
  have := List.all_takeWhile (p := fun c => !isOperation c) (l := u)
  rw [List.all_eq_true] at this
  simpa using this a h

theorem draftsFrom_cons_of_operation {c : Code} (h : isOperation c = true) (pos : Nat)
    (u : List Code) :
    draftsFrom isOperation pos (c :: u) =
      ⟨c, argumentsOf isOperation u, ⟨pos, pos + 1 + (argumentsOf isOperation u).length⟩⟩ ::
        draftsFrom isOperation (pos + 1) u := by
  rw [draftsFrom, if_pos h]

theorem draftsFrom_cons_of_other {c : Code} (h : isOperation c = false) (pos : Nat)
    (u : List Code) : draftsFrom isOperation pos (c :: u) = draftsFrom isOperation (pos + 1) u := by
  rw [draftsFrom, if_neg (by simp [h])]

/-- Codes that are no operations are passed over. -/
theorem draftsFrom_append_of_other {others : List Code} (h : ∀ c ∈ others, isOperation c = false)
    (pos : Nat) (u : List Code) :
    draftsFrom isOperation pos (others ++ u) =
      draftsFrom isOperation (pos + others.length) u := by
  induction others generalizing pos with
  | nil => rfl
  | cons c rest ih =>
    rw [List.cons_append, draftsFrom_cons_of_other (h c List.mem_cons_self),
      ih (fun a ha => h a (List.mem_cons_of_mem c ha)), List.length_cons]
    congr 1
    omega

theorem drop_eq_cons {units : Array Code} {pos : Nat} (h : pos < units.size) :
    units.toList.drop pos = units[pos] :: units.toList.drop (pos + 1) := by
  rw [List.drop_eq_getElem_cons (by simpa using h), Array.getElem_toList]

/-! ## The scan -/

/-- The scan stops at an operation, if it does not reach the end. -/
theorem isOperation_seek {units : Array Code} {pos : Nat}
    (h : seek isOperation units pos < units.size) :
    isOperation units[seek isOperation units pos] = true := by
  fun_induction seek isOperation units pos with
  | case1 _ _ hop => exact hop
  | case2 _ _ _ ih => exact ih h
  | case3 _ hend => exact absurd h hend

variable (isOperation)

/-- The scan does not leave the sequence. -/
theorem seek_le {units : Array Code} {pos : Nat} (h : pos ≤ units.size) :
    seek isOperation units pos ≤ units.size := by
  fun_induction seek isOperation units pos with
  | case1 => exact h
  | case2 _ hlt _ ih => exact ih hlt
  | case3 => exact h

theorem length_slice {units : Array Code} {s : Span} (h : s.stop ≤ units.size) :
    (slice units s).length = s.stop - s.start := by
  simp only [slice, Array.length_toList, Array.size_extract]
  omega

/-- What is passed over starts no draft. -/
theorem draftsFrom_seek (units : Array Code) (pos : Nat) :
    draftsFrom isOperation pos (units.toList.drop pos) =
      draftsFrom isOperation (seek isOperation units pos)
        (units.toList.drop (seek isOperation units pos)) := by
  fun_induction seek isOperation units pos with
  | case1 => rfl
  | case2 pos hlt hop ih =>
    rw [drop_eq_cons hlt, draftsFrom_cons_of_other (by simpa using hop), ih]
  | case3 => rfl

/-- What is passed over are the codes up to the next operation. -/
theorem slice_seek (units : Array Code) (pos : Nat) :
    slice units ⟨pos, seek isOperation units pos⟩ =
      argumentsOf isOperation (units.toList.drop pos) := by
  fun_induction seek isOperation units pos with
  | case1 pos hlt hop =>
    rw [drop_eq_cons hlt, argumentsOf_cons_of_operation hop]
    simp [slice]
  | case2 pos hlt hop ih =>
    have hle : pos < seek isOperation units (pos + 1) := le_seek isOperation units (pos + 1)
    rw [drop_eq_cons hlt, argumentsOf_cons_of_other (by simpa using hop), ← ih]
    simp only [slice, Array.toList_extract, List.extract_eq_take_drop]
    rw [drop_eq_cons hlt, show seek isOperation units (pos + 1) - pos =
      seek isOperation units (pos + 1) - (pos + 1) + 1 by omega, List.take_succ_cons]
  | case3 pos hend =>
    rw [List.drop_eq_nil_of_le (by simpa using hend)]
    simp [slice, argumentsOf]

variable {isOperation} in
/-- Nothing is found exactly when the scan reaches the end. -/
theorem next?_eq_none_iff {units : Array Code} {pos : Nat} :
    next? isOperation units pos = none ↔ units.size ≤ seek isOperation units pos := by
  simp [next?]

variable {isOperation} in
/-- The draft of the next segment is the first of the drafts that are left. -/
theorem draftsFrom_of_next? {units : Array Code} {pos : Nat} {s : Segment} {stop : Nat}
    (h : next? isOperation units pos = some (s, stop)) :
    draftsFrom isOperation pos (units.toList.drop pos) =
      Draft.ofSegment units s :: draftsFrom isOperation stop (units.toList.drop stop) := by
  simp only [next?, Option.dite_none_right_eq_some, Option.some.injEq, Prod.mk.injEq] at h
  obtain ⟨hlt, rfl, rfl⟩ := h
  have hop := isOperation_seek hlt
  have hargs := slice_seek isOperation units (seek isOperation units pos + 1)
  have hstop : seek isOperation units pos + 1 + (argumentsOf isOperation
      (units.toList.drop (seek isOperation units pos + 1))).length =
        seek isOperation units (seek isOperation units pos + 1) := by
    have hle := le_seek isOperation units (seek isOperation units pos + 1)
    have hsize := seek_le isOperation (Nat.succ_le_of_lt hlt)
    rw [← hargs, length_slice hsize]
    exact Nat.add_sub_of_le hle
  rw [draftsFrom_seek, drop_eq_cons hlt, draftsFrom_cons_of_operation hop, draftsFrom_seek, hstop,
    ← hargs]
  rfl

theorem map_ofSegment_scan (units : Array Code) (pos : Nat) :
    (scan isOperation units pos).map (Draft.ofSegment units) =
      draftsFrom isOperation pos (units.toList.drop pos) := by
  fun_induction scan isOperation units pos with
  | case1 pos h =>
    have hend := next?_eq_none_iff.1 h
    rw [draftsFrom_seek, List.drop_eq_nil_of_le (by simpa using hend)]
    rfl
  | case2 pos s stop h ih =>
    rw [List.map_cons, ih, draftsFrom_of_next? h]

end

/-- Decoding finds the drafts that the recursion on the codes finds. -/
theorem drafts_decode (space : CodeSpace) (u : Sequence) :
    (decode space u).drafts = draftsFrom space.isOperation 0 u := by
  simpa [decode, segments] using map_ofSegment_scan space.isOperation u.toArray 0

end Opscript
