import Opscript.Proofs.Decoding.Scan
import Opscript.Record

/-!
# Decoding loses and invents nothing

`Tiles lo spans hi` says that the spans lie end to end between two positions. A decoding is a
`Partition` of its sequence if every code is accounted for: the dropped ones stand before the first
operation, and the spans of the drafts tile all the others, each with one operation in front.
`decode_partition` says that decoding gives such a partition, and that encoding what was decoded
gives the sequence back from the first operation on.
-/

namespace Opscript

/-! ## Spans end to end -/

/-- Spans that are not empty and lie end to end from `lo` to `hi`. -/
def Tiles : Nat → List Span → Nat → Prop
  | lo, [], hi => lo = hi
  | lo, s :: rest, hi => s.start = lo ∧ lo < s.stop ∧ Tiles s.stop rest hi

/-- A tiling starts with its first span. -/
theorem Tiles.start_head {lo hi : Nat} {spans : List Span} (h : Tiles lo spans hi) :
    (spans.head?.map Span.start).getD hi = lo := by
  cases spans with
  | nil => exact h.symm
  | cons s rest => exact h.1

/-! ## The leading codes -/

section

variable {isOperation : Code → Bool}

theorem leading_cons_of_operation {c : Code} (h : isOperation c = true) (u : List Code) :
    leading isOperation (c :: u) = 0 := by
  simp [leading, List.findIdx?_cons, h]

theorem leading_cons_of_other {c : Code} (h : isOperation c = false) (u : List Code) :
    leading isOperation (c :: u) = leading isOperation u + 1 := by
  simp only [leading, List.findIdx?_cons, h, Bool.false_eq_true, if_false, List.length_cons]
  cases u.findIdx? isOperation <;> rfl

/-- The leading codes end where the arguments of an operation in front of them would end. -/
theorem leading_eq_length_argumentsOf (u : List Code) :
    leading isOperation u = (argumentsOf isOperation u).length := by
  induction u with
  | nil => rfl
  | cons c rest ih =>
    cases h : isOperation c with
    | true => rw [leading_cons_of_operation h, argumentsOf_cons_of_operation h, List.length_nil]
    | false =>
      rw [leading_cons_of_other h, argumentsOf_cons_of_other h, ih, List.length_cons]

theorem take_leading (u : List Code) :
    u.take (leading isOperation u) = argumentsOf isOperation u := by
  rw [leading_eq_length_argumentsOf]
  exact (List.prefix_iff_eq_take.1 (List.takeWhile_prefix _)).symm

theorem leading_le_length (u : List Code) : leading isOperation u ≤ u.length := by
  rw [leading_eq_length_argumentsOf]
  exact (List.takeWhile_prefix _).length_le

/-- The code behind the leading ones is an operation. -/
theorem isOperation_of_getElem?_leading {u : List Code} {c : Code}
    (h : u[leading isOperation u]? = some c) : isOperation c = true := by
  induction u with
  | nil => simp at h
  | cons a rest ih =>
    cases ha : isOperation a with
    | true =>
      rw [leading_cons_of_operation ha, List.getElem?_cons_zero] at h
      exact Option.some.inj h ▸ ha
    | false =>
      rw [leading_cons_of_other ha, List.getElem?_cons_succ] at h
      exact ih h

/-! ## The drafts -/

variable (isOperation) in
theorem tiles_draftsFrom (pos : Nat) (u : List Code) :
    Tiles (pos + leading isOperation u) ((draftsFrom isOperation pos u).map Draft.span)
      (pos + u.length) := by
  induction u generalizing pos with
  | nil => rfl
  | cons c rest ih =>
    have htail := ih (pos + 1)
    rw [show pos + 1 + rest.length = pos + (c :: rest).length by simp; omega] at htail
    cases h : isOperation c with
    | true =>
      rw [leading_cons_of_operation h, draftsFrom_cons_of_operation h, List.map_cons]
      rw [leading_eq_length_argumentsOf] at htail
      exact ⟨rfl, by simp only; omega, htail⟩
    | false =>
      rw [leading_cons_of_other h, draftsFrom_cons_of_other h]
      rwa [show pos + (leading isOperation rest + 1) = pos + 1 + leading isOperation rest by omega]

/-- There is one draft for each operation. -/
theorem length_draftsFrom (pos : Nat) (u : List Code) :
    (draftsFrom isOperation pos u).length = u.countP isOperation := by
  induction u generalizing pos with
  | nil => rfl
  | cons c rest ih =>
    cases h : isOperation c with
    | true =>
      rw [draftsFrom_cons_of_operation h, List.length_cons, ih, List.countP_cons_of_pos h]
    | false =>
      rw [draftsFrom_cons_of_other h, ih, List.countP_cons_of_neg (by simp [h])]

theorem slice_toArray (u : List Code) (s : Span) :
    slice u.toArray s = (u.drop s.start).take (s.stop - s.start) := by
  simp [slice, List.extract_eq_take_drop]

/-- The span of a draft holds its operation and behind that its arguments. -/
theorem slice_span_of_mem (before : List Code) {u : List Code} {d : Draft}
    (h : d ∈ draftsFrom isOperation before.length u) :
    slice (before ++ u).toArray d.span = d.operation :: d.arguments := by
  induction u generalizing before with
  | nil => cases h
  | cons c rest ih =>
    have hnext : d ∈ draftsFrom isOperation (before.length + 1) rest →
        slice (before ++ c :: rest).toArray d.span = d.operation :: d.arguments := by
      intro hd
      have := ih (before ++ [c]) (by simpa using hd)
      simpa using this
    cases hc : isOperation c with
    | true =>
      rw [draftsFrom_cons_of_operation hc] at h
      rcases List.mem_cons.1 h with rfl | h
      · rw [slice_toArray, List.drop_left]
        simp only [Nat.add_assoc, Nat.add_sub_cancel_left]
        rw [Nat.add_comm 1, List.take_succ_cons, ← leading_eq_length_argumentsOf, take_leading]
      · exact hnext h
    | false =>
      rw [draftsFrom_cons_of_other hc] at h
      exact hnext h

theorem isOperation_of_mem_draftsFrom {pos : Nat} {u : List Code} {d : Draft}
    (h : d ∈ draftsFrom isOperation pos u) :
    isOperation d.operation = true ∧ ∀ a ∈ d.arguments, isOperation a = false := by
  induction u generalizing pos with
  | nil => cases h
  | cons c rest ih =>
    cases hc : isOperation c with
    | true =>
      rw [draftsFrom_cons_of_operation hc] at h
      rcases List.mem_cons.1 h with rfl | h
      · exact ⟨hc, fun a ha => not_operation_of_mem_argumentsOf ha⟩
      · exact ih h
    | false =>
      rw [draftsFrom_cons_of_other hc] at h
      exact ih h

/-- The drafts, one behind the other, are the codes from the first operation on. -/
theorem flatMap_codes_draftsFrom (pos : Nat) (u : List Code) :
    (draftsFrom isOperation pos u).flatMap Draft.codes = u.drop (leading isOperation u) := by
  induction u generalizing pos with
  | nil => rfl
  | cons c rest ih =>
    cases h : isOperation c with
    | true =>
      rw [draftsFrom_cons_of_operation h, List.flatMap_cons, ih, leading_cons_of_operation h,
        List.drop_zero]
      show c :: argumentsOf isOperation rest ++ rest.drop (leading isOperation rest) = c :: rest
      rw [List.cons_append, ← take_leading, List.take_append_drop]
    | false =>
      rw [draftsFrom_cons_of_other h, ih, leading_cons_of_other h, List.drop_succ_cons]

end

/-! ## Partitions -/

/-- Every code of `u` is accounted for by `d`. -/
structure Partition (space : CodeSpace) (u : Sequence) (d : Decoding) : Prop where
  /-- The dropped codes are a front part of the sequence. -/
  front : d.dropped.start = 0 ∧ d.dropped.stop ≤ u.length
  /-- No dropped code is an operation. -/
  dropped : ∀ c ∈ slice u.toArray d.dropped, space c ≠ .operation
  /-- The code behind the dropped ones is an operation. -/
  first : ∀ c, u[d.dropped.stop]? = some c → space c = .operation
  /-- The spans of the drafts tile what is not dropped. -/
  tiles : Tiles d.dropped.stop (d.drafts.map Draft.span) u.length
  /-- A draft is made of the codes of its span. -/
  codes : ∀ f ∈ d.drafts, slice u.toArray f.span = f.operation :: f.arguments
  operation : ∀ f ∈ d.drafts, space f.operation = .operation
  /-- The operation of a draft is the only one in its span. -/
  arguments : ∀ f ∈ d.drafts, ∀ a ∈ f.arguments, space a ≠ .operation

theorem operation_of_mem_drafts {space : CodeSpace} {u : Sequence} {f : Draft}
    (h : f ∈ (decode space u).drafts) :
    space f.operation = .operation ∧ ∀ a ∈ f.arguments, space a ≠ .operation := by
  rw [drafts_decode] at h
  obtain ⟨hop, hargs⟩ := isOperation_of_mem_draftsFrom h
  exact ⟨CodeSpace.isOperation_iff.1 hop,
    fun a ha => CodeSpace.isOperation_eq_false_iff.1 (hargs a ha)⟩

theorem slice_dropped (space : CodeSpace) (u : Sequence) :
    slice u.toArray (decode space u).dropped = argumentsOf space.isOperation u := by
  rw [slice_toArray, ← take_leading]
  rfl

theorem partition_decode (space : CodeSpace) (u : Sequence) :
    Partition space u (decode space u) where
  front := ⟨rfl, leading_le_length u⟩
  dropped c hc := by
    rw [slice_dropped] at hc
    exact CodeSpace.isOperation_eq_false_iff.1 (not_operation_of_mem_argumentsOf hc)
  first _ hc := CodeSpace.isOperation_iff.1 (isOperation_of_getElem?_leading hc)
  tiles := by
    rw [drafts_decode]
    simpa [decode] using tiles_draftsFrom space.isOperation 0 u
  codes f hf := by
    rw [drafts_decode] at hf
    exact slice_span_of_mem [] hf
  operation f hf := (operation_of_mem_drafts hf).1
  arguments f hf := (operation_of_mem_drafts hf).2

/-- Records with the contents that were decoded encode to what was not dropped. -/
theorem encode_of_contents {space : CodeSpace} {u : Sequence} {records : List Record}
    (h : records.map Record.content = (decode space u).contents) :
    encode records = u.drop (leading space.isOperation u) := by
  rw [encode_eq_flatMap_content, h, Decoding.contents, List.flatMap_map, drafts_decode,
    ← flatMap_codes_draftsFrom 0 u]
  rfl

/-- The first segment starts where the leading codes end. -/
theorem start_head_segments (isOperation : Code → Bool) (u : Sequence) :
    ((segments isOperation u).head?.map Segment.start).getD u.length = leading isOperation u := by
  have h := (tiles_draftsFrom isOperation 0 u).start_head
  have hscan := map_ofSegment_scan isOperation u.toArray 0
  rw [List.drop_zero] at hscan
  rw [← hscan, List.map_map, List.head?_map, Option.map_map, Nat.zero_add,
    Nat.zero_add] at h
  exact h

/-- Decoding loses no code and invents none. -/
theorem decode_partition (space : CodeSpace) (u : Sequence) :
    Partition space u (decode space u) ∧
      (∀ records : List Record, records.map Record.content = (decode space u).contents →
        u = u.take (decode space u).dropped.stop ++ encode records) ∧
      ((segments space.isOperation u).head?.map Segment.start).getD u.length =
        leading space.isOperation u := by
  refine ⟨partition_decode space u, fun records h => ?_, start_head_segments _ u⟩
  rw [encode_of_contents h]
  exact (List.take_append_drop _ u).symm

/-- A leading code, an operation with two arguments and one without. -/
theorem decode_partition_small :
    let space : CodeSpace := fun c => if c = 65 then .operation else .unknown
    let records : List Record := [⟨.first, 65, [97, 98]⟩, ⟨.first, 65, []⟩]
    records.map Record.content = (decode space [97, 65, 97, 98, 65]).contents ∧
      ([97, 65, 97, 98, 65] : Sequence) = [97] ++ encode records := by
  intro space records
  have h : records.map Record.content = (decode space [97, 65, 97, 98, 65]).contents := by
    rw [Decoding.contents, drafts_decode]
    rfl
  exact ⟨h, (decode_partition space _).2.1 records h⟩

end Opscript
