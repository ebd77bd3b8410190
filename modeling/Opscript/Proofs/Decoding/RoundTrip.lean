import Opscript.Proofs.Decoding.Tiling

/-!
# Decoding what was encoded

The encoding of records keeps no trace of where a record ends; only the code space can tell. So
records are found again exactly when their operations are operations of the code space and none of
their arguments is one (`decode_encode_iff`). The step for one record is `draftsFrom_append`: in
front of a rest that is empty or starts with an operation, drafts are found as if there were no
rest.
-/

namespace Opscript

section

variable {isOperation : Code → Bool}

/-- Arguments end where the next operation starts. -/
theorem argumentsOf_append {v : List Code} (hv : argumentsOf isOperation v = []) (u : List Code) :
    argumentsOf isOperation (u ++ v) = argumentsOf isOperation u := by
  induction u with
  | nil => exact hv
  | cons c rest ih =>
    rw [List.cons_append]
    cases hc : isOperation c with
    | true => rw [argumentsOf_cons_of_operation hc, argumentsOf_cons_of_operation hc]
    | false => rw [argumentsOf_cons_of_other hc, argumentsOf_cons_of_other hc, ih]

theorem argumentsOf_of_other {others : List Code} (h : ∀ c ∈ others, isOperation c = false) :
    argumentsOf isOperation others = others := by
  induction others with
  | nil => rfl
  | cons c rest ih =>
    rw [argumentsOf_cons_of_other (h c List.mem_cons_self),
      ih fun a ha => h a (List.mem_cons_of_mem c ha)]

/-- The drafts of two parts are found one part after the other, if the second one is empty or
starts with an operation. -/
theorem draftsFrom_append {v : List Code} (hv : argumentsOf isOperation v = []) (pos : Nat)
    (u : List Code) :
    draftsFrom isOperation pos (u ++ v) =
      draftsFrom isOperation pos u ++ draftsFrom isOperation (pos + u.length) v := by
  induction u generalizing pos with
  | nil => rfl
  | cons c rest ih =>
    have hpos : pos + (c :: rest).length = pos + 1 + rest.length := by
      rw [List.length_cons]; omega
    rw [List.cons_append, hpos]
    cases hc : isOperation c with
    | true =>
      rw [draftsFrom_cons_of_operation hc, argumentsOf_append hv, ih,
        draftsFrom_cons_of_operation hc, List.cons_append]
    | false => rw [draftsFrom_cons_of_other hc, draftsFrom_cons_of_other hc, ih]

/-- A record that the code space can read. -/
def Readable (isOperation : Code → Bool) (r : Record) : Prop :=
  isOperation r.operation = true ∧ ∀ a ∈ r.arguments, isOperation a = false

theorem draftsFrom_codes {r : Record} (h : Readable isOperation r) (pos : Nat) :
    draftsFrom isOperation pos r.codes =
      [⟨r.operation, r.arguments, ⟨pos, pos + 1 + r.arguments.length⟩⟩] := by
  have hnone : draftsFrom isOperation (pos + 1) r.arguments = [] := by
    have := draftsFrom_append_of_other h.2 (pos + 1) []
    rwa [List.append_nil] at this
  unfold Record.codes
  rw [draftsFrom_cons_of_operation h.1, argumentsOf_of_other h.2, hnone]

theorem argumentsOf_encode {records : List Record} (h : ∀ r ∈ records, Readable isOperation r) :
    argumentsOf isOperation (encode records) = [] := by
  cases records with
  | nil => rfl
  | cons r rest => exact argumentsOf_cons_of_operation (h r List.mem_cons_self).1 _

theorem map_content_draftsFrom_encode {records : List Record}
    (h : ∀ r ∈ records, Readable isOperation r) (pos : Nat) :
    (draftsFrom isOperation pos (encode records)).map Draft.content =
      records.map Record.content := by
  induction records generalizing pos with
  | nil => rfl
  | cons r rest ih =>
    obtain ⟨hr, hrest⟩ := List.forall_mem_cons.1 h
    rw [encode_cons, draftsFrom_append (argumentsOf_encode hrest), draftsFrom_codes hr,
      List.map_append, ih hrest]
    rfl

end

theorem readable_iff {space : CodeSpace} {r : Record} :
    Readable space.isOperation r ↔
      space r.operation = .operation ∧ ∀ a ∈ r.arguments, space a ≠ .operation := by
  simp [Readable]

/-- What a code space decodes is readable in it. -/
theorem readable_of_contents {space : CodeSpace} {u : Sequence} {records : List Record}
    (h : (decode space u).contents = records.map Record.content) :
    ∀ r ∈ records, space r.operation = .operation ∧ ∀ a ∈ r.arguments, space a ≠ .operation := by
  intro r hr
  have hmem : r.content ∈ (decode space u).contents := h ▸ List.mem_map_of_mem hr
  obtain ⟨f, hf, hcontent⟩ := List.mem_map.1 hmem
  obtain ⟨hop, hargs⟩ := operation_of_mem_drafts hf
  injection hcontent with h1 h2
  exact ⟨h1 ▸ hop, h2 ▸ hargs⟩

/-- Records come back from their encoding, and nothing is dropped, exactly when each operation is
an operation of the code space and no argument is. -/
theorem decode_encode_iff (space : CodeSpace) (records : List Record) :
    ((decode space (encode records)).contents = records.map Record.content ∧
        (decode space (encode records)).dropped = ⟨0, 0⟩) ↔
      ∀ r ∈ records, space r.operation = .operation ∧ ∀ a ∈ r.arguments, space a ≠ .operation := by
  constructor
  · rintro ⟨h, -⟩
    exact readable_of_contents h
  · intro h
    have hread : ∀ r ∈ records, Readable space.isOperation r := fun r hr => readable_iff.2 (h r hr)
    constructor
    · rw [Decoding.contents, drafts_decode, map_content_draftsFrom_encode hread]
    · simp [decode, leading_eq_length_argumentsOf, argumentsOf_encode hread]

/-- An argument that is an operation as well comes back as a record of its own. -/
example : (decode (fun c => if c = 65 ∨ c = 66 then .operation else .value)
    (encode [⟨.first, 65, [97, 66]⟩])).contents = [(65, [97]), (66, [])] := by
  decide +kernel

end Opscript
