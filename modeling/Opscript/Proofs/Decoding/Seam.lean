import Opscript.Proofs.Decoding.RoundTrip
import Opscript.Proofs.Decoding.Unknown

/-!
# Decoding two parts

A sequence can be cut in front of an operation and its parts can be decoded each by itself
(`decode_append`). The drafts of the second part then stand as many positions further on as the
first part is long (`drafts_append`), and the leading codes are those of the first part
(`leading_append`). Unknown codes are listed once for the whole sequence, so those of the second
part count only if the first one does not list them (`unknown_append`).
-/

namespace Opscript

/-- The span `n` positions further on. -/
def Span.shift (n : Nat) (s : Span) : Span := ⟨n + s.start, n + s.stop⟩

/-- The draft with `n` more codes in front of its sequence. -/
def Draft.shift (n : Nat) (d : Draft) : Draft := { d with span := d.span.shift n }

section

variable {isOperation : Code → Bool}

/-- Where drafts are found does not change what is found. -/
theorem draftsFrom_add (n pos : Nat) (u : List Code) :
    draftsFrom isOperation (n + pos) u =
      (draftsFrom isOperation pos u).map (Draft.shift n) := by
  -- the position moves on with the codes, the shift stays
  induction u generalizing pos with
  | nil => rfl
  | cons c rest ih =>
    have hnext : draftsFrom isOperation (n + pos + 1) rest =
        (draftsFrom isOperation (pos + 1) rest).map (Draft.shift n) := by
      rw [Nat.add_assoc, ih]
    cases hc : isOperation c with
    | true =>
      rw [draftsFrom_cons_of_operation hc, draftsFrom_cons_of_operation hc, List.map_cons, hnext]
      simp only [Draft.shift, Span.shift, Nat.add_assoc]
    | false => rw [draftsFrom_cons_of_other hc, draftsFrom_cons_of_other hc, hnext]

/-- No more codes are leading than before. -/
theorem leading_append {v : List Code} (hv : argumentsOf isOperation v = []) (u : List Code) :
    leading isOperation (u ++ v) = leading isOperation u := by
  rw [leading_eq_length_argumentsOf, leading_eq_length_argumentsOf, argumentsOf_append hv]

/-- No code stands in front of the first operation if that stands in front of all. -/
theorem argumentsOf_of_head? {v : List Code} (h : ∀ c ∈ v.head?, isOperation c = true) :
    argumentsOf isOperation v = [] := by
  cases v with
  | nil => rfl
  | cons c rest => exact argumentsOf_cons_of_operation (h c rfl) rest

end

/-- The elements of two lists, each once, are those of the first list and behind them those of the
second that are not in the first. -/
theorem eraseDups_append {α : Type} [DecidableEq α] (l m : List α) :
    (l ++ m).eraseDups = l.eraseDups ++ m.eraseDups.filter (· ∉ l.eraseDups) := by
  rw [List.eraseDups_append, List.removeAll, eraseDups_filter]
  simp only [List.mem_eraseDups, List.elem_eq_mem, decide_not]

/-! ## Two parts -/

section

variable {space : CodeSpace} {u v : Sequence}

theorem drafts_append (hv : argumentsOf space.isOperation v = []) :
    (decode space (u ++ v)).drafts =
      (decode space u).drafts ++ (decode space v).drafts.map (Draft.shift u.length) := by
  rw [drafts_decode, drafts_decode, drafts_decode, draftsFrom_append hv, Nat.zero_add,
    ← draftsFrom_add, Nat.add_zero]

/-- The argument codes of two parts stand one part behind the other. -/
theorem argumentCodes_append (hv : argumentsOf space.isOperation v = []) :
    argumentCodes space (u ++ v) = argumentCodes space u ++ argumentCodes space v := by
  rw [← flatMap_arguments_decode, ← flatMap_arguments_decode, ← flatMap_arguments_decode,
    drafts_append hv, List.flatMap_append, List.flatMap_map]
  rfl

theorem unknown_append (hv : argumentsOf space.isOperation v = []) :
    (decode space (u ++ v)).unknown = (decode space u).unknown ++
      (decode space v).unknown.filter (· ∉ (decode space u).unknown) := by
  rw [unknown_decode, unknown_decode, unknown_decode, argumentCodes_append hv, List.filter_append,
    eraseDups_append]

theorem contents_append (hv : argumentsOf space.isOperation v = []) :
    (decode space (u ++ v)).contents = (decode space u).contents ++ (decode space v).contents := by
  rw [Decoding.contents, drafts_append hv, List.map_append, List.map_map]
  rfl

end

/-- In front of an operation, or at its end, a sequence can be cut in two parts that are decoded
each by itself: the drafts of the second part stand further on by the length of the first, the
dropped codes are those of the first part, and of the unknown codes of the second part those are
added that the first does not have. So where records that come back from their encoding are encoded
behind a sequence, they are decoded behind what is decoded of that sequence. -/
theorem decode_append (space : CodeSpace) (u : Sequence) :
    (∀ v : Sequence, (∀ c ∈ v.head?, space c = .operation) →
      (decode space (u ++ v)).drafts =
          (decode space u).drafts ++ (decode space v).drafts.map (Draft.shift u.length) ∧
        (decode space (u ++ v)).dropped = (decode space u).dropped ∧
        (decode space (u ++ v)).unknown = (decode space u).unknown ++
          (decode space v).unknown.filter (· ∉ (decode space u).unknown)) ∧
    ∀ records : List Record,
      (decode space (encode records)).contents = records.map Record.content →
        (decode space (u ++ encode records)).contents =
          (decode space u).contents ++ records.map Record.content := by
  constructor
  · intro v hv
    have hstart : argumentsOf space.isOperation v = [] :=
      argumentsOf_of_head? fun c hc => CodeSpace.isOperation_iff.2 (hv c hc)
    refine ⟨drafts_append hstart, ?_, unknown_append hstart⟩
    exact congrArg (Span.mk 0) (leading_append hstart u)
  · intro records hback
    have hreadable : ∀ r ∈ records, Readable space.isOperation r := fun r hr =>
      readable_iff.2 (readable_of_contents hback r hr)
    rw [contents_append (argumentsOf_encode hreadable), hback]

/-- Both parts have an unknown code that the other has too, and one of their own. -/
theorem decode_append_small :
    let space : CodeSpace := fun c => if c = 65 then .operation else .unknown
    let u : Sequence := [120, 65, 98, 97]
    let records : List Record := [⟨.first, 65, [98, 99]⟩]
    let whole := decode space (u ++ encode records)
    (∀ c ∈ (encode records).head?, space c = .operation) ∧
      (decode space (encode records)).contents = records.map Record.content ∧
      whole.drafts = [⟨65, [98, 97], ⟨1, 4⟩⟩, ⟨65, [98, 99], ⟨4, 7⟩⟩] ∧
      whole.dropped = ⟨0, 1⟩ ∧ whole.unknown = [98, 97, 99] ∧
      whole.contents = [(65, [98, 97]), (65, [98, 99])] := by
  intro space u records whole
  have hfirst : decode space u = ⟨[⟨65, [98, 97], ⟨1, 4⟩⟩], [98, 97], ⟨0, 1⟩⟩ := by
    decide +kernel
  have hsecond : decode space (encode records) =
      ⟨[⟨65, [98, 99], ⟨0, 3⟩⟩], [98, 99], ⟨0, 0⟩⟩ := by
    decide +kernel
  have hstart : ∀ c ∈ (encode records).head?, space c = .operation := by
    rintro c ⟨⟩
    rfl
  have hback : (decode space (encode records)).contents = records.map Record.content := by
    rw [hsecond]
    rfl
  obtain ⟨hparts, hrecords⟩ := decode_append space u
  obtain ⟨hdrafts, hdropped, hunknown⟩ := hparts (encode records) hstart
  have hcontents := hrecords records hback
  rw [hfirst, hsecond] at hdrafts hunknown
  rw [hfirst] at hdropped hcontents
  refine ⟨hstart, hback, hdrafts, hdropped, hunknown.trans ?_, hcontents⟩
  decide

end Opscript
