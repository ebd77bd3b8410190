import Opscript.Config.Document

/-!
# Issues of a document

`Issue` says which issues a document can give, whatever it holds: a document or a field that is
malformed, an operation without a callback, an unknown key, and a limit that is refused. None of
them has a span, since there is no sequence yet that it could be about. Every step of reading keeps
`Told`, so that holds of all that is read (`told_ofJson`).
-/

namespace Opscript.Config

open Loading in
/-- What reading a document can find. -/
inductive Issue : Violation → Prop
  | notAnObject (v : Json) : Issue (notAnObject v)
  | malformed (key : Key) (v : Json) : Issue (malformed key v)
  | missingCallback (symbol hint : String) : Issue (missingCallback symbol hint)
  | unknownKey (name : String) : Issue (unknownKey name)
  | limit {n : Int} {v : Violation} (h : Limit.check n = .error v) : Issue v

theorem Issue.span {v : Violation} (h : Issue v) : v.span = none := by
  cases h with
  | limit h =>
    unfold Limit.check at h
    split at h
    · cases h
    · cases h
      rfl
  | _ => rfl

/-- The issues are those of a document. Nothing else brings any, and an empty document brings
none, so these are the configurations that there can be. -/
def FromDocument (c : Config) : Prop :=
  ∃ (bind : Binding) (v : Json), c.issues = (Loading.ofJson bind v).config.issues

namespace Loading

/-- Every issue so far is one that a document can give. -/
def Told (l : Loading) : Prop := ∀ v ∈ l.config.issues, Issue v

variable {l : Loading}

theorem told_empty : ({} : Loading).Told := fun _ hv => nomatch hv

theorem Told.addIssue (h : l.Told) {v : Violation} (hv : Issue v) : (l.addIssue v).Told := by
  intro w hw
  rcases List.mem_append.1 hw with hw | hw
  · exact h w hw
  · exact List.mem_singleton.1 hw ▸ hv

/-- An operation has a callback or it is told of. -/
theorem Told.operation (h : l.Told) (bind : Binding) (entry : String × Json) :
    (operation bind l entry).Told := by
  unfold Loading.operation
  split
  next name _ =>
    dsimp only
    split
    · exact h
    · exact addIssue (l := { l with asked := l.asked ++ [name] }) h (.missingCallback _ _)
  next => exact h.addIssue (.missingCallback _ _)

theorem Told.maxLength (h : l.Told) (v : Json) (n : Json.Number) : (l.maxLength v n).Told := by
  unfold Loading.maxLength
  split
  next => exact h.addIssue (.malformed _ _)
  next =>
    split
    next => exact h
    next hcheck => exact h.addIssue (.limit hcheck)

/-- A field is taken, or it is told of. -/
theorem Told.field (h : l.Told) (bind : Binding) (f : String × Json) : (l.field bind f).Told := by
  unfold Loading.field
  split
  next key _ =>
    unfold known
    split
    next => exact h
    next => exact List.foldlRecOn _ _ h fun _ h entry _ => h.operation bind entry
    next => exact h
    next => exact h
    next => exact h.maxLength _ _
    next => exact h
    next => exact h
    next =>
      split
      · exact h
      · exact h.addIssue (.malformed _ _)
    next => exact h.addIssue (.malformed _ _)
  next => exact h.addIssue (.unknownKey _)

/-- Whatever a document holds, its issues are of these kinds. -/
theorem told_ofJson (bind : Binding) (v : Json) : (ofJson bind v).Told := by
  unfold ofJson
  split
  next fields =>
    exact List.foldlRecOn fields _ told_empty fun _ h f _ => h.field bind f
  next => exact told_empty.addIssue (.notAnObject _)

end Loading

/-- No issue has a span. -/
theorem FromDocument.span {c : Config} (h : c.FromDocument) {v : Violation} (hv : v ∈ c.issues) :
    v.span = none := by
  obtain ⟨bind, doc, hissues⟩ := h
  rw [hissues] at hv
  exact (Loading.told_ofJson bind doc v hv).span

end Opscript.Config
