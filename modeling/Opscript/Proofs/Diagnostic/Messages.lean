import Opscript.Config.Document
import Opscript.Proofs.Sequencer.Refusals
import Opscript.Proofs.Text.Replaced

/-!
# Messages of reports

The template of a kind has room for one detail, or for none. What takes the place of the braces is
the detail as it was given, whatever is in it (`message_of_around`), so details can be told apart by
their messages. A report passes on what a violation says of itself.
-/

namespace Opscript

namespace Diagnostic

/-- The template has room for a detail between two texts. -/
def Template.Around (t : Template) (before behind : String) : Prop :=
  t.text = before ++ Template.braces ++ behind

theorem Template.around_behind (text : String) :
    (⟨text ++ ": \x7b\x7d"⟩ : Template).Around (text ++ ": ") "" := by
  rw [Around, String.append_empty, String.append_assoc]
  rfl

namespace Kind

theorem count_template_le (kind : Kind) : kind.template.text.toList.count '\x7b' ≤ 1 := by
  cases kind <;> decide +kernel

/-- The detail takes the place of the braces, whether there are braces in it or not. -/
theorem message_of_around {kind : Kind} {before behind : String}
    (h : kind.template.Around before behind) (detail : String) :
    kind.message (some detail) = before ++ detail ++ behind := by
  have hcount := kind.count_template_le
  rw [Template.Around] at h
  rw [h] at hcount
  show kind.template.text.replace Template.braces detail = _
  rw [h]
  exact Text.replace_of_single (by decide) (fun a b => Text.eq_of_count_le_one rfl hcount) detail

/-- All kinds have room for a detail but the one that has nothing to say. -/
theorem exists_around_iff (kind : Kind) :
    (∃ before behind, kind.template.Around before behind) ↔ kind ≠ .emptySequence := by
  constructor
  · rintro ⟨before, behind, h⟩ rfl
    have hbraces : '\x7b' ∉ emptySequence.template.text.toList := by decide +kernel
    rw [Template.Around] at h
    exact hbraces (by rw [h]; simp [Template.braces])
  · intro h
    cases kind with
    | emptySequence => exact absurd rfl h
    | symbolNotSingleChar => exact ⟨"symbol ", " must be exactly one character", rfl⟩
    | codeOutOfRange => exact ⟨"code ", " is outside 0..=65535", rfl⟩
    | unknownConfigKey => exact ⟨"unknown configuration key `", "`", rfl⟩
    | recordNotFound => exact ⟨"no operation record with id ", "", rfl⟩
    | missingCallback => exact ⟨"operation ", " has no callback", rfl⟩
    | invalidSymbolType | invalidConfigField | sequenceTooLong | invalidMaxLength =>
      exact ⟨_, "", Template.around_behind _⟩

/-- Where there is room for it, the detail can be told from the message. -/
theorem message_injective {kind : Kind} {before behind : String}
    (h : kind.template.Around before behind) :
    Function.Injective fun detail => kind.message (some detail) := by
  intro a b hab
  have hsame : before ++ a ++ behind = before ++ b ++ behind := by
    rw [← message_of_around h, ← message_of_around h]
    exact hab
  rwa [String.append_left_inj, String.append_right_inj] at hsame

end Kind

end Diagnostic

/-- What is told of a malformed field. -/
theorem Config.Loading.message_malformed (key : Key) (got : Json) :
    (malformed key got).message = "invalid configuration field: " ++
      ("`" ++ key.name ++ "` must be " ++ key.expected ++ ", got " ++ got.describe) := by
  have haround : (Diagnostic.Kind.template .invalidConfigField).Around
      "invalid configuration field: " "" := rfl
  exact (Diagnostic.Kind.message_of_around haround _).trans String.append_empty

namespace Sequencer

open Diagnostic

/-- A report that is not dropped adds one diagnostic behind the others. It has the severity of the
policy, and the kind, the span and the message of the violation; its hints are the one of the kind
and behind it the one of the violation, as far as there are any. The message of a kind which has
room for a detail is the detail as it is, between what its template has before the braces and
behind them, so that another detail gives another message. There is room in all of them but the
one of an empty sequence. -/
theorem report_carries (q : Sequencer) (v : Violation) (h : q.policy ≠ ⟨.lenient, true⟩) :
    (∃ d : Diagnostic, (q.report v).2.diagnostics = q.diagnostics ++ [d] ∧
      d.severity = q.policy.severity ∧ d.kind = v.kind ∧ d.span = v.span ∧ d.message = v.message ∧
      d.hints = v.kind.hint?.toList ++ v.hint.toList) ∧
    (∀ (kind : Kind) (before behind : String), kind.template.Around before behind →
      (∀ detail, kind.message (some detail) = before ++ detail ++ behind) ∧
        Function.Injective fun detail => kind.message (some detail)) ∧
    ∀ kind : Kind, (∃ before behind, kind.template.Around before behind) ↔
      kind ≠ .emptySequence := by
  refine ⟨⟨q.policy.diagnostic v, ?_, ?_⟩, fun kind before behind haround =>
    ⟨Kind.message_of_around haround, Kind.message_injective haround⟩, Kind.exists_around_iff⟩
  · rw [diagnostics_report, if_neg h]
  · rw [Policy.diagnostic_eq]
    exact ⟨rfl, rfl, rfl, rfl, rfl⟩

/-- A detail with braces in it. -/
theorem report_carries_braces :
    let q : Sequencer := { policy := ⟨.strict, true⟩ }
    let v : Violation :=
      { kind := .missingCallback, detail := some "\"\x7b\x7d\"", span := some ⟨1, 2⟩
        hint := some "no callback named `\x7b\x7d`" }
    let template := Kind.template .missingCallback
    q.policy ≠ ⟨.lenient, true⟩ ∧ template.Around "operation " " has no callback" ∧
      ∃ d : Diagnostic, (q.report v).2.diagnostics = [d] ∧
        d.message = "operation \"\x7b\x7d\" has no callback" ∧
        d.hints = ["no callback named `\x7b\x7d`"] := by
  intro q v template
  have hpolicy : q.policy ≠ ⟨.lenient, true⟩ := by decide
  obtain ⟨⟨d, hd, -, -, -, hmessage, hhints⟩, hfills, -⟩ := report_carries q v hpolicy
  have haround : template.Around "operation " " has no callback" := rfl
  exact ⟨hpolicy, haround, d, hd, hmessage.trans ((hfills _ _ _ haround).1 _), hhints⟩

end Sequencer

end Opscript
