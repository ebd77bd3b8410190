import Opscript.Proofs.Palette.Painted
import Opscript.Proofs.Text.Tame

/-!
# Colours of values

However deep a value nests, its coloured text is its plain text with colours around strings, keys
and signs (`painted_format`), and no string or key in it brings a control of its own.
-/

namespace Opscript.Value

open Text (IsTame tame_quote)

theorem painted_quote (s : String) : Painted IsTame (Text.quote s) (Text.quote s) :=
  .text (tame_quote s)

theorem painted_sign (s : String) (h : Text.Tame s) :
    Painted IsTame (Palette.colored.dim s) (Palette.plain.dim s) := .dim (.text h)

/-- Brackets and commas are painted, each by itself. -/
theorem painted_brackets {front back : String} (hfront : Text.Tame front) (hback : Text.Tame back)
    {ss ts : List String} (h : List.Forall₂ (Painted IsTame) ss ts) :
    Painted IsTame
      (Palette.colored.dim front ++ String.intercalate (Palette.colored.dim ",") ss ++
        Palette.colored.dim back)
      (Palette.plain.dim front ++ String.intercalate (Palette.plain.dim ",") ts ++
        Palette.plain.dim back) :=
  .append (.append (painted_sign _ hfront) (.intercalate (painted_sign _ (by decide)) h))
    (painted_sign _ hback)

mutual

theorem painted_format : ∀ v : Value, Painted IsTame (v.format .colored) (v.format .plain)
  | null => painted_sign _ (by decide)
  | bool true => .text (by decide : Text.Tame "true")
  | bool false => .text (by decide : Text.Tame "false")
  | int n => .text (Text.tame_int n.toInt)
  | float x => .text (Text.tame_floatText x)
  | string s => .green (painted_quote s)
  | array items => painted_brackets (by decide) (by decide) (painted_formatItems items)
  | object fields => painted_brackets (by decide) (by decide) (painted_formatFields fields)

theorem painted_formatItems : ∀ items : List Value,
    List.Forall₂ (Painted IsTame) (formatItems .colored items) (formatItems .plain items)
  | [] => .nil
  | v :: vs => .cons (painted_format v) (painted_formatItems vs)

theorem painted_formatFields : ∀ fields : List (String × Value),
    List.Forall₂ (Painted IsTame) (formatFields .colored fields) (formatFields .plain fields)
  | [] => .nil
  | (k, v) :: vs =>
    .cons (.append (.append (.blue (painted_quote k)) (painted_sign _ (by decide)))
      (painted_format v)) (painted_formatFields vs)

end

theorem painted_formatArgument (x : Option Value) :
    Painted IsTame (formatArgument .colored x) (formatArgument .plain x) := by
  cases x with
  | none => exact painted_sign _ (by decide)
  | some v => exact painted_format v

end Opscript.Value
