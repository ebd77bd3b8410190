import Mathlib.Algebra.Group.Nat.Defs
import Opscript.Proofs.Config.Fields
import Opscript.Proofs.Diagnostic.Messages
import Opscript.Proofs.Json.Nested
import Opscript.Proofs.Sequencer.Construction

/-!
# A limit in a document and a limit that is set

The same number can stand in a document and can be set in a configuration. In a document it counts
only if it is a signed 64-bit integer (`read_limitText`). So up to `2^63 - 1` the two ways lead to
the same sequencer, zero included, which is refused by the same check on both; from `2^63` on the
document is told to be malformed and gives no limit, while the configuration has one
(`limit_of_document`).
-/

namespace Opscript.Config

/-- The document that gives a limit and nothing else. -/
def limitText (n : Nat) : String := "\x7b\"maxSequenceLength\": " ++ toString n ++ "\x7d"

/-- What that document comes to: a limit, or an issue. -/
def limitConfig (n : Nat) : Config :=
  if n = 0 then { issues := [zeroLimit] }
  else if n < 2 ^ 63 then { maxLength := some n }
  else { issues := [Loading.malformed .maxSequenceLength (.number (.int n))] }

/-! ## The document -/

theorem toList_limitText (n : Nat) :
    (limitText n).toList = '{' :: ([','].intercalate
      [Text.quoteChars "maxSequenceLength".toList ++ ':' :: ' ' :: Nat.toDigits 10 n] ++
        ['}']) := by
  have hkey : "\x7b\"maxSequenceLength\": ".toList =
      '{' :: (Text.quoteChars "maxSequenceLength".toList ++ [':', ' ']) := by
    decide
  have hclose : "\x7d".toList = ['}'] := by decide
  unfold limitText
  rw [String.toList_append, String.toList_append, hkey, hclose, Nat.toString_eq_repr,
    Nat.toList_repr, List.intercalate_singleton]
  simp only [List.cons_append, List.append_assoc, List.nil_append]

section

open Json.Reading

/-- The number is read as it is, as long as it fits into the significand. -/
theorem json_limitText {n : Nat} (hn : n < 2 ^ 64) :
    Json.read (limitText n) = .ok (.object [("maxSequenceLength", .number (.int n))]) := by
  have hfit : n ≤ Decimal.maxSignificand := Nat.le_of_lt_succ hn
  have hvalue : ∀ rest, goesOn rest = false →
      value 126 (' ' :: Nat.toDigits 10 n ++ rest) = .ok (.number (.int n), rest) := by
    intro rest hrest
    rw [List.cons_append, value_blank]
    exact (reads_digits 126 hfit).takes rest hrest
  have hfield := readsField hvalue "maxSequenceLength"
  apply read_of_reads
  rw [toList_limitText]
  exact reads_object (.cons hfield .nil) (List.nodup_singleton _)

end

/-- A signed number of 64 bits is positive up to `2^63 - 1`. -/
theorem positive?_of_nat (n : Nat) :
    (Json.number (.int n)).positive? = if 0 < n ∧ n < 2 ^ 63 then some n else none := by
  have hmax : Int64.maxValue.toInt = 2 ^ 63 - 1 := rfl
  have hrange : (1 ≤ (n : Int) ∧ (n : Int) ≤ Int64.maxValue.toInt) ↔ 0 < n ∧ n < 2 ^ 63 := by
    omega
  simp only [Json.positive?, hrange, Int.toNat_natCast]

/-- What is read of the number. -/
theorem maxLength_of_nat (n : Nat) :
    ({} : Loading).maxLength (.number (.int n)) (.int n) = { config := limitConfig n } := by
  have hmin : Int64.minValue.toInt = -2 ^ 63 := rfl
  rw [Loading.maxLength_eq, positive?_of_nat, limitConfig]
  by_cases hzero : n = 0
  · subst hzero
    rfl
  · by_cases hlarge : n < 2 ^ 63
    · rw [if_pos ⟨Nat.pos_of_ne_zero hzero, hlarge⟩, if_neg hzero, if_pos hlarge]
      rfl
    · -- as it is no signed number, it is not even refused as a limit
      have hfault : Loading.fault .maxSequenceLength (.number (.int n)) =
          Loading.malformed .maxSequenceLength (.number (.int n)) := by
        rw [Loading.fault, if_neg (by omega)]
      rw [if_neg (by omega), if_neg hzero, if_neg hlarge, Option.elim_none, hfault]
      rfl

theorem read_limitText (bind : String → Option Callback) {n : Nat} (hn : n < 2 ^ 64) :
    read bind (limitText n) = .ok { config := limitConfig n } := by
  rw [read, json_limitText hn, ← maxLength_of_nat]
  rfl

/-! ## The sequencer -/

/-- A limit that is set is there if it is positive, and nothing is told of it. -/
theorem ofConfig_limit {n : Nat} (hn : 0 < n) :
    Sequencer.ofConfig { maxLength := some n } = { limit := some ⟨n, hn⟩ } := by
  have hset : ((default : Sequencer).setLimit n).2 = { limit := some ⟨n, hn⟩ } := by
    rw [Sequencer.setLimit, Sequencer.limitCheck_eq, dif_pos hn]
    rfl
  exact hset

/-- Up to `2^63 - 1` the limit of a document makes the same sequencer as the limit that is set. -/
theorem ofConfig_limitConfig {n : Nat} (hn : n < 2 ^ 63) :
    Sequencer.ofConfig (limitConfig n) = Sequencer.ofConfig { maxLength := some n } := by
  unfold limitConfig
  by_cases hzero : n = 0
  · subst hzero
    rfl
  · rw [if_neg hzero, if_pos hn]

/-- The kind and the message of each report. -/
def reported (q : Sequencer) : List (Diagnostic.Kind × String) :=
  q.diagnostics.map fun d => (d.kind, d.message)

/-- What is told of a number that counts as no positive integer. -/
def noInteger : Diagnostic.Kind × String :=
  (.invalidConfigField, "invalid configuration field: `maxSequenceLength` must be a positive " ++
    "integer, got a number")

/-- From `2^63` on the number counts as no integer. -/
theorem limitConfig_of_le {n : Nat} (hn : 2 ^ 63 ≤ n) :
    (Sequencer.ofConfig (limitConfig n)).limit = none ∧
      reported (Sequencer.ofConfig (limitConfig n)) = [noInteger] := by
  have hconfig : limitConfig n =
      { issues := [Loading.malformed .maxSequenceLength (.number (.int n))] } := by
    rw [limitConfig, if_neg (by omega), if_neg (by omega)]
  have htold : (Sequencer.ofConfig
      { issues := [Loading.malformed .maxSequenceLength (.number (.int n))] }).diagnostics =
        [Policy.diagnostic {} (Loading.malformed .maxSequenceLength (.number (.int n)))] := rfl
  rw [hconfig]
  refine ⟨rfl, ?_⟩
  rw [reported, htold, List.map_singleton, Policy.diagnostic_eq, Loading.message_malformed]
  rfl

/-- A document whose only field is a limit, a number below `2^64`, can be read. Below `2^63` it
makes the very sequencer that this limit makes if it is set, zero included, which is refused on both
ways with the same report. From `2^63` on the document is told to hold no positive integer and
leaves the sequencer without a limit, though the same number is a limit if it is set. So it is just
up to `2^63 - 1` that the two ways give the same limit and the same reports. -/
theorem limit_of_document (bind : String → Option Callback) {n : Nat} (hn : n < 2 ^ 64) :
    ∃ l, read bind (limitText n) = .ok l ∧
      let written := Sequencer.ofConfig l.config
      let built := Sequencer.ofConfig { maxLength := some n }
      (n < 2 ^ 63 → written = built) ∧
        (2 ^ 63 ≤ n →
          written.limit = none ∧ reported written = [noInteger] ∧
            built.limit.map Limit.val = some n ∧ reported built = []) ∧
        (written.limit = built.limit ∧ reported written = reported built ↔ n < 2 ^ 63) := by
  refine ⟨_, read_limitText bind hn, ofConfig_limitConfig, fun hlarge => ?_, fun hsame => ?_,
    fun hsmall => ?_⟩
  · obtain ⟨hlimit, hreported⟩ := limitConfig_of_le hlarge
    rw [ofConfig_limit (Nat.lt_of_lt_of_le (by decide) hlarge)]
    exact ⟨hlimit, hreported, rfl, rfl⟩
  · by_contra hlarge
    have hlimit := (limitConfig_of_le (Nat.le_of_not_lt hlarge)).1.symm.trans hsame.1
    rw [ofConfig_limit (by omega)] at hlimit
    cases hlimit
  · rw [ofConfig_limitConfig hsmall]
    exact ⟨rfl, rfl⟩

/-- The last number that a document can give as a limit. -/
theorem limit_of_document_last :
    let n := 2 ^ 63 - 1
    n < 2 ^ 64 ∧ ∃ l, read (fun _ => none) (limitText n) = .ok l ∧
      (Sequencer.ofConfig l.config).limit.map Limit.val = some n ∧
      reported (Sequencer.ofConfig l.config) = [] := by
  intro n
  have hn : n < 2 ^ 64 := by decide
  obtain ⟨l, hread, hsame, -⟩ := limit_of_document (fun _ => none) hn
  refine ⟨hn, l, hread, ?_⟩
  rw [hsame (by decide)]
  exact ⟨rfl, rfl⟩

/-- The number behind it is a positive integer as well, but a document that gives it makes another
sequencer than the limit that is set. -/
theorem limit_of_document_next :
    let n := 2 ^ 63
    ∃ l, read (fun _ => none) "\x7b\"maxSequenceLength\": 9223372036854775808\x7d" = .ok l ∧
      let written := Sequencer.ofConfig l.config
      let built := Sequencer.ofConfig { maxLength := some n }
      written.limit ≠ built.limit ∧ reported written ≠ reported built := by
  intro n
  have htext : "\x7b\"maxSequenceLength\": 9223372036854775808\x7d" = limitText n := by
    decide +kernel
  refine ⟨_, htext ▸ read_limitText (fun _ => none) (by decide), ?_⟩
  decide +kernel

end Opscript.Config
