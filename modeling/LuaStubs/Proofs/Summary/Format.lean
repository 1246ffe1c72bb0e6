import LuaStubs.Proofs.Json.Datum
import LuaStubs.Proofs.Json.Layout
import LuaStubs.Summary.Basic
import LuaStubs.Summary.Format

/-!
# Formats say the same

The three formats of a value say the same (`Format.Alike`). That is so for every
value (`Format.alike`), so for the summary of every run.
-/

namespace LuaStubs.Format

open Json (Datum Printable Unescaped)

/-- The formats of a value say the same. -/
structure Alike (v : Json.Value) : Prop where
  /-- The text format has no control characters, and so is one line. -/
  one_line : ∀ color, Printable (text.write color v).toList
  /-- The text format and the JSON format denote one datum. -/
  one_datum : ∀ color, Datum.ofText (text.write color v) = .ok v.datum ∧ Datum.ofText (json.write color v) = .ok v.datum
  /-- Without colours, the pretty format is the JSON format, if no string and no key has a quote, a backslash or
  a control character. -/
  one_text : (∀ s ∈ v.texts, Unescaped s) → ∀ color, pretty.write false v = json.write color v

theorem alike : (∀ v : Json.Value, Alike v) ∧ (∀ s : Summary, Alike s.toJson) ∧ ∀ r : Report, Alike r.toJson := by
  have h (v : Json.Value) : Alike v := by
    refine ⟨fun _ => ?_, fun _ => ⟨v.ofText_compact, v.ofText_indented⟩, fun h _ => Json.Value.pretty_eq_indented h⟩
    rw [write, Json.Value.compact, String.toList_ofList]
    exact v.printable_compactChars
  exact ⟨h, fun s => h s.toJson, fun r => h r.toJson⟩

/-- A run that left out an event and generated a name twice. -/
def sampleSummary : Summary where
  surface := .realtime
  output := "stdout"
  generated := 2
  skipped := [⟨.event, "Match", "Unable to find event 'Match'"⟩]
  collisions := ["send"]
  bytes := 128

/-- Nothing in that summary is escaped, so it looks the same in two of the formats. -/
theorem alike_sampleSummary :
    (∀ s ∈ sampleSummary.toJson.texts, Unescaped s) ∧
      pretty.write false sampleSummary.toJson = json.write false sampleSummary.toJson ∧
      Datum.ofText (text.write false sampleSummary.toJson) = Datum.ofText (json.write false sampleSummary.toJson) := by
  have hunescaped : ∀ s ∈ sampleSummary.toJson.texts, Unescaped s := by decide +kernel
  obtain ⟨-, honeDatum, honeText⟩ := alike.2.1 sampleSummary
  exact ⟨hunescaped, honeText hunescaped false, (honeDatum false).1.trans (honeDatum false).2.symm⟩

end LuaStubs.Format
