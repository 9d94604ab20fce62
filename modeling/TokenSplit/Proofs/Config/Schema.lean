import TokenSplit.Proofs.Config
import TokenSplit.Proofs.Config.Threshold

/-!
# Configurations written as documents

A configuration may be written in sections, each of them a line or a few lines with all of its
numbers or flags in them.  In whatever order the sections stand, they are loaded as what they say,
and the defaults take the place of those that are not written.
-/

namespace TokenSplit.Config

open Decimal (digits Writable)
open Yaml (Item Label Leaf Outline)

/-- The sections that a document may give. -/
inductive Heading where
  | ratio
  | threshold
  | report
deriving DecidableEq, Repr

/-- The lines of a section. -/
def Heading.lines (r : Ratio) (omitEmpty : Bool) : Heading → List (List Char)
  | ratio =>
    ["ratio:".toList,
      "  input: ".toList ++ digits r.input,
      "  cache_creation: ".toList ++ digits r.creation,
      "  cache_read: ".toList ++ digits r.read]
  | threshold => ["threshold: ".toList ++ digits r.threshold]
  | report =>
    ["report:".toList,
      "  omit_empty_cache_fields: ".toList ++
        if omitEmpty then "true".toList else "false".toList]

/-- A document of sections, with a line end behind every line. -/
def schemaText (r : Ratio) (omitEmpty : Bool) (headings : List Heading) :
    List Char :=
  (headings.flatMap (Heading.lines r omitEmpty)).flatMap (· ++ ['\n'])

example : schemaText Ratio.standard true [.ratio, .threshold, .report] =
    ("ratio:\n  input: 1\n  cache_creation: 2\n  cache_read: 25\n" ++
      "threshold: 100\n" ++
      "report:\n  omit_empty_cache_fields: true\n").toList := by
  decide +kernel

/-- What a document says, with the defaults for the sections that it leaves out. -/
def ofSchema (r : Ratio) (omitEmpty : Bool) (headings : List Heading) :
    Config where
  ratio :=
    { if .ratio ∈ headings then r else Ratio.standard with
      threshold := if .threshold ∈ headings then r.threshold else 100 }
  omitEmpty := .bool (if .report ∈ headings then omitEmpty else true)

namespace Heading

def name : Heading → String
  | ratio => "ratio"
  | threshold => "threshold"
  | report => "report"

def label (h : Heading) : Label :=
  .ofString h.name (by cases h <;> decide +kernel)

/-- The value of a section. -/
def value (r : Ratio) (omitEmpty : Bool) : Heading → Value
  | ratio =>
    .mapping [(.text "input", .count r.input),
      (.text "cache_creation", .count r.creation),
      (.text "cache_read", .count r.read)]
  | threshold => .count r.threshold
  | report => .mapping [(.text "omit_empty_cache_fields", .bool omitEmpty)]

theorem distinct_parts :
    ["input".toList, "cache_creation".toList, "cache_read".toList].Nodup := by
  decide +kernel

section

variable {r : Ratio} (hr : ∀ field, Writable (r.get field)) (omitEmpty : Bool)

/-- A section as a part of an outline. -/
def item : Heading → Item
  | ratio => .block
    { entries :=
        [(.ofString "input" (by decide +kernel), .numeral r.input (hr .input)),
          (.ofString "cache_creation" (by decide +kernel),
            .numeral r.creation (hr .creation)),
          (.ofString "cache_read" (by decide +kernel),
            .numeral r.read (hr .read))]
      nonempty := by simp
      distinct := distinct_parts }
  | threshold => .leaf (.numeral r.threshold (hr .threshold))
  | report => .block
    { entries :=
        [(.ofString "omit_empty_cache_fields" (by decide +kernel),
          .flag omitEmpty)]
      nonempty := by simp
      distinct := by simp }

theorem value_item (h : Heading) :
    (h.item hr omitEmpty).value = h.value r omitEmpty := by
  cases h with
  | ratio => rfl
  | threshold => rfl
  | report => rfl

theorem text_item (h : Heading) :
    Yaml.entryText Item.text (h.label, h.item hr omitEmpty) ++ ['\n'] =
      (h.lines r omitEmpty).flatMap (· ++ ['\n']) := by
  cases h <;>
    simp only [Yaml.entryText, Item.text, Yaml.linesText, item, lines,
      List.flatMap_cons, List.flatMap_nil, Leaf.text, List.append_assoc,
      List.cons_append, List.nil_append, List.append_nil] <;>
    rfl

end

theorem name_injective {h k : Heading} (hname : h.name = k.name) : h = k := by
  cases h <;> cases k <;> first | rfl | exact absurd hname (by decide)

end Heading

/-- The value of a document. -/
def schemaValue (r : Ratio) (omitEmpty : Bool) (headings : List Heading) :
    Value :=
  .mapping (headings.map fun h => (.text h.name, h.value r omitEmpty))

section

variable (r : Ratio) (omitEmpty : Bool) (headings : List Heading)

theorem held?_schemaValue (h : Heading) :
    (schemaValue r omitEmpty headings).held? h.name =
      if h ∈ headings then some (h.value r omitEmpty) else none := by
  simp only [schemaValue, Value.held?]
  induction headings with
  | nil => rfl
  | cons k headings ih =>
      rw [List.map_cons, Value.entry?_cons, ih]
      by_cases hk : h = k
      · cases hk
        simp [Scalar.same_text_iff]
      · have hname : k.name ≠ h.name :=
          fun hname => hk (Heading.name_injective hname).symm
        simp [Scalar.same_text_iff, hname, hk]

theorem ofValue_schemaValue (arrangement : Arrangement)
    (hheadings : headings ≠ []) :
    ofValue arrangement (schemaValue r omitEmpty headings) =
      .ok (ofSchema r omitEmpty headings) := by
  have hratio : (schemaValue r omitEmpty headings).held? "ratio" =
      if .ratio ∈ headings then some (Heading.value r omitEmpty .ratio)
      else none := held?_schemaValue r omitEmpty headings .ratio
  have hthreshold : (schemaValue r omitEmpty headings).held? "threshold" =
      if .threshold ∈ headings then some (.count r.threshold) else none :=
    held?_schemaValue r omitEmpty headings .threshold
  have hreport : (schemaValue r omitEmpty headings).held? "report" =
      if .report ∈ headings then some (Heading.value r omitEmpty .report)
      else none := held?_schemaValue r omitEmpty headings .report
  refine ofValue_eq_ok_iff.mpr ⟨?_, ?_, ?_, _, ?_, rfl⟩
  · simpa [schemaValue] using hheadings
  · refine ⟨_, rfl, ?_⟩
    intro e he
    obtain ⟨h, -, rfl⟩ := List.mem_map.mp he
    exact ⟨h.name, by cases h <;> decide, rfl⟩
  · rw [Value.inner, hratio, hthreshold, ratioOf_eq_ok_iff]
    by_cases hgiven : .ratio ∈ headings
    · rw [if_pos hgiven, ofSchema, if_pos hgiven]
      refine ⟨⟨_, rfl, by simp [ratioKeys]⟩, rfl, rfl, rfl, ?_⟩
      split <;> rfl
    · rw [if_neg hgiven, ofSchema, if_neg hgiven]
      refine ⟨⟨[], rfl, by simp⟩, rfl, rfl, rfl, ?_⟩
      split <;> rfl
  · rw [Value.inner, hreport, omissionOf_eq_ok_iff]
    by_cases hgiven : .report ∈ headings
    · rw [if_pos hgiven, if_pos hgiven]
      exact ⟨⟨_, rfl, by simp [reportKeys]⟩, rfl⟩
    · rw [if_neg hgiven, if_neg hgiven]
      exact ⟨⟨[], rfl, by simp⟩, rfl⟩

end

/-! ## Loading -/

section

variable {r : Ratio} (hr : ∀ field, Writable (r.get field)) (omitEmpty : Bool)
  {headings : List Heading} (hnonempty : headings ≠ [])
  (hdistinct : headings.Nodup)

/-- A document as an outline. -/
def schemaOutline : Outline where
  entries := headings.map fun h => (h.label, h.item hr omitEmpty)
  nonempty := by simpa using hnonempty
  distinct := by
    rw [List.map_map, List.Nodup, List.pairwise_map]
    refine hdistinct.imp fun hne hword => hne ?_
    exact Heading.name_injective (String.toList_inj.mp hword)

theorem text_schemaOutline :
    (schemaOutline hr omitEmpty hnonempty hdistinct).text ++ ['\n'] =
      schemaText r omitEmpty headings := by
  rw [Outline.text, Yaml.blockText_append, schemaText, List.flatMap_assoc,
    schemaOutline, List.flatMap_map]
  exact List.flatMap_congr fun h _ => h.text_item hr omitEmpty

theorem value_schemaOutline :
    (schemaOutline hr omitEmpty hnonempty hdistinct).value =
      schemaValue r omitEmpty headings := by
  have hentry : ∀ h : Heading,
      (Scalar.text h.label.name, (h.item hr omitEmpty).value) =
        (.text h.name, h.value r omitEmpty) := by
    intro h
    rw [Heading.label, Label.name_ofString, Heading.value_item]
  rw [Outline.value, Yaml.blockValue, schemaOutline, schemaValue, List.map_map]
  exact congrArg _ (List.map_congr_left fun h _ => hentry h)

end

/-- A document is an outline with the value that it says. -/
theorem exists_outline_of_schemaText {r : Ratio}
    (hr : ∀ field, r.get field < Nat.pow 10 Decimal.digitLimit)
    (omitEmpty : Bool) {headings : List Heading}
    (hnonempty : headings ≠ []) (hdistinct : headings.Nodup)
    {text : List Char}
    (htext : text = schemaText r omitEmpty headings ∨
      text ++ ['\n'] = schemaText r omitEmpty headings) :
    ∃ (o : Outline) (ending : List Char),
      (ending = [] ∨ ending = ['\n']) ∧ text = o.text ++ ending ∧
      ∀ arrangement, ofValue arrangement o.value =
        .ok (ofSchema r omitEmpty headings) := by
  have hwritable : ∀ field, Writable (r.get field) :=
    fun field => (Decimal.writable_iff _).mpr (hr field)
  let o := schemaOutline hwritable omitEmpty hnonempty hdistinct
  have hlines : o.text ++ ['\n'] = schemaText r omitEmpty headings :=
    text_schemaOutline hwritable omitEmpty hnonempty hdistinct
  have hvalue : ∀ arrangement, ofValue arrangement o.value =
      .ok (ofSchema r omitEmpty headings) := by
    intro arrangement
    rw [value_schemaOutline]
    exact ofValue_schemaValue r omitEmpty headings arrangement hnonempty
  rw [← hlines] at htext
  rcases htext with htext | htext
  · exact ⟨o, ['\n'], .inr rfl, htext, hvalue⟩
  · refine ⟨o, [], .inl rfl, ?_, hvalue⟩
    rw [List.append_nil]
    exact List.append_cancel_right htext

/-- A document of sections in any order, each with all of its numbers or flags, is loaded as what
it says, with the defaults for the sections that it leaves out. -/
theorem load_schemaText {disk : Disk} {path : String} {r : Ratio}
    (hr : ∀ field, r.get field < Nat.pow 10 Decimal.digitLimit)
    (omitEmpty : Bool) {headings : List Heading}
    (hnonempty : headings ≠ []) (hdistinct : headings.Nodup)
    {text : List Char}
    (htext : text = schemaText r omitEmpty headings ∨
      text ++ ['\n'] = schemaText r omitEmpty headings)
    (hfile : disk.find (Path.ofString path) =
      .found (.file (Text.encodeUtf8 text))) :
    load (Host.standard disk) path =
      .ok (ofSchema r omitEmpty headings) := by
  obtain ⟨o, ending, hending, rfl, hvalue⟩ :=
    exists_outline_of_schemaText hr omitEmpty hnonempty hdistinct htext
  rw [load_outline o hending hfile, hvalue]

/-- A document that gives no threshold. -/
theorem load_schemaText_report_ratio :
    load (Host.standard (Disk.empty.write "config.yaml"
        (.file (Text.encodeUtf8
          (schemaText ⟨3, 0, 7, 12, by decide⟩ false [.report, .ratio])))))
        "config.yaml" =
      .ok (ofSchema ⟨3, 0, 7, 12, by decide⟩ false [.report, .ratio]) := by
  refine load_schemaText ?_ false (by decide) (by decide) (.inl rfl) rfl
  intro field
  cases field <;> decide +kernel

end TokenSplit.Config
