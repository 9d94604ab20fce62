import TokenSplit.Proofs.Config
import TokenSplit.Proofs.Yaml.Outline

/-!
# Configurations with nothing but a threshold

A file may hold a threshold in hexadecimal digits and nothing else.  It is loaded whatever the
digits are, so there are configurations with thresholds that have no numeral.
-/

namespace TokenSplit.Config

open Yaml (IsHexadecimal)

/-- A document that gives a threshold in hexadecimal digits. -/
def thresholdText (digits : List Char) : List Char :=
  "threshold".toList ++ ':' :: ' ' :: '0' :: 'x' :: digits

/-- A disk with such a document in a file. -/
def thresholdDisk (digits : List Char) : Disk :=
  Disk.empty.write "config.yaml"
    (.file (Text.encodeUtf8 (thresholdText digits)))

/-- The standard configuration with another threshold. -/
def ofThreshold (n : Nat) : Config :=
  { ratio := { Ratio.standard with threshold := n } }

theorem ofValue_threshold (arrangement : Arrangement) (n : Nat) :
    ofValue arrangement (.mapping [(.text "threshold", .count n)]) =
      .ok (ofThreshold n) := rfl

/-- A file with an outline in it is loaded as the value of the outline. -/
theorem load_outline {disk : Disk} {path : String} (o : Yaml.Outline)
    {ending : List Char} (hending : ending = [] ∨ ending = ['\n'])
    (hfile : disk.find (Path.ofString path) =
      .found (.file (Text.encodeUtf8 (o.text ++ ending)))) :
    load (Host.standard disk) path = ofValue .sorted o.value :=
  load_of_read hfile (Yaml.reader_outline o hending)

variable {digits : List Char} (h : IsHexadecimal digits)

include h

/-- The document as an outline. -/
def thresholdOutline : Yaml.Outline where
  entries := [(.ofString "threshold" (by decide +kernel),
    .leaf (.hexadecimal digits h))]
  nonempty := by simp
  distinct := by simp

theorem text_thresholdOutline :
    (thresholdOutline h).text ++ [] = thresholdText digits := by
  rw [List.append_nil]
  exact List.append_nil _

/-- A threshold of any number of hexadecimal digits is loaded. -/
theorem load_thresholdDisk :
    load (Host.standard (thresholdDisk digits)) "config.yaml" =
      .ok (ofThreshold (Decimal.natural 16 digits)) := by
  have hfile : (thresholdDisk digits).find (Path.ofString "config.yaml") =
      .found (.file (Text.encodeUtf8 (thresholdText digits))) := rfl
  rw [← text_thresholdOutline h] at hfile
  have hload := load_outline (thresholdOutline h) (.inl rfl) hfile
  exact hload.trans (ofValue_threshold _ _)

end TokenSplit.Config
