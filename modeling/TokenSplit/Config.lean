import TokenSplit.Arguments

/-!
# Configurations

A ratio and the choice whether cache entries without tokens are left out of reports.  A
configuration is given as a value with sections; everything that is not given is standard, and
keys that are not known are refused rather than ignored.
-/

namespace TokenSplit

/-- The order in which the members of a set are listed, which may be any. -/
structure Arrangement where
  order : List String → List String
  perm : ∀ texts, (order texts).Perm texts

/-- The members of a set in order of their texts. -/
def Arrangement.sorted : Arrangement where
  order := fun texts => texts.mergeSort fun a b => decide (a ≤ b)
  perm := fun texts => List.mergeSort_perm texts _

/-- A ratio and whether empty cache entries are left out. -/
structure Config where
  ratio : Ratio := Ratio.standard
  omitEmpty : Value := .bool true

namespace Config

/-- The configuration used where none is given. -/
def standard : Config := {}

/-- The keys of the whole configuration. -/
def topKeys : List String := ["ratio", "threshold", "report"]

/-- The keys of the ratio section. -/
def ratioKeys : List String := ["input", "cache_creation", "cache_read"]

/-- The keys of the report section. -/
def reportKeys : List String := ["omit_empty_cache_fields"]

/-- Refuses keys that are not known; the message lists them as the arrangement has them. -/
def checkKeys (arrangement : Arrangement) (place : Section) (known : List String)
    (entries : List (Scalar × Value)) : Except Fault Unit := do
  let unknown := (entries.map (·.1)).filter fun key => !known.any fun k => key.same (.text k)
  unless unknown.isEmpty do
    match unknown.mapM Scalar.render? with
    | some texts => throw (.unknownKeys place (arrangement.order texts))
    | none => throw .numeralTooLong

/-- Refuses a value, for a cause that is given, unless it is a natural number. -/
def checkNatural (fault : Fault) : Value → Except Fault Unit
  | .int n => if n < 0 then .error fault else .ok ()
  | _ => .error fault

/-- The value under a key of the ratio section, or else the standard part. -/
def part (entries : List (Scalar × Value)) (key : String) (standard : Nat) : Value :=
  (Value.entry? entries key).getD (.count standard)

/-- The ratio that a section and a threshold give.  The values are checked here by the names they
have in the file, and once more where the ratio is made of them. -/
def ratioOf (arrangement : Arrangement) (given threshold : Value) : Except Fault Ratio := do
  match given with
  | .mapping entries =>
    checkKeys arrangement .ratio ratioKeys entries
    let input := part entries "input" Ratio.standard.input
    let creation := part entries "cache_creation" Ratio.standard.creation
    let read := part entries "cache_read" Ratio.standard.read
    checkNatural (.partInvalid "input") input
    checkNatural (.partInvalid "cache_creation") creation
    checkNatural (.partInvalid "cache_read") read
    checkNatural .thresholdInvalid threshold
    Ratio.ofValues input creation read threshold
  | _ => throw (.sectionNotMapping .ratio)

/-- Whether empty cache entries are left out, by the report section. -/
def omissionOf (arrangement : Arrangement) (given : Value) : Except Fault Bool := do
  match given with
  | .mapping entries =>
    checkKeys arrangement .report reportKeys entries
    match (Value.entry? entries "omit_empty_cache_fields").getD (.bool true) with
    | .bool b => return b
    | _ => throw .omissionNotFlag
  | _ => throw (.sectionNotMapping .report)

/-- The configuration that a value gives. -/
def ofValue (arrangement : Arrangement) (given : Value) : Except Fault Config := do
  if !given.isTrue then
    throw .configEmpty
  match given with
  | .mapping entries =>
    checkKeys arrangement .top topKeys entries
    let ratio ← ratioOf arrangement ((Value.entry? entries "ratio").getD (.mapping []))
      ((Value.entry? entries "threshold").getD (.count Ratio.standard.threshold))
    let omission ← omissionOf arrangement ((Value.entry? entries "report").getD (.mapping []))
    return { ratio := ratio, omitEmpty := .bool omission }
  | _ => throw .configNotMapping

end Config

end TokenSplit
