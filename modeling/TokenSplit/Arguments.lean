import TokenSplit.Breakdown
import TokenSplit.Fault

/-!
# Arguments

Making ratios and breakdowns from values given by position or by name.  The numbers of a ratio are
checked one after another, each for being an integer and then for its sign, and at last their sum.
-/

namespace TokenSplit

/-- Values given in order or by name. -/
inductive Arguments where
  | positional (values : List Value)
  | named (entries : List (String × Value))

/-- The fields of a record in order; the first `required` of them have no default. -/
structure Signature where
  record : Kind
  fields : List String
  required : Nat

namespace Arguments

/-- No values. -/
def none : Arguments :=
  .positional []

/-- The value given for the field of a name at a position. -/
def get? (args : Arguments) (position : Nat) (name : String) : Option Value :=
  match args with
  | .positional values => values[position]?
  | .named entries => entries.lookup name

/-- Checks that every value belongs to a field and that every field without a default has one.
One is added to the numbers of values for the record itself. -/
def check (args : Arguments) (s : Signature) : Except Fault Unit := do
  match args with
  | .positional values =>
    if s.fields.length < values.length then
      throw (.tooManyArguments s.record (s.required + 1) (s.fields.length + 1) (values.length + 1))
  | .named entries =>
    if let some entry := entries.find? fun e => !s.fields.contains e.1 then
      throw (.unexpectedArgument s.record entry.1)
  for (name, position) in (s.fields.take s.required).zipIdx do
    if (args.get? position name).isNone then
      throw (.missingArgument s.record name)

end Arguments

namespace Ratio

/-- The number that a value gives for a field of a ratio. -/
def number (field : Field) : Value → Except Fault Nat
  | .int n => if n < 0 then .error (.fieldNegative field) else .ok n.toNat
  | _ => .error (.fieldNotInteger field)

/-- A ratio of four numbers, unless all its parts are zero. -/
def ofNumbers (input creation read threshold : Nat) : Except Fault Ratio :=
  if h : 0 < input + creation + read then .ok ⟨input, creation, read, threshold, h⟩
  else .error .noParts

/-- A ratio of four values, checked in order. -/
def ofValues (input creation read threshold : Value) : Except Fault Ratio := do
  let input ← number .input input
  let creation ← number .creation creation
  let read ← number .read read
  let threshold ← number .threshold threshold
  ofNumbers input creation read threshold

/-- The fields of a ratio, all with a default. -/
def signature : Signature where
  record := .ratio
  fields := Field.all.map Field.name
  required := 0

/-- A ratio made from arguments, with the standard numbers where none are given. -/
def ofArguments (args : Arguments) : Except Fault Ratio := do
  args.check signature
  let value (position : Nat) (field : Field) : Value :=
    (args.get? position field.name).getD (.count (standard.get field))
  ofValues (value 0 .input) (value 1 .creation) (value 2 .read) (value 3 .threshold)

end Ratio

namespace Breakdown

/-- The fields of a breakdown; the first has no default. -/
def signature : Signature where
  record := .breakdown
  fields := ["input_tokens", "cache_creation_input_tokens", "cache_read_input_tokens"]
  required := 1

/-- A breakdown made from arguments. -/
def ofArguments (args : Arguments) : Except Fault Breakdown := do
  args.check signature
  return {
    input := (args.get? 0 "input_tokens").getD .null
    creation := (args.get? 1 "cache_creation_input_tokens").getD (.count 0)
    read := (args.get? 2 "cache_read_input_tokens").getD (.count 0) }

end Breakdown

end TokenSplit
