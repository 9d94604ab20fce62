import TokenSplit.Ratio
import TokenSplit.Text.Utf8
import TokenSplit.Value.Text

/-!
# Faults

Everything that can go wrong, as causes.  Each cause has one wording and belongs to one family;
callers that report faults need no more than these two.
-/

namespace TokenSplit

/-- The sections of a configuration file. -/
inductive Section where
  | top
  | ratio
  | report
deriving DecidableEq, Repr

/-- The two questions of order that are asked of values. -/
inductive Comparison where
  | less
  | greater
deriving DecidableEq, Repr

/-- The sign of a comparison. -/
def Comparison.sign : Comparison → String
  | .less => "<"
  | .greater => ">"

/-- Families of faults, as far as callers tell them apart. -/
inductive Family where
  | value
  | type
  | attribute
  | index
  | key
  | overflow
  | recursion
  | missingFile
  | directory
  | system
  | encoding
  | document
  | frozen
  | provider
  | unbound
  | other
deriving DecidableEq, Repr

/-- The causes of failure. -/
inductive Fault where
  /-- A number of a ratio is no integer. -/
  | fieldNotInteger (field : Ratio.Field)
  /-- A number of a ratio is negative. -/
  | fieldNegative (field : Ratio.Field)
  /-- All parts of a ratio are zero. -/
  | noParts
  /-- A flag stands where a token count is expected. -/
  | totalIsFlag
  /-- A value stands where a token count is expected and cannot be taken as an integer. -/
  | notIntegerLike (kind : Kind)
  /-- An index does not hold an integer. -/
  | indexNotInteger (kind : Kind)
  /-- A token count is negative. -/
  | totalNegative
  /-- An output count is negative. -/
  | outputNegative
  /-- Two values have no order. -/
  | notOrdered (comparison : Comparison) (left right : Kind)
  /-- Two values have no sum. -/
  | notAddable (left right : Kind)
  /-- A text or a list is continued by something else. -/
  | notConcatenable (left right : Kind)
  /-- Octets are continued by something else. -/
  | octetsNotConcatenable (right : Kind)
  /-- An integer meets a binary number and is too large to become one. -/
  | integerTooLarge
  /-- A numeral to be written would be too long. -/
  | numeralTooLong
  /-- A numeral to be read is too long. -/
  | numeralRefused (digits : Nat)
  /-- A text is no integer in a base. -/
  | notNumeral (base : Nat) (text : String)
  /-- A text is no number. -/
  | notNumber (text : String)
  /-- A tagged numeral has no digits at all. -/
  | numeralEmpty
  /-- A tagged flag is none of the known words. -/
  | flagUnknown (word : String)
  /-- A tagged moment does not have the form of one. -/
  | notMoment
  /-- A tagged moment is no text. -/
  | momentNotText
  /-- A field of a date or a time is out of its range. -/
  | calendar (fault : CalendarFault)
  /-- A character is written by a code beyond the last one. -/
  | codeTooLarge (fits : Bool)
  /-- A document is nested too deeply, or a tagged text contains itself. -/
  | endless
  /-- A record is given a field it does not have. -/
  | unexpectedArgument (record : Kind) (name : String)
  /-- A record is not given a field it needs. -/
  | missingArgument (record : Kind) (name : String)
  /-- A record is given more values than it has fields. -/
  | tooManyArguments (record : Kind) (least most given : Nat)
  /-- The configuration file does not exist. -/
  | fileMissing (path : String)
  /-- The configuration file is a directory. -/
  | fileIsDirectory (path : String)
  /-- A name in the path of the configuration file is too long. -/
  | nameTooLong (path : String)
  /-- The configuration file is no text. -/
  | undecodable (fault : Text.Utf8Fault)
  /-- The configuration file is no well-formed document, for a reason that its reader gives. -/
  | malformed (path diagnostic : String)
  /-- The reader of documents fails in a way of its own. -/
  | foreign (family : Family) (message : String)
  /-- The configuration file holds nothing. -/
  | configEmpty
  /-- The configuration file holds something else than sections. -/
  | configNotMapping
  /-- A section has keys it does not know. -/
  | unknownKeys (place : Section) (keys : List String)
  /-- A section is no mapping. -/
  | sectionNotMapping (place : Section)
  /-- A part in the ratio section is no natural number. -/
  | partInvalid (key : String)
  /-- The threshold is no natural number. -/
  | thresholdInvalid
  /-- The omission flag is no flag. -/
  | omissionNotFlag
  /-- No model is named. -/
  | modelMissing
  /-- A chat has no messages. -/
  | messagesMissing
  /-- A response reports no usage. -/
  | usageMissing
  /-- A thing is asked for an attribute it does not have. -/
  | noAttribute (kind : Kind) (name : String)
  /-- The provider failed. -/
  | provider (message : String)
  /-- A thing that is no record is to be replaced field by field. -/
  | notReplaceable
  /-- A thing without entries is to be given one. -/
  | noEntries (kind : Kind)
  /-- A field of a record is to be changed. -/
  | frozenAssignment (field : String)
  /-- A field of a record is to be removed. -/
  | frozenDeletion (field : String)
  /-- A thing cannot be counted by value. -/
  | unhashable (kind : Kind)
  /-- A name stands for nothing. -/
  | unbound (name : String)
deriving Repr

namespace Fault

/-- The name of a section in messages about its keys. -/
def keysOf : Section → String
  | .top => "Unknown configuration keys"
  | .ratio => "Unknown keys in ratio"
  | .report => "Unknown report keys"

/-- The wording of a fault of a date or a time. -/
def calendarMessage : CalendarFault → String
  | .year year => s!"year {year} is out of range"
  | .month => "month must be in 1..12"
  | .day => "day is out of range for month"
  | .hour => "hour must be in 0..23"
  | .minute => "minute must be in 0..59"
  | .second => "second must be in 0..59"
  | .offset minutes =>
    "offset must be a timedelta strictly between -timedelta(hours=24) and " ++
      "timedelta(hours=24), not " ++ durationText minutes ++ "."

/-- The wording of a fault of encoding. -/
def encodingMessage (fault : Text.Utf8Fault) : String :=
  let at_ (octet : UInt8) (position length : Nat) (reason : String) : String :=
    let last := position + length - 1
    let octet := String.ofList (Text.hexDigits 2 octet.toNat)
    let place :=
      if length = 1 then s!"byte 0x{octet} in position {position}"
      else s!"bytes in position {position}-{last}"
    s!"'utf-8' codec can't decode {place}: {reason}"
  match fault with
  | .start position octet => at_ octet position 1 "invalid start byte"
  | .continuation position length octet => at_ octet position length "invalid continuation byte"
  | .truncated octet length => at_ octet 0 length "unexpected end of data"

/-- The wording of a fault. -/
def message : Fault → String
  | fieldNotInteger field => field.name ++ " must be an integer"
  | fieldNegative field => field.name ++ " cannot be negative"
  | noParts => "ratio must have at least one non-zero part"
  | totalIsFlag => "total_input_tokens must be an integer"
  | notIntegerLike kind => s!"'{kind.name}' object cannot be interpreted as an integer"
  | indexNotInteger kind => s!"__index__ returned non-int (type {kind.name})"
  | totalNegative => "total_input_tokens must be >= 0"
  | outputNegative => "output_tokens cannot be negative"
  | notOrdered comparison left right =>
    s!"'{comparison.sign}' not supported between instances of '{left.name}' and '{right.name}'"
  | notAddable left right =>
    s!"unsupported operand type(s) for +: '{left.name}' and '{right.name}'"
  | notConcatenable left right =>
    s!"can only concatenate {left.name} (not \"{right.name}\") to {left.name}"
  | octetsNotConcatenable right => s!"can't concat {right.name} to bytes"
  | integerTooLarge => "int too large to convert to float"
  | numeralTooLong =>
    "Exceeds the limit (4300 digits) for integer string conversion; " ++
      "use sys.set_int_max_str_digits() to increase the limit"
  | numeralRefused digits =>
    "Exceeds the limit (4300 digits) for integer string conversion: " ++
      s!"value has {digits} digits; " ++
      "use sys.set_int_max_str_digits() to increase the limit"
  | notNumeral base text =>
    s!"invalid literal for int() with base {base}: " ++
      String.ofList ((Text.quoted text.toList).take 200)
  | notNumber text =>
    "could not convert string to float: " ++ String.ofList (Text.quoted text.toList)
  | numeralEmpty => "string index out of range"
  | flagUnknown word => String.ofList (Text.quoted word.toList)
  | notMoment => "'NoneType' object has no attribute 'groupdict'"
  | momentNotText => "expected string or bytes-like object, got 'list'"
  | calendar fault => calendarMessage fault
  | codeTooLarge true => "chr() arg not in range(0x110000)"
  | codeTooLarge false => "Python int too large to convert to C int"
  | endless => "maximum recursion depth exceeded"
  | unexpectedArgument record name =>
    s!"{record.name}.__init__() got an unexpected keyword argument '{name}'"
  | missingArgument record name =>
    s!"{record.name}.__init__() missing 1 required positional argument: '{name}'"
  | tooManyArguments record least most given =>
    s!"{record.name}.__init__() takes from {least} to {most} positional arguments " ++
      s!"but {given} were given"
  | fileMissing path => "Distribution config file not found: " ++ path
  | fileIsDirectory path =>
    "[Errno 21] Is a directory: " ++ String.ofList (Text.quoted path.toList)
  | nameTooLong path =>
    "[Errno 36] File name too long: " ++ String.ofList (Text.quoted path.toList)
  | undecodable fault => encodingMessage fault
  | malformed path diagnostic => "Invalid YAML in config file " ++ path ++ ": " ++ diagnostic
  | foreign _ message => message
  | configEmpty => "Configuration file is empty"
  | configNotMapping => "Configuration must be a dictionary"
  | unknownKeys place keys =>
    keysOf place ++ ": \x7b" ++ commaSeparated keys ++ "\x7d"
  | sectionNotMapping .ratio => "'ratio' must be a dictionary"
  | sectionNotMapping .report => "'report' must be a dictionary"
  | sectionNotMapping .top => "Configuration must be a dictionary"
  | partInvalid key => s!"'{key}' in ratio must be an integer >= 0"
  | thresholdInvalid => "'threshold' must be an integer >= 0"
  | omissionNotFlag => "'omit_empty_cache_fields' in report must be a boolean"
  | modelMissing => "model is required and cannot be empty"
  | messagesMissing => "messages is required and cannot be empty"
  | usageMissing => "OpenAI response missing usage information"
  | noAttribute kind name => s!"'{kind.name}' object has no attribute '{name}'"
  | provider message => message
  | notReplaceable => "replace() should be called on dataclass instances"
  | noEntries kind => s!"'{kind.name}' object does not support item assignment"
  | frozenAssignment field => s!"cannot assign to field '{field}'"
  | frozenDeletion field => s!"cannot delete field '{field}'"
  | unhashable kind => s!"unhashable type: '{kind.name}'"
  | unbound name => name

/-- The family of a fault. -/
def family : Fault → Family
  | fieldNotInteger _ => .value
  | fieldNegative _ => .value
  | noParts => .value
  | totalIsFlag => .type
  | notIntegerLike _ => .type
  | indexNotInteger _ => .type
  | totalNegative => .value
  | outputNegative => .value
  | notOrdered _ _ _ => .type
  | notAddable _ _ => .type
  | notConcatenable _ _ => .type
  | octetsNotConcatenable _ => .type
  | integerTooLarge => .overflow
  | numeralTooLong => .value
  | numeralRefused _ => .value
  | notNumeral _ _ => .value
  | notNumber _ => .value
  | numeralEmpty => .index
  | flagUnknown _ => .key
  | notMoment => .attribute
  | momentNotText => .type
  | calendar _ => .value
  | codeTooLarge true => .value
  | codeTooLarge false => .overflow
  | endless => .recursion
  | unexpectedArgument _ _ => .type
  | missingArgument _ _ => .type
  | tooManyArguments _ _ _ _ => .type
  | fileMissing _ => .missingFile
  | fileIsDirectory _ => .directory
  | nameTooLong _ => .system
  | undecodable _ => .encoding
  | malformed _ _ => .document
  | foreign family _ => family
  | configEmpty => .value
  | configNotMapping => .value
  | unknownKeys _ _ => .value
  | sectionNotMapping _ => .value
  | partInvalid _ => .value
  | thresholdInvalid => .value
  | omissionNotFlag => .value
  | modelMissing => .value
  | messagesMissing => .value
  | usageMissing => .value
  | noAttribute _ _ => .attribute
  | provider _ => .provider
  | notReplaceable => .type
  | noEntries _ => .type
  | frozenAssignment _ => .frozen
  | frozenDeletion _ => .frozen
  | unhashable _ => .type
  | unbound _ => .unbound

end Fault

end TokenSplit
