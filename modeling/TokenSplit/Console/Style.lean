import TokenSplit.Text.Blank
import TokenSplit.Text.Lower

/-!
# Styles

Names of styles in markup.  Several names can mean one style, so a name is brought into a standard
form: its attributes in a fixed order, then its colours and its link.  A name that means no style
stands for itself.
-/

namespace TokenSplit.Console

/-- The attributes of a style and the names for them. -/
def attributes : List (String × List String) :=
  [("bold", ["bold", "b"]), ("dim", ["dim", "d"]), ("italic", ["italic", "i"]),
   ("underline", ["underline", "u"]), ("blink", ["blink"]), ("blink2", ["blink2"]),
   ("reverse", ["reverse", "r"]), ("conceal", ["conceal", "c"]), ("strike", ["strike", "s"]),
   ("underline2", ["underline2", "uu"]), ("frame", ["frame"]), ("encircle", ["encircle"]),
   ("overline", ["overline", "o"])]

/-- The names of the basic colours. -/
def colours : List String :=
  let basic := ["black", "red", "green", "yellow", "blue", "magenta", "cyan", "white"]
  "default" :: basic ++ basic.map ("bright_" ++ ·)

/-- Whether a word names a colour, by name or by its six hexadecimal digits. -/
def isColour (word : String) : Bool :=
  colours.contains word ||
    match word.toList with
    | '#' :: digits =>
      digits.length == 6 && digits.all fun c => c.isDigit || ('a' ≤ c && c ≤ 'f')
    | _ => false

/-- What the words of a style say so far. -/
structure Style where
  set : List (String × Bool) := []
  colour : Option String := none
  background : Option String := none
  link : Option String := none

namespace Style

/-- The attribute that a word names. -/
def attribute? (word : String) : Option String :=
  (attributes.find? fun a => a.2.contains word).map (·.1)

/-- Sets an attribute. -/
def turn (s : Style) (name : String) (on : Bool) : Style :=
  { s with set := (name, on) :: s.set }

/-- Reads the words of a style, if they mean one. -/
def read? (s : Style) : List String → Option Style
  | [] => some s
  | word :: rest =>
    let plain := String.ofList (Text.lower word.toList)
    if plain = "on" then
      match rest with
      | colour :: rest =>
        let colour := String.ofList (Text.lower colour.toList)
        if isColour colour then read? { s with background := some colour } rest else none
      | [] => none
    else if plain = "not" then
      match rest with
      | name :: rest => do read? (s.turn (← attribute? name) false) rest
      | [] => none
    else if plain = "link" then
      match rest with
      | target :: rest => read? { s with link := some target } rest
      | [] => none
    else
      match attribute? plain with
      | some name => read? (s.turn name true) rest
      | none => if isColour plain then read? { s with colour := some plain } rest else none

/-- The standard form of a style. -/
def render (s : Style) : String :=
  let attributes := attributes.filterMap fun (name, _) =>
    (s.set.lookup name).map fun on => if on then name else "not " ++ name
  let colour := s.colour.toList
  let background := (s.background.map ("on " ++ ·)).toList
  let link := (s.link.map ("link " ++ ·)).toList
  let words := attributes ++ colour ++ background ++ link
  if words.isEmpty then "none" else " ".intercalate words

/-- The words of a name. -/
def words : Nat → List Char → List String
  | 0, _ => []
  | fuel + 1, s =>
    let s := s.dropWhile Text.isBlank
    if s.isEmpty then []
    else
      let word := s.takeWhile fun c => !Text.isBlank c
      String.ofList word :: words fuel (s.drop word.length)

/-- The standard form of a name. -/
def normalize (name : List Char) : String :=
  let bare := Text.trim name
  if bare.isEmpty ∨ bare = "none".toList then "none"
  else
    match read? {} (words (name.length + 1) name) with
    | some style => style.render
    | none => String.ofList (Text.lower bare)

end Style

end TokenSplit.Console
