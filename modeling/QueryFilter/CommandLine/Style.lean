/-!
# Styled text

Terminal styles for the parts of an explanation. A styled text stands between the code of its style and a
reset; a reset inside the text is followed by the code again, so that the style lasts to the end.
-/

namespace QueryFilter
namespace CommandLine

/-- The role of a piece of text. -/
inductive Style
  | title
  | heading
  | label
  | name
  | keyword
  | value
  | error
  deriving DecidableEq, Repr

namespace Style

/-- The parameters of the code of a style: bold cyan, bold green, dimmed, white, cyan, yellow, bold red. -/
def parameters : Style → List Char
  | .title =>
      ['1', ';', '3', '6']
  | .heading =>
      ['1', ';', '3', '2']
  | .label =>
      ['2']
  | .name =>
      ['3', '7']
  | .keyword =>
      ['3', '6']
  | .value =>
      ['3', '3']
  | .error =>
      ['1', ';', '3', '1']

/-- The code that switches to a style. -/
def code (style : Style) : List Char :=
  '\x1b' :: '[' :: (style.parameters ++ ['m'])

/-- The code that ends every style. -/
def reset : List Char :=
  ['\x1b', '[', '0', 'm']

/-- A text with a code repeated after each reset. -/
def resumed (code : List Char) : List Char → List Char
  | '\x1b' :: '[' :: '0' :: 'm' :: rest =>
      reset ++ code ++ resumed code rest
  | char :: rest =>
      char :: resumed code rest
  | [] =>
      []

/-- A text in a style, or as it is when there is no colour. -/
def paint (style : Style) (color : Bool) (text : String) : String :=
  if color then
    String.ofList (style.code ++ resumed style.code text.toList ++ reset)
  else
    text

@[simp] theorem paint_false (style : Style) (text : String) : style.paint false text = text := rfl

end Style
end CommandLine
end QueryFilter
