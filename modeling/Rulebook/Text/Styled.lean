/-!
# Styled text

A style is switched on before a text and everything is switched off after it. Where the text itself
switches everything off, the style is switched on again.
-/

namespace Rulebook.Text

/-- How a text stands out on a terminal. -/
inductive Style where
  | bold
  | dimmed
  | green
  | yellow
  | cyan
  | boldRed
  deriving Repr, DecidableEq, Inhabited

namespace Style

/-- The parameters of the sequence that switches a style on. -/
def parameters : Style → String
  | bold => "1"
  | dimmed => "2"
  | green => "32"
  | yellow => "33"
  | cyan => "36"
  | boldRed => "1;31"

/-- The sequence that switches a style on. -/
def start (s : Style) : String := s!"\x1b[{s.parameters}m"

/-- The sequence that switches everything off. -/
def reset : String := "\x1b[0m"

/-- Puts a sequence after every reset. -/
def reapply (sequence : List Char) : List Char → List Char
  | '\x1b' :: '[' :: '0' :: 'm' :: cs =>
    '\x1b' :: '[' :: '0' :: 'm' :: (sequence ++ reapply sequence cs)
  | c :: cs => c :: reapply sequence cs
  | [] => []

/-- A text in a style, or as it stands where there are no colours. -/
def paint (s : Style) (colour : Bool) (text : String) : String :=
  if colour then s.start ++ String.ofList (reapply s.start.toList text.toList) ++ reset else text

end Style

end Rulebook.Text
