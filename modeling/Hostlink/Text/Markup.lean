/-!
# Escaped markup

The five characters that have a meaning in markup are written as entities, and all others as they
are.
-/

namespace Hostlink.Text.Markup

/-- The written form of one character. -/
def escapeChar : Char → List Char
  | '&' => ['&', 'a', 'm', 'p', ';']
  | '<' => ['&', 'l', 't', ';']
  | '>' => ['&', 'g', 't', ';']
  | '"' => ['&', 'q', 'u', 'o', 't', ';']
  | '\'' => ['&', 'a', 'p', 'o', 's', ';']
  | c => [c]

/-- The written form of a text. -/
def escape (s : String) : String := String.ofList (s.toList.flatMap escapeChar)

end Hostlink.Text.Markup
