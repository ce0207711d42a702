/-! Texts put into markup. -/

namespace SchemaFold.Text

/-- A character that means something in markup stands there as a reference to it. -/
def markupEscape : Char → String
  | '&' => "&amp;"
  | '<' => "&lt;"
  | '>' => "&gt;"
  | '\'' => "&#39;"
  | '"' => "&#34;"
  | c => String.singleton c

def inMarkup (s : String) : String :=
  String.join (s.toList.map markupEscape)

end SchemaFold.Text
