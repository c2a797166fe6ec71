import TemplateCompiler.Text.Basic

/-! The parts a template text divides into. Every part knows the text it was read from, and the
parts of a template, one after the other, are the template. -/

namespace TemplateCompiler

inductive BlockKind where
  | code
  | expression
deriving DecidableEq, Repr

namespace BlockKind

def opener : BlockKind → Char
  | .code => '\x7b'
  | .expression => '('

def closer : BlockKind → Char
  | .code => '\x7d'
  | .expression => ')'

end BlockKind

inductive Segment where
  | plain (text : Text)
  /-- An at sign after a letter or digit, as in a mail address. -/
  | wordAt
  | escapedAt
  | strayAt (next : Option Char)
  | comment (body : Text) (closed : Bool)
  | block (kind : BlockKind) (body : Text) (closed : Bool)
  | implicit (expression : Text)
deriving DecidableEq, Repr

namespace Segment

def source : Segment → Text
  | .plain text => text
  | .wordAt => ['@']
  | .escapedAt => ['@', '@']
  | .strayAt _ => ['@']
  | .comment body closed => '@' :: '*' :: body ++ if closed then ['*', '@'] else []
  | .block kind body closed => '@' :: kind.opener :: body ++ if closed then [kind.closer] else []
  | .implicit expression => '@' :: expression

/-- What the part adds to the literal text around it; parts of code end the literal text. -/
def literal? : Segment → Option Text
  | .plain text => some text
  | .wordAt => some ['@']
  | .escapedAt => some ['@']
  | .strayAt _ => some ['@']
  | .comment .. => some []
  | .block .. => none
  | .implicit _ => none

end Segment

end TemplateCompiler
