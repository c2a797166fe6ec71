import TemplateCompiler.Text.Basic

/-! Statements of the entry method, in the order of the template, each with the place in the
template that it comes from. -/

namespace TemplateCompiler

inductive StatementKind where
  | literal
  | expression
  | code
  /-- Any other kind is treated as code. -/
  | other (name : Text)
deriving DecidableEq, Repr

namespace StatementKind

def name : StatementKind → Text
  | .literal => "literal".toList
  | .expression => "expression".toList
  | .code => "code".toList
  | .other name => name

def ofName (name : Text) : StatementKind :=
  if name = "literal".toList then .literal
  else if name = "expression".toList then .expression
  else if name = "code".toList then .code
  else .other name

end StatementKind

structure Statement where
  kind : StatementKind
  text : Text
  line : Int
  column : Int
deriving DecidableEq, Repr

def Statement.at (kind : StatementKind) (text : Text) (position : Position) : Statement :=
  ⟨kind, text, position.line, position.column⟩

end TemplateCompiler
