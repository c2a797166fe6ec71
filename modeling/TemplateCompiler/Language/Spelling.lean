import TemplateCompiler.Model.Basic

/-! What the languages spell differently, and what they have in common: quoting and the lines of
the entry method. -/

namespace TemplateCompiler

/-- How a language writes the parts of a compile unit. -/
structure Spelling where
  escape : Char → Text
  attributeForm : Text → List Text → Text
  declaration : TypeDeclaration → Text
  pragmaOpen : (source : Text) → (line : Int) → Text
  pragmaClose : List Text
  callEnd : Text

namespace Spelling

def string (s : Spelling) (t : Text) : Text := '"' :: t.flatMap s.escape ++ ['"']

/-- An item of an argument: only a single character is escaped. -/
def item (s : Spelling) : Text → Text
  | [c] => s.escape c
  | t => t

def itemTexts (index : Nat) : List Value → Except Failure (List Text)
  | [] => .ok []
  | .text t :: rest => (itemTexts (index + 1) rest).map (t :: ·)
  | v :: _ => .error (.notTextItem index v.kindName)

def argument (s : Spelling) (v : Value) : Except Failure Text :=
  match v with
  | .text t => .ok (s.string t)
  | v =>
    match v.items? with
    | none => .error (.notIterable v.kindName)
    | some items =>
      match items.findSome? Value.unkeyedPart? with
      | some part => .error (.notKey part.kindName)
      | none => (itemTexts 0 items).map fun texts => '"' :: texts.flatMap s.item ++ ['"']

def attributeText (s : Spelling) (a : CodeAttribute) : Except Failure Text :=
  (a.arguments.mapM s.argument).map (s.attributeForm a.name)

def bodyIndent : Text := List.replicate 12 ' '

def bodyLine (line : Text) : Text := if line.isBlank then [] else bodyIndent ++ line

def statementLines (s : Spelling) (statement : Statement) : List Text :=
  match statement.kind with
  | .literal => ["WriteLiteral(".toList ++ s.string statement.text ++ ')' :: s.callEnd]
  | .expression => ["Write(".toList ++ statement.text ++ ')' :: s.callEnd]
  | _ => Text.lines statement.text

def statementBody (s : Spelling) (source : Text) (pragmas : Bool) (statement : Statement) :
    List Text :=
  let lines := (s.statementLines statement).map bodyLine
  if pragmas then s.pragmaOpen source statement.line :: lines ++ s.pragmaClose else lines

def body (s : Spelling) (u : CompileUnit) : List Text :=
  u.type.entryMethod.statements.flatMap
    (s.statementBody u.sourceFile u.type.entryMethod.linePragmas)

end Spelling

end TemplateCompiler
