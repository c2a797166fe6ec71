import TemplateCompiler.Diagnostic
import TemplateCompiler.Model.Statement
import TemplateCompiler.Template.Reader

/-! The statements of a template and what is wrong with it, both read off its parts. -/

namespace TemplateCompiler

def BlockKind.statementKind : BlockKind → StatementKind
  | .code => .code
  | .expression => .expression

namespace Template

/-- Literal text that was read but is not a statement yet: where it begins, and the text. -/
abbrev Pending := Option (Position × Text)

def addLiteral (pending : Pending) (position : Position) (text : Text) : Pending :=
  match pending with
  | some (start, before) => some (start, before ++ text)
  | none => if text.isEmpty then none else some (position, text)

def literalOf : Pending → List Statement
  | some (start, text) => [.at .literal text start]
  | none => []

def afterOpening (position : Position) (opener : Char) : Position :=
  (position.next '@').next opener

/-- The statement of a part that ends the literal text; a blank block has none. `position` is
where the part begins. -/
def statementOf (position : Position) : Segment → List Statement
  | .block kind body _ =>
    if body.isBlank then []
    else [.at kind.statementKind body.trim (afterOpening position kind.opener)]
  | .implicit expression => [.at .expression expression (position.next '@')]
  | _ => []

def statementsFrom (position : Position) (pending : Pending) : List Segment → List Statement
  | [] => literalOf pending
  | segment :: rest =>
    let after := position.after segment.source
    match segment.literal? with
    | some text => statementsFrom after (addLiteral pending position text) rest
    | none =>
      literalOf pending ++ (statementOf position segment ++ statementsFrom after none rest)

def statements (t : Text) : List Statement := statementsFrom .start none (segments t)

def diagnosticOf (position : Position) : Segment → List Diagnostic
  | .comment _ false => [.at .openComment position]
  | .block .code _ false => [.at .openCode position]
  | .block .expression _ false => [.at .openExpression position]
  | .strayAt next => [.at (.strayAt next) position]
  | _ => []

def diagnosticsFrom (position : Position) : List Segment → List Diagnostic
  | [] => []
  | segment :: rest =>
    diagnosticOf position segment ++ diagnosticsFrom (position.after segment.source) rest

def diagnostics (t : Text) : List Diagnostic := diagnosticsFrom .start (segments t)

end Template

end TemplateCompiler
