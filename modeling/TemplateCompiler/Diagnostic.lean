import TemplateCompiler.Failure

/-! What is reported about a template: problems that the rest of the pass can go on with, and the
failure of the pass. A parser of one's own may report anything. -/

namespace TemplateCompiler

/-- What is wrong. Of a failure only the report is told; the trace of the calls before it is left out. -/
inductive Problem where
  | failed (cause : Failure)
  | openCode
  | openExpression
  | openComment
  | strayAt (next : Option Char)
  | other (code : Int) (message : Text)
deriving DecidableEq

namespace Problem

def code : Problem → Int
  | .failed _ => 4
  | .openCode => 101
  | .openExpression => 102
  | .openComment => 103
  | .strayAt _ => 104
  | .other code _ => code

def message : Problem → Text
  | .failed cause => cause.report
  | .openCode => "The code block is missing a closing '\x7d' character.".toList
  | .openExpression => "The explicit expression is missing a closing ')' character.".toList
  | .openComment => "The comment block is missing a closing '*@'.".toList
  | .strayAt next =>
    "Unexpected ".toList ++
      (match next with
        | some c => Text.quoted [c]
        | none => "end of file".toList) ++
      " after '@'. Use '@@' for a literal '@'.".toList
  | .other _ message => message

end Problem

structure Diagnostic where
  problem : Problem
  line : Int
  column : Int
deriving DecidableEq

def Diagnostic.at (problem : Problem) (position : Position) : Diagnostic :=
  ⟨problem, position.line, position.column⟩

namespace Diagnostic

def code (d : Diagnostic) : Int := d.problem.code

def message (d : Diagnostic) : Text := d.problem.message

end Diagnostic

end TemplateCompiler
