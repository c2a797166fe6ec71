import TemplateCompiler.Proofs.Customization.Workable
import TemplateCompiler.Proofs.Pass.Ending

/-! What a pass hands to the renderer. Preparing customizations never fails, and neither does taking
a template apart, so once there is a text only the customizations, the renderer and the text hooks
decide about a pass. -/

namespace TemplateCompiler

open Customization

namespace Generator

def customized (g : Generator) (chain : Chain Customization) (text : Text) :
    Except Failure CompileUnit :=
  let prepared := (Chain.hooks hooks).prepare chain g.context
  let names := Pass.unitNames g.request.sourcePath prepared.reached
  ((Chain.hooks hooks).mutateModel prepared.after
    (Template.compileUnit g.settings.host names text)).value

/-- A pass renders what the customizations make of the unit, whatever the renderer is, and then
customizes the code. -/
theorem run_customized (g : Generator) {files : FileTree} {text : Text}
    (given : g.source.read files g.request.sourcePath = .ok text) (chain : Chain Customization)
    (render : CompileUnit → Except Failure Text) :
    (g.runWith (Chain.hooks hooks) { g.collaborators files with render := render } chain).result =
      .ok (Pass.settle .render (g.customized chain text) fun u =>
        Pass.settle .render (render u) fun code =>
          Pass.settle .render ((Chain.hooks hooks).mutateText chain (g.language.wrap code)).value
            .code) := by
  have parsed (names : UnitNames) :
      Pass.parseSource { g.collaborators files with render := render } names =
        .ok (Template.compileUnit g.settings.host names text, Template.diagnostics text) := by
    change (g.source.read files g.request.sourcePath).bind (g.parse names) = _
    rw [given]
    rfl
  have result := Pass.run_result (Chain.hooks hooks)
    { g.collaborators files with render := render } g.request.sourcePath g.context chain
    (prepare_leaves g.context).1
  simp only [mutateText_prepared, parsed] at result
  exact result

end Generator

end TemplateCompiler
