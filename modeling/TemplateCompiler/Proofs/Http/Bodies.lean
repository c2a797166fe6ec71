import TemplateCompiler.Http.Service
import TemplateCompiler.Proofs.CommandLine.Delivery
import TemplateCompiler.Proofs.Encoding.Marks
import TemplateCompiler.Proofs.Json.Writing

/-! The body of a request for code. For every job without half characters there is a body that is
read as the job, whatever its template holds. -/

namespace TemplateCompiler

def Job.body (j : Job) (template : Text) : Http.GenerateBody :=
  ⟨template, j.path, j.language, j.profile, j.directives⟩

def Job.fields (j : Job) (template : Text) : List (Text × Value) :=
  [("template".toList, .text template), ("project_relative_path".toList, .text j.path),
    ("language".toList, Http.textOrNull j.language), ("profile".toList, .text j.profile),
    ("directives".toList, .map (Json.fields (j.directives.map fun d => (d.1, .text d.2))))]

def Job.written (j : Job) (template : Text) : Text :=
  Json.render (.map (Json.fields (j.fields template)))

/-- A job that can be written: its path is not empty, and no text has half characters. -/
structure Job.IsWritable (j : Job) : Prop where
  path : j.path.isWhole = true
  filled : j.path ≠ []
  language : ∀ l ∈ j.language, l.isWhole = true
  profile : j.profile.isWhole = true
  names : ∀ d ∈ j.directives, d.1.isWhole = true
  values : ∀ d ∈ j.directives, d.2.isWhole = true
  distinct : (j.directives.map Prod.fst).Nodup

namespace Http

open Json

variable {j : Job} {template : Text}

theorem utf8_encode? (t : Text) :
    Encoding.utf8.encode? t = some (t.flatMap Encoding.utf8Bytes) := by
  induction t with
  | nil => rfl
  | cons c t ih => exact Encoding.encode?_cons.2 ⟨_, _, rfl, ih, rfl⟩

theorem decodeBody_utf8 {t : Text} {rest : Text} (start : t = '\x7b' :: '"' :: 't' :: 'e' :: rest) :
    decodeBody (t.flatMap Encoding.utf8Bytes) = .ok t := by
  have unmarked : Encoding.markOf? (t.flatMap Encoding.utf8Bytes) = none := by
    rw [start]
    rfl
  have form : encodingOf (t.flatMap Encoding.utf8Bytes) = .utf8 := by
    rw [start]
    rfl
  rw [decodeBody, unmarked]
  simp only [form]
  exact Encoding.strict_encode? .utf8 [] 0 (utf8_encode? t)

theorem checkDirectives_fields (place : List Text) (ds : Directives) :
    checkDirectives place (.map (fields (ds.map fun d => (d.1, .text d.2)))) = .ok ds := by
  rw [checkDirectives]
  induction ds with
  | nil => rfl
  | cons d ds ih =>
    simp only [fields, List.map_cons, List.foldr_cons] at ih ⊢
    rw [ih]
    rfl

theorem checkObject_fields (writable : j.IsWritable) :
    checkObject (.map (fields (j.fields template))) = .ok (j.body template) := by
  have field {α : Type} (name : Text) (default : Option α) (check : List Text → Value → Checked α)
      {v : Value} {a : α} (there : (j.fields template).lookup name = some v)
      (fine : check ["body".toList, name] v = .ok a) :
      checkField (.map (fields (j.fields template))) name default check = .ok a := by
    simp only [checkField, field?_fields, there]
    exact fine
  have path (place : List Text) : checkFilledText place (.text j.path) = .ok j.path := by
    have filled : List.isEmpty j.path = false := by simpa using writable.filled
    simp [checkFilledText, checkText, Except.bind, writable.path, filled]
  have language (place : List Text) : checkTextOrNull place (textOrNull j.language) =
      .ok j.language := by
    cases j.language <;> rfl
  rw [checkObject, field "template".toList none checkText rfl rfl,
    field "project_relative_path".toList none checkFilledText rfl (path _),
    field "language".toList (some none) checkTextOrNull rfl (language _),
    field "profile".toList (some "webpage".toList) checkText rfl rfl,
    field "directives".toList (some []) checkDirectives rfl (checkDirectives_fields _ _)]
  rfl

theorem reads_fields (writable : j.IsWritable) (whole : template.isWhole = true) :
    Reads bodyLimits 0 (.map (fields (j.fields template))) := by
  have texts : Reads bodyLimits 1 (.map (fields (j.directives.map fun d => (d.1, .text d.2)))) := by
    refine reads_map rfl ?_ ?_ ?_
    · rw [List.map_map]
      exact List.forall_mem_map.2 writable.names
    · exact List.forall_mem_map.2 fun d inside => reads_text (writable.values d inside)
    · rw [List.map_map]
      exact writable.distinct
  have language : Reads bodyLimits 1 (textOrNull j.language) := by
    cases given : j.language with
    | none => exact reads_null
    | some l => exact reads_text (writable.language l given)
  have names : (j.fields template).map Prod.fst = ["template".toList,
      "project_relative_path".toList, "language".toList, "profile".toList,
      "directives".toList] := rfl
  refine reads_map rfl ?_ ?_ ?_
  · rw [names]
    decide
  · simp only [Job.fields, List.forall_mem_cons]
    exact ⟨reads_text whole, reads_text writable.path, language, reads_text writable.profile, texts,
      List.forall_mem_nil _⟩
  · rw [names]
    decide

/-- Every job that can be written is stated by a body: the texts that cannot are those with half a
character, or with one of U+DF000 to U+DF7FF, which stand for the halves. -/
theorem checkBody_written (writable : j.IsWritable) (whole : template.isWhole = true) :
    checkBody (j.written template) = .ok (j.body template) := by
  obtain ⟨rest, start⟩ : ∃ rest, j.written template = '\x7b' :: '"' :: 't' :: 'e' :: rest :=
    ⟨_, rfl⟩
  have read : Json.read bodyLimits (j.written template) = .ok (.map (fields (j.fields template))) :=
    read_render (reads_fields writable whole)
  have filled : (j.written template).isEmpty = false := by
    rw [start]
    rfl
  rw [checkBody, filled, readBody, decodeBody_utf8 start]
  simp only [read, Except.bind, checkValue, checkObject_fields writable]
  rfl

end Http

end TemplateCompiler
