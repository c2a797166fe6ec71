import TemplateCompiler.Template.Group

/-! An expression without brackets around it: a name, then members, calls and indexes as long as
they follow without a gap. -/

namespace TemplateCompiler.Template

def takeName (t : Text) : Text × Text :=
  (t.takeWhile Text.isIdentifierPart, t.dropWhile Text.isIdentifierPart)

def callCloser? (c : Char) : Option Char :=
  if c = '(' then some ')' else if c = '[' then some ']' else none

/-- One member, call or index at the start of a text, and what follows it. -/
def takeLink (t : Text) : Option (Text × Text) :=
  match t with
  | [] => none
  | c :: rest =>
    if c = '.' then
      match rest with
      | [] => none
      | d :: _ =>
        if Text.isIdentifierStart d then
          let (name, after) := takeName rest
          some ('.' :: name, after)
        else none
    else
      match callCloser? c with
      | none => none
      | some closer =>
        (closeGroup c closer rest).map fun (inside, after) => (c :: inside ++ [closer], after)

theorem takeLink_eq_append {t link rest : Text} (h : takeLink t = some (link, rest)) :
    t = link ++ rest ∧ link ≠ [] := by
  unfold takeLink at h
  split at h
  · simp at h
  · next c tail =>
    split at h
    · next hc =>
      split at h
      · simp at h
      · next d more =>
        split at h
        · simp only [takeName, Option.some.injEq, Prod.mk.injEq] at h
          obtain ⟨rfl, rfl⟩ := h
          simp [hc]
        · simp at h
    · split at h
      · simp at h
      · obtain ⟨⟨inside, after⟩, hi, he⟩ := Option.map_eq_some_iff.1 h
        simp only [Prod.mk.injEq] at he
        obtain ⟨rfl, rfl⟩ := he
        simp [closeGroup_eq_append hi]

theorem takeLink_length {t link rest : Text} (h : takeLink t = some (link, rest)) :
    rest.length < t.length := by
  obtain ⟨rfl, hn⟩ := takeLink_eq_append h
  have := List.length_pos_iff.2 hn
  rw [List.length_append]
  omega

def takeLinks (t : Text) : Text × Text :=
  match _h : takeLink t with
  | none => ([], t)
  | some (link, rest) =>
    let (links, after) := takeLinks rest
    (link ++ links, after)
termination_by t.length
decreasing_by exact takeLink_length _h

def takeImplicit (t : Text) : Text × Text :=
  let (name, rest) := takeName t
  let (links, after) := takeLinks rest
  (name ++ links, after)

theorem takeLinks_append (t : Text) : (takeLinks t).1 ++ (takeLinks t).2 = t := by
  fun_induction takeLinks t with
  | case1 => rfl
  | case2 t link rest h links after e ih =>
    rw [e] at ih
    rw [List.append_assoc, ih, (takeLink_eq_append h).1]

theorem takeImplicit_append (t : Text) : (takeImplicit t).1 ++ (takeImplicit t).2 = t := by
  simp only [takeImplicit, takeName, List.append_assoc, takeLinks_append,
    List.takeWhile_append_dropWhile]

end TemplateCompiler.Template
