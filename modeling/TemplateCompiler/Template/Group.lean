import TemplateCompiler.Text.Basic

/-! Finding the end of a bracketed group. Brackets in a quoted string do not count, and a string
that is not closed ends with its line. -/

namespace TemplateCompiler.Template

inductive GroupState where
  | code
  | quoted (mark : Char)
  | escaped (mark : Char)
deriving DecidableEq, Repr

def isQuote (c : Char) : Bool := c == '"' || c == '\''

namespace GroupState

def next : GroupState → Char → GroupState
  | .code, c => if isQuote c then .quoted c else .code
  | .quoted mark, c =>
    if c = '\\' then .escaped mark else if c = mark ∨ c = '\n' then .code else .quoted mark
  | .escaped mark, _ => .quoted mark

end GroupState

def depthAfter (opener closer : Char) (state : GroupState) (depth : Nat) (c : Char) : Nat :=
  if state = .code then
    if c = opener then depth + 1 else if c = closer then depth - 1 else depth
  else depth

/-- The text up to the closer of the group around it, and what follows the closer. `depth` counts
the groups that were opened on the way. -/
def closeFrom (opener closer : Char) (state : GroupState) (depth : Nat) :
    Text → Option (Text × Text)
  | [] => none
  | c :: rest =>
    if state = .code ∧ c = closer ∧ depth = 0 then some ([], rest)
    else
      (closeFrom opener closer (state.next c) (depthAfter opener closer state depth c) rest).map
        fun (inside, after) => (c :: inside, after)

/-- The inside of the group whose opener was just passed, and what follows its closer. -/
def closeGroup (opener closer : Char) (t : Text) : Option (Text × Text) :=
  closeFrom opener closer .code 0 t

theorem closeFrom_eq_append {opener closer : Char} {state : GroupState} {depth : Nat}
    {t inside rest : Text} (h : closeFrom opener closer state depth t = some (inside, rest)) :
    t = inside ++ closer :: rest := by
  induction t generalizing state depth inside with
  | nil => simp [closeFrom] at h
  | cons c t ih =>
    rw [closeFrom] at h
    split at h
    · next hc =>
      simp only [Option.some.injEq, Prod.mk.injEq] at h
      obtain ⟨rfl, rfl⟩ := h
      rw [hc.2.1, List.nil_append]
    · obtain ⟨⟨i, r⟩, hi, he⟩ := Option.map_eq_some_iff.1 h
      simp only [Prod.mk.injEq] at he
      obtain ⟨rfl, rfl⟩ := he
      rw [ih hi, List.cons_append]

theorem closeGroup_eq_append {opener closer : Char} {t inside rest : Text}
    (h : closeGroup opener closer t = some (inside, rest)) :
    t = inside ++ closer :: rest :=
  closeFrom_eq_append h

end TemplateCompiler.Template
