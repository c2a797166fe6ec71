import TemplateCompiler.Json.Printer
import TemplateCompiler.Json.Reader
import TemplateCompiler.Proofs.Model.Soundness
import TemplateCompiler.Proofs.Text.Whole

/-! What is written as JSON is read back, whatever follows it: texts without half characters, and
mappings of such texts whose names are different. Two halves of a pair that are written by their
numbers would be read as one character. -/

namespace TemplateCompiler

theorem Value.putEntry_new {key value : Value} {entries : List (Value × Value)}
    (new : ∀ e ∈ entries, e.1.same key = false) :
    putEntry key value entries = entries ++ [(key, value)] := by
  induction entries with
  | nil => rfl
  | cons e entries ih =>
    obtain ⟨first, others⟩ := List.forall_mem_cons.1 new
    rw [putEntry, if_neg (by simp [first]), ih others, List.cons_append]

theorem Value.foldl_putEntry {done entries : List (Value × Value)}
    (texts : ∀ e ∈ entries, ∃ t, e.1 = .text t)
    (distinct : ((done ++ entries).map Prod.fst).Nodup) :
    entries.foldl (fun done e => putEntry e.1 e.2 done) done = done ++ entries := by
  induction entries generalizing done with
  | nil => exact (List.append_nil done).symm
  | cons e entries ih =>
    obtain ⟨⟨t, key⟩, others⟩ := List.forall_mem_cons.1 texts
    have new : ∀ d ∈ done, d.1.same e.1 = false := by
      intro d inside
      refine Bool.eq_false_iff.2 fun same => ?_
      rw [key, same_text_iff, ← key] at same
      rw [List.map_append, List.nodup_append] at distinct
      exact distinct.2.2 d.1 (List.mem_map_of_mem inside) e.1 (by simp) same
    rw [List.append_cons] at distinct
    rw [List.foldl_cons, putEntry_new new, ih others distinct, ← List.append_cons]

namespace Json

def fields (fs : List (Text × Value)) : List (Value × Value) := fs.map fun f => (.text f.1, f.2)

theorem foldl_fields {fs : List (Text × Value)} (distinct : (fs.map Prod.fst).Nodup) :
    (fields fs).foldl (fun done e => Value.putEntry e.1 e.2 done) [] = fields fs := by
  have texts : ∀ e ∈ fields fs, ∃ t, e.1 = .text t := List.forall_mem_map.2 fun f _ => ⟨f.1, rfl⟩
  have names : ((fields fs).map Prod.fst).Nodup := by
    rw [fields, List.map_map]
    exact List.pairwise_map.2 ((List.pairwise_map.1 distinct).imp fun different same =>
      different (Value.text.inj same))
  exact Value.foldl_putEntry texts names

theorem field?_fields (key : Text) (fs : List (Text × Value)) :
    (Value.map (fields fs)).field? key = fs.lookup key := by
  have found : ((fields fs).find? fun e => e.1.same (.text key)).map Prod.snd =
      fs.lookup key := by
    induction fs with
    | nil => rfl
    | cons f fs ih =>
      rw [fields, List.map_cons, List.find?_cons, List.lookup_cons]
      by_cases same : key = f.1
      · have here : (Value.text f.1).same (.text key) = true :=
          Value.same_text_iff.2 (congrArg Value.text same.symm)
        rw [here, same, beq_self_eq_true]
        rfl
      · have apart : (Value.text f.1).same (.text key) = false :=
          Bool.eq_false_iff.2 fun given => same (Value.text.inj (Value.same_text_iff.1 given)).symm
        rw [apart, beq_eq_false_iff_ne.2 same]
        exact ih
  exact found

section Strings

theorem readString_letter {letter c : Char} (known : escapedChar? letter = some c) (fuel : Nat)
    (rest : Text) :
    readString (fuel + 1) ('\\' :: letter :: rest) =
      (readString fuel rest).map fun (text, after) => (c :: text, after) := by
  have unit : letter ≠ 'u' := by
    rintro rfl
    cases known
  rw [readString, known]
  · rfl
  · exact unit

theorem readString_control {c : Char} (low : c.toNat < 0x20) (fuel : Nat) (rest : Text) :
    readString (fuel + 1) ("\\u".toList ++ Text.hex 4 c.toNat ++ rest) =
      (readString fuel rest).map fun (text, after) => (c :: text, after) := by
  have number : ∀ n < 0x20, Text.hexNumber? (Text.hex 4 n) = some n := by decide
  have unit : readUnit (Text.hex 4 c.toNat ++ rest) = some (c.toNat, rest) :=
    congrArg (Option.map (·, rest)) (number c.toNat low)
  have character : Text.charOfCode c.toNat = c := by
    have apart : Text.isSurrogateCode c.toNat = false := by
      simp only [Text.isSurrogateCode, Bool.and_eq_false_iff, decide_eq_false_iff_not]
      omega
    rw [Text.charOfCode, apart]
    exact Char.ofNat_toNat c
  have alone : unitChar c.toNat rest = (c, rest) := by
    unfold unitChar
    rw [character]
    split
    · split
      · rw [if_neg (by omega)]
      · rfl
    · rfl
  have written : "\\u".toList ++ Text.hex 4 c.toNat ++ rest =
      '\\' :: 'u' :: (Text.hex 4 c.toNat ++ rest) := rfl
  rw [written, readString, unit]
  simp only [Option.bind_some, alone]

theorem readString_escape {c : Char} (whole : Text.surrogate? c = none) (fuel : Nat)
    (rest : Text) :
    readString (fuel + 1) (escape c ++ rest) =
      (readString fuel rest).map fun (text, after) => (c :: text, after) := by
  have letters : controlLetters.all (fun e => escapedChar? e.2 == some e.1) = true := by decide
  have written : escape c = escapeControl c := by rw [escape, whole]
  rw [written, escapeControl]
  split
  · next special => rcases special with rfl | rfl <;> exact readString_letter rfl fuel rest
  next plain =>
  rw [not_or] at plain
  split
  · next letter found =>
    obtain ⟨front, back, split, -⟩ := List.lookup_eq_some_iff.1 found
    have known := beq_iff_eq.1 (List.all_eq_true.1 letters (c, letter) (by simp [split]))
    exact readString_letter known fuel rest
  split
  · next low => exact readString_control low fuel rest
  · next high =>
    rw [List.singleton_append, readString, if_neg (not_or.2 ⟨high, plain.2⟩)]
    · exact plain.1
    · exact fun _ same => absurd same plain.2
    · exact fun _ _ same => absurd same plain.2

theorem readString_flatMap {t : Text} (whole : t.isWhole = true) {fuel : Nat}
    (enough : (t.flatMap escape).length < fuel) (rest : Text) :
    readString fuel (t.flatMap escape ++ '"' :: rest) = some (t, rest) := by
  induction t generalizing fuel with
  | nil =>
    obtain ⟨fuel, rfl⟩ := Nat.exists_eq_succ_of_ne_zero (Nat.ne_zero_of_lt enough)
    rfl
  | cons c t ih =>
    rw [Text.isWhole_cons, Bool.and_eq_true, Option.isNone_iff_eq_none] at whole
    rw [List.flatMap_cons, List.length_append] at enough
    have written : 0 < (escape c).length := by
      unfold escape escapeControl
      repeat' split
      all_goals simp
    obtain ⟨fuel, rfl⟩ := Nat.exists_eq_succ_of_ne_zero (Nat.ne_zero_of_lt enough)
    have left : (t.flatMap escape).length < fuel := by omega
    rw [List.flatMap_cons, List.append_assoc, readString_escape whole.1, ih whole.2 left]
    rfl

end Strings

section Values

variable {limits : Limits} {depth : Nat}

/-- A value that is read where it was written, whatever follows. -/
structure Reads (limits : Limits) (depth : Nat) (v : Value) : Prop where
  start : ∀ rest, skipBlanks (render v ++ rest) = render v ++ rest
  read : ∀ fuel rest, (render v).length ≤ fuel →
    readValue limits fuel depth (render v ++ rest) = .ok (v, rest)

theorem reads_null : Reads limits depth .null where
  start _ := rfl
  read fuel rest enough := by
    obtain ⟨fuel, rfl⟩ := Nat.exists_eq_succ_of_ne_zero (Nat.ne_zero_of_lt enough)
    have word : readWord? ("null".toList ++ rest) = some (.null, rest) := rfl
    rw [render, readValue, word]
    · exact fun _ same => nomatch same
    · exact fun _ same => nomatch same
    · exact fun _ same => nomatch same

theorem reads_text {t : Text} (whole : t.isWhole = true) : Reads limits depth (.text t) where
  start _ := rfl
  read fuel rest enough := by
    have written : render (.text t) = '"' :: t.flatMap escape ++ ['"'] := by
      rw [render, string]
    rw [written] at enough ⊢
    simp only [List.cons_append, List.length_cons, List.length_append] at enough
    obtain ⟨fuel, rfl⟩ := Nat.exists_eq_succ_of_ne_zero (by omega : fuel ≠ 0)
    have inside := @readString_flatMap t whole fuel (by omega) rest
    rw [List.append_assoc, List.cons_append, readValue, List.singleton_append, inside]

theorem renderEntry_text (key : Text) (v : Value) :
    renderEntry (.text key, v) = '"' :: key.flatMap escape ++ '"' :: ':' :: render v := by
  have name : keyText (.text key) = key := rfl
  rw [renderEntry, name, string]
  simp

theorem readEntries_entry {key : Text} {v : Value} (whole : key.isWhole = true)
    (reads : Reads limits depth v) (before : List (Value × Value)) {fuel : Nat} (tail : Text)
    (enough : (renderEntry (.text key, v)).length ≤ fuel) :
    readEntries limits (fuel + 1) depth before (renderEntry (.text key, v) ++ tail) =
      match skipBlanks tail with
      | '\x7d' :: rest => .ok (Value.putEntry (.text key) v before, rest)
      | ',' :: rest =>
        readEntries limits fuel depth (Value.putEntry (.text key) v before) (skipBlanks rest)
      | _ => .error .malformed := by
  rw [renderEntry_text] at enough ⊢
  simp only [List.cons_append, List.length_cons, List.length_append] at enough
  have name := @readString_flatMap key whole fuel (by omega) (':' :: (render v ++ tail))
  have colon : skipBlanks (':' :: (render v ++ tail)) = ':' :: (render v ++ tail) := rfl
  have value := reads.read fuel tail (by omega)
  simp only [List.cons_append, List.append_assoc, readEntries, name, colon, reads.start, value]
  rfl

theorem renderEntries_start (f : Text × Value) (fs : List (Text × Value)) :
    ∃ tail, Text.joinWith [','] (renderEntries (fields (f :: fs))) = '"' :: tail := by
  cases fs with
  | nil => exact ⟨_, renderEntry_text f.1 f.2⟩
  | cons g fs =>
    have first := renderEntry_text f.1 f.2
    rw [fields, List.map_cons, List.map_cons, renderEntries, renderEntries, Text.joinWith, first]
    exact ⟨_, rfl⟩

theorem readEntries_render {f : Text × Value} {fs : List (Text × Value)}
    (keys : ∀ g ∈ f :: fs, g.1.isWhole = true) (values : ∀ g ∈ f :: fs, Reads limits depth g.2)
    (before : List (Value × Value)) {fuel : Nat}
    (enough : (Text.joinWith [','] (renderEntries (fields (f :: fs)))).length < fuel)
    (rest : Text) :
    readEntries limits fuel depth before
        (Text.joinWith [','] (renderEntries (fields (f :: fs))) ++ '\x7d' :: rest) =
      .ok ((fields (f :: fs)).foldl (fun done e => Value.putEntry e.1 e.2 done) before, rest) := by
  induction fs generalizing f before fuel with
  | nil =>
    obtain ⟨fuel, rfl⟩ := Nat.exists_eq_succ_of_ne_zero (Nat.ne_zero_of_lt enough)
    exact readEntries_entry (keys f List.mem_cons_self) (values f List.mem_cons_self) before _
      (Nat.lt_succ_iff.1 enough)
  | cons g fs ih =>
    obtain ⟨fuel, rfl⟩ := Nat.exists_eq_succ_of_ne_zero (Nat.ne_zero_of_lt enough)
    obtain ⟨firstKey, otherKeys⟩ := List.forall_mem_cons.1 keys
    obtain ⟨firstValue, otherValues⟩ := List.forall_mem_cons.1 values
    have joined : Text.joinWith [','] (renderEntries (fields (f :: g :: fs))) =
        renderEntry (.text f.1, f.2) ++
          ',' :: Text.joinWith [','] (renderEntries (fields (g :: fs))) := by
      rw [fields, List.map_cons, List.map_cons, renderEntries, renderEntries, Text.joinWith,
        List.append_assoc]
      rfl
    obtain ⟨tail, begins⟩ := renderEntries_start g fs
    have apart : skipBlanks (Text.joinWith [','] (renderEntries (fields (g :: fs))) ++
        '\x7d' :: rest) =
          Text.joinWith [','] (renderEntries (fields (g :: fs))) ++ '\x7d' :: rest := by
      rw [begins]
      rfl
    have comma (t : Text) : skipBlanks (',' :: t) = ',' :: t := rfl
    rw [joined, List.length_append, List.length_cons] at enough
    rw [joined, List.append_assoc, List.cons_append,
      readEntries_entry firstKey firstValue before _ (by omega), comma]
    simp only [apart]
    exact ih otherKeys otherValues _ (by omega)

theorem reads_map {fs : List (Text × Value)} (shallow : exceeds limits.depth (depth + 1) = false)
    (keys : ∀ key ∈ fs.map Prod.fst, Text.isWhole key = true)
    (values : ∀ f ∈ fs, Reads limits (depth + 1) f.2)
    (distinct : (fs.map Prod.fst).Nodup) : Reads limits depth (.map (fields fs)) where
  start _ := rfl
  read fuel rest enough := by
    have written : render (.map (fields fs)) =
        '\x7b' :: Text.joinWith [','] (renderEntries (fields fs)) ++ ['\x7d'] := by rw [render]
    rw [written] at enough ⊢
    simp only [List.cons_append, List.length_cons, List.length_append] at enough
    obtain ⟨fuel, rfl⟩ := Nat.exists_eq_succ_of_ne_zero (by omega : fuel ≠ 0)
    rw [List.append_assoc, List.cons_append, readValue, if_neg (by simp [shallow])]
    cases fs with
    | nil => rfl
    | cons f fs =>
      obtain ⟨tail, begins⟩ := renderEntries_start f fs
      have entries := @readEntries_render limits (depth + 1) f fs (List.forall_mem_map.1 keys)
        values [] fuel (by omega) rest
      rw [foldl_fields distinct] at entries
      rw [begins] at entries ⊢
      have apart : skipBlanks ('"' :: tail ++ '\x7d' :: rest) = '"' :: tail ++ '\x7d' :: rest := rfl
      rw [List.singleton_append, apart]
      exact congrArg (Except.map fun read => (Value.map read.1, read.2)) entries

/-- A value that is written is read back. -/
theorem read_render {v : Value} (reads : Reads limits 0 v) :
    Json.read limits (render v) = .ok v := by
  have start := reads.start []
  have whole := reads.read (2 * (render v).length + 2) [] (by omega)
  rw [List.append_nil] at start whole
  rw [Json.read, start, whole]
  rfl

end Values

end Json

end TemplateCompiler
