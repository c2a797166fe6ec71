import TemplateCompiler.Encoding.Source
import TemplateCompiler.Proofs.Encoding.Forms
import TemplateCompiler.Proofs.Outcome

/-! Text behind a byte-order mark. The mark decides how the bytes behind it are read, and it is
taken away once. The one text that is not read back begins with a null character: in UTF-16 with the
low byte first, this makes the mark that of UTF-32. -/

namespace TemplateCompiler.Encoding

/-- The bytes of a text, if the encoding has a form for each of its characters. -/
def encode? (e : Encoding) (t : Text) : Option (List UInt8) :=
  (t.mapM e.bytes?).map List.flatten

theorem encode?_cons {e : Encoding} {c : Char} {t : Text} {bytes : List UInt8} :
    e.encode? (c :: t) = some bytes ↔
      ∃ first others, e.bytes? c = some first ∧ e.encode? t = some others ∧
        bytes = first ++ others := by
  simp only [encode?, List.mapM_cons]
  cases e.bytes? c <;> cases t.mapM e.bytes? <;> simp [eq_comm]

theorem strict_encode? (e : Encoding) (codec : Text) (position : Nat) {t : Text}
    {bytes : List UInt8} (written : e.encode? t = some bytes) :
    Decoder.strict codec e.step position bytes = .ok t := by
  induction t generalizing position bytes with
  | nil =>
    obtain rfl : [] = bytes := Option.some.inj written
    rw [Decoder.strict]
  | cons c t ih =>
    obtain ⟨first, others, form, behind, rfl⟩ := encode?_cons.1 written
    obtain ⟨b, tail, rfl, step⟩ := reads e form others
    rw [List.cons_append, Decoder.strict, step]
    simp only [List.drop_left, ih (position + 1 + tail.length) behind]
    rfl

section Lengths

variable {order : ByteOrder} {t : Text} {bytes : List UInt8}

theorem length_encode?_le (written : (Encoding.utf16 order).encode? t = some bytes) :
    bytes.length ≤ 4 * t.length := by
  induction t generalizing bytes with
  | nil =>
    obtain rfl : [] = bytes := Option.some.inj written
    exact Nat.le_refl 0
  | cons c t ih =>
    obtain ⟨first, others, form, behind, rfl⟩ := encode?_cons.1 written
    have short : first.length ≤ 4 := by
      obtain rfl : utf16Bytes order c = first := Option.some.inj form
      unfold utf16Bytes
      cases order <;> split <;> simp [ByteOrder.unitBytes]
    have later := ih behind
    rw [List.length_append, List.length_cons]
    omega

theorem utf32Step_accepted {b : UInt8} {rest : List UInt8} {c : Char} {more : Nat}
    (accepted : utf32Step order b rest = .accepted c more) : more = 3 ∧ 3 ≤ rest.length := by
  unfold utf32Step at accepted
  split at accepted
  · simp only at accepted
    split at accepted
    · cases accepted
    · split at accepted
      · cases accepted
      · cases accepted
        exact ⟨rfl, by simp⟩
  · cases accepted

theorem length_of_strict {codec : Text} {position : Nat}
    (read : Decoder.strict codec (utf32Step order) position bytes = .ok t) :
    bytes.length = 4 * t.length := by
  fun_induction Decoder.strict codec (utf32Step order) position bytes generalizing t with
  | case1 =>
    cases read
    rfl
  | case2 position b rest c more step ih =>
    obtain ⟨others, behind, rfl⟩ := map_eq_ok_iff.1 read
    obtain ⟨rfl, enough⟩ := utf32Step_accepted step
    have later := ih behind
    rw [List.length_drop] at later
    rw [List.length_cons, List.length_cons]
    omega
  | case3 => cases read

end Lengths

section Marks

variable {mark : Mark} {t : Text} {bytes : List UInt8}

theorem markOf?_append (known : mark ∈ marks)
    (clear : mark.encoding = .utf16 .little → ¬ [0, 0] <+: bytes) :
    markOf? (mark.bytes ++ bytes) = some mark := by
  simp only [marks, List.mem_cons, List.not_mem_nil, or_false] at known
  rcases known with rfl | rfl | rfl | rfl | rfl
  · rfl
  · rfl
  · rfl
  · have other : [0, 0].isPrefixOf bytes = false :=
      Bool.eq_false_iff.2 fun begins => clear rfl (List.isPrefixOf_iff_prefix.1 begins)
    simp [markOf?, marks, List.isPrefixOf, other]
  · rfl

theorem encode?_of_mark (known : mark ∈ marks) (t : Text) :
    ∃ bytes, mark.encoding.encode? t = some bytes := by
  have formed (c : Char) : ∃ first, mark.encoding.bytes? c = some first := by
    simp only [marks, List.mem_cons, List.not_mem_nil, or_false] at known
    rcases known with rfl | rfl | rfl | rfl | rfl <;> exact ⟨_, rfl⟩
  induction t with
  | nil => exact ⟨[], rfl⟩
  | cons c t ih =>
    obtain ⟨first, form⟩ := formed c
    obtain ⟨others, behind⟩ := ih
    exact ⟨first ++ others, encode?_cons.2 ⟨first, others, form, behind, rfl⟩⟩

theorem utf16Bytes_little (c : Char) : ∃ a b tail, utf16Bytes .little c = a :: b :: tail ∧
    (a = 0 ∧ b = 0 ↔ c = '\x00') := by
  have code := code_cases c
  have zero (n : UInt8) : n = 0 ↔ n.toNat = 0 := UInt8.toNat_inj.symm
  have null : c = '\x00' ↔ c.toNat = 0 := Char.toNat_inj.symm
  unfold utf16Bytes
  split
  · next small =>
    refine ⟨_, _, [], rfl, ?_⟩
    rw [zero, zero, null, toNat_toUInt8 (by omega), toNat_toUInt8 (by omega)]
    omega
  · next large =>
    refine ⟨_, _, _, rfl, ?_⟩
    rw [zero, zero, null, toNat_toUInt8 (by omega), toNat_toUInt8 (by omega)]
    omega

theorem begins_null_iff (written : (Encoding.utf16 .little).encode? t = some bytes) :
    [0, 0] <+: bytes ↔ t.head? = some '\x00' := by
  cases t with
  | nil =>
    obtain rfl : [] = bytes := Option.some.inj written
    simp
  | cons c t =>
    obtain ⟨first, others, form, -, rfl⟩ := encode?_cons.1 written
    obtain ⟨a, b, tail, split, null⟩ := utf16Bytes_little c
    obtain rfl : a :: b :: tail = first := split.symm.trans (Option.some.inj form)
    simpa [eq_comm] using null

theorem decodeSource_of_mark (codecs : Codecs) (name : Text) (known : mark ∈ marks)
    (written : mark.encoding.encode? t = some bytes)
    (clear : ¬ (mark.encoding = .utf16 .little ∧ t.head? = some '\x00')) :
    decodeSource codecs name (mark.bytes ++ bytes) = .ok t := by
  have found : markOf? (mark.bytes ++ bytes) = some mark := by
    refine markOf?_append known fun little begins => clear ⟨little, ?_⟩
    rw [little] at written
    exact (begins_null_iff written).1 begins
  rw [decodeSource, found]
  simp only [List.drop_left]
  exact strict_encode? mark.encoding mark.codec 0 written

/-- The mark of UTF-16 and a null character behind it are the mark of UTF-32, in which the bytes
that are left are too few for the text. -/
theorem decodeSource_of_null (codecs : Codecs) (name : Text) (known : mark ∈ marks)
    (little : mark.encoding = .utf16 .little)
    (written : (Encoding.utf16 .little).encode? ('\x00' :: t) = some bytes) :
    decodeSource codecs name (mark.bytes ++ bytes) ≠ .ok ('\x00' :: t) := by
  intro read
  have only : ∀ m ∈ marks, m.encoding = .utf16 .little → m.bytes = [0xFF, 0xFE] := by
    decide +kernel
  obtain ⟨first, others, form, behind, rfl⟩ := encode?_cons.1 written
  obtain rfl : [0, 0] = first := Option.some.inj form
  rw [only mark known little] at read
  have strictly : Decoder.strict "utf-32-le".toList (utf32Step .little) 0 others =
      .ok ('\x00' :: t) := read
  have longer : others.length = 4 * (t.length + 1) := length_of_strict strictly
  have shorter := length_encode?_le behind
  omega

/-- A text behind a mark and in the encoding of the mark is read back whatever the default encoding
is, unless the mark is that of UTF-16 with the low byte first and the text begins with a null
character. Only one mark is taken away: a second one is the first character of the text. -/
theorem decodeSource_mark (codecs : Codecs) (name : Text) (known : mark ∈ marks) (t : Text) :
    ∃ bytes, mark.encoding.encode? t = some bytes ∧
      (decodeSource codecs name (mark.bytes ++ bytes) = .ok t ↔
        ¬ (mark.encoding = .utf16 .little ∧ t.head? = some '\x00')) ∧
      decodeSource codecs name (mark.bytes ++ (mark.bytes ++ bytes)) = .ok ('\ufeff' :: t) := by
  obtain ⟨bytes, written⟩ := encode?_of_mark known t
  refine ⟨bytes, written, ⟨?_, decodeSource_of_mark codecs name known written⟩, ?_⟩
  · rintro read ⟨little, null⟩
    cases t with
    | nil => cases null
    | cons c t =>
      cases null
      exact decodeSource_of_null codecs name known little (little ▸ written) read
  · have second : mark.encoding.bytes? '\ufeff' = some mark.bytes := by
      have all : ∀ m ∈ marks, m.encoding.bytes? '\ufeff' = some m.bytes := by decide +kernel
      exact all mark known
    have both : mark.encoding.encode? ('\ufeff' :: t) = some (mark.bytes ++ bytes) :=
      encode?_cons.2 ⟨mark.bytes, bytes, second, written, rfl⟩
    refine decodeSource_of_mark codecs name known both ?_
    rintro ⟨-, null⟩
    cases null

/-- The mark of UTF-16, a text that begins with another mark, and a letter that takes two units. -/
theorem decodeSource_mark_surrogates :
    let mark : Mark := ⟨[0xFF, 0xFE], .utf16 .little, "utf-16-le".toList⟩
    let text : Text := ['\ufeff', '𐍈', '\x00']
    mark ∈ marks ∧
    mark.encoding.encode? text = some [0xFF, 0xFE, 0x00, 0xD8, 0x48, 0xDF, 0x00, 0x00] ∧
    ∃ bytes, mark.encoding.encode? text = some bytes ∧
      (decodeSource noCodecs "no encoding".toList (mark.bytes ++ bytes) = .ok text ↔
        ¬ (mark.encoding = .utf16 .little ∧ text.head? = some '\x00')) ∧
      decodeSource noCodecs "no encoding".toList (mark.bytes ++ (mark.bytes ++ bytes)) =
        .ok ('\ufeff' :: text) :=
  have known : ⟨[0xFF, 0xFE], .utf16 .little, "utf-16-le".toList⟩ ∈ marks := by
    simp [marks]
  ⟨known, by decide +kernel, decodeSource_mark noCodecs "no encoding".toList known _⟩

end Marks

end TemplateCompiler.Encoding
