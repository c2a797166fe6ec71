import TemplateCompiler.Proofs.Encoding.Forms

/-! What an encoding reads as a character are the bytes that it writes for this character. Bytes that
UTF-8 rejects together with a first one begin no character. -/

namespace TemplateCompiler

theorem toUInt8_eq {n : Nat} {b : UInt8} (same : n = b.toNat) : n.toUInt8 = b := by
  rw [same]
  exact UInt8.ofNat_toNat

theorem toNat_ofNat {n : Nat} (valid : n < 0xD800 ∨ 0xE000 ≤ n ∧ n < 0x110000) :
    (Char.ofNat n).toNat = n := by
  have char : n.isValidChar := by
    rw [Nat.isValidChar]
    omega
  rw [Char.ofNat, dif_pos char]
  rfl

namespace ByteOrder

variable (order : ByteOrder) (a b c d : UInt8)

theorem unit_lt : order.unit a b < 65536 := by
  have first := a.toNat_lt
  have second := b.toNat_lt
  cases order <;> simp only [unit] <;> omega

theorem unitBytes_unit : order.unitBytes (order.unit a b) = [a, b] := by
  have first := a.toNat_lt
  have second := b.toNat_lt
  cases order with
  | little =>
    have low : ((a.toNat + b.toNat * 256) % 256).toUInt8 = a := toUInt8_eq (by omega)
    have high : ((a.toNat + b.toNat * 256) / 256).toUInt8 = b := toUInt8_eq (by omega)
    rw [unitBytes, unit, low, high]
  | big =>
    have low : ((a.toNat * 256 + b.toNat) % 256).toUInt8 = b := toUInt8_eq (by omega)
    have high : ((a.toNat * 256 + b.toNat) / 256).toUInt8 = a := toUInt8_eq (by omega)
    rw [unitBytes, unit, low, high]

theorem wordBytes_word : order.wordBytes (order.word a b c d) = [a, b, c, d] := by
  have first := order.unit_lt a b
  have second := order.unit_lt c d
  have front := order.unitBytes_unit a b
  have back := order.unitBytes_unit c d
  cases order with
  | little =>
    have low : (unit .little a b + unit .little c d * 65536) % 65536 = unit .little a b := by omega
    have high : (unit .little a b + unit .little c d * 65536) / 65536 = unit .little c d := by omega
    rw [wordBytes, word, low, high, front, back]
    rfl
  | big =>
    have low : (unit .big a b * 65536 + unit .big c d) % 65536 = unit .big c d := by omega
    have high : (unit .big a b * 65536 + unit .big c d) / 65536 = unit .big a b := by omega
    rw [wordBytes, word, low, high, front, back]
    rfl

end ByteOrder

namespace Encoding

/-- A first byte and `more` of those behind it are the form of a character. -/
def IsForm (bytes? : Char → Option (List UInt8)) (b : UInt8) (rest : List UInt8) (c : Char)
    (more : Nat) : Prop :=
  ∃ tail others, rest = tail ++ others ∧ more = tail.length ∧ bytes? c = some (b :: tail)

def Writes (step : Decoder) (bytes? : Char → Option (List UInt8)) : Prop :=
  ∀ {b : UInt8} {rest : List UInt8} {c : Char} {more : Nat},
    step b rest = .accepted c more → IsForm bytes? b rest c more

theorem writes_ascii : Writes asciiStep asciiBytes? := by
  intro b rest c more accepted
  unfold asciiStep at accepted
  split at accepted
  · next small =>
    cases accepted
    have code : (Char.ofNat b.toNat).toNat = b.toNat := toNat_ofNat (by omega)
    exact ⟨[], rest, rfl, rfl, by rw [asciiBytes?, code, if_pos small, toUInt8_eq rfl]⟩
  · cases accepted

theorem writes_latin1 : Writes latin1Step latin1Bytes? := by
  intro b rest c more accepted
  cases accepted
  have small := b.toNat_lt
  have code : (Char.ofNat b.toNat).toNat = b.toNat := toNat_ofNat (by omega)
  exact ⟨[], rest, rfl, rfl, by rw [latin1Bytes?, code, if_pos small, toUInt8_eq rfl]⟩

theorem writes_windows : Writes windowsStep windowsBytes? := by
  intro b rest c more accepted
  have small := b.toNat_lt
  unfold windowsStep at accepted
  split at accepted
  · next plain =>
    cases accepted
    have code : (Char.ofNat b.toNat).toNat = b.toNat := toNat_ofNat (by omega)
    exact ⟨[], rest, rfl, rfl, by rw [windowsBytes?, code, if_pos (by omega), toUInt8_eq rfl]⟩
  · split at accepted
    · next code found =>
      cases accepted
      have listed : ∀ entry ∈ windowsTable,
          windowsBytes? (Char.ofNat entry.2) = some [entry.1.toUInt8] := by decide +kernel
      obtain ⟨front, back, split, -⟩ := List.lookup_eq_some_iff.1 found
      have form := listed (b.toNat, code) (by rw [split]; simp)
      exact ⟨[], rest, rfl, rfl, by rw [form, toUInt8_eq rfl]⟩
    · cases accepted

theorem writes_utf32 (order : ByteOrder) :
    Writes (utf32Step order) fun c => some (utf32Bytes order c) := by
  intro a rest c more accepted
  unfold utf32Step at accepted
  split at accepted
  · next b c d rest =>
    dsimp only at accepted
    split at accepted
    · cases accepted
    next whole =>
    split at accepted
    · cases accepted
    next last =>
    cases accepted
    have code : (Char.ofNat (order.word a b c d)).toNat = order.word a b c d :=
      toNat_ofNat (by omega)
    refine ⟨[b, c, d], rest, rfl, rfl, congrArg some ?_⟩
    rw [utf32Bytes, code, ByteOrder.wordBytes_word]
  · cases accepted

theorem utf16Bytes_pair {order : ByteOrder} {high low : Nat}
    (isHigh : 0xD800 ≤ high ∧ high < 0xDC00) (isLow : 0xDC00 ≤ low ∧ low < 0xE000) :
    utf16Bytes order (Char.ofNat (0x10000 + (high - 0xD800) * 1024 + (low - 0xDC00))) =
      order.unitBytes high ++ order.unitBytes low := by
  generalize code : 0x10000 + (high - 0xD800) * 1024 + (low - 0xDC00) = n
  have number : (Char.ofNat n).toNat = n := toNat_ofNat (by omega)
  have first : 0xD800 + (n - 0x10000) / 1024 = high := by omega
  have second : 0xDC00 + (n - 0x10000) % 1024 = low := by omega
  rw [utf16Bytes, number, if_neg (by omega), first, second]

theorem writes_utf16 (order : ByteOrder) :
    Writes (utf16Step order) fun c => some (utf16Bytes order c) := by
  intro a rest c more accepted
  unfold utf16Step at accepted
  split at accepted
  · cases accepted
  next b rest =>
  have small := order.unit_lt a b
  split at accepted
  · cases accepted
  next notLow =>
  split at accepted
  · next high =>
    unfold utf16Pair at accepted
    split at accepted
    · next d e rest =>
      split at accepted
      · next low =>
        obtain ⟨rfl, rfl⟩ := DecodeStep.accepted.inj accepted
        simp only [isHighSurrogate, isLowSurrogate, Bool.and_eq_true, decide_eq_true_eq]
          at high low
        refine ⟨[b, d, e], rest, rfl, rfl, congrArg some ?_⟩
        rw [utf16Bytes_pair high low, ByteOrder.unitBytes_unit, ByteOrder.unitBytes_unit]
        rfl
      · cases accepted
    · cases accepted
  · next notHigh =>
    cases accepted
    simp only [isHighSurrogate, isLowSurrogate, Bool.and_eq_true, decide_eq_true_eq]
      at notLow notHigh
    have code : (Char.ofNat (order.unit a b)).toNat = order.unit a b := toNat_ofNat (by omega)
    refine ⟨[b], rest, rfl, rfl, congrArg some ?_⟩
    rw [utf16Bytes, code, if_pos small, ByteOrder.unitBytes_unit]

section Utf8

variable {a b c d : UInt8} {rest : List UInt8}

theorem isContinuation_iff : isContinuation b = true ↔ b.toNat / 64 = 2 := by
  rw [isContinuation, decide_eq_true_eq]

theorem utf8Bytes_two (low : 0xC2 ≤ a.toNat) (high : a.toNat < 0xE0)
    (second : isContinuation b = true) :
    utf8Bytes (Char.ofNat (a.toNat % 32 * 64 + lowBits b)) = [a, b] := by
  rw [isContinuation_iff] at second
  generalize code : a.toNat % 32 * 64 + lowBits b = n
  rw [lowBits] at code
  have number : (Char.ofNat n).toNat = n := toNat_ofNat (by omega)
  rw [utf8Bytes, number, utf8Form, if_neg (by omega), if_pos (by omega),
    toUInt8_eq (b := a) (by omega), toUInt8_eq (b := b) (by omega)]

theorem utf8Bytes_three (low : 0xE0 ≤ a.toNat) (high : a.toNat < 0xF0)
    (second : isSecond a b = true) (third : isContinuation c = true) :
    utf8Bytes (Char.ofNat ((a.toNat % 16 * 64 + lowBits b) * 64 + lowBits c)) = [a, b, c] := by
  obtain ⟨second, short, surrogate, -, -⟩ := isSecond_iff.1 second
  rw [isContinuation_iff] at second third
  generalize code : (a.toNat % 16 * 64 + lowBits b) * 64 + lowBits c = n
  rw [lowBits, lowBits] at code
  have number : (Char.ofNat n).toNat = n := toNat_ofNat (by omega)
  rw [utf8Bytes, number, utf8Form, if_neg (by omega), if_neg (by omega), if_pos (by omega),
    toUInt8_eq (b := a) (by omega), toUInt8_eq (b := b) (by omega),
    toUInt8_eq (b := c) (by omega)]

theorem utf8Bytes_four (low : 0xF0 ≤ a.toNat) (high : a.toNat < 0xF5)
    (second : isSecond a b = true) (third : isContinuation c = true)
    (fourth : isContinuation d = true) :
    utf8Bytes (Char.ofNat
        (((a.toNat % 8 * 64 + lowBits b) * 64 + lowBits c) * 64 + lowBits d)) = [a, b, c, d] := by
  obtain ⟨second, -, -, short, last⟩ := isSecond_iff.1 second
  rw [isContinuation_iff] at second third fourth
  generalize code : ((a.toNat % 8 * 64 + lowBits b) * 64 + lowBits c) * 64 + lowBits d = n
  rw [lowBits, lowBits, lowBits] at code
  have number : (Char.ofNat n).toNat = n := toNat_ofNat (by omega)
  rw [utf8Bytes, number, utf8Form, if_neg (by omega), if_neg (by omega), if_neg (by omega),
    toUInt8_eq (b := a) (by omega), toUInt8_eq (b := b) (by omega),
    toUInt8_eq (b := c) (by omega), toUInt8_eq (b := d) (by omega)]

/-- A first byte is read with those behind it as the character whose form they are, or else it is
rejected with bytes that could not begin a character either. -/
def Settled (b : UInt8) (rest : List UInt8) : DecodeStep → Prop
  | .accepted c more => IsForm (fun c => some (utf8Bytes c)) b rest c more
  | .rejected _ more => ∀ x ∈ rest.take more, isContinuation x = true

theorem settled_utf8Two (low : 0xC2 ≤ a.toNat) (high : a.toNat < 0xE0) :
    Settled a rest (utf8Two a rest) := by
  unfold utf8Two
  split
  · exact List.forall_mem_nil _
  next b rest =>
  split
  · next second => exact ⟨[b], rest, rfl, rfl, congrArg some (utf8Bytes_two low high second)⟩
  · exact List.forall_mem_nil _

theorem settled_utf8Three (low : 0xE0 ≤ a.toNat) (high : a.toNat < 0xF0) :
    Settled a rest (utf8Three a rest) := by
  unfold utf8Three
  split
  · exact List.forall_mem_nil _
  next b rest =>
  split
  · exact List.forall_mem_nil _
  next second =>
  rw [Bool.not_eq_true', Bool.not_eq_false] at second
  have one : ∀ x ∈ [b], isContinuation x = true :=
    List.forall_mem_singleton.2 (isSecond_iff.1 second).1
  split
  · exact one
  next c rest =>
  split
  · next third =>
    exact ⟨[b, c], rest, rfl, rfl, congrArg some (utf8Bytes_three low high second third)⟩
  · exact one

theorem settled_utf8Four (low : 0xF0 ≤ a.toNat) (high : a.toNat < 0xF5) :
    Settled a rest (utf8Four a rest) := by
  unfold utf8Four
  split
  · exact List.forall_mem_nil _
  next b rest =>
  split
  · exact List.forall_mem_nil _
  next second =>
  rw [Bool.not_eq_true', Bool.not_eq_false] at second
  have one : ∀ x ∈ [b], isContinuation x = true :=
    List.forall_mem_singleton.2 (isSecond_iff.1 second).1
  split
  · exact one
  next c rest =>
  split
  · exact one
  next third =>
  rw [Bool.not_eq_true', Bool.not_eq_false] at third
  have two : ∀ x ∈ [b, c], isContinuation x = true :=
    List.forall_mem_append.2 ⟨one, List.forall_mem_singleton.2 third⟩
  split
  · exact two
  next d rest =>
  split
  · next fourth =>
    exact ⟨[b, c, d], rest, rfl, rfl,
      congrArg some (utf8Bytes_four low high second third fourth)⟩
  · exact two

theorem settled_utf8 (a : UInt8) (rest : List UInt8) : Settled a rest (utf8Step a rest) := by
  unfold utf8Step
  split
  · next small =>
    have number : (Char.ofNat a.toNat).toNat = a.toNat := toNat_ofNat (by omega)
    refine ⟨[], rest, rfl, rfl, congrArg some ?_⟩
    rw [utf8Bytes, number, utf8Form, if_pos small, toUInt8_eq rfl]
  split
  · exact List.forall_mem_nil _
  next two =>
  split
  · next high => exact settled_utf8Two (Nat.le_of_not_lt two) high
  next three =>
  split
  · next high => exact settled_utf8Three (Nat.le_of_not_lt three) high
  next four =>
  split
  · next high => exact settled_utf8Four (Nat.le_of_not_lt four) high
  · exact List.forall_mem_nil _

theorem writes_utf8 : Writes utf8Step fun c => some (utf8Bytes c) := by
  intro a rest c more accepted
  have settled := settled_utf8 a rest
  rwa [accepted] at settled

end Utf8

theorem writes (e : Encoding) : Writes e.step e.bytes? := by
  cases e with
  | ascii => exact writes_ascii
  | latin1 => exact writes_latin1
  | windows1252 => exact writes_windows
  | utf8 => exact writes_utf8
  | utf16 order => exact writes_utf16 order
  | utf32 order => exact writes_utf32 order

end Encoding

end TemplateCompiler
