import TemplateCompiler.Encoding.Basic

/-! Every encoding reads the bytes that it writes for a character as this character, whatever
follows them. -/

namespace TemplateCompiler

theorem toNat_toUInt8 {n : Nat} (small : n < 256) : n.toUInt8.toNat = n := by
  rw [Nat.toUInt8_eq, UInt8.toNat_ofNat', Nat.mod_eq_of_lt small]

namespace ByteOrder

theorem unitBytes_read (order : ByteOrder) {n : Nat} (small : n < 65536) :
    ∃ a b, order.unitBytes n = [a, b] ∧ order.unit a b = n := by
  have low : (n % 256).toUInt8.toNat = n % 256 := toNat_toUInt8 (by omega)
  have high : (n / 256).toUInt8.toNat = n / 256 := toNat_toUInt8 (by omega)
  cases order with
  | little => exact ⟨_, _, rfl, by rw [unit, low, high]; omega⟩
  | big => exact ⟨_, _, rfl, by rw [unit, low, high]; omega⟩

theorem wordBytes_read (order : ByteOrder) {n : Nat} (small : n < 4294967296) :
    ∃ a b c d, order.wordBytes n = [a, b, c, d] ∧ order.word a b c d = n := by
  obtain ⟨a, b, low, first⟩ := order.unitBytes_read (n := n % 65536) (by omega)
  obtain ⟨c, d, high, second⟩ := order.unitBytes_read (n := n / 65536) (by omega)
  cases order with
  | little =>
    refine ⟨a, b, c, d, by rw [wordBytes, low, high]; rfl, ?_⟩
    rw [word, first, second]
    omega
  | big =>
    refine ⟨c, d, a, b, by rw [wordBytes, low, high]; rfl, ?_⟩
    rw [word, first, second]
    omega

end ByteOrder

namespace Encoding

theorem code_cases (c : Char) :
    c.toNat < 0xD800 ∨ 0xE000 ≤ c.toNat ∧ c.toNat < 0x110000 := by
  rcases c.valid with low | ⟨high, last⟩
  · exact .inl low
  · exact .inr ⟨high, last⟩

/-- The first of the bytes is read, together with as many as there are behind it, as `c`. -/
def Reads (step : Decoder) (c : Char) (bytes : List UInt8) : Prop :=
  ∀ rest, ∃ b tail, bytes = b :: tail ∧ step b (tail ++ rest) = .accepted c tail.length

theorem reads_ascii {c : Char} {bytes : List UInt8} (form : asciiBytes? c = some bytes) :
    Reads asciiStep c bytes := by
  intro rest
  obtain ⟨small, same⟩ := Option.ite_none_right_eq_some.1 form
  cases same
  have code : c.toNat.toUInt8.toNat = c.toNat := toNat_toUInt8 (by omega)
  refine ⟨_, [], rfl, ?_⟩
  rw [asciiStep, code, if_pos small, Char.ofNat_toNat]
  rfl

theorem reads_latin1 {c : Char} {bytes : List UInt8} (form : latin1Bytes? c = some bytes) :
    Reads latin1Step c bytes := by
  intro rest
  obtain ⟨small, same⟩ := Option.ite_none_right_eq_some.1 form
  cases same
  have code : c.toNat.toUInt8.toNat = c.toNat := toNat_toUInt8 small
  refine ⟨_, [], rfl, ?_⟩
  rw [latin1Step, code, Char.ofNat_toNat]
  rfl

theorem reads_windows {c : Char} {bytes : List UInt8} (form : windowsBytes? c = some bytes) :
    Reads windowsStep c bytes := by
  intro rest
  unfold windowsBytes? at form
  split at form
  · next plain =>
    cases form
    have code : c.toNat.toUInt8.toNat = c.toNat := toNat_toUInt8 (by omega)
    refine ⟨_, [], rfl, ?_⟩
    rw [windowsStep, code, if_pos (by omega), Char.ofNat_toNat]
    rfl
  · obtain ⟨entry, found, rfl⟩ := Option.map_eq_some_iff.1 form
    have same : entry.2 = c.toNat := by simpa using List.find?_some found
    have listed : ∀ e ∈ windowsTable, 0x80 ≤ e.1 ∧ e.1 < 0xA0 ∧
        windowsTable.lookup e.1 = some e.2 := by decide +kernel
    obtain ⟨low, high, read⟩ := listed entry (List.mem_of_find?_eq_some found)
    have code : entry.1.toUInt8.toNat = entry.1 := toNat_toUInt8 (by omega)
    refine ⟨_, [], rfl, ?_⟩
    rw [windowsStep, code, if_neg (by omega), read]
    simp only [same, Char.ofNat_toNat]
    rfl

theorem reads_utf32 (order : ByteOrder) (c : Char) :
    Reads (utf32Step order) c (utf32Bytes order c) := by
  intro rest
  have code := code_cases c
  obtain ⟨a, b, d, e, bytes, word⟩ := order.wordBytes_read (n := c.toNat) (by omega)
  refine ⟨a, [b, d, e], bytes, ?_⟩
  have whole : ¬ (0xD800 ≤ c.toNat ∧ c.toNat < 0xE000) := by omega
  have last : ¬ 0x110000 ≤ c.toNat := by omega
  simp only [utf32Step, List.cons_append, List.nil_append, word, if_neg whole, if_neg last,
    Char.ofNat_toNat]
  rfl

theorem reads_utf16 (order : ByteOrder) (c : Char) :
    Reads (utf16Step order) c (utf16Bytes order c) := by
  intro rest
  have code := code_cases c
  unfold utf16Bytes
  split
  · next small =>
    obtain ⟨a, b, bytes, unit⟩ := order.unitBytes_read small
    refine ⟨a, [b], bytes, ?_⟩
    have low : isLowSurrogate c.toNat = false := by
      simp only [isLowSurrogate, Bool.and_eq_false_iff, decide_eq_false_iff_not]
      omega
    have high : isHighSurrogate c.toNat = false := by
      simp only [isHighSurrogate, Bool.and_eq_false_iff, decide_eq_false_iff_not]
      omega
    simp only [utf16Step, List.cons_append, List.nil_append, unit, low, high, Bool.false_eq_true,
      if_false, Char.ofNat_toNat]
    rfl
  · next large =>
    generalize upper : 0xD800 + (c.toNat - 0x10000) / 1024 = h
    generalize lower : 0xDC00 + (c.toNat - 0x10000) % 1024 = l
    obtain ⟨a, b, first, unitH⟩ := order.unitBytes_read (n := h) (by omega)
    obtain ⟨d, e, second, unitL⟩ := order.unitBytes_read (n := l) (by omega)
    refine ⟨a, [b, d, e], by rw [first, second]; rfl, ?_⟩
    have lowH : isLowSurrogate h = false := by
      simp only [isLowSurrogate, Bool.and_eq_false_iff, decide_eq_false_iff_not]
      omega
    have highH : isHighSurrogate h = true := by
      simp only [isHighSurrogate, Bool.and_eq_true, decide_eq_true_eq]
      omega
    have lowL : isLowSurrogate l = true := by
      simp only [isLowSurrogate, Bool.and_eq_true, decide_eq_true_eq]
      omega
    have joined : 0x10000 + (h - 0xD800) * 1024 + (l - 0xDC00) = c.toNat := by omega
    simp only [utf16Step, utf16Pair, List.cons_append, List.nil_append, unitH, unitL, lowH, highH,
      lowL, Bool.false_eq_true, if_false, if_true, joined, Char.ofNat_toNat]
    rfl

theorem isSecond_iff {a b : UInt8} : isSecond a b = true ↔ isContinuation b = true ∧
    (a.toNat = 0xE0 → 0xA0 ≤ b.toNat) ∧ (a.toNat = 0xED → b.toNat < 0xA0) ∧
    (a.toNat = 0xF0 → 0x90 ≤ b.toNat) ∧ (a.toNat = 0xF4 → b.toNat < 0x90) := by
  have code (n : UInt8) : a = n ↔ a.toNat = n.toNat := UInt8.toNat_inj.symm
  simp only [isSecond, code, Bool.and_eq_true, Bool.not_eq_true', Bool.and_eq_false_imp,
    decide_eq_true_eq, decide_eq_false_iff_not, Nat.not_lt, Nat.not_le, and_assoc]
  rfl

theorem isContinuation_of (n : Nat) : isContinuation (0x80 + n % 64).toUInt8 = true := by
  rw [isContinuation, toNat_toUInt8 (by omega), decide_eq_true_eq]
  omega

theorem lowBits_of (n : Nat) : lowBits (0x80 + n % 64).toUInt8 = n % 64 := by
  rw [lowBits, toNat_toUInt8 (by omega)]
  omega

theorem utf8Step_two {n : Nat} (low : 0x80 ≤ n) (high : n < 0x800) (rest : List UInt8) :
    utf8Step (0xC0 + n / 64).toUInt8 ((0x80 + n % 64).toUInt8 :: rest) =
      .accepted (Char.ofNat n) 1 := by
  have first : (0xC0 + n / 64).toUInt8.toNat = 0xC0 + n / 64 := toNat_toUInt8 (by omega)
  have joined : (0xC0 + n / 64) % 32 * 64 + n % 64 = n := by omega
  rw [utf8Step, first, if_neg (by omega), if_neg (by omega), if_pos (by omega)]
  simp only [utf8Two, isContinuation_of, lowBits_of, first, joined, if_true]

theorem utf8Step_three {n : Nat} (low : 0x800 ≤ n) (high : n < 0x10000)
    (whole : n < 0xD800 ∨ 0xE000 ≤ n) (rest : List UInt8) :
    utf8Step (0xE0 + n / 4096).toUInt8
        ((0x80 + n / 64 % 64).toUInt8 :: (0x80 + n % 64).toUInt8 :: rest) =
      .accepted (Char.ofNat n) 2 := by
  have first : (0xE0 + n / 4096).toUInt8.toNat = 0xE0 + n / 4096 := toNat_toUInt8 (by omega)
  have second : (0x80 + n / 64 % 64).toUInt8.toNat = 0x80 + n / 64 % 64 :=
    toNat_toUInt8 (by omega)
  have fits : isSecond (0xE0 + n / 4096).toUInt8 (0x80 + n / 64 % 64).toUInt8 = true := by
    rw [isSecond_iff, first, second]
    exact ⟨isContinuation_of _, by omega, by omega, by omega, by omega⟩
  have joined : ((0xE0 + n / 4096) % 16 * 64 + n / 64 % 64) * 64 + n % 64 = n := by omega
  rw [utf8Step, first, if_neg (by omega), if_neg (by omega), if_neg (by omega),
    if_pos (by omega)]
  simp only [utf8Three, fits, isContinuation_of, lowBits_of, first, joined, Bool.not_true,
    Bool.false_eq_true, if_false, if_true]

theorem utf8Step_four {n : Nat} (low : 0x10000 ≤ n) (high : n < 0x110000) (rest : List UInt8) :
    utf8Step (0xF0 + n / 262144).toUInt8
        ((0x80 + n / 4096 % 64).toUInt8 :: (0x80 + n / 64 % 64).toUInt8 ::
          (0x80 + n % 64).toUInt8 :: rest) =
      .accepted (Char.ofNat n) 3 := by
  have first : (0xF0 + n / 262144).toUInt8.toNat = 0xF0 + n / 262144 := toNat_toUInt8 (by omega)
  have second : (0x80 + n / 4096 % 64).toUInt8.toNat = 0x80 + n / 4096 % 64 :=
    toNat_toUInt8 (by omega)
  have fits : isSecond (0xF0 + n / 262144).toUInt8 (0x80 + n / 4096 % 64).toUInt8 = true := by
    rw [isSecond_iff, first, second]
    exact ⟨isContinuation_of _, by omega, by omega, by omega, by omega⟩
  have joined : (((0xF0 + n / 262144) % 8 * 64 + n / 4096 % 64) * 64 + n / 64 % 64) * 64 +
      n % 64 = n := by omega
  rw [utf8Step, first, if_neg (by omega), if_neg (by omega), if_neg (by omega),
    if_neg (by omega), if_pos (by omega)]
  simp only [utf8Four, fits, isContinuation_of, lowBits_of, first, joined, Bool.not_true,
    Bool.false_eq_true, if_false, if_true]

theorem reads_utf8 (c : Char) : Reads utf8Step c (utf8Bytes c) := by
  intro rest
  have code := code_cases c
  have char : Char.ofNat c.toNat = c := c.ofNat_toNat
  unfold utf8Bytes utf8Form
  by_cases one : c.toNat < 0x80
  · have first : c.toNat.toUInt8.toNat = c.toNat := toNat_toUInt8 (by omega)
    refine ⟨_, [], if_pos one, ?_⟩
    rw [utf8Step, first, if_pos one, char]
    rfl
  rw [if_neg one]
  by_cases two : c.toNat < 0x800
  · refine ⟨_, [_], if_pos two, ?_⟩
    have step := utf8Step_two (Nat.le_of_not_lt one) two rest
    rwa [char] at step
  rw [if_neg two]
  by_cases three : c.toNat < 0x10000
  · refine ⟨_, [_, _], if_pos three, ?_⟩
    have step := utf8Step_three (Nat.le_of_not_lt two) three (by omega) rest
    rwa [char] at step
  · refine ⟨_, [_, _, _], if_neg three, ?_⟩
    have step := utf8Step_four (Nat.le_of_not_lt three) (by omega) rest
    rwa [char] at step

theorem reads (e : Encoding) {c : Char} {bytes : List UInt8} (form : e.bytes? c = some bytes) :
    Reads e.step c bytes := by
  cases e with
  | ascii => exact reads_ascii form
  | latin1 => exact reads_latin1 form
  | windows1252 => exact reads_windows form
  | utf8 => exact Option.some.inj form ▸ reads_utf8 c
  | utf16 order => exact Option.some.inj form ▸ reads_utf16 order c
  | utf32 order => exact Option.some.inj form ▸ reads_utf32 order c

end Encoding

end TemplateCompiler
