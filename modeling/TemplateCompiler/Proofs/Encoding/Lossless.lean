import TemplateCompiler.Encoding.Source
import TemplateCompiler.Proofs.Encoding.Accepted

/-! Reading without a mark never fails and loses no byte. The bytes are tiled by the forms of the
characters of the text and by units that no character's form begins with, each byte of which is in
the text as the character with its value. -/

namespace TemplateCompiler

namespace Encoding

def unit : Encoding → Nat
  | .utf16 _ => 2
  | .utf32 _ => 4
  | _ => 1

def Formless (e : Encoding) (bytes : List UInt8) : Prop :=
  ∀ c form, e.bytes? c = some form → ¬ form <+: bytes

/-- The text that bytes stand for, slice by slice: the form of a character for the character, and a
unit that is rejected, or what is left of one at the end, for as many characters as it has bytes. -/
inductive Tiles (e : Encoding) : List UInt8 → Text → Prop
  | nil : Tiles e [] []
  | form {c : Char} {form rest : List UInt8} {t : Text} (written : e.bytes? c = some form)
      (others : Tiles e rest t) : Tiles e (form ++ rest) (c :: t)
  | rejected {bytes : List UInt8} {t : Text} (some : bytes ≠ []) (formless : Formless e bytes)
      (others : Tiles e (bytes.drop e.unit) t) :
      Tiles e bytes ((bytes.take e.unit).map Decoder.byteChar ++ t)

section Units

variable {b : UInt8} {rest : List UInt8} {reason : DecodeReason} {more : Nat}

theorem lenient_form {e : Encoding} {c : Char} {form : List UInt8}
    (written : e.bytes? c = some form) (rest : List UInt8) :
    Decoder.lenient e.step (form ++ rest) = c :: Decoder.lenient e.step rest := by
  obtain ⟨b, tail, rfl, step⟩ := reads e written rest
  rw [List.cons_append, Decoder.lenient, step]
  simp only [List.drop_left]

theorem lenient_of_rejected {step : Decoder} (rejected : step b rest = .rejected reason more) :
    Decoder.lenient step (b :: rest) =
      Decoder.byteChar b :: (rest.take more).map Decoder.byteChar ++
        Decoder.lenient step (rest.drop more) := by
  rw [Decoder.lenient, rejected]

/-- Bytes that are rejected together are read as if they were rejected unit by unit. -/
def ByUnits (step : Decoder) (unit : Nat) : Prop :=
  ∀ b rest reason more, step b rest = .rejected reason more →
    Decoder.lenient step (b :: rest) =
      ((b :: rest).take unit).map Decoder.byteChar ++
        Decoder.lenient step ((b :: rest).drop unit)

theorem byUnits_of_single {step : Decoder} (single : ∀ b rest reason more,
    step b rest = .rejected reason more → more = 0) : ByUnits step 1 := by
  intro b rest reason more rejected
  obtain rfl := single b rest reason more rejected
  rw [lenient_of_rejected rejected]
  rfl

theorem byUnits_ascii : ByUnits asciiStep 1 := by
  refine byUnits_of_single fun b rest reason more rejected => ?_
  unfold asciiStep at rejected
  split at rejected <;> cases rejected
  rfl

theorem single_windows (rejected : windowsStep b rest = .rejected reason more) : more = 0 := by
  unfold windowsStep at rejected
  split at rejected
  · cases rejected
  · split at rejected <;> cases rejected
    rfl

theorem byUnits_windows : ByUnits windowsStep 1 :=
  byUnits_of_single fun _ _ _ _ => single_windows

theorem byUnits_latin1 : ByUnits latin1Step 1 := by
  intro b rest reason more rejected
  cases rejected

theorem byUnits_utf32 (order : ByteOrder) : ByUnits (utf32Step order) 4 := by
  intro b rest reason more rejected
  rw [lenient_of_rejected rejected]
  unfold utf32Step at rejected
  split at rejected
  · dsimp only at rejected
    split at rejected
    · cases rejected
      rfl
    · split at rejected <;> cases rejected
      rfl
  · next short =>
    cases rejected
    obtain _ | ⟨b, _ | ⟨c, _ | ⟨d, rest⟩⟩⟩ := rest
    · rfl
    · rfl
    · rfl
    · exact absurd rfl (short b c d rest)

theorem byUnits_utf16 (order : ByteOrder) : ByUnits (utf16Step order) 2 := by
  intro b rest reason more rejected
  rw [lenient_of_rejected rejected]
  unfold utf16Step at rejected
  split at rejected
  · cases rejected
    rfl
  next c rest =>
  split at rejected
  · cases rejected
    rfl
  split at rejected
  · unfold utf16Pair at rejected
    split at rejected
    · split at rejected <;> cases rejected
      rfl
    · next short =>
      cases rejected
      obtain _ | ⟨d, _ | ⟨e, rest⟩⟩ := rest
      · rfl
      · have cut : utf16Step order d [] = .rejected .truncated 0 := rfl
        have last : Decoder.lenient (utf16Step order) [d] =
            [Decoder.byteChar d] ++ Decoder.lenient (utf16Step order) [] :=
          lenient_of_rejected cut
        exact congrArg ([Decoder.byteChar b, Decoder.byteChar c] ++ ·) last.symm
      · exact absurd rfl (short d e rest)
  · cases rejected

theorem lenient_continuations {tail : List UInt8} (each : ∀ x ∈ tail, isContinuation x = true)
    (rest : List UInt8) :
    Decoder.lenient utf8Step (tail ++ rest) =
      tail.map Decoder.byteChar ++ Decoder.lenient utf8Step rest := by
  induction tail with
  | nil => rfl
  | cons b tail ih =>
    obtain ⟨first, others⟩ := List.forall_mem_cons.1 each
    have rejected : utf8Step b (tail ++ rest) = .rejected .invalidStart 0 := by
      rw [isContinuation_iff] at first
      rw [utf8Step, if_neg (by omega), if_pos (by omega)]
    rw [List.cons_append, lenient_of_rejected rejected, List.drop_zero, ih others]
    rfl

theorem byUnits_utf8 : ByUnits utf8Step 1 := by
  intro b rest reason more rejected
  have settled := settled_utf8 b rest
  rw [rejected] at settled
  have others := lenient_continuations settled (rest.drop more)
  rw [List.take_append_drop] at others
  rw [lenient_of_rejected rejected]
  change _ = Decoder.byteChar b :: Decoder.lenient utf8Step rest
  rw [others]
  rfl

theorem byUnits (e : Encoding) : ByUnits e.step e.unit := by
  cases e with
  | ascii => exact byUnits_ascii
  | latin1 => exact byUnits_latin1
  | windows1252 => exact byUnits_windows
  | utf8 => exact byUnits_utf8
  | utf16 order => exact byUnits_utf16 order
  | utf32 order => exact byUnits_utf32 order

end Units

theorem lenient_rejected {e : Encoding} {bytes : List UInt8} (some : bytes ≠ [])
    (formless : Formless e bytes) :
    Decoder.lenient e.step bytes =
      (bytes.take e.unit).map Decoder.byteChar ++
        Decoder.lenient e.step (bytes.drop e.unit) := by
  obtain ⟨b, rest, rfl⟩ := List.exists_cons_of_ne_nil some
  cases step : e.step b rest with
  | accepted c more =>
    obtain ⟨tail, others, rfl, -, written⟩ := writes e step
    exact absurd (List.prefix_append (b :: tail) others) (formless c _ written)
  | rejected reason more => exact byUnits e b rest reason more step

theorem unit_pos (e : Encoding) : 0 < e.unit := by
  cases e <;> exact Nat.succ_pos _

theorem exists_tiles (e : Encoding) (bytes : List UInt8) : ∃ t, Tiles e bytes t := by
  by_cases empty : bytes = []
  · exact ⟨[], empty ▸ .nil⟩
  by_cases begins : ∃ c form, e.bytes? c = some form ∧ form <+: bytes
  · obtain ⟨c, form, written, rest, split⟩ := begins
    have shorter : rest.length < bytes.length := by
      obtain ⟨b, tail, rfl, -⟩ := reads e written rest
      rw [← split, List.length_append, List.length_cons]
      omega
    obtain ⟨t, others⟩ := exists_tiles e rest
    exact ⟨c :: t, split ▸ Tiles.form written others⟩
  · have formless : Formless e bytes := fun c form written starts =>
      begins ⟨c, form, written, starts⟩
    have shorter : (bytes.drop e.unit).length < bytes.length := by
      have some := List.length_pos_iff.2 empty
      have one := e.unit_pos
      rw [List.length_drop]
      omega
    obtain ⟨t, others⟩ := exists_tiles e (bytes.drop e.unit)
    exact ⟨_, .rejected empty formless others⟩
termination_by bytes.length
decreasing_by all_goals exact shorter

theorem tiles_iff {e : Encoding} {bytes : List UInt8} {t : Text} :
    Tiles e bytes t ↔ t = e.decodeLenient bytes := by
  have unique {t : Text} (tiles : Tiles e bytes t) : t = e.decodeLenient bytes := by
    induction tiles with
    | nil => rw [decodeLenient, Decoder.lenient]
    | form written _ ih => rw [decodeLenient, lenient_form written, ih]; rfl
    | rejected some formless _ ih => rw [decodeLenient, lenient_rejected some formless, ih]; rfl
  refine ⟨unique, ?_⟩
  rintro rfl
  obtain ⟨t, tiles⟩ := exists_tiles e bytes
  exact unique tiles ▸ tiles

section Windows

/-- The character of a byte in code page 1252; one without a character is its own. -/
def windowsChar (b : UInt8) : Char :=
  match windowsStep b [] with
  | .accepted c _ => c
  | .rejected .. => Decoder.byteChar b

def windowsByte (c : Char) : UInt8 :=
  match windowsBytes? c with
  | some [b] => b
  | _ => c.toNat.toUInt8

theorem windowsByte_windowsChar : Function.LeftInverse windowsByte windowsChar := by
  intro b
  have all : ∀ n < 256, windowsByte (windowsChar (UInt8.ofNat n)) = UInt8.ofNat n := by
    decide +kernel
  have same := all b.toNat b.toNat_lt
  rwa [UInt8.ofNat_toNat] at same

theorem decodeLenient_windows (bytes : List UInt8) :
    Encoding.windows1252.decodeLenient bytes = bytes.map windowsChar := by
  induction bytes with
  | nil => rw [decodeLenient, Decoder.lenient]; rfl
  | cons b rest ih =>
    have alone : windows1252.step b rest = windowsStep b [] := rfl
    rw [decodeLenient] at ih ⊢
    rw [Decoder.lenient, alone, List.map_cons, ← ih, windowsChar]
    cases step : windowsStep b [] with
    | accepted c more =>
      obtain ⟨tail, others, nothing, rfl, -⟩ := writes_windows step
      rw [(List.append_eq_nil_iff.1 nothing.symm).1]
      rfl
    | rejected reason more =>
      rw [single_windows step]
      rfl

end Windows

/-- Bytes without a mark are read whatever they are, and only as the text that they stand for slice
by slice. In code page 1252 each byte is a character, and no other bytes are the same text. -/
theorem decodeSource_tiles {codecs : Codecs} {name : Text} {e : Encoding}
    (known : find codecs name .unknownCodec = .ok (.known e)) {bytes : List UInt8}
    (unmarked : ∀ mark ∈ marks, ¬ mark.bytes <+: bytes) :
    ∃ t, decodeSource codecs name bytes = .ok t ∧ (∀ s, Tiles e bytes s ↔ s = t) ∧
      (e = .windows1252 → t.length = bytes.length ∧
        ∀ others, (∀ mark ∈ marks, ¬ mark.bytes <+: others) →
          decodeSource codecs name others = .ok t → others = bytes) := by
  have read {bytes : List UInt8} (unmarked : ∀ mark ∈ marks, ¬ mark.bytes <+: bytes) :
      decodeSource codecs name bytes = .ok (e.decodeLenient bytes) := by
    have none : markOf? bytes = none := by
      simpa [markOf?, List.find?_eq_none] using unmarked
    rw [decodeSource, none, known]
    cases bytes with
    | nil => rw [decodeLenient, Decoder.lenient]; rfl
    | cons b rest => rfl
  refine ⟨e.decodeLenient bytes, read unmarked, fun s => tiles_iff, ?_⟩
  rintro rfl
  refine ⟨by rw [decodeLenient_windows, List.length_map], fun others plain same => ?_⟩
  rw [read plain, Except.ok.injEq, decodeLenient_windows, decodeLenient_windows] at same
  have injective : Function.Injective windowsChar := windowsByte_windowsChar.injective
  exact (List.map_inj_right fun _ _ => @injective _ _).1 same

/-- Code page 1252 has no character for `0x81`, and ASCII none for any byte from `0x80` on. -/
theorem decodeSource_tiles_undefined :
    ∃ t, decodeSource noCodecs "windows-1252".toList [0x81, 0x80, 0x41] = .ok t ∧
      (∀ s, Tiles .windows1252 [0x81, 0x80, 0x41] s ↔ s = t) ∧
      (Encoding.windows1252 = .windows1252 → t.length = 3 ∧
        ∀ others, (∀ mark ∈ marks, ¬ mark.bytes <+: others) →
          decodeSource noCodecs "windows-1252".toList others = .ok t → others = [0x81, 0x80, 0x41]) :=
  decodeSource_tiles rfl (by decide +kernel)

example : ∀ entry ∈ names, named? entry.1 = some entry.2 := by
  decide +kernel

example : decodeSource noCodecs "utf-8".toList [0xE2, 0x82, 0x41] = .ok ['\xE2', '\x82', 'A'] := by
  cbv

end Encoding

end TemplateCompiler
