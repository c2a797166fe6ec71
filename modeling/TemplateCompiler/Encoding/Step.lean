import TemplateCompiler.Failure

/-! Decoding goes one step at a time: a step takes a first byte and as many more as it needs. It
either accepts them as one character or rejects them. -/

namespace TemplateCompiler

/-- What the bytes at the start of the input are; `more` counts the bytes after the first. -/
inductive DecodeStep where
  | accepted (c : Char) (more : Nat)
  | rejected (reason : DecodeReason) (more : Nat)
deriving DecidableEq, Repr

abbrev Decoder := UInt8 → List UInt8 → DecodeStep

namespace Decoder

def byteChar (b : UInt8) : Char := Char.ofNat b.toNat

/-- Decodes all bytes; a rejected byte becomes the character with its value. -/
def lenient (step : Decoder) : List UInt8 → Text
  | [] => []
  | b :: rest =>
    match step b rest with
    | .accepted c more => c :: lenient step (rest.drop more)
    | .rejected _ more => byteChar b :: (rest.take more).map byteChar ++
        lenient step (rest.drop more)
termination_by bytes => bytes.length
decreasing_by all_goals simp only [List.length_drop, List.length_cons]; omega

def replacing (step : Decoder) : List UInt8 → Text
  | [] => []
  | b :: rest =>
    match step b rest with
    | .accepted c more => c :: replacing step (rest.drop more)
    | .rejected _ more => '\ufffd' :: replacing step (rest.drop more)
termination_by bytes => bytes.length
decreasing_by all_goals simp only [List.length_drop, List.length_cons]; omega

def strict (codec : Text) (step : Decoder) (position : Nat) :
    List UInt8 → Except Failure Text
  | [] => .ok []
  | b :: rest =>
    match step b rest with
    | .accepted c more =>
      (strict codec step (position + 1 + more) (rest.drop more)).map (c :: ·)
    | .rejected reason more =>
      .error (.undecodable codec position (b :: rest.take more) reason)
termination_by bytes => bytes.length
decreasing_by all_goals simp only [List.length_drop, List.length_cons]; omega

end Decoder

end TemplateCompiler
