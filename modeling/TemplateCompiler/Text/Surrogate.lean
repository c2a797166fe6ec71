import TemplateCompiler.Text.Basic

/-! Surrogates that stand alone. A text written with escapes may hold one half of a pair, which is
no character. A character of a range that no script uses stands for it, so that texts stay lists of
characters; only where a text leaves the program does the difference show. Texts that hold the
characters U+DF000 to U+DF7FF themselves are outside of what is described here: each of these is
taken for the surrogate that it stands for. -/

namespace TemplateCompiler.Text

def surrogateBase : Nat := 0xDF000

def isSurrogateCode (n : Nat) : Bool := 0xD800 ≤ n && n < 0xE000

/-- The character with a number below 0x110000, or what stands for a surrogate. The numbers 0xDF000 to
0xDF7FF are left out: their characters are those of the surrogates. -/
def charOfCode (n : Nat) : Char :=
  if isSurrogateCode n then Char.ofNat (surrogateBase + (n - 0xD800)) else Char.ofNat n

/-- The number of the surrogate that a character stands for, as each of U+DF000 to U+DF7FF does. -/
def surrogate? (c : Char) : Option Nat :=
  if surrogateBase ≤ c.toNat && c.toNat < surrogateBase + 0x800 then
    some (c.toNat - surrogateBase + 0xD800)
  else none

/-- Whether a text can be written in an encoding of characters: it has no lone surrogate, if U+DF000
to U+DF7FF stand for nothing else in it. -/
def isWhole (t : Text) : Bool := t.all fun c => (surrogate? c).isNone

def codeOf (c : Char) : Nat := (surrogate? c).getD c.toNat

def atMost : Text → Text → Bool
  | [], _ => true
  | _ :: _, [] => false
  | c :: s, d :: t => codeOf c < codeOf d || (c = d && atMost s t)

end TemplateCompiler.Text
