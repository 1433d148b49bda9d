import Hostlink.Bytes

/-!
# UTF-8

`scan` reads octets one by one and answers, in order, a character for each well-formed sequence
and `none` for each maximal run of octets that began a character and could not finish it. The
strict reading refuses a `none`, the lenient one replaces it.
-/

namespace Hostlink.Utf8

/-- The octets of a text. -/
def encode (s : String) : Bytes := s.toList.flatMap String.utf8EncodeChar

/-- What is owed of the character in progress: how many octets, the bounds of the next one, and
the value of the bits read so far. -/
inductive Pending where
  /-- Between characters. -/
  | idle
  /-- Inside a character. -/
  | owing (count low high value : Nat)
  deriving DecidableEq, Repr

/-- What an octet means between characters: what is read at once, and what is then pending. -/
def start (b : Nat) : List (Option Char) × Pending :=
  if b < 0x80 then ([some (Char.ofNat b)], .idle)
  else if 0xC2 ≤ b ∧ b ≤ 0xDF then ([], .owing 1 0x80 0xBF (b - 0xC0))
  else if b = 0xE0 then ([], .owing 2 0xA0 0xBF 0)
  else if b = 0xED then ([], .owing 2 0x80 0x9F 0xD)
  else if 0xE1 ≤ b ∧ b ≤ 0xEF then ([], .owing 2 0x80 0xBF (b - 0xE0))
  else if b = 0xF0 then ([], .owing 3 0x90 0xBF 0)
  else if 0xF1 ≤ b ∧ b ≤ 0xF3 then ([], .owing 3 0x80 0xBF (b - 0xF0))
  else if b = 0xF4 then ([], .owing 3 0x80 0x8F 4)
  else ([none], .idle)

/-- One octet: an octet that the character in progress cannot take ends it and starts afresh. -/
def Pending.push (b : Nat) : Pending → List (Option Char) × Pending
  | .idle => start b
  | .owing count low high value =>
    if low ≤ b ∧ b ≤ high then
      let value := value * 64 + b % 64
      if count ≤ 1 then ([some (Char.ofNat value)], .idle)
      else ([], .owing (count - 1) 0x80 0xBF value)
    else
      let (read, next) := start b
      (none :: read, next)

/-- Folds one octet into what was read so far, last item first. -/
def step (state : List (Option Char) × Pending) (b : UInt8) : List (Option Char) × Pending :=
  let (read, next) := state.2.push b.toNat
  (read.reverse ++ state.1, next)

/-- The characters of an octet string; `none` stands for a run that is no character. -/
def scan (bytes : Bytes) : List (Option Char) :=
  match bytes.foldl step ([], .idle) with
  | (read, .idle) => read.reverse
  | (read, .owing ..) => (none :: read).reverse

/-- The text of well-formed octets, and nothing for any others. -/
def decode? (bytes : Bytes) : Option String :=
  ((scan bytes).mapM id).map String.ofList

/-- The text of any octets: each run that is no character becomes U+FFFD. -/
def decodeLossy (bytes : Bytes) : String :=
  String.ofList ((scan bytes).map (·.getD '\uFFFD'))

end Hostlink.Utf8
