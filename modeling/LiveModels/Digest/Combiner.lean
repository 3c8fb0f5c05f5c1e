import LiveModels.Digest.Sha256
import LiveModels.Text.Number

/-!
# Combining hashes

A running hash of 32 bits over a sequence of integers and texts. A token is folded into the hash
`h` as `33 * h` combined with the value of the token by exclusive or, so every step is a bijection
of the hash.
-/

namespace LiveModels

/-- What a hash is taken over. -/
inductive Token
  /-- An integer of 32 bits. -/
  | int (value : Int)
  | text (value : String)
  deriving DecidableEq, Repr

/-- The word that stands for a token: an integer modulo `2 ^ 32`, and of a text the first word of
its digest. -/
def Token.word : Token → UInt32
  | .int n => UInt32.ofInt n
  | .text s => Sha256.firstWord s

namespace Combiner

/-- The hash of no token. -/
def seed : UInt32 := 5381

/-- The hash after one more word. -/
def fold (hash word : UInt32) : UInt32 :=
  ((hash <<< 5) + hash) ^^^ word

/-- The hash after one more token. -/
def add (hash : UInt32) (token : Token) : UInt32 :=
  fold hash token.word

/-- The hash of a sequence of tokens. -/
def run (tokens : List Token) : UInt32 :=
  tokens.foldl add seed

/-- The text of a hash: eight hexadecimal digits. -/
def text (hash : UInt32) : String :=
  String.ofList (Text.hexFixed 8 hash.toNat)

end Combiner

end LiveModels
