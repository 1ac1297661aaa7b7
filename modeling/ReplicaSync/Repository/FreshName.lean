import ReplicaSync.Repository.Basic
import ReplicaSync.Text.Quoted

/-!
# Fresh names

A signature that is to stay apart from all others gets a fresh name: the name of the file, a
random identifier and the ending `sig`, with points between them. The identifier has 32
hexadecimal digits in groups of 8, 4, 4, 4 and 12. Of its 128 bits, 122 are drawn at random. The
other six say that it is a random one: the third group begins with the digit 4, and the fourth
with one of 8, 9, a and b.
-/

set_option autoImplicit false

namespace ReplicaSync

namespace FreshName

/-- The lowest digits of a number, so many of them, most significant first, in front of other
characters. -/
def digitsOnto : (count value : Nat) → List Char → List Char
  | 0, _, rest => rest
  | count + 1, value, rest => digitsOnto count (value / 16) (Text.hexDigit (value % 16) :: rest)

/-- The identifier made of the given random bits. -/
def identifier (random : Nat) : List Char :=
  let low := random % Nat.pow 2 62
  let middle := random / Nat.pow 2 62 % Nat.pow 2 12
  let high := random / Nat.pow 2 74 % Nat.pow 2 48
  digitsOnto 8 (high / Nat.pow 2 16) <| '-' :: digitsOnto 4 (high % Nat.pow 2 16) ('-' :: '4' ::
    digitsOnto 3 middle ('-' :: digitsOnto 4 (0x8000 + low / Nat.pow 2 48) ('-' ::
      digitsOnto 12 (low % Nat.pow 2 48) [])))

/-- The fresh name for a file made of the given random bits. -/
def make (file : String) (random : Nat) : String :=
  file ++ "." ++ String.ofList (identifier random) ++ ".sig"

/-- Whether a character is a digit of an identifier. -/
def isDigit (c : Char) : Bool :=
  ('0' ≤ c && c ≤ '9') || ('a' ≤ c && c ≤ 'f')

/-- Whether characters are an identifier of random bits. -/
def isIdentifier (characters : List Char) : Bool :=
  match characters.splitOn '-' with
  | [first, second, third, fourth, fifth] =>
      (first ++ second ++ third ++ fourth ++ fifth).all isDigit &&
        [first, second, third, fourth, fifth].map List.length == [8, 4, 4, 4, 12] &&
        third.head? == some '4' && ['8', '9', 'a', 'b'].any fun digit => fourth.head? == some digit
  | _ => false

/-- Whether a name is a fresh name for a file. -/
def isFor (file name : String) : Bool :=
  let opening := file.toList ++ ['.']
  let ending := ['.', 's', 'i', 'g']
  let characters := name.toList
  opening.isPrefixOf characters && ending.isSuffixOf characters &&
    isIdentifier ((characters.drop opening.length).take
      (characters.length - opening.length - ending.length))

end FreshName

namespace Chunker

variable {ρ : Type} [SignatureRepository ρ]

/-- Generates the signature of a stream and keeps it under a fresh name, which is part of the
answer. -/
def generateFresh (chunker : Chunker) (reads : List Read) (file : String) (random : Nat)
    (repository : ρ) : Except Fault (String × Signature) × ρ :=
  let name := FreshName.make file random
  match chunker.generateInto reads name repository with
  | (answer, after) => (answer.map fun signature => (name, signature), after)

end Chunker

end ReplicaSync
