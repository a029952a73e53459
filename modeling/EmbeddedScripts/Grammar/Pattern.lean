/-!
# Patterns

Regular patterns over characters, matched one character at a time: `derive p c` is what is left to
match of `p` after `c`, and `nullable p` says that nothing has to be left. No pattern matches the
character U+0000 through an exclusion (`noneOf`): in a text that character ends what can be read.
-/

namespace EmbeddedScripts.Grammar

/-- A regular pattern over characters. -/
inductive Pattern where
  /-- Matches nothing. -/
  | fail
  /-- Matches the empty text. -/
  | empty
  /-- Matches one character of a class. -/
  | one (holds : Char → Bool)
  | seq (p q : Pattern)
  | alt (p q : Pattern)
  /-- Matches any number of repetitions. -/
  | star (p : Pattern)
deriving Inhabited

namespace Pattern

/-- One pattern after another; `fail` and `empty` are absorbed. -/
def andThen : Pattern → Pattern → Pattern
  | fail, _ => fail
  | empty, q => q
  | p, q => seq p q

/-- Either of two patterns; `fail` is absorbed. -/
def orElse : Pattern → Pattern → Pattern
  | fail, q => q
  | p, fail => p
  | p, q => alt p q

/-- Whether the empty text matches. -/
def nullable : Pattern → Bool
  | fail => false
  | empty => true
  | one _ => false
  | seq p q => p.nullable && q.nullable
  | alt p q => p.nullable || q.nullable
  | star _ => true

/-- What is left to match after the character `c`. -/
def derive (c : Char) : Pattern → Pattern
  | fail => fail
  | empty => fail
  | one holds => if holds c then empty else fail
  | seq p q =>
    if p.nullable then ((p.derive c).andThen q).orElse (q.derive c) else (p.derive c).andThen q
  | alt p q => (p.derive c).orElse (q.derive c)
  | star p => (p.derive c).andThen (star p)

/-- Whether nothing can match any more. -/
def isFail : Pattern → Bool
  | fail => true
  | _ => false

/-! ## Building patterns -/

/-- All of `ps`, one after another. -/
def all (ps : List Pattern) : Pattern := ps.foldr andThen empty

/-- Any one of `ps`. -/
def any (ps : List Pattern) : Pattern := ps.foldr orElse fail

/-- The fixed text `s`. -/
def text (s : String) : Pattern := all (s.toList.map fun c => one (· == c))

def optional (p : Pattern) : Pattern := alt empty p

def many1 (p : Pattern) : Pattern := seq p (star p)

/-- Exactly `n` repetitions. -/
def times (n : Nat) (p : Pattern) : Pattern := all (List.replicate n p)

/-- From one to `n + 1` repetitions. -/
def upTo (p : Pattern) : Nat → Pattern
  | 0 => p
  | n + 1 => seq p (optional (upTo p n))

/-- One of the characters of `s`. -/
def oneOf (s : String) : Pattern := let cs := s.toList; one fun c => cs.contains c

/-- A character that is neither among those of `s` nor U+0000. -/
def noneOf (s : String) : Pattern := let cs := s.toList; one fun c => c != '\x00' && !cs.contains c

def digit : Pattern := one Char.isDigit

/-- A hexadecimal digit. -/
def hexDigit : Pattern :=
  one fun c => c.isDigit || ('a' ≤ c && c ≤ 'f') || ('A' ≤ c && c ≤ 'F')

def octalDigit : Pattern := one fun c => '0' ≤ c && c ≤ '7'

end Pattern

end EmbeddedScripts.Grammar
