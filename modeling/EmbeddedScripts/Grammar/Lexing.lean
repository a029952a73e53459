import EmbeddedScripts.Grammar.Pattern
import EmbeddedScripts.Text.Mark

/-!
# Reading one token

`longest` reads the next token at a cursor, out of the tokens that a parser can use there. Characters
that separate tokens are passed over first, except before a token that must follow at once. The
longest match wins, unless a shorter one has the higher precedence; among matches of the same text
the precedence decides, then the rank (a fixed spelling before a pattern), then the smaller index.
-/

namespace EmbeddedScripts.Grammar

/-- How one token is spelt. -/
structure TokenRule where
  pattern : Pattern
  /-- Whether no separator may stand before the token. -/
  immediate : Bool := false
  precedence : Int := 0
  /-- Decides between two tokens of equal precedence that match the same text. -/
  rank : Nat := 0
deriving Inhabited

/-- A token that was read: which one, from where, up to where. -/
structure Found where
  token : Nat
  start : Cursor
  stop : Cursor
deriving Inhabited

namespace Lexing

/-- A token that may still match: what its rule has left to match. -/
structure Thread where
  token : Nat
  rule : TokenRule
  left : Pattern
deriving Inhabited

/-- The token at its beginning. -/
def Thread.ofRule (token : Nat) (rule : TokenRule) : Thread := ⟨token, rule, rule.pattern⟩

/-- Whether `t` is preferred to `u` when both match the same text. -/
def Thread.beats (t u : Thread) : Bool :=
  if t.rule.precedence = u.rule.precedence then
    if t.rule.rank = u.rule.rank then t.token < u.token else u.rule.rank < t.rule.rank
  else u.rule.precedence < t.rule.precedence

/-- The preferred one of the threads that match the text read so far. -/
def complete (live : List Thread) : Option Thread :=
  live.foldl (fun best t =>
    if t.left.nullable then
      match best with
      | none => some t
      | some b => if t.beats b then some t else best
    else best) none

/-- The threads that can go on with the character `c`. -/
def advance (c : Char) (live : List Thread) : List Thread :=
  live.filterMap fun t =>
    let left := t.left.derive c
    if left.isFail then none else some { t with left := left }

/-- Whether reading goes on after the match `done`, when the threads `next` can go on with the next
character and `separates` says that it separates tokens. `inGap` says that separators may still be
passed over. -/
def goesOn (done : Option Thread) (next : List Thread) (inGap separates : Bool) : Bool :=
  match done with
  | none => true
  | some t =>
    let precedences := (if separates then [0] else []) ++ next.map (·.rule.precedence)
    if precedences.any (t.rule.precedence < ·) then true
    else if precedences.contains t.rule.precedence then
      !next.isEmpty && (!inGap || next.any (·.token == t.token))
    else false

/-- What a scan needs to know throughout. -/
structure Scan where
  /-- The characters that separate tokens. -/
  separator : Char → Bool
  /-- The tokens that may follow separators, at their beginning. -/
  fresh : List Thread
  /-- The token for the end of the text, where it is of use. -/
  endToken : Option Nat

/-- Reads on over `rest`: `live` are the tokens begun, `inGap` says that only separators were passed
for the tokens of `fresh`, `atStart` that nothing else was read at all, and `found` is the longest
match so far. -/
def Scan.run (s : Scan) : (live : List Thread) → (inGap atStart : Bool) → (start : Cursor) →
    (mark : Mark) → (found : Option Found) → (rest : List Char) → Option Found
  | live, _, atStart, start, mark, found, [] =>
    match s.endToken, atStart with
    | some t, true => some ⟨t, ⟨mark, []⟩, ⟨mark, []⟩⟩
    | _, _ =>
      match complete live with
      | some t => some ⟨t.token, start, ⟨mark, []⟩⟩
      | none => found
  | live, inGap, atStart, start, mark, found, c :: rest =>
    let done := complete live
    let found := match done with
      | some t => some ⟨t.token, start, ⟨mark, c :: rest⟩⟩
      | none => found
    let next := advance c live ++ (if inGap then advance c s.fresh else [])
    let separates := inGap && s.separator c
    if next.isEmpty && !separates then found
    else if !goesOn done next inGap separates then found
    else
      let mark := mark.advance c
      if next.isEmpty then s.run [] true atStart ⟨mark, rest⟩ mark found rest
      else s.run next separates false start mark found rest

end Lexing

/-- The next token at `here`, among `rules`, given with their indices. -/
def longest (separator : Char → Bool) (rules : List (Nat × TokenRule)) (endToken : Option Nat)
    (here : Cursor) : Option Found :=
  let threads := rules.map fun (t, r) => Lexing.Thread.ofRule t r
  let scan : Lexing.Scan :=
    { separator, endToken, fresh := threads.filter (!·.rule.immediate) }
  scan.run (threads.filter (·.rule.immediate)) true true here here.mark none here.rest

end EmbeddedScripts.Grammar
