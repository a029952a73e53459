/-!
# Sets of terminals

A set of terminals is a natural number whose bits are its members. `has` after the constructors is
given by `has_single`, `has_union` and `has_empty`.
-/

namespace EmbeddedScripts.Grammar

/-- A set of terminals, given by their indices: terminal `t` is in the set when bit `t` is set. -/
structure TokenSet where
  bits : Nat
deriving DecidableEq, Repr, Inhabited

namespace TokenSet

def empty : TokenSet := ⟨0⟩

def single (t : Nat) : TokenSet := ⟨1 <<< t⟩

def union (s u : TokenSet) : TokenSet := ⟨s.bits ||| u.bits⟩

def has (s : TokenSet) (t : Nat) : Bool := s.bits.testBit t

def ofList (ts : List Nat) : TokenSet := ts.foldl (fun s t => s.union (single t)) empty

@[simp] theorem has_empty (t : Nat) : empty.has t = false := by simp [has, empty]

@[simp] theorem has_single (t u : Nat) : (single t).has u = decide (t = u) := by
  simp [has, single, Nat.shiftLeft_eq, Nat.testBit_two_pow]

@[simp] theorem has_union (s u : TokenSet) (t : Nat) :
    (s.union u).has t = (s.has t || u.has t) := by
  simp [has, union]

end TokenSet

end EmbeddedScripts.Grammar
