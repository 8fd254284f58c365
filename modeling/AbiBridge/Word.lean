/-!
# Words

Numbers of a fixed number of bits, with a sign or without.
-/

namespace AbiBridge.Word

/-- How many words of the given number of bits there are. -/
def count (bits : Nat) : Nat :=
  Nat.pow 2 bits

def unsignedBounds (bits : Nat) : Int × Int :=
  (0, (count bits : Int) - 1)

/-- The least and the greatest signed word: half of the words are negative. -/
def signedBounds (bits : Nat) : Int × Int :=
  (-(count (bits - 1) : Int), (count (bits - 1) : Int) - 1)

def isUnsigned (bits : Nat) (n : Int) : Bool :=
  (unsignedBounds bits).1 ≤ n && n ≤ (unsignedBounds bits).2

def isSigned (bits : Nat) (n : Int) : Bool :=
  (signedBounds bits).1 ≤ n && n ≤ (signedBounds bits).2

@[simp] theorem isUnsigned_iff {bits : Nat} {n : Int} :
    isUnsigned bits n = true ↔ 0 ≤ n ∧ n < count bits := by
  rw [isUnsigned, Bool.and_eq_true, decide_eq_true_eq, decide_eq_true_eq]
  exact and_congr_right fun _ => Int.le_sub_one_iff

@[simp] theorem isSigned_iff {bits : Nat} {n : Int} :
    isSigned bits n = true ↔ -(count (bits - 1) : Int) ≤ n ∧ n < count (bits - 1) := by
  rw [isSigned, Bool.and_eq_true, decide_eq_true_eq, decide_eq_true_eq]
  exact and_congr_right fun _ => Int.le_sub_one_iff

/-- The signed word with the lowest bits of a number. -/
def wrap (bits : Nat) (n : Int) : Int :=
  n.bmod (count bits)

end AbiBridge.Word
