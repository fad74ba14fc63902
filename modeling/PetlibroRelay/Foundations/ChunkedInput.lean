import Mathlib.Data.List.Basic

namespace PetlibroRelay
namespace Foundations

/-!
# Input that arrives in pieces

A stream as a reader sees it: pieces that are not empty, and then its end.  A read
with a limit gives a piece, or what the limit leaves of it.  Every way of splitting a
stream into reads is some list of pieces, and the laws below do not depend on it.
-/

universe u

/-- The pieces that are still to be read. -/
structure ChunkedInput (α : Type u) where
  chunks : List (List α)
  nonempty : forall chunk, chunk ∈ chunks -> chunk ≠ []

namespace ChunkedInput

variable {α : Type u}

/-- The rest of the stream. -/
def content (input : ChunkedInput α) : List α := input.chunks.flatten

/-- Read at most a number of elements.  Only at the end of the stream is nothing read. -/
def recv (input : ChunkedInput α) (limit : Nat) : List α × ChunkedInput α :=
  match input with
  | ⟨[], nonempty⟩ => ([], ⟨[], nonempty⟩)
  | ⟨chunk :: rest, nonempty⟩ =>
      if fits : chunk.length ≤ limit then
        (chunk, ⟨rest, fun other member => nonempty other (List.mem_cons_of_mem _ member)⟩)
      else
        (chunk.take limit, ⟨chunk.drop limit :: rest, by
          intro other member
          rcases List.mem_cons.mp member with rfl | old
          · exact List.ne_nil_of_length_pos (by rw [List.length_drop]; omega)
          · exact nonempty other (List.mem_cons_of_mem _ old)⟩)

/-- What is read and what is left make up the stream. -/
theorem recv_append (input : ChunkedInput α) (limit : Nat) :
    (input.recv limit).1 ++ (input.recv limit).2.content = input.content := by
  rcases input with ⟨_ | ⟨chunk, rest⟩, nonempty⟩
  · rfl
  · rw [recv]
    split
    · rfl
    · rw [content, content, List.flatten_cons, List.flatten_cons, ← List.append_assoc,
        List.take_append_drop]

theorem length_recv_le (input : ChunkedInput α) (limit : Nat) :
    (input.recv limit).1.length ≤ limit := by
  rcases input with ⟨_ | ⟨chunk, rest⟩, nonempty⟩
  · exact Nat.zero_le limit
  · rw [recv]
    split
    · next fits => exact fits
    · exact List.length_take_le limit chunk

/-- Nothing is read only at the end of the stream. -/
theorem content_of_recv_nil {input : ChunkedInput α} {limit : Nat} (positive : 0 < limit)
    (nothing : (input.recv limit).1 = []) : input.content = [] := by
  rcases input with ⟨_ | ⟨chunk, rest⟩, nonempty⟩
  · rfl
  · rw [recv] at nothing
    split at nothing
    · exact absurd nothing (nonempty chunk List.mem_cons_self)
    · rw [List.take_eq_nil_iff] at nothing
      rcases nothing with zero | empty
      · exact absurd zero (Nat.ne_of_gt positive)
      · exact absurd empty (nonempty chunk List.mem_cons_self)

end ChunkedInput
end Foundations
end PetlibroRelay
