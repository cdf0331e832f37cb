import Mathlib.Data.List.Basic

/-!
# Framing a stream by a separator

A stream of symbols is a sequence of frames, each closed by a separator, and
an open tail.  Every stream is framed in exactly one way, which is what
splitting it reads off, and framings compose along the pieces of a stream when
the open tail of one piece is carried over to the next.
-/

namespace Framing

variable {α : Type}

/-- `stream` is `frames`, each closed by `separator`, and then the open `tail`. -/
structure Framed
    (separator : α) (stream : List α) (frames : List (List α))
    (tail : List α) : Prop where
  stream_eq :
    stream = (frames.map fun frame => frame ++ [separator]).flatten ++ tail
  closed : ∀ frame ∈ frames, separator ∉ frame
  opened : separator ∉ tail

namespace Framed

variable {separator : α} {stream tail : List α} {frames : List (List α)}

theorem nil : Framed separator [] [] [] where
  stream_eq := by simp
  closed := by simp
  opened := by simp

theorem cons_separator (framed : Framed separator stream frames tail) :
    Framed separator (separator :: stream) ([] :: frames) tail where
  stream_eq := by simp [framed.stream_eq]
  closed := by simpa using framed.closed
  opened := framed.opened

/-- A symbol before the stream belongs to its first frame, or to the tail of a
stream without frames. -/
theorem cons_symbol (framed : Framed separator stream frames tail)
    {symbol : α} (different : symbol ≠ separator) :
    ∃ others rest, Framed separator (symbol :: stream) others rest := by
  cases frames with
  | nil =>
      have onlyTail : stream = tail := by simpa using framed.stream_eq
      refine ⟨[], symbol :: tail, by simp [onlyTail], by simp, ?_⟩
      simp [different.symm, framed.opened]
  | cons first frames =>
      have firstClosed : separator ∉ first :=
        framed.closed first List.mem_cons_self
      refine ⟨(symbol :: first) :: frames, tail, ?_, ?_, framed.opened⟩
      · simp [framed.stream_eq]
      · intro frame member
        rcases List.mem_cons.mp member with same | member
        · simp [same, different.symm, firstClosed]
        · exact framed.closed frame (List.mem_cons_of_mem _ member)

/-- The open tail of a piece is the beginning of what the next one is split
with. -/
theorem append (framed : Framed separator stream frames tail)
    {piece rest : List α} {others : List (List α)}
    (next : Framed separator (tail ++ piece) others rest) :
    Framed separator (stream ++ piece) (frames ++ others) rest where
  stream_eq := by
    have carried := next.stream_eq
    rw [framed.stream_eq, List.append_assoc, carried]
    simp
  closed := by
    intro frame member
    rcases List.mem_append.mp member with before | after
    · exact framed.closed frame before
    · exact next.closed frame after
  opened := next.opened

end Framed

theorem exists_framed [DecidableEq α] (separator : α) (stream : List α) :
    ∃ frames tail, Framed separator stream frames tail := by
  induction stream with
  | nil => exact ⟨[], [], .nil⟩
  | cons symbol stream inductionHypothesis =>
      obtain ⟨frames, tail, framed⟩ := inductionHypothesis
      by_cases same : symbol = separator
      · rw [same]
        exact ⟨[] :: frames, tail, framed.cons_separator⟩
      · exact framed.cons_symbol same

/-- Splitting at the separators gives the frames and, last, the tail. -/
theorem Framed.splitOn_eq [BEq α] [LawfulBEq α] {separator : α}
    {stream tail : List α} {frames : List (List α)}
    (framed : Framed separator stream frames tail) :
    stream.splitOn separator = frames ++ [tail] := by
  induction frames generalizing stream with
  | nil =>
      have onlyTail : stream = tail := by simpa using framed.stream_eq
      rw [onlyTail, List.splitOn_eq_singleton framed.opened]
      rfl
  | cons first frames inductionHypothesis =>
      have firstClosed : separator ∉ first :=
        framed.closed first List.mem_cons_self
      have remaining :
          Framed separator
            ((frames.map fun frame => frame ++ [separator]).flatten ++ tail)
            frames tail := by
        refine ⟨rfl, ?_, framed.opened⟩
        intro frame member
        exact framed.closed frame (List.mem_cons_of_mem _ member)
      have stream_eq :
          stream =
            first ++ separator ::
              ((frames.map fun frame => frame ++ [separator]).flatten ++
                tail) := by
        rw [framed.stream_eq]
        simp
      rw [stream_eq, List.splitOn_append_cons_self_of_not_mem firstClosed,
        inductionHypothesis remaining]
      rfl

/-- A stream is framed in one way only. -/
theorem Framed.unique [BEq α] [LawfulBEq α] {separator : α}
    {stream tail rest : List α} {frames others : List (List α)}
    (framed : Framed separator stream frames tail)
    (framed' : Framed separator stream others rest) :
    others = frames ∧ rest = tail := by
  have same : others ++ [rest] = frames ++ [tail] := by
    rw [← framed.splitOn_eq, ← framed'.splitOn_eq]
  have parts := List.append_inj' same rfl
  exact ⟨parts.1, by simpa using parts.2⟩

/-- The frames as they are sent. -/
def joined (separator : α) (frames : List (List α)) : List α :=
  (frames.map fun frame => frame ++ [separator]).flatten

/-- A stream of frames that is cut anywhere has the frames that have come
through, and the beginning of the next one. -/
theorem framed_of_prefix {separator : α} {stream : List α}
    {frames : List (List α)} (closed : ∀ frame ∈ frames, separator ∉ frame)
    (cut : stream <+: joined separator frames) :
    ∃ count ≤ frames.length, ∃ tail,
      Framed separator stream (frames.take count) tail := by
  induction frames generalizing stream with
  | nil =>
      rw [List.prefix_nil.mp cut]
      exact ⟨0, Nat.le_refl 0, [], .nil⟩
  | cons first frames inductionHypothesis =>
      have begins : joined separator (first :: frames) =
          (first ++ [separator]) ++ joined separator frames := rfl
      rw [begins] at cut
      by_cases short : stream.length ≤ first.length
      · have within : stream <+: first := by
          apply List.prefix_of_prefix_length_le cut _ short
          rw [List.append_assoc]
          exact List.prefix_append _ _
        have opened : separator ∉ stream := fun member =>
          closed first List.mem_cons_self (within.mem member)
        exact ⟨0, Nat.zero_le _, stream, ⟨rfl, by simp, opened⟩⟩
      · have past : first ++ [separator] <+: stream := by
          apply List.prefix_of_prefix_length_le (List.prefix_append _ _) cut
          rw [List.length_append]
          exact Nat.lt_of_not_le short
        obtain ⟨later, rfl⟩ := past
        rw [List.prefix_append_right_inj] at cut
        obtain ⟨count, bounded, tail, framed⟩ :=
          inductionHypothesis
            (fun frame member => closed frame (List.mem_cons_of_mem _ member))
            cut
        refine ⟨count + 1, Nat.succ_le_succ bounded, tail, ?_, ?_,
          framed.opened⟩
        · rw [framed.stream_eq]
          simp
        · intro frame member
          rcases List.mem_cons.mp member with rfl | member
          · exact closed frame List.mem_cons_self
          · exact framed.closed frame member

theorem joined_append (separator : α) (frames others : List (List α)) :
    joined separator (frames ++ others) =
      joined separator frames ++ joined separator others := by
  simp [joined]

/-- No further frame fits into a stream. -/
theorem Framed.not_prefix {separator : α} {stream tail : List α}
    {frames more : List (List α)}
    (framed : Framed separator stream frames tail)
    (begins : frames <+: more) (longer : frames ≠ more) :
    ¬ joined separator more <+: stream := by
  obtain ⟨others, rfl⟩ := begins
  intro fits
  have whole : stream = joined separator frames ++ tail := framed.stream_eq
  rw [joined_append, whole, List.prefix_append_right_inj] at fits
  cases others with
  | nil =>
      exact longer (List.append_nil frames).symm
  | cons frame rest =>
      apply framed.opened
      apply fits.mem
      simp [joined]

end Framing
