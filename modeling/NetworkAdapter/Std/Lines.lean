import Mathlib.Data.List.Infix

/-!
# A stream cut into lines

Lines are written one after another, each followed by a delimiter that none of them
contains. The stream reaches its reader in pieces; what has arrived and not been read is a
prefix of what is still to be read. The reader then finds the next line whole, or it holds
only a part of it and waits.
-/

namespace NetworkAdapter.Lines

variable {Symbol : Type} [DecidableEq Symbol]

/-- The symbols up to and including the first delimiter, and those behind it. -/
def splitLine? (delimiter : Symbol) : List Symbol → Option (List Symbol × List Symbol)
  | [] => none
  | symbol :: rest =>
      if symbol = delimiter then some ([symbol], rest)
      else (splitLine? delimiter rest).map fun (line, behind) => (symbol :: line, behind)

/-- Lines as they are written. -/
def stream (delimiter : Symbol) (lines : List (List Symbol)) : List Symbol :=
  lines.flatMap fun line => line ++ [delimiter]

omit [DecidableEq Symbol] in
theorem stream_append (delimiter : Symbol) (earlier later : List (List Symbol)) :
    stream delimiter (earlier ++ later) = stream delimiter earlier ++ stream delimiter later :=
  List.flatMap_append

/-- A line is found up to its delimiter. -/
theorem splitLine?_of_line {delimiter : Symbol} {line : List Symbol} (free : delimiter ∉ line)
    (behind : List Symbol) :
    splitLine? delimiter (line ++ delimiter :: behind) = some (line ++ [delimiter], behind) := by
  induction line with
  | nil => simp [splitLine?]
  | cons symbol rest inductionHypothesis =>
      obtain ⟨other, free⟩ := not_or.mp (mt List.mem_cons.mpr free)
      simp [splitLine?, Ne.symm other, inductionHypothesis free]

theorem splitLine?_eq_none {delimiter : Symbol} {buffer : List Symbol} (free : delimiter ∉ buffer) :
    splitLine? delimiter buffer = none := by
  induction buffer with
  | nil => rfl
  | cons symbol rest inductionHypothesis =>
      obtain ⟨other, free⟩ := not_or.mp (mt List.mem_cons.mpr free)
      simp [splitLine?, Ne.symm other, inductionHypothesis free]

/-- What a reader finds of the lines still to be read: the first of them, or only a part of
it, without its delimiter. -/
theorem splitLine?_of_stream {delimiter : Symbol} {line : List Symbol}
    {later : List (List Symbol)} (free : delimiter ∉ line) {buffer ahead : List Symbol}
    (holds : buffer ++ ahead = stream delimiter (line :: later)) :
    (∃ behind, splitLine? delimiter buffer = some (line ++ [delimiter], behind) ∧
        behind ++ ahead = stream delimiter later) ∨
      (splitLine? delimiter buffer = none ∧ buffer <+: line) := by
  have first : buffer ++ ahead = line ++ (delimiter :: stream delimiter later) := by
    rw [holds]
    simp [stream]
  rcases List.append_eq_append_iff.mp first with ⟨more, extended, _⟩ | ⟨more, covers, rest⟩
  · have part : buffer <+: line := ⟨more, extended.symm⟩
    exact .inr ⟨splitLine?_eq_none fun member => free (part.subset member), part⟩
  · cases more with
    | nil =>
        have exactly : buffer = line := by simpa using covers
        exact .inr ⟨splitLine?_eq_none (exactly ▸ free), exactly ▸ List.prefix_rfl⟩
    | cons symbol behind =>
        obtain ⟨rfl, unread⟩ := List.cons_eq_cons.mp rest
        exact .inl ⟨behind, by rw [covers, splitLine?_of_line free], unread.symm⟩

end NetworkAdapter.Lines
