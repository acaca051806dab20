import PluginPack.Proofs.Manifest.RoundTrip

/-! How a manifest line is cut. The cut is greedy and measured in UTF-8 bytes while it moves
one character at a time: the first piece takes as many characters as fit in 72 bytes, and every
further piece, written after a space, as many as fit in 71. So the pieces make up the line, none
after the first is empty, each but the last is full, and a line is cut at all exactly when it is
longer than 72 bytes. Every line of a written main section therefore has at most 72 bytes. -/

namespace PluginPack.Manifest

/-- How a line is cut for a manifest. Every piece fits its limit in UTF-8 bytes: `limit` for the
first piece and 71 for the others, which are written after a space. Every piece after the first
begins with a character, and each piece but the last is full: the first character of the piece
after it would take it past its limit. -/
inductive GreedyCut : Nat → List (List Char) → Prop
  | last {limit : Nat} {piece : List Char} : String.utf8Len piece ≤ limit → GreedyCut limit [piece]
  | full {limit : Nat} {piece : List Char} {c : Char} {next : List Char} {more : List (List Char)} :
      String.utf8Len piece ≤ limit → limit < String.utf8Len piece + c.utf8Size →
      GreedyCut (lineLimit - 1) ((c :: next) :: more) → GreedyCut limit (piece :: (c :: next) :: more)

namespace GreedyCut

theorem first_fits {limit : Nat} {piece : List Char} {more : List (List Char)}
    (cut : GreedyCut limit (piece :: more)) : String.utf8Len piece ≤ limit := by
  cases cut with
  | last fits => exact fits
  | full fits _ _ => exact fits

theorem later_fit : ∀ {limit : Nat} {piece : List Char} {more : List (List Char)},
    GreedyCut limit (piece :: more) → ∀ later ∈ more, later ≠ [] ∧ String.utf8Len later ≤ lineLimit - 1
  | _, _, _, .last _, later, member => by simp at member
  | _, _, _, .full _ _ rest, later, member => by
    rcases List.mem_cons.mp member with rfl | deeper
    · exact ⟨List.cons_ne_nil _ _, rest.first_fits⟩
    · exact later_fit rest later deeper

end GreedyCut

theorem wrapChars_greedyCut : ∀ (cs current : List Char) (bytes limit : Nat),
    String.utf8Len current = bytes → bytes ≤ limit → GreedyCut limit (wrapChars cs current bytes limit)
  | [], current, bytes, limit, size, fits => by
    rw [wrapChars]
    exact .last (by rw [String.utf8Len_reverse]; omega)
  | c :: rest, current, bytes, limit, size, fits => by
    rw [wrapChars]
    split
    · rename_i overflow
      have opened := wrapChars_greedyCut rest [c] c.utf8Size (lineLimit - 1) (by simp)
        (by have := c.utf8Size_le_four; simp only [lineLimit]; omega)
      obtain ⟨tail, pieces, cut⟩ := wrapChars_head rest [c] c.utf8Size (lineLimit - 1)
      rw [cut] at opened ⊢
      exact .full (by rw [String.utf8Len_reverse]; omega) (by rw [String.utf8Len_reverse]; omega) opened
    · rename_i room
      exact wrapChars_greedyCut rest (c :: current) (bytes + c.utf8Size) limit
        (by rw [String.utf8Len_cons, size]) (by omega)

theorem wrap_greedy (line : String) :
    ∃ first more, wrap line = String.ofList first :: more.map (fun piece => String.ofList (' ' :: piece)) ∧
      first ++ more.flatten = line.toList ∧ GreedyCut lineLimit (first :: more) ∧
      (more = [] ↔ line.utf8ByteSize ≤ lineLimit) := by
  unfold wrap
  split
  · rename_i short
    refine ⟨line.toList, [], by simp, by simp, .last (by rw [String.utf8Len_toList]; exact short), by simp [short]⟩
  · rename_i long
    obtain ⟨first, more, cut⟩ := wrapChars_head line.toList [] 0 lineLimit
    have whole := wrapChars_flatten line.toList [] 0 lineLimit
    have greedy := wrapChars_greedyCut line.toList [] 0 lineLimit rfl (Nat.zero_le _)
    rw [cut] at whole greedy
    rw [cut]
    refine ⟨first, more, by simp, by simpa using whole, by simpa using greedy, ?_⟩
    simp only [long, iff_false]
    -- a single piece would be the whole line, which does not fit in 72 bytes
    intro alone
    subst alone
    have fits := greedy.first_fits
    simp only [List.reverse_nil, List.nil_append] at fits whole
    simp only [List.flatten_cons, List.flatten_nil, List.append_nil] at whole
    rw [whole, String.utf8Len_toList] at fits
    exact long fits

theorem wrap_fits (line : String) : ∀ piece ∈ wrap line, piece.utf8ByteSize ≤ lineLimit := by
  obtain ⟨first, more, written, -, cut, -⟩ := wrap_greedy line
  intro piece member
  rw [written] at member
  rcases List.mem_cons.mp member with rfl | later
  · rw [← String.utf8Len_toList, String.toList_ofList]
    exact cut.first_fits
  · obtain ⟨p, held, rfl⟩ := List.mem_map.mp later
    have fits := (cut.later_fit p held).2
    have space : ' '.utf8Size = 1 := rfl
    rw [← String.utf8Len_toList, String.toList_ofList, String.utf8Len_cons, space]
    simp only [lineLimit] at fits ⊢
    omega

theorem format_lines_fit (attrs : Attributes) :
    ∃ lines, format attrs = String.intercalate "\r\n" lines ++ "\r\n\r\n" ∧
      ∀ line ∈ lines, line.utf8ByteSize ≤ lineLimit := by
  refine ⟨_, rfl, ?_⟩
  intro line member
  obtain ⟨entry, _, written⟩ := List.mem_flatMap.mp member
  exact wrap_fits _ line written

theorem wrap_cuts_greedily :
    (∀ line : String, ∃ first more,
      wrap line = String.ofList first :: more.map (fun piece => String.ofList (' ' :: piece)) ∧
        first ++ more.flatten = line.toList ∧ GreedyCut lineLimit (first :: more) ∧
        (more = [] ↔ line.utf8ByteSize ≤ lineLimit)) ∧
    ∀ attrs : Attributes, ∃ lines, format attrs = String.intercalate "\r\n" lines ++ "\r\n\r\n" ∧
      ∀ line ∈ lines, line.utf8ByteSize ≤ lineLimit :=
  ⟨wrap_greedy, format_lines_fit⟩

end PluginPack.Manifest
