import WindowGateway.Text.Lines

/-! Lines by a grammar: the lines that are read from a text are the only ones that the grammar gives
it, so that a text put together from lines and their ends has these lines. -/

namespace WindowGateway.Text

/-- The characters are these lines. A line holds no line feed. It ends at one, or at a carriage
return and a line feed; the last line may end at the end of the text if it is not empty. -/
inductive LinesOf : List Char → List String → Prop
  | none : LinesOf [] []
  | last {cs : List Char} (filled : cs ≠ []) (whole : '\n' ∉ cs) : LinesOf cs [String.ofList cs]
  | feed {cs rest : List Char} {lines : List String} (whole : '\n' ∉ cs)
      (bare : cs.getLast? ≠ some '\r') (more : LinesOf rest lines) :
    LinesOf (cs ++ '\n' :: rest) (String.ofList cs :: lines)
  | returnFeed {cs rest : List Char} {lines : List String} (whole : '\n' ∉ cs)
      (more : LinesOf rest lines) :
    LinesOf (cs ++ '\r' :: '\n' :: rest) (String.ofList cs :: lines)

variable {current cs rest : List Char} {ls : List String}

/-- Up to the next line feed the characters go into the line. -/
theorem linesFrom_append (h : '\n' ∉ cs) :
    linesFrom current (cs ++ rest) = linesFrom (cs.reverse ++ current) rest := by
  induction cs generalizing current with
  | nil => rfl
  | cons c cs ih =>
    rw [List.mem_cons, not_or] at h
    rw [List.cons_append, linesFrom, ih h.2, List.reverse_cons, List.append_assoc]
    · rfl
    · exact fun hc => h.1 hc.symm

theorem withoutReturn_of_head? (h : cs.head? ≠ some '\r') : withoutReturn cs = cs := by
  rw [withoutReturn.eq_def]
  split
  · exact absurd rfl h
  · rfl

theorem LinesOf.eq_lines (h : LinesOf cs ls) : linesFrom [] cs = ls := by
  induction h with
  | none => rfl
  | @last cs filled whole =>
    have hlines : linesFrom [] (cs ++ []) = linesFrom (cs.reverse ++ []) [] :=
      linesFrom_append whole
    rw [List.append_nil, List.append_nil] at hlines
    rw [hlines, linesFrom, if_neg (by simpa using filled), List.reverse_reverse]
  | @feed cs rest lines whole bare more ih =>
    have hkept : withoutReturn cs.reverse = cs.reverse :=
      withoutReturn_of_head? (by rwa [List.head?_reverse])
    rw [linesFrom_append whole, List.append_nil, linesFrom, hkept, List.reverse_reverse, ih]
  | @returnFeed cs rest lines whole more ih =>
    rw [linesFrom_append whole, List.append_nil, linesFrom, linesFrom, withoutReturn,
      List.reverse_reverse, ih]
    decide

theorem linesOf_linesFrom (h : '\n' ∉ current) (cs : List Char) :
    LinesOf (current.reverse ++ cs) (linesFrom current cs) := by
  -- For every line that is under way, since the reader keeps it in reverse.
  induction cs generalizing current with
  | nil =>
    rw [List.append_nil, linesFrom]
    by_cases hempty : current = []
    · subst hempty
      exact .none
    · rw [if_neg (by simpa using hempty)]
      exact .last (by simpa using hempty) (by simpa using h)
  | cons c cs ih =>
    by_cases hc : c = '\n'
    · subst hc
      have hrest : LinesOf cs (linesFrom [] cs) := @ih [] List.not_mem_nil
      rw [linesFrom]
      by_cases hreturn : current.head? = some '\r'
      · obtain ⟨kept, rfl⟩ := List.head?_eq_some_iff.mp hreturn
        rw [List.mem_cons, not_or] at h
        rw [List.reverse_cons, List.append_assoc]
        exact .returnFeed (by simpa using h.2) hrest
      · rw [withoutReturn_of_head? hreturn]
        exact .feed (by simpa using h) (by rwa [List.getLast?_reverse]) hrest
    · have hwhole : '\n' ∉ c :: current := by
        rw [List.mem_cons, not_or]
        exact ⟨fun heq => hc heq.symm, h⟩
      have hline := ih hwhole
      rw [List.reverse_cons, List.append_assoc] at hline
      rw [linesFrom]
      · exact hline
      · exact hc

/-- The grammar and the reader agree on the lines of a text. -/
theorem linesOf_iff {s : String} : LinesOf s.toList ls ↔ lines s = ls :=
  ⟨LinesOf.eq_lines, fun h => h ▸ linesOf_linesFrom List.not_mem_nil s.toList⟩

/-- The ends that a line can have. -/
def IsLineEnd (s : String) : Prop := s = "\n" ∨ s = "\r\n"

/-- A line with its end in front of other lines is one more line, but for a carriage return that
comes to stand before a line feed. -/
theorem LinesOf.cons {line lineEnd text : String} (h : LinesOf text.toList ls)
    (whole : '\n' ∉ line.toList) (hend : IsLineEnd lineEnd) :
    ∃ kept : List Char, LinesOf (line ++ lineEnd ++ text).toList (String.ofList kept :: ls) ∧
      (kept = line.toList ∨ line.toList = kept ++ ['\r']) := by
  have happend : (line ++ lineEnd ++ text).toList =
      line.toList ++ (lineEnd.toList ++ text.toList) := by
    rw [String.toList_append, String.toList_append, List.append_assoc]
  rw [happend]
  rcases hend with rfl | rfl
  · by_cases hreturn : line.toList.getLast? = some '\r'
    · obtain ⟨kept, hkept⟩ := List.getLast?_eq_some_iff.mp hreturn
      refine ⟨kept, ?_, .inr hkept⟩
      rw [hkept, List.append_assoc]
      rw [hkept, List.mem_append, not_or] at whole
      exact .returnFeed whole.1 h
    · exact ⟨_, .feed whole hreturn h, .inl rfl⟩
  · exact ⟨_, .returnFeed whole h, .inl rfl⟩

end WindowGateway.Text
