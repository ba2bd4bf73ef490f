import Mathlib.Data.List.DropRight
import WindowGateway.Text.Blank

/-! White space around a text. What is left of a text without it is what stands between the blanks,
and nothing but the first and the last character of that decides where it begins and ends. -/

namespace WindowGateway.Text

/-- The characters are all white space. -/
def Blanks (cs : List Char) : Prop := ∀ c ∈ cs, isBlank c = true

theorem stripped_eq_rdropWhile (cs : List Char) :
    stripped cs = (cs.dropWhile isBlank).rdropWhile isBlank := rfl

/-- There is nothing around a stripped text but blanks. -/
theorem exists_blanks_around (cs : List Char) :
    ∃ left right, cs = left ++ stripped cs ++ right ∧ Blanks left ∧ Blanks right := by
  let body := cs.dropWhile isBlank
  have hleft : cs.takeWhile isBlank ++ body = cs := List.takeWhile_append_dropWhile
  have hright : body.rdropWhile isBlank ++ body.rtakeWhile isBlank = body :=
    List.rdropWhile_append_rtakeWhile
  refine ⟨cs.takeWhile isBlank, body.rtakeWhile isBlank, ?_, fun c hc => List.mem_takeWhile_imp hc,
    fun c hc => List.mem_rtakeWhile_imp hc⟩
  rw [stripped_eq_rdropWhile, List.append_assoc, hright, hleft]

theorem not_isBlank_of_head?_dropWhile {cs : List Char} {c : Char}
    (hc : (cs.dropWhile isBlank).head? = some c) : isBlank c = false := by
  have hhead := List.head?_dropWhile_not isBlank cs
  rw [hc] at hhead
  exact hhead

/-- A stripped text begins with no blank. -/
theorem not_isBlank_of_head?_stripped {cs : List Char} {c : Char}
    (hc : (stripped cs).head? = some c) : isBlank c = false := by
  obtain ⟨tail, htail⟩ := List.rdropWhile_prefix isBlank (cs.dropWhile isBlank)
  rw [← stripped_eq_rdropWhile] at htail
  have hbody : (cs.dropWhile isBlank).head? = some c := by
    rw [← htail, List.head?_append, hc]
    rfl
  exact not_isBlank_of_head?_dropWhile hbody

theorem not_isBlank_of_getLast?_stripped {cs : List Char} {c : Char}
    (hc : (stripped cs).getLast? = some c) : isBlank c = false := by
  unfold stripped at hc
  rw [List.getLast?_reverse] at hc
  exact not_isBlank_of_head?_dropWhile hc

theorem stripped_blanks {cs : List Char} (h : Blanks cs) : stripped cs = [] := by
  rw [stripped, List.dropWhile_eq_nil_iff.mpr h]
  rfl

theorem rdropWhile_append_blanks {right : List Char} (h : Blanks right) (cs : List Char) :
    (cs ++ right).rdropWhile isBlank = cs.rdropWhile isBlank := by
  rw [List.rdropWhile, List.reverse_append,
    List.dropWhile_append_of_pos fun c hc => h c (List.mem_reverse.mp hc)]
  rfl

/-- Blanks around a text are taken off, up to the first and the last character that are none. -/
theorem stripped_blanks_around {left cs right : List Char} (hleft : Blanks left)
    (hright : Blanks right) (hfirst : ∀ c ∈ cs.head?, isBlank c = false)
    (hlast : ∀ c ∈ cs.getLast?, isBlank c = false) : stripped (left ++ cs ++ right) = cs := by
  cases cs with
  | nil =>
    refine stripped_blanks fun c hc => ?_
    rw [List.append_nil, List.mem_append] at hc
    exact hc.elim (hleft c) (hright c)
  | cons c cs =>
    have hc : isBlank c = false := hfirst c rfl
    have hend : ¬isBlank ((c :: cs).getLast (List.cons_ne_nil c cs)) = true := by
      rw [hlast _ (List.getLast?_eq_some_getLast _)]
      decide
    rw [stripped_eq_rdropWhile, List.append_assoc, List.dropWhile_append_of_pos hleft,
      List.cons_append, List.dropWhile_cons_of_neg (by simp [hc]), ← List.cons_append,
      rdropWhile_append_blanks hright]
    exact List.rdropWhile_eq_self_iff.mpr fun _ => hend

/-- A text that holds no blank is what is left of it with blanks around. -/
theorem stripped_around {left cs right : List Char} (hleft : Blanks left) (hright : Blanks right)
    (h : ∀ c ∈ cs, isBlank c = false) : stripped (left ++ cs ++ right) = cs :=
  stripped_blanks_around hleft hright (fun c hc => h c (List.mem_of_mem_head? hc))
    (fun c hc => h c (List.mem_of_mem_getLast? hc))

end WindowGateway.Text
