/-!
# Texts one behind the other

What stands between texts stands in front of all but the first of them, or behind all but the last.
`pieces` cuts a text at each occurrence of a character. Where lines are written with a line break
behind each, the pieces between the breaks are these lines, and what is left behind the last break
is the empty text (`pieces_join`).
-/

namespace Opscript.Text

theorem intercalate_cons (sep t : String) (ts : List String) :
    String.intercalate sep (t :: ts) = t ++ String.join (ts.map (sep ++ ·)) := by
  induction ts generalizing t with
  | nil => simp
  | cons u ts ih => simp [ih, String.append_assoc]

theorem join_terminated (sep : String) (ts : List String) :
    String.join (ts.map (· ++ sep)) = String.intercalate sep (ts ++ [""]) := by
  induction ts with
  | nil => simp
  | cons t ts ih =>
    rw [List.map_cons, String.join_cons, ih, List.cons_append,
      String.intercalate_cons_of_ne_nil (by simp)]

/-- What stands between the occurrences of a character. -/
def pieces (c : Char) (s : String) : List String := (s.split c).toList.map fun t => t.copy

/-- Texts that are joined by a character come apart at it. -/
theorem pieces_intercalate {c : Char} {ts : List String} (hne : ts ≠ [])
    (h : ∀ t ∈ ts, c ∉ t.toList) :
    pieces c (String.intercalate (String.singleton c) ts) = ts := by
  rw [pieces, String.toList_split_intercalate h, if_neg hne]

/-- What stands in front of the first occurrence is a piece of its own. -/
theorem pieces_append {c : Char} {t : String} (h : c ∉ t.toList) (rest : String) :
    pieces c (t ++ String.singleton c ++ rest) = t :: pieces c rest := by
  simp only [pieces, String.toList_split_char, String.toList_append, String.toList_singleton,
    List.append_assoc, List.singleton_append]
  rw [List.splitOn_append_cons_self_of_not_mem h, List.map_cons, String.ofList_toList]

/-- There is one piece more than there are occurrences. -/
theorem length_pieces (c : Char) (s : String) : (pieces c s).length = s.toList.count c + 1 := by
  have hchars : ∀ cs : List Char, (cs.splitOn c).length = cs.count c + 1 := by
    intro cs
    induction cs with
    | nil => rfl
    | cons x rest ih =>
      rw [List.splitOn_cons_eq_if_modifyHead, List.count_cons]
      split <;> simp [ih]
  rw [pieces, List.length_map, ← hchars, ← List.length_map, String.toList_split_char,
    List.length_map]

theorem pieces_join {c : Char} {ts : List String} (h : ∀ t ∈ ts, c ∉ t.toList) :
    pieces c (String.join (ts.map (· ++ String.singleton c))) = ts ++ [""] := by
  rw [join_terminated]
  apply pieces_intercalate (by simp)
  intro t ht
  rcases List.mem_append.1 ht with ht | ht
  · exact h t ht
  · simp [List.mem_singleton.1 ht]

end Opscript.Text
