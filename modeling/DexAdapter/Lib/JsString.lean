import Mathlib.Data.List.TakeWhile

/-!
# JavaScript strings

`String.prototype.replace` with a text for its pattern, and the first part of
`String.prototype.split`, on lists of characters.
-/

namespace JsString

/-- `text.replace(pattern, replacement)`: the first occurrence, if there is one. -/
def replace (pattern replacement : List Char) : List Char → List Char
  | [] => if pattern = [] then replacement else []
  | c :: rest =>
    if pattern.isPrefixOf (c :: rest) then replacement ++ (c :: rest).drop pattern.length
    else c :: replace pattern replacement rest

/-- The first occurrence is at the start. -/
theorem replace_append (pattern replacement rest : List Char) :
    replace pattern replacement (pattern ++ rest) = replacement ++ rest := by
  have hdrop : (pattern ++ rest).drop pattern.length = rest := List.drop_left
  cases htext : pattern ++ rest with
  | nil =>
    obtain ⟨rfl, rfl⟩ := List.append_eq_nil_iff.1 htext
    simp [replace]
  | cons c cs =>
    rw [htext] at hdrop
    have hprefix : pattern.isPrefixOf (c :: cs) = true := by
      rw [List.isPrefixOf_iff_prefix, ← htext]
      exact List.prefix_append pattern rest
    rw [replace, if_pos hprefix, hdrop]

/-- `text.split(separator)[0]` -/
theorem getElem?_zero_splitOn (separator : Char) (text : List Char) :
    (text.splitOn separator)[0]? = some (text.takeWhile (· != separator)) := by
  induction text with
  | nil => rfl
  | cons c rest ih =>
    rw [List.splitOn_cons_eq_if_modifyHead]
    by_cases hc : c = separator
    · subst hc
      simp
    · rw [if_neg (by simpa using hc), List.takeWhile_cons_of_pos (by simpa using hc)]
      obtain ⟨first, parts, hparts⟩ :=
        List.exists_cons_of_ne_nil (List.splitOn_ne_nil separator rest)
      rw [hparts] at ih ⊢
      simpa using ih

end JsString
