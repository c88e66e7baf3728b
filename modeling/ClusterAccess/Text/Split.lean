/-
  ClusterAccess.Text.Split

  Cutting a text at a separator: at its first place, at every place, or behind
  its last place.
-/

namespace ClusterAccess.Text

/-- The characters before the first `sep`, and those behind it if there is one. -/
def cut (sep : Char) : List Char → List Char × Option (List Char)
  | [] => ([], none)
  | c :: cs =>
    if c = sep then ([], some cs)
    else (c :: (cut sep cs).1, (cut sep cs).2)

/-- Puts a character in front of the first part. -/
def onFirst (c : Char) : List (List Char) → List (List Char)
  | [] => [[c]]
  | part :: parts => (c :: part) :: parts

/-- The parts between the separators, one more than there are separators. -/
def parts (sep : Char) : List Char → List (List Char)
  | [] => [[]]
  | c :: cs => if c = sep then [] :: parts sep cs else onFirst c (parts sep cs)

/-- What stands behind the last `sep`, or the whole text if there is none. -/
def afterLast (sep : Char) (cs : List Char) : List Char :=
  (cs.reverse.takeWhile (· ≠ sep)).reverse

/-- Whether a text stands somewhere in another one. -/
def holds (part : List Char) : List Char → Bool
  | [] => part.isEmpty
  | c :: cs => part.isPrefixOf (c :: cs) || holds part cs

/-! ## Small facts -/

/-- A cut loses nothing but the separator. -/
theorem cut_join (sep : Char) (cs : List Char) :
    (cut sep cs).1 ++ ((cut sep cs).2.elim [] (sep :: ·)) = cs := by
  induction cs with
  | nil => simp [cut]
  | cons c cs ih =>
    by_cases h : c = sep
    · simp [cut, h]
    · simp [cut, h, ih]

/-- No separator stands before the cut. -/
theorem sep_notMem_cut (sep : Char) (cs : List Char) : sep ∉ (cut sep cs).1 := by
  induction cs with
  | nil => simp [cut]
  | cons c cs ih =>
    by_cases h : c = sep
    · simp [cut, h]
    · simp [cut, h, ih, Ne.symm h]

theorem parts_ne_nil (sep : Char) (cs : List Char) : parts sep cs ≠ [] := by
  cases cs with
  | nil => simp [parts]
  | cons c cs =>
    simp only [parts]
    split
    · simp
    · cases parts sep cs <;> simp [onFirst]

/-- No part holds the separator. -/
theorem sep_notMem_of_mem_parts {sep : Char} {cs part : List Char} (h : part ∈ parts sep cs) :
    sep ∉ part := by
  induction cs generalizing part with
  | nil => simp_all [parts]
  | cons c cs ih =>
    by_cases hc : c = sep
    · simp only [parts, hc, if_true, List.mem_cons] at h
      rcases h with rfl | h
      · simp
      · exact ih h
    · -- The character joins the first part of what is behind it.
      simp only [parts, hc, if_false] at h
      cases hp : parts sep cs with
      | nil => exact absurd hp (parts_ne_nil sep cs)
      | cons p ps =>
        simp only [hp, onFirst, List.mem_cons] at h
        rcases h with rfl | h
        · have hp' : sep ∉ p := ih (by simp [hp])
          simpa [Ne.symm hc] using hp'
        · exact ih (by simp [hp, h])

/-- What stands behind a separator is found if it holds none itself. -/
theorem afterLast_append_cons {sep : Char} {front back : List Char} (h : sep ∉ back) :
    afterLast sep (front ++ sep :: back) = back := by
  have hrev : (front ++ sep :: back).reverse = back.reverse ++ sep :: front.reverse := by simp
  have hback : ∀ c ∈ back.reverse, decide (c ≠ sep) = true := by
    intro c hc
    simpa using fun e : c = sep => h (e ▸ List.mem_reverse.1 hc)
  rw [afterLast, hrev, List.takeWhile_append_of_pos hback, List.takeWhile_cons_of_neg (by simp)]
  simp

/-- A text without a separator stands behind the last one as a whole. -/
theorem afterLast_eq_self {sep : Char} {cs : List Char} (h : sep ∉ cs) : afterLast sep cs = cs := by
  have hcs : ∀ c ∈ cs.reverse, decide (c ≠ sep) = true := by
    intro c hc
    simpa using fun e : c = sep => h (e ▸ List.mem_reverse.1 hc)
  rw [afterLast, ← List.append_nil cs.reverse, List.takeWhile_append_of_pos hcs]
  simp

end ClusterAccess.Text
