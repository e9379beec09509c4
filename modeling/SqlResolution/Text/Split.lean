/-!
# Splitting at a separator

A text is cut at every occurrence of a separator. There is always one token more
than there are separators, and writing the tokens with the separator between
them gives the text back.
-/

namespace SqlResolution.Text

/-- The tokens between the separators. -/
def splitOn (separator : Char) (cs : List Char) : List (List Char) :=
  cs.foldr
    (fun c tokens =>
      if c = separator then [] :: tokens
      else
        match tokens with
        | [] => [[c]]
        | token :: later => (c :: token) :: later)
    [[]]

/-- The part before the first separator and, if there is one, the part after it. -/
def cutAt (separator : Char) (cs : List Char) : List Char × Option (List Char) :=
  match cs.dropWhile (· ≠ separator) with
  | [] => (cs, none)
  | _ :: after => (cs.takeWhile (· ≠ separator), some after)

@[simp] theorem splitOn_nil (separator : Char) : splitOn separator [] = [[]] := rfl

theorem splitOn_ne_nil (separator : Char) (cs : List Char) : splitOn separator cs ≠ [] := by
  cases cs with
  | nil => simp [splitOn]
  | cons c rest =>
    simp only [splitOn, List.foldr_cons]
    split
    · simp
    · split <;> simp

/-- Writing the tokens with the separator between them gives the text back. -/
theorem intercalate_splitOn (separator : Char) (cs : List Char) :
    [separator].intercalate (splitOn separator cs) = cs := by
  induction cs with
  | nil => rfl
  | cons c rest ih =>
    have hne := splitOn_ne_nil separator rest
    rw [splitOn, List.foldr_cons]
    change [separator].intercalate (if c = separator then [] :: splitOn separator rest
      else match splitOn separator rest with
        | [] => [[c]]
        | token :: later => (c :: token) :: later) = c :: rest
    cases htokens : splitOn separator rest with
    | nil => exact absurd htokens hne
    | cons token later =>
      rw [htokens] at ih
      by_cases hc : c = separator
      · simp only [hc, if_true]
        rw [List.intercalate_cons_cons, ih]
        rfl
      · simp only [hc, if_false]
        cases later with
        | nil => simpa using ih
        | cons next others =>
          rw [List.intercalate_cons_cons] at ih ⊢
          simp only [List.cons_append]
          rw [ih]

end SqlResolution.Text
