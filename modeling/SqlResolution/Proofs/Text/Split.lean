import SqlResolution.Text.Split

/-!
# Cutting undoes joining

`splitOn` is the core library's `List.splitOn`, written as one fold. What core
knows about joining and cutting therefore holds of it, and the lemmas below only
bring it into the form in which texts are written here: token, separator, the
rest.
-/

namespace SqlResolution.Text

theorem splitOn_cons_self (separator : Char) (rest : List Char) :
    splitOn separator (separator :: rest) = [] :: splitOn separator rest := by
  unfold splitOn
  rw [List.foldr_cons, if_pos rfl]

theorem splitOn_cons_of_ne {separator c : Char} (h : c ≠ separator) {rest token : List Char}
    {later : List (List Char)} (hrest : splitOn separator rest = token :: later) :
    splitOn separator (c :: rest) = (c :: token) :: later := by
  rw [splitOn] at hrest ⊢
  rw [List.foldr_cons, hrest, if_neg h]

theorem splitOn_eq_listSplitOn (separator : Char) (cs : List Char) :
    splitOn separator cs = cs.splitOn separator := by
  induction cs with
  | nil => rfl
  | cons c rest ih =>
    rw [List.splitOn_cons_eq_if_modifyHead, ← ih]
    by_cases hc : c = separator
    · rw [if_pos (beq_iff_eq.2 hc), hc, splitOn_cons_self]
    · rw [if_neg (by simpa using hc)]
      cases htokens : splitOn separator rest with
      | nil => exact absurd htokens (splitOn_ne_nil separator rest)
      | cons token later => exact splitOn_cons_of_ne hc htokens

theorem splitOn_append_cons {separator : Char} {token : List Char} (h : separator ∉ token)
    (rest : List Char) :
    splitOn separator (token ++ separator :: rest) = token :: splitOn separator rest := by
  rw [splitOn_eq_listSplitOn, List.splitOn_append_cons_self_of_not_mem h, splitOn_eq_listSplitOn]

theorem splitOn_intercalate {separator : Char} {tokens : List (List Char)} (hne : tokens ≠ [])
    (h : ∀ token ∈ tokens, separator ∉ token) :
    splitOn separator ([separator].intercalate tokens) = tokens := by
  rw [splitOn_eq_listSplitOn, List.splitOn_intercalate separator h hne]

theorem mem_of_mem_intercalate {separator c : Char} {tokens : List (List Char)}
    (h : c ∈ [separator].intercalate tokens) : c = separator ∨ ∃ token ∈ tokens, c ∈ token := by
  induction tokens with
  | nil => cases h
  | cons token later ih =>
    cases later with
    | nil =>
      rw [List.intercalate_singleton] at h
      exact .inr ⟨token, List.mem_singleton_self token, h⟩
    | cons next others =>
      rw [List.intercalate_cons_cons, List.append_assoc, List.mem_append, List.mem_append,
        List.mem_singleton] at h
      rcases h with htoken | hseparator | hlater
      · exact .inr ⟨token, List.mem_cons_self, htoken⟩
      · exact .inl hseparator
      · rcases ih hlater with hseparator | ⟨other, hother, hc⟩
        · exact .inl hseparator
        · exact .inr ⟨other, List.mem_cons_of_mem _ hother, hc⟩

/-- What is in a piece was in the whole, and is no separator. -/
theorem of_mem_splitOnP {α : Type} {test : α → Bool} {whole piece : List α} {x : α}
    (hpiece : piece ∈ whole.splitOnP test) (hx : x ∈ piece) : x ∈ whole ∧ test x = false := by
  induction whole generalizing piece with
  | nil =>
    rw [List.splitOnP_nil, List.mem_singleton] at hpiece
    rw [hpiece] at hx
    cases hx
  | cons first rest ih =>
    have hlater : ∀ later ∈ rest.splitOnP test, x ∈ later → x ∈ first :: rest ∧ test x = false :=
      fun later hmem hlater => ⟨List.mem_cons_of_mem _ (ih hmem hlater).1, (ih hmem hlater).2⟩
    rw [List.splitOnP_cons_eq_if_modifyHead] at hpiece
    split at hpiece
    · rcases List.mem_cons.1 hpiece with rfl | hpiece
      · cases hx
      · exact hlater piece hpiece hx
    next hfirst =>
      obtain ⟨start, others, hpieces⟩ := List.exists_cons_of_ne_nil (List.splitOnP_ne_nil test rest)
      rw [hpieces] at hpiece hlater
      rcases List.mem_cons.1 hpiece with rfl | hpiece
      · rcases List.mem_cons.1 hx with rfl | hx
        · exact ⟨List.mem_cons_self, Bool.eq_false_iff.2 hfirst⟩
        · exact hlater start List.mem_cons_self hx
      · exact hlater piece (List.mem_cons_of_mem _ hpiece) hx

theorem of_mem_splitOn {separator c : Char} {cs token : List Char}
    (htoken : token ∈ splitOn separator cs) (hc : c ∈ token) : c ∈ cs ∧ c ≠ separator := by
  rw [splitOn_eq_listSplitOn, List.splitOn_eq_splitOnP] at htoken
  obtain ⟨hmem, hne⟩ := of_mem_splitOnP htoken hc
  exact ⟨hmem, beq_eq_false_iff_ne.1 hne⟩

theorem cutAt_eq_none {separator : Char} {cs : List Char} (h : separator ∉ cs) :
    cutAt separator cs = (cs, none) := by
  have hdrop : cs.dropWhile (· ≠ separator) = [] := by
    rw [← List.append_nil cs, List.dropWhile_append_of_pos fun c hc => ?_, List.dropWhile_nil]
    exact decide_eq_true (ne_of_mem_of_not_mem hc h)
  rw [cutAt, hdrop]

theorem cutAt_append_cons {separator : Char} {before : List Char} (h : separator ∉ before)
    (after : List Char) :
    cutAt separator (before ++ separator :: after) = (before, some after) := by
  have hbefore : ∀ c ∈ before, decide (c ≠ separator) = true :=
    fun c hc => decide_eq_true (ne_of_mem_of_not_mem hc h)
  rw [cutAt, List.dropWhile_append_of_pos hbefore, List.takeWhile_append_of_pos hbefore]
  simp

theorem of_cutAt_eq_some {separator : Char} {cs before after : List Char}
    (h : cutAt separator cs = (before, some after)) :
    cs = before ++ separator :: after ∧ separator ∉ before := by
  by_cases hmem : separator ∈ cs
  · obtain ⟨first, rest, rfl, hfirst⟩ := List.eq_append_cons_of_mem hmem
    rw [cutAt_append_cons hfirst] at h
    cases h
    exact ⟨rfl, hfirst⟩
  · rw [cutAt_eq_none hmem] at h
    cases h

end SqlResolution.Text
