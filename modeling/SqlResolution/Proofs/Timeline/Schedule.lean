import Mathlib.Data.List.Dedup
import Mathlib.Data.List.Sort
import SqlResolution.Timeline

/-!
# The order of what is to come

Deliveries are put on the agenda one by one, each behind all that are not later. What comes of
this can be said at once: the deliveries of the earliest instant stand first, in the order in
which they were put there, then those of the next instant, and so on.

For a list in order of time is determined by what it holds of each instant. The agenda is in
order, and so is the list that is put together instant by instant; and of each instant both
hold what there was before, in the same order.
-/

namespace SqlResolution.Schedule

section Order

variable {α κ : Type} [LinearOrder κ] (key : α → κ) {l m : List α}

/-- The instants at which something happens, in increasing order. -/
def instants (l : List α) : List κ :=
  (l.map key).dedup.insertionSort (· ≤ ·)

/-- What happens at an instant. -/
def during (l : List α) (instant : κ) : List α :=
  l.filter fun a => key a = instant

/-- All that happens, instant by instant. -/
def inOrder (l : List α) : List α :=
  (instants key l).flatMap (during key l)

def IsOrdered (l : List α) : Prop :=
  l.Pairwise fun a b => key a ≤ key b

variable {key}

theorem mem_during {a : α} {instant : κ} :
    a ∈ during key l instant ↔ a ∈ l ∧ key a = instant := by
  rw [during, List.mem_filter, decide_eq_true_iff]

theorem mem_instants {instant : κ} : instant ∈ instants key l ↔ ∃ a ∈ l, key a = instant := by
  rw [instants, List.mem_insertionSort, List.mem_dedup, List.mem_map]

theorem pairwise_instants (l : List α) : (instants key l).Pairwise (· < ·) := by
  have hdistinct : (instants key l).Nodup :=
    (List.perm_insertionSort (· ≤ ·) _).nodup_iff.2 (List.nodup_dedup _)
  exact (List.pairwise_insertionSort (· ≤ ·) _).imp₂ (fun _ _ => lt_of_le_of_ne) hdistinct

/-- Of two ordered lists that agree on each instant, the first entries are at the same instant. -/
theorem head_le_head {a b : α} (hm : IsOrdered key (b :: m))
    (hagree : ∀ instant, during key (a :: l) instant = during key (b :: m) instant) :
    key b ≤ key a := by
  have hmem : a ∈ during key (b :: m) (key a) := by
    rw [← hagree]
    exact mem_during.2 ⟨List.mem_cons_self, rfl⟩
  rcases List.mem_cons.1 (mem_during.1 hmem).1 with rfl | hlater
  · exact le_refl _
  · exact (List.pairwise_cons.1 hm).1 a hlater

/-- An ordered list is determined by what it holds of each instant. -/
theorem eq_of_during_eq (hl : IsOrdered key l) (hm : IsOrdered key m)
    (hagree : ∀ instant, during key l instant = during key m instant) : l = m := by
  induction l generalizing m with
  | nil =>
    cases m with
    | nil => rfl
    | cons b m =>
      have hfirst := hagree (key b)
      simp [during] at hfirst
  | cons a l ih =>
    cases m with
    | nil =>
      have hfirst := hagree (key a)
      simp [during] at hfirst
    | cons b m =>
      have hkey : key a = key b :=
        le_antisymm (head_le_head hl fun instant => (hagree instant).symm) (head_le_head hm hagree)
      have hfirst := hagree (key a)
      simp only [during, List.filter_cons, hkey, decide_true, if_true] at hfirst
      obtain ⟨rfl, -⟩ := List.cons.inj hfirst
      rw [ih (List.pairwise_cons.1 hl).2 (List.pairwise_cons.1 hm).2]
      intro instant
      have hrest := hagree instant
      simp only [during, List.filter_cons] at hrest
      split at hrest
      · exact (List.cons.inj hrest).2
      · exact hrest

theorem isOrdered_inOrder (l : List α) : IsOrdered key (inOrder key l) := by
  refine List.pairwise_flatMap.2 ⟨?_, ?_⟩
  · intro instant hinstant
    refine List.pairwise_of_forall_mem_list ?_
    intro a ha b hb
    exact le_of_eq ((mem_during.1 ha).2.trans (mem_during.1 hb).2.symm)
  · refine (pairwise_instants l).imp ?_
    intro earlier later hlt a ha b hb
    rw [(mem_during.1 ha).2, (mem_during.1 hb).2]
    exact le_of_lt hlt

theorem flatMap_ite_eq {instants : List κ} (hdistinct : instants.Nodup) (instant : κ)
    (found : List α) :
    instants.flatMap (fun other => if other = instant then found else []) =
      if instant ∈ instants then found else [] := by
  induction instants with
  | nil => rfl
  | cons first rest ih =>
    have hnodup := List.nodup_cons.1 hdistinct
    rw [List.flatMap_cons, ih hnodup.2]
    by_cases hfirst : first = instant
    · subst hfirst
      simp [hnodup.1]
    · simp [hfirst, Ne.symm hfirst]

theorem during_inOrder (l : List α) (instant : κ) :
    during key (inOrder key l) instant = during key l instant := by
  have hpart : ∀ other, (during key l other).filter (fun a => key a = instant) =
      if other = instant then during key l instant else [] := by
    intro other
    split
    next hsame =>
      subst hsame
      rw [during, List.filter_filter]
      simp
    next hne =>
      rw [List.filter_eq_nil_iff]
      intro a ha
      rw [(mem_during.1 ha).2, decide_eq_true_iff]
      exact hne
  have hdistinct : (instants key l).Nodup := (pairwise_instants l).imp ne_of_lt
  rw [inOrder, during, List.filter_flatMap]
  simp only [hpart]
  rw [flatMap_ite_eq hdistinct]
  split
  · rfl
  next hmissing =>
    refine (List.filter_eq_nil_iff.2 ?_).symm
    intro a ha hkey
    exact hmissing (mem_instants.2 ⟨a, ha, decide_eq_true_iff.1 hkey⟩)

theorem mem_inOrder {a : α} : a ∈ inOrder key l ↔ a ∈ l := by
  have hsame : during key (inOrder key l) (key a) = _ := during_inOrder l (key a)
  constructor
  · intro ha
    have hduring : a ∈ during key (inOrder key l) (key a) := mem_during.2 ⟨ha, rfl⟩
    rw [hsame] at hduring
    exact (mem_during.1 hduring).1
  · intro ha
    have hduring : a ∈ during key l (key a) := mem_during.2 ⟨ha, rfl⟩
    rw [← hsame] at hduring
    exact (mem_during.1 hduring).1

end Order

/-! ## The agenda -/

section Agenda

variable {agenda : List Delivery}

theorem mem_insert_iff {delivery other : Delivery} :
    other ∈ delivery.insert agenda ↔ other = delivery ∨ other ∈ agenda := by
  induction agenda with
  | nil => exact List.mem_singleton.trans (by simp)
  | cons first rest ih =>
    rw [Delivery.insert]
    split
    · rw [List.mem_cons, List.mem_cons, ih]
      exact or_left_comm
    · exact List.mem_cons

theorem mem_foldl_insert {other : Delivery} {deliveries : List Delivery}
    (h : other ∈ deliveries.foldl (fun agenda d => d.insert agenda) agenda) :
    other ∈ deliveries ∨ other ∈ agenda := by
  induction deliveries generalizing agenda with
  | nil => exact .inr h
  | cons delivery rest ih =>
    rcases ih h with hrest | hagenda
    · exact .inl (List.mem_cons_of_mem _ hrest)
    · rcases mem_insert_iff.1 hagenda with rfl | hold
      · exact .inl List.mem_cons_self
      · exact .inr hold

theorem isOrdered_insert (h : IsOrdered Delivery.time agenda) (delivery : Delivery) :
    IsOrdered Delivery.time (delivery.insert agenda) := by
  induction agenda with
  | nil => exact List.pairwise_singleton _ _
  | cons first rest ih =>
    have hcons := List.pairwise_cons.1 h
    rw [Delivery.insert]
    split
    next hle =>
      refine List.pairwise_cons.2 ⟨?_, ih hcons.2⟩
      intro other hmem
      rcases mem_insert_iff.1 hmem with rfl | hrest
      · exact hle
      · exact hcons.1 other hrest
    next hlt =>
      have hlt : delivery.time ≤ first.time := Int.le_of_lt (Int.not_le.1 hlt)
      refine List.pairwise_cons.2 ⟨?_, h⟩
      intro other hmem
      rcases List.mem_cons.1 hmem with rfl | hrest
      · exact hlt
      · exact Int.le_trans hlt (hcons.1 other hrest)

/-- A delivery comes in behind all others of its instant. -/
theorem during_insert (h : IsOrdered Delivery.time agenda) (delivery : Delivery)
    (instant : Instant) :
    during Delivery.time (delivery.insert agenda) instant =
      during Delivery.time agenda instant ++ during Delivery.time [delivery] instant := by
  induction agenda with
  | nil => rfl
  | cons first rest ih =>
    have hcons := List.pairwise_cons.1 h
    rw [Delivery.insert]
    split
    · have hrest := ih hcons.2
      simp only [during, List.filter_cons] at hrest ⊢
      rw [hrest]
      split <;> rfl
    next hlt =>
      by_cases hinstant : delivery.time = instant
      · have hnone : during Delivery.time (first :: rest) instant = [] := by
          refine List.filter_eq_nil_iff.2 ?_
          intro other hmem htime
          have htime : other.time = delivery.time :=
            (decide_eq_true_iff.1 htime).trans hinstant.symm
          refine hlt (Int.le_trans ?_ (Int.le_of_eq htime))
          rcases List.mem_cons.1 hmem with rfl | hrest
          · exact Int.le_refl _
          · exact hcons.1 other hrest
        rw [hnone, during, List.filter_cons]
        have hrest : (first :: rest).filter (fun other => other.time = instant) = [] := hnone
        rw [hrest]
        simp [during, hinstant]
      · simp [during, List.filter_cons, hinstant]

theorem foldl_insert (deliveries agenda : List Delivery) (h : IsOrdered Delivery.time agenda) :
    IsOrdered Delivery.time (deliveries.foldl (fun agenda d => d.insert agenda) agenda) ∧
      ∀ instant, during Delivery.time
        (deliveries.foldl (fun agenda d => d.insert agenda) agenda) instant =
          during Delivery.time agenda instant ++ during Delivery.time deliveries instant := by
  induction deliveries generalizing agenda with
  | nil => exact ⟨h, fun instant => (List.append_nil _).symm⟩
  | cons delivery rest ih =>
    obtain ⟨hordered, hduring⟩ := ih (delivery.insert agenda) (isOrdered_insert h delivery)
    refine ⟨hordered, ?_⟩
    intro instant
    rw [List.foldl_cons, hduring, during_insert h, List.append_assoc]
    congr 1
    exact (List.filter_append _ _).symm

/-- An agenda that was empty holds, instant by instant, what was put on it. The instants may be
counted otherwise than the clock does, as long as they are in the same order. -/
theorem foldl_insert_eq {α κ : Type} [LinearOrder κ] (key : α → κ) (deliver : α → Delivery)
    (l : List α)
    (horder : ∀ a ∈ l, ∀ b ∈ l, (deliver a).time ≤ (deliver b).time ↔ key a ≤ key b) :
    (l.map deliver).foldl (fun agenda d => d.insert agenda) [] =
      (inOrder key l).map deliver := by
  obtain ⟨hordered, hduring⟩ := foldl_insert (l.map deliver) [] List.Pairwise.nil
  refine eq_of_during_eq hordered ?_ ?_
  · refine List.pairwise_map.2 ((isOrdered_inOrder l).imp_of_mem ?_)
    intro a b ha hb hle
    exact (horder a (mem_inOrder.1 ha) b (mem_inOrder.1 hb)).2 hle
  · intro instant
    have hsame : ∀ m : List α, (∀ a ∈ m, a ∈ l) → ∀ b ∈ l, (deliver b).time = instant →
        m.filter (fun a => (deliver a).time = instant) = during key m (key b) := by
      intro m hm b hb htime
      refine List.filter_congr ?_
      intro a ha
      rw [← htime, decide_eq_decide, Int.le_antisymm_iff, horder a (hm a ha) b hb,
        horder b hb a (hm a ha)]
      exact le_antisymm_iff.symm
    have hmap : ∀ m : List α, during Delivery.time (m.map deliver) instant =
        (m.filter fun a => (deliver a).time = instant).map deliver := fun m => List.filter_map
    rw [hduring, hmap, hmap]
    show [] ++ _ = _
    rw [List.nil_append]
    congr 1
    by_cases hoccurs : ∃ b ∈ l, (deliver b).time = instant
    · obtain ⟨b, hb, htime⟩ := hoccurs
      rw [hsame l (fun _ ha => ha) b hb htime,
        hsame (inOrder key l) (fun _ ha => mem_inOrder.1 ha) b hb htime, during_inOrder]
    · have hnone : ∀ m : List α, (∀ a ∈ m, a ∈ l) →
          m.filter (fun a => (deliver a).time = instant) = [] := by
        intro m hm
        refine List.filter_eq_nil_iff.2 ?_
        intro a ha htime
        exact hoccurs ⟨a, hm a ha, decide_eq_true_iff.1 htime⟩
      rw [hnone l fun _ ha => ha, hnone (inOrder key l) fun _ ha => mem_inOrder.1 ha]

end Agenda

end SqlResolution.Schedule
