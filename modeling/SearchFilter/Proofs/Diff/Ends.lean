import SearchFilter.Diff.Compare

/-! # The lists at the two ends of a script

A script is divided, its stretches are moved and joined, and at last they are ordered; none of this
may lose an item or change the order of the items of either list.  So every move is a chain of
exchanges of neighbours that leave a script between the same lists (`Script.SameEnds`): a deletion
and an insertion change places, two stretches of one kind are joined, and an inserted block takes
the item that it ends with from the kept one above it.  Whatever the point is at which two lists are
divided, the script of the parts stands between them (`divide_ends`), and so does the script that is
made of it in the end (`between_ends`). -/

namespace SearchFilter.Diff

variable {α : Type}

/-! ### Scripts between the same lists -/

/-- The two scripts stand between the same lists. -/
def Script.SameEnds (s t : Script α) : Prop :=
  s.before = t.before ∧ s.after = t.after

namespace Script

variable {s t u : Script α}

theorem SameEnds.trans (h : SameEnds s t) (h' : SameEnds t u) : SameEnds s u :=
  ⟨h.1.trans h'.1, h.2.trans h'.2⟩

end Script

open Script

/-! ### Moving deletions -/

/-- The script with the stretch that is being moved at its place. -/
def Place.script (edit : List α → Edit α) (p : Place α) : Script α :=
  p.above.reverse ++ edit p.block :: p.below

theorem Place.reverse_append (edit : List α → Edit α) (p : Place α) :
    (edit p.block :: p.above).reverse ++ p.below = p.script edit := by
  simp [script]

theorem sameEnds_raiseDeletion (block : List α) (above below : Script α) :
    SameEnds ((raiseDeletion block above below).script .delete)
      (above.reverse ++ .delete block :: below) := by
  fun_induction raiseDeletion block above below with
  | case1 block xs above below ih => exact ih.trans ⟨by simp, by simp⟩
  | case2 block xs above below ih => exact ih.trans ⟨by simp, by simp⟩
  | case3 block above below => exact ⟨rfl, rfl⟩

theorem sameEnds_lowerDeletion (block : List α) (below above : Script α) :
    SameEnds ((lowerDeletion block below above).script .delete)
      (above.reverse ++ .delete block :: below) := by
  fun_induction lowerDeletion block below above with
  | case1 block xs below above ih => exact ih.trans ⟨by simp, by simp⟩
  | case2 block xs below above ih => exact ih.trans ⟨by simp, by simp⟩
  | case3 block below above => exact ⟨rfl, rfl⟩

/-! ### Moving insertions -/

theorem sameEnds_keepAbove (xs : List α) (below : Script α) :
    SameEnds (keepAbove xs below) (.keep xs :: below) := by
  unfold keepAbove
  split
  · exact ⟨by simp, by simp⟩
  · exact ⟨by simp, by simp⟩

theorem sameEnds_keepBelow (xs : List α) (above : Script α) :
    SameEnds (keepBelow xs above).reverse (above.reverse ++ [.keep xs]) := by
  unfold keepBelow
  split
  · exact ⟨by simp, by simp⟩
  · unfold keeping
    split <;> simp_all [SameEnds]

section insertions

variable [DecidableEq α]

/-- Items that a block passes on its way up change neither what is kept nor what is there in the
end. -/
theorem turnUp_ends (kept block passed : List α) :
    let (left, block', passed') := turnUp kept block passed
    left.reverse ++ passed' = kept.reverse ++ passed ∧
      left.reverse ++ (block' ++ passed') = kept.reverse ++ (block ++ passed) := by
  fun_induction turnUp kept block passed with
  | case1 block passed => exact ⟨rfl, rfl⟩
  | case2 x kept block passed hlast ih =>
      obtain ⟨init, rfl⟩ := List.getLast?_eq_some_iff.mp hlast
      simpa using ih
  | case3 x kept block passed hlast => exact ⟨rfl, rfl⟩

theorem turnDown_ends (kept block passed : List α) :
    let (left, block', passed') := turnDown kept block passed
    passed'.reverse ++ left = passed.reverse ++ kept ∧
      passed'.reverse ++ (block' ++ left) = passed.reverse ++ (block ++ kept) := by
  fun_induction turnDown kept block passed with
  | case1 block passed => exact ⟨rfl, rfl⟩
  | case2 x kept block passed hhead ih =>
      obtain ⟨tail, rfl⟩ := List.head?_eq_some_iff.mp hhead
      simpa using ih
  | case3 x kept block passed hhead => exact ⟨rfl, rfl⟩

/-- A block that was turned up, with what is left of the kept stretch above it and the passed items
below it. -/
theorem sameEnds_turnUp {xs block left block' passed : List α}
    (h : turnUp xs.reverse block [] = (left, block', passed)) (below : Script α) :
    SameEnds (.keep left.reverse :: .insert block' :: keepAbove passed below)
      (.keep xs :: .insert block :: below) := by
  have hends := turnUp_ends xs.reverse block []
  rw [h] at hends
  obtain ⟨hbefore, hafter⟩ := sameEnds_keepAbove passed below
  constructor
  · simpa [hbefore] using congrArg (· ++ below.before) hends.1
  · simpa [hafter] using congrArg (· ++ below.after) hends.2

theorem sameEnds_turnDown {xs block left block' passed : List α}
    (h : turnDown xs block [] = (left, block', passed)) (above below : Script α) :
    SameEnds ((keepBelow passed.reverse above).reverse ++ .insert block' :: .keep left :: below)
      (above.reverse ++ .insert block :: .keep xs :: below) := by
  have hends := turnDown_ends xs block []
  rw [h] at hends
  obtain ⟨hbefore, hafter⟩ := sameEnds_keepBelow passed.reverse above
  constructor
  · simpa [hbefore] using congrArg (· ++ below.before) hends.1
  · simpa [hafter] using congrArg (· ++ below.after) hends.2

theorem sameEnds_raiseInsertion (block : List α) (above below : Script α) :
    SameEnds ((raiseInsertion block above below).script .insert)
      (above.reverse ++ .insert block :: below) := by
  fun_induction raiseInsertion block above below with
  | case1 block xs above below block' passed hturn ih =>
      -- the block has passed the whole stretch and goes on
      have hmove := sameEnds_turnUp hturn below
      exact ih.trans ⟨by simpa using hmove.1, by simpa using hmove.2⟩
  | case2 block xs above below left block' passed hleft hturn =>
      have hmove := sameEnds_turnUp hturn below
      exact ⟨by simpa [Place.script] using hmove.1, by simpa [Place.script] using hmove.2⟩
  | case3 block xs above below ih => exact ih.trans ⟨by simp, by simp⟩
  | case4 block xs above below ih => exact ih.trans ⟨by simp, by simp⟩
  | case5 block below => exact ⟨rfl, rfl⟩

theorem sameEnds_lowerInsertion (block : List α) (below above : Script α) :
    SameEnds ((lowerInsertion block below above).script .insert)
      (above.reverse ++ .insert block :: below) := by
  fun_induction lowerInsertion block below above with
  | case1 block xs below above block' passed hturn ih =>
      have hmove := sameEnds_turnDown hturn above below
      exact ih.trans ⟨by simpa using hmove.1, by simpa using hmove.2⟩
  | case2 block xs below above left block' passed hleft hturn =>
      exact sameEnds_turnDown hturn above below
  | case3 block xs below above ih => exact ih.trans ⟨by simp, by simp⟩
  | case4 block xs below above ih => exact ih.trans ⟨by simp, by simp⟩
  | case5 block above => exact ⟨rfl, rfl⟩

end insertions

/-! ### Settling -/

/-- A stretch that was moved up from its place and then down may stand for what was there. -/
theorem sameEnds_moved {edit : List α → Edit α} {raised lowered : Place α} {xs : List α}
    {skipped above rest : Script α}
    (hlowered : SameEnds (lowered.script edit) (raised.script edit))
    (hraised : SameEnds (raised.script edit)
      ((skipped.reverse ++ above).reverse ++ edit xs :: rest)) :
    SameEnds ((edit lowered.block :: lowered.above).reverse ++ lowered.below)
      (above.reverse ++ (skipped ++ edit xs :: rest)) := by
  rw [Place.reverse_append]
  simpa using hlowered.trans hraised

theorem sameEnds_settleDeletions (rounds : Nat) (above below : Script α) :
    SameEnds (settleDeletions rounds above below) (above.reverse ++ below) := by
  fun_induction settleDeletions rounds above below with
  | case1 above below => exact ⟨rfl, rfl⟩
  | case2 rounds above below skipped xs rest hrest raised lowered ih =>
      have hbelow : below = skipped ++ .delete xs :: rest := by
        rw [← hrest, List.takeWhile_append_dropWhile]
      have hlowered : SameEnds (lowered.script .delete) (raised.script .delete) :=
        sameEnds_lowerDeletion raised.block raised.below raised.above
      have hraised := sameEnds_raiseDeletion xs (skipped.reverse ++ above) rest
      rw [hbelow]
      exact ih.trans (sameEnds_moved hlowered hraised)
  | case3 rounds above below skipped hrest =>
      rw [List.append_assoc, List.takeWhile_append_dropWhile]
      exact ⟨rfl, rfl⟩

theorem sameEnds_settleInsertions [DecidableEq α] (rounds : Nat) (above below : Script α) :
    SameEnds (settleInsertions rounds above below) (above.reverse ++ below) := by
  fun_induction settleInsertions rounds above below with
  | case1 above below => exact ⟨rfl, rfl⟩
  | case2 rounds above below skipped xs rest hrest raised lowered ih =>
      have hbelow : below = skipped ++ .insert xs :: rest := by
        rw [← hrest, List.takeWhile_append_dropWhile]
      have hlowered : SameEnds (lowered.script .insert) (raised.script .insert) :=
        sameEnds_lowerInsertion raised.block raised.below raised.above
      have hraised := sameEnds_raiseInsertion xs (skipped.reverse ++ above) rest
      rw [hbelow]
      exact ih.trans (sameEnds_moved hlowered hraised)
  | case3 rounds above below skipped hrest =>
      rw [List.append_assoc, List.takeWhile_append_dropWhile]
      exact ⟨rfl, rfl⟩

/-! ### Ordering -/

theorem sameEnds_orderedAfter (gone come : List α) (script : Script α) :
    SameEnds (orderedAfter gone come script) (.delete gone :: .insert come :: script) := by
  fun_induction orderedAfter gone come script with
  | case1 gone come => exact ⟨rfl, rfl⟩
  | case2 gone come xs script ih =>
      obtain ⟨hbefore, hafter⟩ := ih
      exact ⟨by simp [hbefore], by simp [hafter]⟩
  | case3 gone come xs script ih => exact ih.trans ⟨by simp, by simp⟩
  | case4 gone come xs script ih => exact ih.trans ⟨by simp, by simp⟩

theorem sameEnds_ordered (script : Script α) : SameEnds (ordered script) script :=
  (sameEnds_orderedAfter [] [] script).trans ⟨rfl, rfl⟩

/-! ### Dividing -/

variable [DecidableEq α]

theorem sharedStart_prefix (xs ys : List α) :
    sharedStart xs ys <+: xs ∧ sharedStart xs ys <+: ys := by
  fun_induction sharedStart xs ys with
  | case1 xs y ys ih =>
      exact ⟨List.cons_prefix_cons.mpr ⟨rfl, ih.1⟩, List.cons_prefix_cons.mpr ⟨rfl, ih.2⟩⟩
  | case2 => exact ⟨List.nil_prefix, List.nil_prefix⟩
  | case3 => exact ⟨List.nil_prefix, List.nil_prefix⟩

theorem sharedEnd_suffix (xs ys : List α) : sharedEnd xs ys <:+ xs ∧ sharedEnd xs ys <:+ ys := by
  obtain ⟨hxs, hys⟩ := sharedStart_prefix xs.reverse ys.reverse
  rw [← List.reverse_suffix, List.reverse_reverse] at hxs hys
  exact ⟨hxs, hys⟩

omit [DecidableEq α] in
/-- What two lists share at both ends, and what is left of one of them between. -/
theorem eq_append_append {start finish xs : List α} (hstart : start <+: xs)
    (hfinish : finish <:+ xs.drop start.length) :
    let left := xs.drop start.length
    start ++ (left.take (left.length - finish.length) ++ finish) = xs := by
  intro left
  rw [List.suffix_iff_eq_append.mp hfinish, List.prefix_iff_eq_append.mp hstart]

theorem divide_ends (rounds : Nat) (xs ys : List α) :
    (divide rounds xs ys).before = xs ∧ (divide rounds xs ys).after = ys := by
  unfold divide
  extract_lets start xs' ys' finish xs'' ys'' inner
  obtain ⟨hstartx, hstarty⟩ := sharedStart_prefix xs ys
  obtain ⟨hfinishx, hfinishy⟩ := sharedEnd_suffix xs' ys'
  have hinner : inner.before = xs'' ∧ inner.after = ys'' := by
    unfold inner
    split
    · simp_all
    · split
      · simp_all
      · split
        · simp_all
        · split
          · rename_i rounds i j hmiddle
            have hfirst := divide_ends rounds (xs''.take i) (ys''.take j)
            have hsecond := divide_ends rounds (xs''.drop i) (ys''.drop j)
            simp [hfirst, hsecond]
          · simp
  have hxs : start ++ (xs'' ++ finish) = xs := eq_append_append hstartx hfinishx
  have hys : start ++ (ys'' ++ finish) = ys := eq_append_append hstarty hfinishy
  exact ⟨by simpa [hinner] using hxs, by simpa [hinner] using hys⟩
termination_by rounds

theorem between_ends (xs ys : List α) :
    (Script.between xs ys).before = xs ∧ (Script.between xs ys).after = ys := by
  obtain ⟨hbefore, hafter⟩ := divide_ends (xs.length + ys.length) xs ys
  unfold Script.between
  extract_lets divided settled
  have hsettled : SameEnds settled divided := sameEnds_settleDeletions _ [] divided
  have hmoved := sameEnds_settleInsertions (settled.countP Edit.isInsert) [] settled
  have hall := (sameEnds_ordered _).trans (hmoved.trans hsettled)
  exact ⟨hall.1.trans hbefore, hall.2.trans hafter⟩

end SearchFilter.Diff
