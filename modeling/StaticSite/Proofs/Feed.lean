import StaticSite.Feed
import StaticSite.Proofs.Fault
import StaticSite.Proofs.Page.Address
import StaticSite.Proofs.Text.Sorting

/-!
# The order and the addresses of posts

A feed lists its posts from the newest to the oldest, and posts of one moment as they were found.
The address of a post is that of its page.
-/

namespace StaticSite

namespace Feed

open Page

variable {entries : List FeedEntry} {entry : FeedEntry} {fields : Fields} {path base : Path}
  {address : Text} {folder : List Text} {stem : Text}

/-- An entry is made from the stamp of its document. -/
theorem stamp_of_entry (known : Feed.entry path fields address base = .ok entry) :
    fields.get? "date" = some entry.publishedText ∧
      Calendar.parseStamp entry.publishedText (some path.text) = .ok entry.published := by
  unfold Feed.entry at known
  dsimp only at known
  split at known
  · cases known
  · next nonempty =>
      obtain ⟨link, -, known⟩ := bind_eq_ok_iff.1 known
      obtain ⟨published, parsed, known⟩ := bind_eq_ok_iff.1 known
      cases known
      refine ⟨?_, parsed⟩
      unfold Fields.value Dictionary.getD at nonempty ⊢
      cases stamped : fields.get? "date".toList with
      | none =>
          rw [stamped] at nonempty
          exact absurd rfl nonempty
      | some stamp => rfl

theorem notOlder_trans (first second third : FeedEntry) (one : notOlder first second = true)
    (two : notOlder second third = true) : notOlder first third = true := by
  simp only [notOlder, decide_eq_true_eq] at one two ⊢
  omega

theorem notOlder_total (first second : FeedEntry) :
    (notOlder first second || notOlder second first) = true := by
  simp only [notOlder, Bool.or_eq_true, decide_eq_true_eq]
  omega

theorem pairwise_notOlder (entries : List FeedEntry) :
    (sort entries).Pairwise fun first second => notOlder first second = true :=
  List.pairwise_mergeSort notOlder_trans notOlder_total entries

theorem sort_perm (entries : List FeedEntry) : (sort entries).Perm entries :=
  List.mergeSort_perm _ _

/-- The entries of one moment keep their order. -/
theorem filter_sort (entries : List FeedEntry) (seconds : Nat) :
    (sort entries).filter (fun entry => entry.published.toSeconds == seconds) =
      entries.filter fun entry => entry.published.toSeconds == seconds := by
  have ties : (entries.filter fun entry => entry.published.toSeconds == seconds).Pairwise
      fun first second => notOlder first second = true := by
    apply List.pairwise_of_forall_mem_list
    intro first one second two
    have both := And.intro (List.mem_filter.1 one).2 (List.mem_filter.1 two).2
    simp only [beq_iff_eq] at both
    simp [notOlder, both]
  have inside := (List.sublist_mergeSort notOlder_trans notOlder_total ties
    List.filter_sublist).filter fun entry => entry.published.toSeconds == seconds
  simp only [List.filter_filter, Bool.and_self] at inside
  exact (inside.eq_of_length ((sort_perm entries).filter _).length_eq.symm).symm

/-- Entries in the order of their names are sorted by moments and then by names. -/
theorem pairwise_sort
    (named : entries.Pairwise fun first second =>
      Text.lessEqual first.source.name second.source.name = true) :
    (sort entries).Pairwise fun first second =>
      second.published.toSeconds ≤ first.published.toSeconds ∧
        (second.published.toSeconds = first.published.toSeconds →
          Text.lessEqual first.source.name second.source.name = true) := by
  rw [List.pairwise_iff_forall_sublist]
  intro first second pair
  have notOlder := (List.pairwise_iff_forall_sublist.1 (pairwise_notOlder entries)) pair
  refine ⟨by simpa [Feed.notOlder] using notOlder, fun same => ?_⟩
  have tied := pair.filter fun entry => entry.published.toSeconds == first.published.toSeconds
  rw [filter_sort] at tied
  simp only [List.filter_cons, beq_self_eq_true, same, if_true, List.filter_nil] at tied
  exact List.pairwise_iff_forall_sublist.1 named (tied.trans List.filter_sublist)

theorem entry_eq_ok (known : Feed.entry path fields address base = .ok entry) :
    entry.source = path ∧ postLink path address base = .ok entry.link := by
  unfold Feed.entry at known
  dsimp only at known
  split at known
  · cases known
  · obtain ⟨link, linked, known⟩ := bind_eq_ok_iff.1 known
    obtain ⟨published, -, known⟩ := bind_eq_ok_iff.1 known
    cases known
    exact ⟨rfl, linked⟩

/-- The entry of a document is found by its path, and there is no other. -/
theorem filter_source_sort (distinct : (entries.map FeedEntry.source).Nodup)
    (member : entry ∈ entries) :
    (sort entries).filter (fun other => other.source = entry.source) = [entry] := by
  have alone : entries.filter (fun other => other.source = entry.source) = [entry] := by
    induction entries with
    | nil => cases member
    | cons first rest ih =>
        rw [List.map_cons, List.nodup_cons] at distinct
        rcases List.mem_cons.1 member with rfl | later
        · rw [List.filter_cons_of_pos (by simp), List.filter_eq_nil_iff.2]
          intro other inside same
          exact distinct.1 (by simpa using ⟨other, inside, of_decide_eq_true same⟩)
        · rw [List.filter_cons_of_neg, ih distinct.2 later]
          simp only [decide_eq_true_eq]
          intro same
          exact distinct.1 (same ▸ List.mem_map_of_mem later)
  have permuted := (sort_perm entries).filter fun other => decide (other.source = entry.source)
  rw [alone] at permuted
  exact List.perm_singleton.1 permuted

end Feed

end StaticSite
