import Mathlib.Data.List.Basic
import Mathlib.Order.Lattice

/-!
# The entries with a given prefix

In a list that is sorted by its keys, the keys that begin with a given word
stand next to each other. The first of them is where a search for the word
itself ends.
-/

namespace AzerothCore.PrefixRange
open List

variable {α β : Type*} [LinearOrder α]

variable {word : List α} {item : β} {rest : List β}

theorem prefix_not_lt {key : List α} (starts : word <+: key) : ¬ key < word := by
  induction word generalizing key with
  | nil => exact not_lt_nil key
  | cons x word ih =>
    obtain ⟨rest, rfl⟩ := starts
    rw [cons_append, cons_lt_cons_iff]
    rintro (less | ⟨-, less⟩)
    · exact lt_irrefl x less
    · exact ih (prefix_append word rest) less

theorem prefix_of_between {first second : List α} (above : ¬ first < word)
    (below : first < second) (starts : word <+: second) : word <+: first := by
  induction word generalizing first second with
  | nil => exact nil_prefix
  | cons x word ih =>
    obtain ⟨rest, rfl⟩ := starts
    rcases first with _ | ⟨y, first⟩
    · exact absurd (nil_lt_cons x word) above
    rw [cons_append, cons_lt_cons_iff] at below
    rw [cons_lt_cons_iff, not_or, not_and] at above
    have same : y = x := by
      obtain less | ⟨same, -⟩ := below
      · exact absurd less above.1
      · exact same
    obtain rfl := same
    have below : first < word ++ rest := by
      obtain less | ⟨-, below⟩ := below
      · exact absurd less above.1
      · exact below
    exact cons_prefix_cons.mpr
      ⟨rfl, ih (above.2 rfl) below (prefix_append word rest)⟩

variable {key : β → List α}

def SortedBy (key : β → List α) (items : List β) : Prop :=
  items.Pairwise fun first second => key first < key second

theorem SortedBy.tail (sorted : SortedBy key (item :: rest)) : SortedBy key rest :=
  (pairwise_cons.mp sorted).2

theorem SortedBy.above (sorted : SortedBy key (item :: rest)) (above : ¬ key item < word) :
    ∀ other ∈ item :: rest, ¬ key other < word := by
  intro other held below
  obtain rfl | behind := mem_cons.mp held
  · exact above below
  · exact above (List.lt_trans ((pairwise_cons.mp sorted).1 other behind) below)

theorem SortedBy.past (sorted : SortedBy key (item :: rest)) (above : ¬ key item < word)
    (differs : ¬ word <+: key item) : ∀ other ∈ item :: rest, ¬ word <+: key other := by
  intro other held starts
  obtain rfl | behind := mem_cons.mp held
  · exact differs starts
  · have below := (pairwise_cons.mp sorted).1 other behind
    exact differs (prefix_of_between above below starts)

theorem SortedBy.dropWhile {items : List β} (sorted : SortedBy key items) (word : List α) :
    SortedBy key (items.dropWhile fun item => decide (key item < word)) ∧
      (∀ item ∈ items.dropWhile fun item => decide (key item < word), ¬ key item < word) ∧
      ∀ keep : β → Bool, (∀ item, keep item = true → word <+: key item) →
        (items.dropWhile fun item => decide (key item < word)).filter keep = items.filter keep := by
  induction items with
  | nil => exact ⟨sorted, nofun, fun _ _ => rfl⟩
  | cons item rest ih =>
    by_cases below : key item < word
    · rw [dropWhile_cons_of_pos (by simpa using below)]
      obtain ⟨sorted', above, same⟩ := ih sorted.tail
      refine ⟨sorted', above, fun keep starts => ?_⟩
      rw [same keep starts, filter_cons_of_neg]
      exact fun kept => prefix_not_lt (starts item kept) below
    · rw [dropWhile_cons_of_neg (by simpa using below)]
      exact ⟨sorted, sorted.above below, fun _ _ => rfl⟩

theorem SortedBy.first_of_eq {items : List β} {first : β} (sorted : SortedBy key items)
    {keep : β → Bool} (kept : items.filter keep = first :: rest) (held : item ∈ items)
    (keeps : keep item = true) (same : key item = word)
    (starts : ∀ other, keep other = true → word <+: key other) : item = first := by
  have sorted_kept : SortedBy key (first :: rest) :=
    kept ▸ List.Pairwise.sublist filter_sublist sorted
  have held : item ∈ first :: rest := kept ▸ mem_filter.mpr ⟨held, keeps⟩
  obtain rfl | behind := mem_cons.mp held
  · rfl
  · have below := (pairwise_cons.mp sorted_kept).1 item behind
    have first_kept : keep first = true := by
      have : first ∈ items.filter keep := kept ▸ mem_cons_self
      exact (mem_filter.mp this).2
    rw [same] at below
    exact absurd below (prefix_not_lt (starts first first_kept))

end AzerothCore.PrefixRange
