import AzerothCore.Chat.ChatCommand
import AzerothCore.Collections.StdMap
import Mathlib.Data.List.Lex

/-!
# Values of an enumeration as arguments

`ArgInfo` of an enumeration looks a token up in a map of names. Two names that differ in their
case only are one key of the map, so that a key is a folded name here.
-/

namespace AzerothCore.Chat.EnumArgument
open List ChatCommand CommandSelection PrefixRange

structure EnumText where
  Title : List Char
  Constant : List Char

variable {T : Type}

abbrev SearchMap (T : Type) := StdMap (List ℤ) (Option T)

/-- `try_emplace`, and `nullopt` for a name that was there before. -/
def enter (map : SearchMap T) (name : List Char) (val : T) : SearchMap T :=
  match map.find? (folded name) with
  | none => map.insert (folded name) (some val)
  | some _ => map.insert (folded name) none

/-- A round of the loop of `MakeSearchMap`, which gives the title to both calls. -/
def enterNames (ToString : T → EnumText) (map : SearchMap T) (val : T) : SearchMap T :=
  let title := (ToString val).Title
  let constant := (ToString val).Constant
  let map := enter map title val
  if title ≠ constant then enter map title val else map

def MakeSearchMap (values : List T) (ToString : T → EnumText) : SearchMap T :=
  values.foldl (enterNames ToString) .empty

/-- The search begins at `lower_bound`. -/
def Match (map : SearchMap T) (s : List Char) : Option T :=
  match map.entries.dropWhile fun entry => decide (entry.1 < folded s) with
  | [] => none
  | it :: rest =>
    if !(folded s).isPrefixOf it.1 then none
    else if it.1 ≠ folded s ∧ rest.head?.any fun it2 => (folded s).isPrefixOf it2.1 then none
    else it.2

structure Enumeration (T : Type) where
  values : List T
  ToString : T → EnumText
  titles : ∀ val ∈ values, ∀ other ∈ values,
    folded (ToString val).Title = folded (ToString other).Title → val = other
  constants : ∀ val ∈ values, ∀ other ∈ values,
    folded (ToString val).Title = folded (ToString other).Constant → val = other
  nodup : values.Nodup

namespace Enumeration

variable (enum : Enumeration T)

def map : SearchMap T := MakeSearchMap enum.values enum.ToString

def Equals (s : List Char) (val : T) : Prop :=
  StringEqualI s (enum.ToString val).Title ∨ StringEqualI s (enum.ToString val).Constant

def Begins (s : List Char) (val : T) : Prop :=
  StringStartsWithI (enum.ToString val).Title s ∨ StringStartsWithI (enum.ToString val).Constant s

/-- The token is a name of the value, or no name but the beginning of names of this value only. -/
def Selects (s : List Char) (val : T) : Prop :=
  val ∈ enum.values ∧ (enum.Equals s val ∨ (∀ other ∈ enum.values, ¬enum.Equals s other) ∧
    enum.Begins s val ∧ ∀ other ∈ enum.values, enum.Begins s other → other = val)

abbrev Plain (val : T) : Prop := (enum.ToString val).Title = (enum.ToString val).Constant

variable {enum} {table : SearchMap T} {key : List ℤ} {val : T} {found : Option T} {s : List Char}

theorem find?_enter (table : SearchMap T) (name : List Char) (val : T) (key : List ℤ) :
    (enter table name val).find? key = if folded name = key then
      some (if table.find? (folded name) = none then some val else none)
      else table.find? key := by
  unfold enter
  split <;> rw [StdMap.find?_insert] <;> grind

theorem find?_enterNames (hnew : table.find? (folded (enum.ToString val).Title) = none) :
    (enterNames enum.ToString table val).find? key = some found ↔
      (folded (enum.ToString val).Title = key ∧
        found = if enum.Plain val then some val else none) ∨ table.find? key = some found := by
  have hsame : folded (enum.ToString val).Title = key → table.find? key ≠ some found := by
    rintro rfl
    rw [hnew]
    rintro ⟨⟩
  unfold enterNames
  dsimp only
  split <;> simp only [find?_enter, hnew] <;> grind

theorem find?_foldl {values : List T} (hsub : ∀ val ∈ values, val ∈ enum.values)
    (hnodup : values.Nodup)
    (hnew : ∀ val ∈ values, table.find? (folded (enum.ToString val).Title) = none) :
    (values.foldl (enterNames enum.ToString) table).find? key = some found ↔
      (∃ val ∈ values, folded (enum.ToString val).Title = key ∧
        found = if enum.Plain val then some val else none) ∨ table.find? key = some found := by
  induction values generalizing table with
  | nil => simp
  | cons val rest ih =>
    rw [foldl_cons, ih (fun other hother => hsub other (mem_cons_of_mem _ hother))
      (nodup_cons.mp hnodup).2, find?_enterNames (hnew val mem_cons_self)]
    · simp only [mem_cons, exists_eq_or_imp]
      grind
    · intro other hother
      rw [Option.eq_none_iff_forall_ne_some]
      intro taken htaken
      obtain ⟨htitle, -⟩ | hold :=
        (find?_enterNames (hnew val mem_cons_self)).mp htaken
      · exact (nodup_cons.mp hnodup).1 (enum.titles val (hsub val mem_cons_self) other
          (hsub other (mem_cons_of_mem _ hother)) htitle ▸ hother)
      · rw [hnew other (mem_cons_of_mem _ hother)] at hold
        cases hold

theorem mem_entries : (key, found) ∈ enum.map.entries ↔ ∃ val ∈ enum.values,
      folded (enum.ToString val).Title = key ∧
        found = if enum.Plain val then some val else none := by
  rw [← StdMap.find?_eq_some_iff, Enumeration.map, MakeSearchMap,
    find?_foldl (fun _ hval => hval) enum.nodup fun _ _ => rfl]
  exact or_iff_left (by rintro ⟨⟩)

theorem sortedBy_entries (table : SearchMap T) : SortedBy Prod.fst table.entries :=
  pairwise_map.mp table.sorted

def begins (s : List Char) (entry : List ℤ × Option T) : Bool := (folded s).isPrefixOf entry.1

theorem begins_iff {entry : List ℤ × Option T} :
    begins s entry = true ↔ folded s <+: entry.1 := isPrefixOf_iff_prefix

theorem Match_eq (table : SearchMap T) (s : List Char) :
    Match table s = match table.entries.filter (begins s) with
      | [] => none
      | it :: others => if it.1 = folded s ∨ others = [] then it.2 else none := by
  obtain ⟨hsorted, habove, hsame⟩ := (sortedBy_entries table).dropWhile (folded s)
  rw [← hsame (begins s) fun _ => begins_iff.mp, Match]
  generalize (table.entries.dropWhile fun entry => decide (entry.1 < folded s)) = list at *
  obtain - | ⟨it, rest⟩ := list
  · rfl
  by_cases hit : begins s it = true
  · rw [filter_cons_of_pos hit]
    have hrest : (rest.head?.any fun it2 => (folded s).isPrefixOf it2.1) = true ↔
        rest.filter (begins s) ≠ [] := by
      obtain - | ⟨second, rest⟩ := rest
      · simp
      by_cases hsecond : begins s second = true
      · simp only [head?_cons, Option.any_some, filter_cons_of_pos hsecond]
        exact iff_of_true hsecond (cons_ne_nil _ _)
      · have hpast := hsorted.tail.past (habove second (mem_cons_of_mem _ mem_cons_self))
          (mt begins_iff.mpr hsecond)
        rw [filter_eq_nil_iff.mpr fun other hother => mt begins_iff.mp (hpast other hother)]
        exact iff_of_false hsecond fun hne => hne rfl
    dsimp only [begins] at hit ⊢
    grind
  · rw [filter_eq_nil_iff.mpr fun other hother => mt begins_iff.mp
      (hsorted.past (habove it mem_cons_self) (mt begins_iff.mpr hit) other hother)]
    have hit : (folded s).isPrefixOf it.1 = false := (Bool.not_eq_true _).mp hit
    exact if_pos (by rw [hit]; rfl)

theorem Match_of_mem (hentry : (folded s, found) ∈ table.entries) : Match table s = found := by
  have hbegins : begins s (folded s, found) = true := begins_iff.mpr prefix_rfl
  have hmem := mem_filter.mpr ⟨hentry, hbegins⟩
  rw [Match_eq]
  obtain ⟨it, others, hfilter⟩ := exists_cons_of_ne_nil (ne_nil_of_mem hmem)
  obtain rfl := (sortedBy_entries table).first_of_eq hfilter hentry hbegins rfl
    fun _ => begins_iff.mp
  rw [hfilter]
  exact if_pos (.inl rfl)

theorem Match_of_not_mem (hnone : ∀ found, (folded s, found) ∉ table.entries) :
    Match table s = some val ↔ ∃ key, table.entries.filter (begins s) = [(key, some val)] := by
  rw [Match_eq]
  cases hfilter : table.entries.filter (begins s) with
  | nil => simp
  | cons it others =>
    have hentry : it ∈ table.entries := mem_of_mem_filter (hfilter ▸ mem_cons_self)
    have hne : it.1 ≠ folded s := fun heq => hnone it.2 (heq ▸ hentry)
    grind

theorem Match_of_title (hval : val ∈ enum.values)
    (hs : folded s = folded (enum.ToString val).Title) :
    Match enum.map s = if enum.Plain val then some val else none :=
  Match_of_mem (mem_entries.mpr ⟨val, hval, hs.symm, rfl⟩)

theorem equals_iff (hplain : enum.Plain val) :
    enum.Equals s val ↔ folded s = folded (enum.ToString val).Title := by
  rw [Equals, ← hplain, or_self, StringEqualI_iff]

theorem begins_val_iff (hplain : enum.Plain val) :
    enum.Begins s val ↔ folded s <+: folded (enum.ToString val).Title := by
  rw [Begins, ← hplain, or_self, StringStartsWithI_iff]

theorem Match_iff_of_plain (hplain : ∀ val ∈ enum.values, enum.Plain val) :
    Match enum.map s = some val ↔ enum.Selects s val := by
  by_cases hhit : ∃ name ∈ enum.values, folded s = folded (enum.ToString name).Title
  · obtain ⟨name, hname, hs⟩ := hhit
    rw [Match_of_title hname hs, if_pos (hplain name hname), Option.some.injEq]
    have hequals := (equals_iff (hplain name hname)).mpr hs
    constructor
    · rintro rfl
      exact ⟨hname, .inl hequals⟩
    · rintro ⟨hval, hsame | ⟨hnone, -⟩⟩
      · exact enum.titles name hname val hval
          (hs.symm.trans ((equals_iff (hplain val hval)).mp hsame))
      · exact absurd hequals (hnone name hname)
  · have hnone : ∀ found, (folded s, found) ∉ enum.map.entries := by
      intro found hmem
      obtain ⟨name, hname, hs, -⟩ := mem_entries.mp hmem
      exact hhit ⟨name, hname, hs.symm⟩
    have hmem : ∀ entry, entry ∈ enum.map.entries.filter (begins s) ↔ ∃ name ∈ enum.values,
        enum.Begins s name ∧ entry = (folded (enum.ToString name).Title, some name) := by
      rintro ⟨key, found⟩
      rw [mem_filter, mem_entries, begins_iff]
      constructor
      · rintro ⟨⟨name, hname, rfl, rfl⟩, hbegins⟩
        rw [if_pos (hplain name hname)]
        exact ⟨name, hname, (begins_val_iff (hplain name hname)).mpr hbegins, rfl⟩
      · rintro ⟨name, hname, hbegins, heq⟩
        cases heq
        exact ⟨⟨name, hname, rfl, (if_pos (hplain name hname)).symm⟩,
          (begins_val_iff (hplain name hname)).mp hbegins⟩
    have hequals : ∀ name ∈ enum.values, ¬enum.Equals s name := fun name hname heq =>
      hhit ⟨name, hname, (equals_iff (hplain name hname)).mp heq⟩
    rw [Match_of_not_mem hnone]
    constructor
    · rintro ⟨key, hfilter⟩
      simp only [hfilter, mem_singleton] at hmem
      obtain ⟨name, hname, hbegins, heq⟩ := (hmem _).mp rfl
      cases heq
      refine ⟨hname, .inr ⟨hequals, hbegins, fun other hother hother' => ?_⟩⟩
      exact Option.some.inj (Prod.mk.inj ((hmem _).mpr ⟨other, hother, hother', rfl⟩)).2
    · rintro ⟨hval, hsame | ⟨-, hbegins, honly⟩⟩
      · exact absurd hsame (hequals val hval)
      · refine ⟨folded (enum.ToString val).Title, perm_singleton.mp ?_⟩
        have hnodup : enum.map.entries.Nodup :=
          Pairwise.imp (fun hlt heq => hlt.ne (congrArg Prod.fst heq)) (sortedBy_entries enum.map)
        refine (perm_ext_iff_of_nodup (hnodup.filter _) (nodup_singleton _)).mpr fun entry => ?_
        rw [hmem, mem_singleton]
        constructor
        · rintro ⟨name, hname, hstarts, rfl⟩
          rw [honly name hname hstarts]
        · rintro rfl
          exact ⟨val, hval, hbegins, rfl⟩

theorem Match_selects_iff (enum : Enumeration T) :
    (∀ s val, Match enum.map s = some val ↔ enum.Selects s val) ↔
      ∀ val ∈ enum.values, (enum.ToString val).Title = (enum.ToString val).Constant := by
  constructor
  · intro hselects val hval
    by_contra hdiffers
    have hfound := (hselects (enum.ToString val).Title val).mpr
      ⟨hval, .inl (.inl (StringEqualI_iff.mpr rfl))⟩
    rw [Match_of_title hval rfl, if_neg hdiffers] at hfound
    cases hfound
  · exact fun hplain s val => Match_iff_of_plain hplain

/-- The first of the races. -/
def races : Enumeration Unit where
  values := [()]
  ToString _ := ⟨"Human".toList, "RACE_HUMAN".toList⟩
  titles _ _ _ _ _ := rfl
  constants _ _ _ _ _ := rfl
  nodup := nodup_singleton _

theorem human_is_no_race : ¬∀ s val, Match races.map s = some val ↔ races.Selects s val := by
  intro hselects
  have hfound := (hselects "Human".toList ()).mpr
    ⟨mem_cons_self, .inl (.inl (StringEqualI_iff.mpr rfl))⟩
  exact absurd hfound (by decide +kernel)

end Enumeration

end AzerothCore.Chat.EnumArgument
