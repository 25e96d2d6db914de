import AzerothCore.Collections.Folding
import Mathlib.Data.Fin.Basic
import Mathlib.Data.Nat.Bitwise
import Mathlib.Tactic.IntervalCases

/-!
# Hyperlinks in chat messages

A string view is the list of its characters: a byte is the character with its
number. Every read is checked against the length of the view, so that a read
outside of it shows as `Stop.outside`.
-/

namespace AzerothCore.Chat.Hyperlinks
open List

inductive Stop where
  /-- A read outside of the view. -/
  | outside
  /-- The source returns an empty `HyperlinkInfo`. -/
  | rejected
  deriving DecidableEq

abbrev Checked (α : Type) := Except Stop α

variable (str : List Char)

/-- `str[index]`. -/
def charAt (index : ℕ) : Checked Char :=
  match str[index]? with
  | some c => .ok c
  | none => .error .outside

/-- `str[end - 1]`: there is no such character when `end` is 0. -/
def charBefore : ℕ → Checked Char
  | 0 => .error .outside
  | last + 1 => charAt str last

/-- `str.substr(pos)`. -/
def substrFrom (pos : ℕ) : Checked (List Char) :=
  if pos ≤ str.length then .ok (str.drop pos) else .error .outside

/-- `str.substr(pos, count)`. -/
def substr (pos count : ℕ) : Checked (List Char) :=
  if pos ≤ str.length then .ok ((str.drop pos).take count) else .error .outside

/-- `str.remove_prefix(n)`: asking for more than there is is undefined. -/
def remove_prefix (n : ℕ) : Checked (List Char) :=
  if n ≤ str.length then .ok (str.drop n) else .error .outside

/-- `str.find(c)`. -/
def find (c : Char) : Option ℕ := str.findIdx? (· == c)

/-- `str.find(c, pos)`. -/
def findFrom (c : Char) (pos : ℕ) : Option ℕ :=
  (find (str.drop pos) c).map (pos + ·)

def require (condition : Prop) [Decidable condition] : Checked Unit :=
  if condition then .ok () else .error .rejected

structure HyperlinkColor where
  r : UInt8
  g : UInt8
  b : UInt8
  a : UInt8
  deriving DecidableEq

def hyperlinkColor (c : UInt32) : HyperlinkColor :=
  { r := (c >>> 16).toUInt8, g := (c >>> 8).toUInt8, b := c.toUInt8, a := (c >>> 24).toUInt8 }

structure HyperlinkInfo where
  ok : Bool := false
  tail : List Char := []
  color : HyperlinkColor := hyperlinkColor 0
  tag : List Char := []
  data : List Char := []
  text : List Char := []
  deriving DecidableEq

def toHex (c : Char) : UInt8 :=
  if '0' ≤ c ∧ c ≤ '9' then UInt8.ofNat (c.toNat - '0'.toNat + 0x10)
  else if 'a' ≤ c ∧ c ≤ 'f' then UInt8.ofNat (c.toNat - 'a'.toNat + 0x1a)
  else 0x00

/-- The loop over the digits of the colour. -/
def readColor (str : List Char) : List ℕ → UInt32 → Checked UInt32
  | [], color => .ok color
  | i :: rest, color => do
    let c ← charAt str i
    require (toHex c ≠ 0)
    readColor str rest ((color <<< 4) ||| (toHex c &&& 0xf).toUInt32)

def colorTag : Checked (UInt32 × List Char) := do
  require ((← substr str 0 2) = ['|', 'c'])
  let str ← remove_prefix str 2
  require (8 ≤ str.length)
  let color ← readColor str (List.range 8) 0
  return (color, ← remove_prefix str 8)

def linkTag : Checked (List Char × List Char × List Char) := do
  require ((← substr str 0 2) = ['|', 'H'])
  let str ← remove_prefix str 2
  match find str '|' with
  | none => .error .rejected
  | some delimPos =>
    let tag ← substr str 0 delimPos
    let str ← remove_prefix str (delimPos + 1)
    match find tag ':' with
    | none => return (tag, [], str)
    | some dataStart => return (← substr tag 0 dataStart, ← substrFrom tag (dataStart + 1), str)

def linkText : Checked (List Char × List Char) := do
  require ((← substr str 0 1) = ['h'])
  let str ← remove_prefix str 1
  match find str '|' with
  | none => .error .rejected
  | some last =>
    require ((← substr str last 4) = ['|', 'h', '|', 'r'])
    require ((← charAt str 0) = '[')
    require ((← charBefore str last) = ']')
    return (← substr str 1 (last - 2), ← substrFrom str (last + 4))

def readHyperlink : Checked HyperlinkInfo := do
  let (color, str) ← colorTag str
  let (tag, data, str) ← linkTag str
  let (text, str) ← linkText str
  return { ok := true, tail := str, color := hyperlinkColor color, tag, data, text }

/-- `none` stands for a read outside of the string. -/
def ParseSingleHyperlink : Option HyperlinkInfo :=
  match readHyperlink str with
  | .ok info => some info
  | .error .rejected => some {}
  | .error .outside => none

inductive LinkTag where
  | achievement | area | areatrigger | creature | creature_entry | enchant | gameevent | gameobject
  | gameobject_entry | glyph | item | itemset | player | quest | skill | spell | talent | taxinode
  | tele | title | trade
  deriving DecidableEq

def LinkTag.tag : LinkTag → String
  | achievement => "achievement"
  | area => "area"
  | areatrigger => "areatrigger"
  | creature => "creature"
  | creature_entry => "creature_entry"
  | enchant => "enchant"
  | gameevent => "gameevent"
  | gameobject => "gameobject"
  | gameobject_entry => "gameobject_entry"
  | glyph => "glyph"
  | item => "item"
  | itemset => "itemset"
  | player => "player"
  | quest => "quest"
  | skill => "skill"
  | spell => "spell"
  | talent => "talent"
  | taxinode => "taxinode"
  | tele => "tele"
  | title => "title"
  | trade => "trade"

def LinkTag.all : List LinkTag :=
  [achievement, area, areatrigger, creature, creature_entry, enchant, gameevent, gameobject,
    gameobject_entry, glyph, item, itemset, player, quest, skill, spell, talent, taxinode, tele,
    title, trade]

structure LinkValidator where
  value_type : Type
  StoreTo : List Char → Option value_type
  IsColorValid : value_type → HyperlinkColor → Bool
  IsTextValid : value_type → List Char → Bool

/-- `severity` is the setting of `CONFIG_CHAT_STRICT_LINK_CHECKING_SEVERITY`. -/
def ValidateAs (severity : Int) (validator : LinkValidator) (info : HyperlinkInfo) : Bool :=
  match validator.StoreTo info.data with
  | none => false
  | some t =>
    if 0 ≤ severity then
      if !validator.IsColorValid t info.color then false
      else if 1 ≤ severity then validator.IsTextValid t info.text
      else true
    else true

def ValidateLinkInfo (severity : Int) (validators : LinkTag → LinkValidator)
    (info : HyperlinkInfo) : Bool :=
  match LinkTag.all.find? (fun tag => info.tag = tag.tag.toList) with
  | some tag => ValidateAs severity (validators tag) info
  | none => false

@[simp]
theorem require_true {condition : Prop} [Decidable condition] (holds : condition) :
    require condition = .ok () := by
  simp [require, holds]

@[simp]
theorem require_false {condition : Prop} [Decidable condition] (fails : ¬ condition) :
    require condition = .error .rejected := by
  simp [require, fails]

theorem find_eq_none {str : List Char} {c : Char} : find str c = none ↔ c ∉ str := by
  simp only [find, findIdx?_eq_none_iff, beq_eq_false_iff_ne, ne_eq]
  exact ⟨fun absent held => absent c held rfl, fun absent x held same => absent (same ▸ held)⟩

theorem find_append {before after : List Char} {c : Char} (absent : c ∉ before) :
    find (before ++ c :: after) c = some before.length := by
  have skipped := find_eq_none.mpr absent
  simp only [find] at skipped ⊢
  simp [findIdx?_append, skipped, findIdx?_cons]

theorem find_eq_some {str : List Char} {c : Char} {pos : ℕ} (found : find str c = some pos) :
    ∃ before after, str = before ++ c :: after ∧ c ∉ before ∧ pos = before.length := by
  obtain ⟨within, there, first⟩ := findIdx?_eq_some_iff_getElem.mp found
  have there : str[pos] = c := by simpa using there
  refine ⟨str.take pos, str.drop (pos + 1), ?_, ?_, by simp; omega⟩
  · rw [← there, getElem_cons_drop, take_append_drop]
  · intro held
    obtain ⟨i, small, same⟩ := mem_take_iff_getElem.mp held
    exact absurd (first i (by omega)) (by simp [same])

end AzerothCore.Chat.Hyperlinks

/-! ## The form of a hyperlink -/

namespace AzerothCore.Chat.Hyperlinks

open List Nat
open Folding

def hexChar (digit : Fin 16) : Char :=
  if digit.val < 10 then Char.ofNat (digit.val + '0'.toNat)
  else Char.ofNat (digit.val - 10 + 'a'.toNat)

def hexValue (digits : List (Fin 16)) : ℕ :=
  digits.foldl (fun value digit => 16 * value + digit.val) 0

structure Link where
  color : List (Fin 16)
  color_length : color.length = 8
  tag : List Char
  tag_pipe : '|' ∉ tag
  tag_colon : ':' ∉ tag
  data : Option (List Char)
  data_pipe : ∀ written ∈ data, '|' ∉ written
  text : List Char
  text_pipe : '|' ∉ text

def labelOf (tag : List Char) : Option (List Char) → List Char
  | none => tag
  | some written => tag ++ ':' :: written

namespace Link

variable (link : Link)

def label : List Char := labelOf link.tag link.data

/-- `|c<color>|H<tag>[:<data>]|h[<text>]|h|r` -/
def toChars : List Char :=
  ['|', 'c'] ++ link.color.map hexChar ++ ['|', 'H'] ++ link.label ++ ['|', 'h', '['] ++ link.text ++
    [']', '|', 'h', '|', 'r']

/-- What the parser has to say of the link when `tail` follows it. -/
def info (tail : List Char) : HyperlinkInfo :=
  { ok := true
    tail := tail
    color := hyperlinkColor (UInt32.ofNat (hexValue link.color))
    tag := link.tag
    data := link.data.getD []
    text := link.text }

theorem label_pipe : '|' ∉ link.label := by
  unfold label
  cases given : link.data with
  | none => exact link.tag_pipe
  | some written => simp [labelOf, link.tag_pipe, link.data_pipe written given]

end Link

theorem toHex_hexChar_ne (digit : Fin 16) : toHex (hexChar digit) ≠ 0 := by
  revert digit
  decide

theorem exists_hexChar {c : Char} (isDigit : toHex c ≠ 0) : ∃ digit, c = hexChar digit := by
  have back : c = Char.ofNat c.toNat := (Char.ofNat_toNat c).symm
  unfold toHex at isDigit
  split at isDigit
  · rename_i range
    have low : 48 ≤ c.toNat := range.1
    have high : c.toNat ≤ 57 := range.2
    refine ⟨⟨c.toNat - 48, by omega⟩, ?_⟩
    rw [hexChar, if_pos (by show c.toNat - 48 < 10; omega)]
    show c = Char.ofNat (c.toNat - 48 + 48)
    rw [Nat.sub_add_cancel low]
    exact back
  · split at isDigit
    · rename_i range
      have low : 97 ≤ c.toNat := range.1
      have high : c.toNat ≤ 102 := range.2
      refine ⟨⟨c.toNat - 97 + 10, by omega⟩, ?_⟩
      rw [hexChar, if_neg (by show ¬ (c.toNat - 97 + 10 < 10); omega)]
      show c = Char.ofNat (c.toNat - 97 + 10 - 10 + 97)
      rw [Nat.add_sub_cancel, Nat.sub_add_cancel low]
      exact back
    · exact absurd rfl isDigit

theorem shifted_color (value : ℕ) (digit : Fin 16) :
    ((UInt32.ofNat value <<< 4) ||| (toHex (hexChar digit) &&& 0xf).toUInt32) =
      UInt32.ofNat (16 * value + digit.val) := by
  have masked : (toHex (hexChar digit) &&& 0xf).toUInt32 = UInt32.ofNat digit.val := by
    revert digit
    decide
  rw [masked]
  apply UInt32.toNat_inj.mp
  have shifted : (value % 2 ^ 32) <<< 4 % 2 ^ 32 = (value <<< 4) % 2 ^ 32 := by
    omega
  have joined : value <<< 4 ||| digit.val = 16 * value + digit.val := by
    rw [← shiftLeft_add_eq_or_of_lt (by omega : digit.val < 2 ^ 4), shiftLeft_eq]
    omega
  simp only [UInt32.toNat_or, UInt32.toNat_shiftLeft, UInt32.toNat_ofNat', UInt32.reduceToNat]
  rw [show 4 % 32 = 4 from rfl, shifted, ← or_mod_two_pow, joined]

theorem readColor_of_digits (before after : List Char) (digits : List (Fin 16)) (value : ℕ) :
    readColor (before ++ digits.map hexChar ++ after)
        (List.range' before.length digits.length) (UInt32.ofNat value) =
      .ok (UInt32.ofNat (digits.foldl (fun value digit => 16 * value + digit.val) value)) := by
  induction digits generalizing before value with
  | nil => rfl
  | cons digit digits ih =>
    have next := ih (before ++ [hexChar digit]) (16 * value + digit.val)
    have isDigit := toHex_hexChar_ne digit
    have here : charAt (before ++ (digit :: digits).map hexChar ++ after) before.length =
        .ok (hexChar digit) := by
      simp [charAt]
    rw [length_cons, List.range'_succ, readColor, here, ok_bind, require_true isDigit, ok_bind,
      shifted_color]
    rw [append_assoc before, length_append] at next
    exact next

variable (str : List Char)

theorem readColor_cases (color : UInt32) (count start : ℕ)
    (within : start + count ≤ str.length) :
    readColor str (List.range' start count) color = .error .rejected ∨
      ∃ digits : List (Fin 16), digits.length = count ∧
        (str.drop start).take count = digits.map hexChar := by
  induction count generalizing start color with
  | zero => exact .inr ⟨[], rfl, by simp⟩
  | succ count ih =>
    have inside : start < str.length := by omega
    have here : charAt str start = .ok str[start] := by simp [charAt, inside]
    rw [List.range'_succ, readColor, here, ok_bind]
    by_cases isDigit : toHex str[start] ≠ 0
    · rw [require_true isDigit, ok_bind]
      obtain rejected | ⟨digits, length_digits, read⟩ := ih
        ((color <<< 4) ||| (toHex str[start] &&& 0xf).toUInt32) (start + 1) (by omega)
      · exact .inl rejected
      · obtain ⟨digit, same⟩ := exists_hexChar isDigit
        refine .inr ⟨digit :: digits, by simp [length_digits], ?_⟩
        rw [drop_eq_getElem_cons inside, take_succ_cons, read, same, map_cons]
    · rw [require_false isDigit]
      exact .inl rfl

theorem colorTag_of_digits {digits : List (Fin 16)} (length_digits : digits.length = 8)
    (rest : List Char) :
    colorTag (['|', 'c'] ++ digits.map hexChar ++ rest) =
      .ok (UInt32.ofNat (hexValue digits), rest) := by
  have loop := readColor_of_digits [] rest digits 0
  rw [length_digits] at loop
  have enough : 8 ≤ (digits.map hexChar ++ rest).length := by simp [length_digits]
  have digits_read : readColor (digits.map hexChar ++ rest) (List.range 8) 0 =
      .ok (UInt32.ofNat (hexValue digits)) := by
    exact loop
  have skipped : remove_prefix (digits.map hexChar ++ rest) 8 = .ok rest := by
    rw [ remove_prefix, if_pos enough, drop_left' (by simp [length_digits])]
  have head : substr (['|', 'c'] ++ digits.map hexChar ++ rest) 0 2 = .ok ['|', 'c'] := rfl
  have behind : remove_prefix (['|', 'c'] ++ digits.map hexChar ++ rest) 2 =
      .ok (digits.map hexChar ++ rest) := by
    simp [ remove_prefix]
  rw [colorTag, head, ok_bind, require_true rfl, ok_bind, behind, ok_bind, require_true enough,
    ok_bind, digits_read, ok_bind, skipped]
  rfl

theorem substr_zero (count : ℕ) : substr str 0 count = .ok (str.take count) := by
  simp [substr]

theorem remove_prefix_of_take {str expected : List Char} {count : ℕ}
    (stands : str.take count = expected) (full : expected.length = count) :
    remove_prefix str count = .ok (str.drop count) ∧ str = expected ++ str.drop count := by
  have enough : count ≤ str.length := by
    have := congrArg List.length stands
    simp only [length_take] at this
    omega
  exact ⟨by simp [ remove_prefix, enough], by rw [← stands, take_append_drop]⟩

theorem colorTag_cases : colorTag str = .error .rejected ∨
      ∃ (digits : List (Fin 16)) (rest : List Char), digits.length = 8 ∧
        str = ['|', 'c'] ++ digits.map hexChar ++ rest := by
  rw [colorTag, substr_zero, ok_bind]
  by_cases stands : str.take 2 = ['|', 'c']
  · obtain ⟨removed, split⟩ := remove_prefix_of_take stands rfl
    rw [require_true stands, ok_bind, removed, ok_bind]
    by_cases enough : 8 ≤ (str.drop 2).length
    · rw [require_true enough, ok_bind, range_eq_range']
      obtain rejected | ⟨digits, length_digits, read⟩ :=
        readColor_cases (str.drop 2) 0 8 0 (by omega)
      · exact .inl (by rw [rejected]; rfl)
      · refine .inr ⟨digits, (str.drop 2).drop 8, length_digits, ?_⟩
        rw [append_assoc, ← read, drop_zero, take_append_drop]
        exact split
    · exact .inl (by rw [require_false enough]; rfl)
  · exact .inl (by rw [require_false stands]; rfl)

theorem linkTag_of_link (link : Link) (rest : List Char) :
    linkTag (['|', 'H'] ++ link.label ++ '|' :: rest) =
      .ok (link.tag, link.data.getD [], rest) := by
  have head : substr (['|', 'H'] ++ link.label ++ '|' :: rest) 0 2 = .ok ['|', 'H'] := rfl
  have behind : remove_prefix (['|', 'H'] ++ link.label ++ '|' :: rest) 2 =
      .ok (link.label ++ '|' :: rest) := by
    simp [ remove_prefix]
  have label_read : substr (link.label ++ '|' :: rest) 0 link.label.length = .ok link.label := by
    rw [substr_zero, take_left]
  have skipped : remove_prefix (link.label ++ '|' :: rest) (link.label.length + 1) = .ok rest := by
    simp [ remove_prefix, drop_append]
  rw [linkTag, head, ok_bind, require_true rfl, ok_bind, behind, ok_bind,
    find_append link.label_pipe]
  dsimp only
  rw [label_read, ok_bind, skipped, ok_bind]
  rcases given : link.data with _ | written
  · have label_eq : link.label = link.tag := by rw [Link.label, given, labelOf]
    rw [label_eq, find_eq_none.mpr link.tag_colon]
    rfl
  have label_eq : link.label = link.tag ++ ':' :: written := by
    rw [Link.label, given, labelOf]
  have tag_read : substr link.label 0 link.tag.length = .ok link.tag := by
    rw [label_eq, substr_zero, take_left]
  have data_read : substrFrom link.label (link.tag.length + 1) = .ok written := by
    simp [label_eq, substrFrom, drop_append]
  rw [show find link.label ':' = some link.tag.length by rw [label_eq, find_append link.tag_colon]]
  dsimp only
  rw [tag_read, ok_bind, data_read]
  rfl

theorem linkTag_cases : linkTag str = .error .rejected ∨
      ∃ label rest, '|' ∉ label ∧ str = ['|', 'H'] ++ label ++ '|' :: rest := by
  rw [linkTag, substr_zero, ok_bind]
  by_cases stands : str.take 2 = ['|', 'H']
  · obtain ⟨removed, split⟩ := remove_prefix_of_take stands rfl
    rw [require_true stands, ok_bind, removed, ok_bind]
    rcases found : find (str.drop 2) '|' with _ | delimPos
    · exact .inl rfl
    obtain ⟨label, rest, parts, absent, -⟩ := find_eq_some found
    refine .inr ⟨label, rest, absent, ?_⟩
    rw [append_assoc, ← parts]
    exact split
  · exact .inl (by rw [require_false stands]; rfl)

/-- What stands between `|H` and the next pipe is a tag, with data after the first colon. -/
theorem exists_tag_of_label {label : List Char} (absent : '|' ∉ label) :
    ∃ tag data, '|' ∉ tag ∧ ':' ∉ tag ∧ (∀ written ∈ data, '|' ∉ written) ∧
      label = labelOf tag data := by
  rcases found : find label ':' with _ | dataStart
  · exact ⟨label, none, absent, find_eq_none.mp found, nofun, rfl⟩
  obtain ⟨tag, written, parts, noColon, -⟩ := find_eq_some found
  simp only [parts, mem_append, mem_cons, not_or] at absent
  refine ⟨tag, some written, absent.1, noColon, ?_, parts⟩
  rintro _ ⟨⟩
  exact absent.2.2

theorem linkText_of_text {text : List Char} (absent : '|' ∉ text) (tail : List Char) :
    linkText (['h', '['] ++ text ++ [']', '|', 'h', '|', 'r'] ++ tail) = .ok (text, tail) := by
  have shape : ['h', '['] ++ text ++ [']', '|', 'h', '|', 'r'] ++ tail =
      ['h'] ++ (('[' :: text ++ [']']) ++ '|' :: (['h', '|', 'r'] ++ tail)) := by simp
  have noPipe : '|' ∉ '[' :: text ++ [']'] := by simp [absent]
  have last_eq : ('[' :: text ++ [']']).length = text.length + 2 := by simp
  have head (str : List Char) : substr (['h'] ++ str) 0 1 = .ok ['h'] := by
    simp [substr]
  rw [shape, linkText, head, ok_bind, require_true rfl, ok_bind]
  have behind (str : List Char) : remove_prefix (['h'] ++ str) 1 = .ok str := by
    simp [ remove_prefix]
  rw [behind, ok_bind, find_append noPipe, last_eq]
  dsimp only
  have closing : substr (('[' :: text ++ [']']) ++ '|' :: (['h', '|', 'r'] ++ tail))
      (text.length + 2) 4 = .ok ['|', 'h', '|', 'r'] := by
    rw [substr, if_pos (by simp), drop_left' last_eq]
    rfl
  have opening : charAt (('[' :: text ++ [']']) ++ '|' :: (['h', '|', 'r'] ++ tail)) 0 = .ok '[' :=
    rfl
  have bracket : charBefore (('[' :: text ++ [']']) ++ '|' :: (['h', '|', 'r'] ++ tail))
      (text.length + 2) = .ok ']' := by
    simp [charBefore, charAt]
  have read : substr (('[' :: text ++ [']']) ++ '|' :: (['h', '|', 'r'] ++ tail)) 1
      (text.length + 2 - 2) = .ok text := by
    simp [substr]
  have rest : substrFrom (('[' :: text ++ [']']) ++ '|' :: (['h', '|', 'r'] ++ tail))
      (text.length + 2 + 4) = .ok tail := by
    rw [substrFrom, if_pos (by simp), ← last_eq, ← drop_drop, drop_left]
    rfl
  rw [closing, ok_bind, require_true rfl, ok_bind, opening, ok_bind, require_true rfl, ok_bind,
    bracket, ok_bind, require_true rfl, ok_bind, read, ok_bind, rest]
  rfl

theorem exists_text_of_brackets {before after : List Char}
    (opening : charAt (before ++ '|' :: after) 0 = .ok '[')
    (closing : charBefore (before ++ '|' :: after) before.length = .ok ']') :
    ∃ text, before = '[' :: text ++ [']'] := by
  rcases before with _ | ⟨first, rest⟩
  · exact absurd closing nofun
  have first_eq : first = '[' := Except.ok.inj opening
  obtain rfl | ⟨text, last, rfl⟩ := rest.eq_nil_or_concat
  · have alone : first = ']' := Except.ok.inj closing
    rw [first_eq] at alone
    exact absurd alone (by decide)
  · have last_eq : last = ']' := by
      simpa [charBefore, charAt] using closing
    exact ⟨text, by rw [first_eq, last_eq, concat_eq_append, cons_append]⟩

theorem brackets_within {before after : List Char} :
    (∃ c, charAt (before ++ '|' :: after) 0 = .ok c) ∧
      (charAt (before ++ '|' :: after) 0 = .ok '[' →
        ∃ c, charBefore (before ++ '|' :: after) before.length = .ok c) := by
  rcases before with _ | ⟨first, rest⟩
  · exact ⟨⟨'|', rfl⟩, fun opening => absurd (Except.ok.inj opening) (by decide)⟩
  refine ⟨⟨first, rfl⟩, fun _ => ?_⟩
  have inside : rest.length < (first :: rest ++ '|' :: after).length := by
    simp only [length_append, length_cons]
    omega
  exact ⟨(first :: rest ++ '|' :: after)[rest.length],
    by rw [length_cons, charBefore, charAt, List.getElem?_eq_getElem inside]⟩

theorem linkText_cases : linkText str = .error .rejected ∨
      ∃ text tail, '|' ∉ text ∧ str = ['h', '['] ++ text ++ [']', '|', 'h', '|', 'r'] ++ tail := by
  rw [linkText, substr_zero, ok_bind]
  by_cases stands : str.take 1 = ['h']
  swap
  · exact .inl (by rw [require_false stands]; rfl)
  obtain ⟨removed, split⟩ := remove_prefix_of_take stands rfl
  rw [require_true stands, ok_bind, removed, ok_bind]
  rcases found : find (str.drop 1) '|' with _ | last
  · exact .inl rfl
  obtain ⟨before, after, parts, absent, rfl⟩ := find_eq_some found
  dsimp only
  have closing_read : substr (str.drop 1) before.length 4 = .ok (('|' :: after).take 4) := by
    rw [parts, substr, if_pos (by simp), drop_left]
  rw [closing_read, ok_bind]
  by_cases ends : ('|' :: after).take 4 = ['|', 'h', '|', 'r']
  swap
  · exact .inl (by rw [require_false ends]; rfl)
  obtain ⟨-, after_eq⟩ := remove_prefix_of_take ends rfl
  obtain ⟨⟨first, first_read⟩, last_read⟩ := @brackets_within before after
  rw [require_true ends, ok_bind, parts, first_read, ok_bind]
  by_cases opening : first = '['
  swap
  · exact .inl (by rw [require_false opening]; rfl)
  rw [opening] at first_read
  obtain ⟨c, closes⟩ := last_read first_read
  rw [require_true opening, ok_bind, closes, ok_bind]
  by_cases closing : c = ']'
  swap
  · exact .inl (by rw [require_false closing]; rfl)
  rw [closing] at closes
  obtain ⟨text, rfl⟩ := exists_text_of_brackets first_read closes
  simp only [mem_append, mem_cons, not_or] at absent
  refine .inr ⟨text, ('|' :: after).drop 4, absent.1.2, ?_⟩
  rw [split, parts, after_eq]
  simp

theorem readHyperlink_of_link (link : Link) (tail : List Char) :
    readHyperlink (link.toChars ++ tail) = .ok (link.info tail) := by
  have shape : link.toChars ++ tail =
      ['|', 'c'] ++ link.color.map hexChar ++ (['|', 'H'] ++ link.label ++ '|' ::
        (['h', '['] ++ link.text ++ [']', '|', 'h', '|', 'r'] ++ tail)) := by
    simp [Link.toChars]
  rw [readHyperlink, shape, colorTag_of_digits link.color_length, ok_bind]
  dsimp only
  rw [linkTag_of_link, ok_bind]
  rw [linkText_of_text link.text_pipe]
  rfl

theorem ParseSingleHyperlink_of_link (link : Link) (tail : List Char) :
    ParseSingleHyperlink (link.toChars ++ tail) = some (link.info tail) := by
  rw [ParseSingleHyperlink, readHyperlink_of_link]

example : ParseSingleHyperlink "|cff9d9d9d|Hitem:7073|h[Fang]|h|r!".toList =
    some { ok := true, tail := ['!'], color := ⟨0x9d, 0x9d, 0x9d, 0xff⟩, tag := "item".toList,
           data := "7073".toList, text := "Fang".toList } := by
  decide +kernel

theorem ParseSingleHyperlink_cases : ParseSingleHyperlink str = some {} ∨
      ∃ link tail, str = Link.toChars link ++ tail := by
  obtain rejected | ⟨digits, rest, length_digits, str_eq⟩ := colorTag_cases str
  · left
    rw [ParseSingleHyperlink, readHyperlink, rejected]
    rfl
  obtain rejected | ⟨label, rest', absent, rest_eq⟩ := linkTag_cases rest
  · left
    rw [ParseSingleHyperlink, readHyperlink, str_eq, colorTag_of_digits length_digits, ok_bind]
    dsimp only
    rw [rejected]
    rfl
  obtain ⟨tag, data, tag_pipe, tag_colon, data_pipe, label_eq⟩ := exists_tag_of_label absent
  obtain rejected | ⟨text, tail, text_pipe, rest'_eq⟩ := linkText_cases rest'
  · left
    have read := linkTag_of_link (.mk digits length_digits tag tag_pipe tag_colon data data_pipe []
      not_mem_nil) rest'
    rw [ParseSingleHyperlink, readHyperlink, str_eq, colorTag_of_digits length_digits, ok_bind,
      rest_eq, label_eq]
    dsimp only
    rw [Link.label] at read
    rw [read, ok_bind]
    rw [rejected]
    rfl
  · right
    refine ⟨.mk digits length_digits tag tag_pipe tag_colon data data_pipe text text_pipe, tail, ?_⟩
    rw [Link.toChars, Link.label, str_eq, rest_eq, rest'_eq, label_eq]
    simp

end AzerothCore.Chat.Hyperlinks
