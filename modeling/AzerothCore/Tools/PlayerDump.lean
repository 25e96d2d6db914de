import Mathlib.Algebra.BigOperators.Group.List.Basic
import Mathlib.Algebra.Order.Ring.Nat
import Mathlib.Data.List.GetD
import Mathlib.Data.List.Infix
import Mathlib.Data.List.Nodup

/-!
# The tables of a player dump

The tables that a dump consists of, and what is found out about their columns
when the server starts. `none` stands for a failed assertion or `ABORT`.
-/

namespace AzerothCore.Tools.PlayerDump

inductive GuidType where
  | ACCOUNT | CHAR | PET | MAIL | ITEM | EQUIPMENT_SET | NULL
  deriving DecidableEq

inductive DumpTableType where
  | CHARACTER | CHAR_TABLE | EQSET_TABLE | INVENTORY | MAIL | MAIL_ITEM | ITEM | ITEM_GIFT | PET
  | PET_TABLE
  deriving DecidableEq

structure BaseTable where
  TableName : String
  PrimaryKey : String
  PlayerGuid : String
  StoredType : GuidType
  deriving DecidableEq

def BaseTables : List BaseTable :=
  [⟨"character_pet", "id", "owner", .PET⟩, ⟨"mail", "id", "receiver", .MAIL⟩,
    ⟨"item_instance", "guid", "owner_guid", .ITEM⟩,
    ⟨"character_equipmentsets", "setguid", "guid", .EQUIPMENT_SET⟩]

structure DumpTable where
  Name : String
  type : DumpTableType
  deriving DecidableEq

def DumpTables : List DumpTable :=
  [⟨"characters", .CHARACTER⟩, ⟨"character_account_data", .CHAR_TABLE⟩,
    ⟨"character_achievement", .CHAR_TABLE⟩,
    ⟨"character_achievement_progress", .CHAR_TABLE⟩,
    ⟨"character_action", .CHAR_TABLE⟩,
    ⟨"character_aura", .CHAR_TABLE⟩,
    ⟨"character_declinedname", .CHAR_TABLE⟩,
    ⟨"character_equipmentsets", .EQSET_TABLE⟩,
    ⟨"character_glyphs", .CHAR_TABLE⟩,
    ⟨"character_homebind", .CHAR_TABLE⟩,
    ⟨"character_inventory", .INVENTORY⟩,
    ⟨"character_pet", .PET⟩,
    ⟨"character_pet_declinedname", .PET⟩,
    ⟨"character_queststatus", .CHAR_TABLE⟩,
    ⟨"character_queststatus_daily", .CHAR_TABLE⟩,
    ⟨"character_queststatus_weekly", .CHAR_TABLE⟩,
    ⟨"character_queststatus_monthly", .CHAR_TABLE⟩,
    ⟨"character_queststatus_seasonal", .CHAR_TABLE⟩,
    ⟨"character_queststatus_rewarded", .CHAR_TABLE⟩,
    ⟨"character_reputation", .CHAR_TABLE⟩,
    ⟨"character_skills", .CHAR_TABLE⟩,
    ⟨"character_spell", .CHAR_TABLE⟩,
    ⟨"character_spell_cooldown", .CHAR_TABLE⟩,
    ⟨"character_talent", .CHAR_TABLE⟩,
    ⟨"mail", .MAIL⟩,
    ⟨"mail_items", .MAIL_ITEM⟩,
    ⟨"pet_aura", .PET_TABLE⟩,
    ⟨"pet_spell", .PET_TABLE⟩,
    ⟨"pet_spell_cooldown", .PET_TABLE⟩,
    ⟨"item_instance", .ITEM⟩,
    ⟨"character_gifts", .ITEM_GIFT⟩]

structure TableField where
  FieldName : String
  FieldGuidType : GuidType := .ACCOUNT
  IsDependentField : Bool := false
  deriving DecidableEq

structure TableStruct where
  TableName : String
  WhereFieldName : String := ""
  TableFields : List TableField
  deriving DecidableEq

def Utf8ToUpperOnlyLatin (str : String) : List UInt8 :=
  str.toByteArray.data.toList.map fun byte => if 97 ≤ byte ∧ byte ≤ 122 then byte - 32 else byte

def StringsEqualCaseInsensitive (left right : String) : Bool :=
  Utf8ToUpperOnlyLatin left = Utf8ToUpperOnlyLatin right

def FindColumnByName (tableStruct : TableStruct) (columnName : String) : Option ℕ :=
  tableStruct.TableFields.findIdx? fun field =>
    StringsEqualCaseInsensitive field.FieldName columnName

/-- The lookup in `FieldIndices`; `none` is -1. -/
def GetColumnIndexByName (tableStruct : TableStruct) (columnName : String) : Option ℕ :=
  tableStruct.TableFields.findIdx? fun field => field.FieldName = columnName

def MarkDependentColumn (columnName : String) (dependentType : GuidType)
    (tableStruct : TableStruct) : Option TableStruct := do
  let itr ← FindColumnByName tableStruct columnName
  let field ← tableStruct.TableFields[itr]?
  if field.IsDependentField then none
  else
    some
      { tableStruct with
        TableFields := tableStruct.TableFields.set itr
          { field with FieldGuidType := dependentType, IsDependentField := true } }

def MarkWhereField (whereField : String) (tableStruct : TableStruct) : Option TableStruct :=
  if tableStruct.WhereFieldName ≠ "" then none
  else if (FindColumnByName tableStruct whereField).isNone then none
  else some { tableStruct with WhereFieldName := whereField }

def EQUIPMENT_SLOT_END : ℕ := 19

def whereField : DumpTableType → String
  | .CHARACTER | .CHAR_TABLE | .EQSET_TABLE | .INVENTORY | .ITEM | .PET_TABLE => "guid"
  | .MAIL => "receiver"
  | .MAIL_ITEM => "mail_id"
  | .ITEM_GIFT => "item_guid"
  | .PET => "owner"

def dependentColumns : DumpTableType → List (String × GuidType)
  | .CHARACTER =>
    [("guid", .CHAR), ("account", .ACCOUNT), ("deleteInfos_Account", .NULL),
      ("deleteInfos_Name", .NULL), ("deleteDate", .NULL)]
  | .CHAR_TABLE => [("guid", .CHAR)]
  | .EQSET_TABLE =>
    [("guid", .CHAR), ("setguid", .EQUIPMENT_SET)] ++
      (List.range EQUIPMENT_SLOT_END).map fun j => ("item" ++ toString j, .ITEM)
  | .INVENTORY => [("guid", .CHAR), ("bag", .ITEM), ("item", .ITEM)]
  | .MAIL => [("id", .MAIL), ("receiver", .CHAR)]
  | .MAIL_ITEM => [("mail_id", .MAIL), ("item_guid", .ITEM), ("receiver", .CHAR)]
  | .ITEM => [("guid", .ITEM), ("owner_guid", .CHAR)]
  | .ITEM_GIFT => [("guid", .CHAR), ("item_guid", .ITEM)]
  | .PET => [("id", .PET), ("owner", .CHAR)]
  | .PET_TABLE => [("guid", .PET)]

/-- `columns` are the names that `DESC` reports, none when there is no such table. -/
def InitializeTable (columns : List String) (dumpTable : DumpTable) : Option TableStruct := do
  if columns = [] then none
  else
    let described : TableStruct :=
      { TableName := dumpTable.Name, TableFields := columns.map fun name => { FieldName := name } }
    let marked ← MarkWhereField (whereField dumpTable.type) described
    (dependentColumns dumpTable.type).foldlM
      (fun table column => MarkDependentColumn column.1 column.2 table) marked

def AssertBaseTable (CharacterTables : List TableStruct) (baseTable : BaseTable) : Option Unit := do
  let table ← CharacterTables.find? fun table =>
    StringsEqualCaseInsensitive table.TableName baseTable.TableName
  let _ ← FindColumnByName table baseTable.PrimaryKey
  let _ ← FindColumnByName table baseTable.PlayerGuid
  return ()

def InitializeTables (desc : String → List String) : Option (List TableStruct) := do
  let CharacterTables ← DumpTables.mapM fun dumpTable =>
    InitializeTable (desc dumpTable.Name) dumpTable
  if CharacterTables.any fun table => table.WhereFieldName = "" then none
  else
    BaseTables.forM (AssertBaseTable CharacterTables)
    return CharacterTables

end AzerothCore.Tools.PlayerDump

/-! ## The columns of a line in a dump -/

namespace AzerothCore.Tools.PlayerDump
open List

def escapeChar (c : Char) : List Char :=
  if c = '\x00' then ['\\', '0']
  else if c = '\n' then ['\\', 'n']
  else if c = '\r' then ['\\', 'r']
  else if c = '\x1a' then ['\\', 'Z']
  else if c = '\\' ∨ c = '\'' ∨ c = '"' then ['\\', c]
  else [c]

def EscapeString (value : List Char) : List Char := value.flatMap escapeChar

def fieldText (value : List Char) : List Char :=
  if value = [] then "NULL".toList else EscapeString value

/-- The loops over the columns, from behind the first quote on. -/
def quoted (quote : Char) (close : List Char) : List (List Char) → List Char
  | [] => []
  | text :: texts =>
    text ++ quote :: (if texts = [] then close else ", ".toList ++ quote :: quoted quote close texts)

variable (ts : TableStruct)

def header : List Char :=
  "INSERT INTO `".toList ++ ts.TableName.toList ++ "` (`".toList ++
    quoted '`' ") ".toList (ts.TableFields.map fun field => field.FieldName.toList)

def VALUES : List Char := ['V', 'A', 'L', 'U', 'E', 'S', ' ', '(', '\'']

def insertLine (texts : List (List Char)) : List Char :=
  header ts ++ (VALUES ++ quoted '\'' ");".toList texts)

def AppendTableDump (row : List (List Char)) : List Char := insertLine ts (row.map fieldText)

inductive Stop
  | running
  | notFound

/-- `str.find(text)` -/
def findText (text : List Char) : List Char → Option ℕ
  | [] => if text = [] then some 0 else none
  | c :: str => if text.isPrefixOf (c :: str) then some 0 else (findText text str).map (· + 1)

/-- `str.find('\'', s)` -/
def findQuote (str : List Char) (s : ℕ) : Except Stop ℕ :=
  match (str.drop s).findIdx? (· = '\'') with
  | none => .error .notFound
  | some found => .ok (s + found)

def firstColumn (str : List Char) (s : ℕ) : ℕ → Except Stop ℕ
  | 0 => .error .running
  | fuel + 1 => do
    let e ← findQuote str s
    if str[e - 1]? = some '\\' then firstColumn str s fuel else return e

def nextColumn (str : List Char) : ℕ → ℕ → Except Stop (ℕ × ℕ)
  | 0, _ => .error .running
  | fuel + 1, e => do
    let s := e + 4
    let e ← findQuote str s
    if str[e - 1]? = some '\\' then nextColumn str fuel e else return (s, e)

/-- The loop over the columns, up to the one with the given index. -/
def columns (fuel : ℕ) (str : List Char) (s : ℕ) : ℕ → Except Stop (ℕ × ℕ)
  | 0 => (firstColumn str s fuel).map (s, ·)
  | i + 1 => do
    let (_, e) ← columns fuel str s i
    nextColumn str fuel e

def FindColumn (fuel : ℕ) (str : List Char) (column : String) : Except Stop (ℕ × ℕ) :=
  match GetColumnIndexByName ts column with
  | none => .error .notFound
  | some columnIndex =>
    match findText VALUES str with
    | none => .error .notFound
    | some s => columns fuel str (s + 9) columnIndex

def ChangeColumn (fuel : ℕ) (str : List Char) (column : String) (text : List Char)
    (allowZero : Bool) : Except Stop (List Char) := do
  let (s, e) ← FindColumn ts fuel str column
  if allowZero ∧ (str.drop s).take (e - s) = ['0'] then return str
  else return str.take s ++ text ++ str.drop e

def GetColumn (fuel : ℕ) (str : List Char) (column : String) : Except Stop (List Char) :=
  match FindColumn ts fuel str column with
  | .ok (s, e) => .ok ((str.drop s).take (e - s))
  | .error .notFound => .ok []
  | .error .running => .error .running

def Misread (value : List Char) : Prop := '\'' ∈ value ∨ value.getLast? = some '\\'

theorem escapeChar_ne_nil (c : Char) : escapeChar c ≠ [] := by
  unfold escapeChar
  split_ifs <;> simp

theorem getLast?_escapeChar (c : Char) :
    (escapeChar c).getLast? = some '\\' ↔ c = '\\' := by
  unfold escapeChar
  split_ifs <;> simp_all

theorem quote_mem_escapeChar {c : Char} (hc : c ≠ '\'') : '\'' ∉ escapeChar c := by
  unfold escapeChar
  split_ifs <;> simp_all [eq_comm]

theorem quote_notMem_EscapeString {value : List Char} (hquote : '\'' ∉ value) :
    '\'' ∉ EscapeString value := by
  rw [EscapeString, mem_flatMap]
  rintro ⟨c, hc, hmem⟩
  exact quote_mem_escapeChar (fun heq => hquote (heq ▸ hc)) hmem

/-- The first quote at or behind the text of a value. -/
theorem quote_fieldText (value rest : List Char) :
    ∃ before after, fieldText value ++ '\'' :: rest = before ++ '\'' :: after ∧ '\'' ∉ before ∧
      before ≠ [] ∧ (before.getLast? = some '\\' ↔ Misread value) ∧
      (¬ Misread value → before = fieldText value) := by
  by_cases hquote : '\'' ∈ value
  · obtain ⟨front, back, rfl, hfront⟩ := eq_append_cons_of_mem hquote
    refine ⟨EscapeString front ++ ['\\'], EscapeString back ++ '\'' :: rest, ?_, ?_, by simp, ?_, ?_⟩
    · simp [fieldText, EscapeString, escapeChar]
    · simpa using quote_notMem_EscapeString hfront
    · simp [Misread]
    · exact fun hread => absurd (.inl hquote) hread
  · refine ⟨fieldText value, rest, rfl, ?_, ?_, ?_, fun _ => rfl⟩
    · rw [fieldText]
      split
      · decide
      · exact quote_notMem_EscapeString hquote
    all_goals
      obtain rfl | ⟨front, c, rfl⟩ := eq_nil_or_concat' value
      · simp [fieldText, Misread]
    · simp [fieldText, EscapeString, escapeChar_ne_nil]
    · rw [Misread, or_iff_right hquote, fieldText, if_neg (by simp), EscapeString, flatMap_append,
        flatMap_singleton, getLast?_append_of_ne_nil _ (escapeChar_ne_nil c), getLast?_escapeChar]
      simp

theorem quoted_split (close : List Char) {texts : List (List Char)} {k : ℕ}
    (hk : k < texts.length) :
    ∃ front back, front.length = ((texts.take k).map (·.length + 4)).sum ∧
      ∀ text, quoted '\'' close (texts.set k text) = front ++ (text ++ '\'' :: back) := by
  induction texts generalizing k with
  | nil => exact absurd hk (Nat.not_lt_zero k)
  | cons first texts ih =>
    cases k with
    | zero => exact ⟨[], _, rfl, fun _ => rfl⟩
    | succ k =>
      obtain ⟨front, back, hfront, hset⟩ := ih (Nat.lt_of_succ_lt_succ hk)
      refine ⟨first ++ '\'' :: ", ".toList ++ '\'' :: front, back, ?_, fun text => ?_⟩
      · simp [hfront]
        omega
      · have hne : texts.set k text ≠ [] := by
          rw [Ne, set_eq_nil_iff]
          rintro rfl
          exact absurd hk (by simp)
        rw [set_cons_succ, quoted, if_neg hne, hset]
        simp

section
variable {str value rest : List Char} {s : ℕ}

theorem findQuote_text (hdrop : str.drop s = fieldText value ++ '\'' :: rest) :
    ∃ e, findQuote str s = .ok e ∧ (str[e - 1]? = some '\\' ↔ Misread value) ∧
      (¬ Misread value → e = s + (fieldText value).length) := by
  obtain ⟨before, after, heq, hbefore, hne, hlast, hread⟩ := quote_fieldText value rest
  rw [heq] at hdrop
  have hfind : (before ++ '\'' :: after).findIdx? (· = '\'') = some before.length := by
    rw [findIdx?_append, findIdx?_eq_none_iff.mpr fun c hc => by
      simpa using fun heq : c = '\'' => hbefore (heq ▸ hc)]
    simp [findIdx?_cons]
  refine ⟨s + before.length, by rw [findQuote, hdrop, hfind], ?_, fun h => by rw [hread h]⟩
  have hpos := length_pos_of_ne_nil hne
  rw [← hlast, getLast?_eq_getElem?, Nat.add_sub_assoc hpos, ← getElem?_drop, hdrop,
    getElem?_append_left (by omega)]

theorem firstColumn_good (hdrop : str.drop s = fieldText value ++ '\'' :: rest)
    (hread : ¬ Misread value) (fuel : ℕ) :
    firstColumn str s (fuel + 1) = .ok (s + (fieldText value).length) := by
  obtain ⟨e, hfind, hlast, heq⟩ := findQuote_text hdrop
  rw [firstColumn, hfind, ← heq hread]
  exact if_neg (mt hlast.mp hread)

/-- In the first column the search starts again at the same place. -/
theorem firstColumn_misread (hdrop : str.drop s = fieldText value ++ '\'' :: rest)
    (hmisread : Misread value) (fuel : ℕ) : firstColumn str s fuel = .error .running := by
  obtain ⟨e, hfind, hlast, -⟩ := findQuote_text hdrop
  induction fuel with
  | zero => rfl
  | succ fuel ih =>
    rw [firstColumn, hfind]
    exact (if_pos (hlast.mpr hmisread)).trans ih

theorem nextColumn_good {e : ℕ} (hdrop : str.drop (e + 4) = fieldText value ++ '\'' :: rest)
    (hread : ¬ Misread value) (fuel : ℕ) :
    nextColumn str (fuel + 1) e = .ok (e + 4, e + 4 + (fieldText value).length) := by
  obtain ⟨last, hfind, hlast, heq⟩ := findQuote_text hdrop
  rw [nextColumn, hfind, ← heq hread]
  exact if_neg (mt hlast.mp hread)

theorem le_of_findQuote {e : ℕ} (hfind : findQuote str s = .ok e) : s ≤ e := by
  rw [findQuote] at hfind
  split at hfind
  · cases hfind
  · obtain rfl := Except.ok.inj hfind
    exact Nat.le_add_right s _

theorem le_of_nextColumn {fuel e : ℕ} {found : ℕ × ℕ}
    (hnext : nextColumn str fuel e = .ok found) : e + 4 ≤ found.1 := by
  induction fuel generalizing e with
  | zero => cases hnext
  | succ fuel ih =>
    rw [nextColumn] at hnext
    cases hfind : findQuote str (e + 4) with
    | error stop => simp [hfind, bind, Except.bind] at hnext
    | ok last =>
      have hle := le_of_findQuote hfind
      simp only [hfind, bind, Except.bind] at hnext
      split at hnext
      · exact hle.trans ((Nat.le_add_right last 4).trans (ih hnext))
      · obtain rfl := Except.ok.inj hnext
        exact le_rfl

theorem nextColumn_misread {e : ℕ} (hdrop : str.drop (e + 4) = fieldText value ++ '\'' :: rest)
    (hmisread : Misread value) (fuel last : ℕ) :
    nextColumn str fuel e ≠ .ok (e + 4, last) := by
  intro hnext
  obtain ⟨next, hfind, hlast, -⟩ := findQuote_text hdrop
  cases fuel with
  | zero => cases hnext
  | succ fuel =>
    rw [nextColumn, hfind] at hnext
    have hle := le_of_nextColumn ((if_pos (hlast.mpr hmisread)).symm.trans hnext)
    have hfound := le_of_findQuote hfind
    omega

end

def startOf (texts : List (List Char)) (k : ℕ) : ℕ :=
  (header ts).length + 9 + ((texts.take k).map (·.length + 4)).sum

variable {ts} {row : List (List Char)} {k : ℕ}

variable (ts) in
theorem insertLine_split {texts : List (List Char)} (hk : k < texts.length) :
    ∃ front back, front.length = startOf ts texts k ∧
      ∀ text, insertLine ts (texts.set k text) = front ++ (text ++ '\'' :: back) := by
  obtain ⟨front, back, hfront, hset⟩ := quoted_split ");".toList hk
  refine ⟨header ts ++ (VALUES ++ front), back, ?_, fun text => ?_⟩
  · simp [startOf, hfront, VALUES]
    omega
  · simp only [insertLine, hset, append_assoc]

variable (ts) in
theorem drop_startOf (hk : k < row.length) : ∃ rest,
    (AppendTableDump ts row).drop (startOf ts (row.map fieldText) k) =
      fieldText row[k] ++ '\'' :: rest := by
  obtain ⟨front, back, hfront, hset⟩ := insertLine_split ts
    (show k < (row.map fieldText).length by simpa using hk)
  have hself := hset (fieldText row[k])
  rw [← getElem_map fieldText (h := by simpa using hk), set_getElem_self] at hself
  refine ⟨back, ?_⟩
  rw [AppendTableDump, hself, ← hfront, drop_left, getElem_map]

theorem startOf_succ (hk : k < row.length) :
    startOf ts (row.map fieldText) (k + 1) =
      startOf ts (row.map fieldText) k + (fieldText row[k]).length + 4 := by
  rw [startOf, startOf, take_add_one, getElem?_eq_getElem (by simpa using hk)]
  simp
  omega

theorem columns_good (fuel : ℕ) (hk : k < row.length)
    (hread : ∀ j (hj : j < row.length), j ≤ k → ¬ Misread row[j]) :
    columns (fuel + 1) (AppendTableDump ts row) (startOf ts (row.map fieldText) 0) k =
      .ok (startOf ts (row.map fieldText) k,
        startOf ts (row.map fieldText) k + (fieldText row[k]).length) := by
  obtain ⟨rest, hdrop⟩ := drop_startOf ts hk
  induction k generalizing rest with
  | zero => rw [columns, firstColumn_good hdrop (hread 0 hk le_rfl)]; rfl
  | succ k ih =>
    have hk' := Nat.lt_of_succ_lt hk
    obtain ⟨before, hbefore⟩ := drop_startOf ts hk'
    rw [columns, ih hk' (fun j hj hle => hread j hj (Nat.le_succ_of_le hle)) before hbefore,
      startOf_succ hk']
    exact nextColumn_good (startOf_succ hk' ▸ hdrop) (hread _ hk le_rfl) fuel

theorem columns_misread (fuel last : ℕ) (hk : k < row.length)
    (hread : ∀ j (hj : j < row.length), j < k → ¬ Misread row[j]) (hmisread : Misread row[k]) :
    columns fuel (AppendTableDump ts row) (startOf ts (row.map fieldText) 0) k ≠
      .ok (startOf ts (row.map fieldText) k, last) := by
  obtain ⟨rest, hdrop⟩ := drop_startOf ts hk
  cases k with
  | zero => rw [columns, firstColumn_misread hdrop hmisread]; simp [Except.map]
  | succ k =>
    have hk' := Nat.lt_of_succ_lt hk
    cases fuel with
    | zero =>
      intro hfound
      rw [columns] at hfound
      cases hcolumns : columns 0 (AppendTableDump ts row) (startOf ts (row.map fieldText) 0) k <;>
        simp [hcolumns, bind, Except.bind, nextColumn] at hfound
    | succ fuel =>
      rw [columns, columns_good fuel hk' fun j hj hle => hread j hj (Nat.lt_succ_of_le hle)]
      rw [startOf_succ hk'] at hdrop ⊢
      exact nextColumn_misread hdrop hmisread _ last

theorem findText_values (front rest : List Char) :
    findText VALUES (front ++ (VALUES ++ rest)) = some front.length ↔ ¬ VALUES <:+: front := by
  have hfirst : ∀ n : Fin 9, VALUES[n.val]? = some 'V' → n.val = 0 := by decide
  induction front with
  | nil => simp [VALUES, findText, isPrefixOf]
  | cons c front ih =>
    have hoverlap : VALUES <+: c :: (front ++ (VALUES ++ rest)) ↔ VALUES <+: c :: front := by
      refine ⟨fun hstarts => ?_, fun hstarts => hstarts.trans (prefix_append _ _)⟩
      rcases Nat.lt_or_ge (c :: front).length VALUES.length with hshort | hlong
      · obtain ⟨more, hmore⟩ := hstarts
        have hchar := congrArg (·[(c :: front).length]?) (hmore.trans (cons_append ..).symm)
        rw [getElem?_append_left hshort, getElem?_append_right le_rfl, Nat.sub_self] at hchar
        exact absurd (hfirst ⟨_, hshort⟩ hchar) (Nat.succ_ne_zero _)
      · exact prefix_of_prefix_length_le hstarts (prefix_append _ _) hlong
    rw [← isPrefixOf_iff_prefix] at hoverlap
    rw [cons_append, findText, infix_cons_iff, not_or]
    by_cases hstarts : VALUES <+: c :: front
    · rw [if_pos (hoverlap.mpr hstarts)]
      simp [hstarts]
    · rw [if_neg (mt hoverlap.mp hstarts)]
      simp [hstarts, ← ih]

structure Found (ts : TableStruct) (texts : List (List Char)) (column : String) (k fuel : ℕ) :
    Prop where
  find : FindColumn ts fuel (insertLine ts texts) column =
    .ok (startOf ts texts k, startOf ts texts k + (texts.getD k []).length)
  get : GetColumn ts fuel (insertLine ts texts) column = .ok (texts.getD k [])
  change text : ChangeColumn ts fuel (insertLine ts texts) column text false =
    .ok (insertLine ts (texts.set k text))

theorem found_of_find {texts : List (List Char)} {column : String} {fuel : ℕ}
    (hk : k < texts.length)
    (hfind : FindColumn ts fuel (insertLine ts texts) column =
      .ok (startOf ts texts k, startOf ts texts k + texts[k].length)) :
    Found ts texts column k fuel := by
  obtain ⟨front, back, hfront, hset⟩ := insertLine_split ts hk
  have hself := hset texts[k]
  rw [set_getElem_self] at hself
  have hgetD : texts.getD k [] = texts[k] := getD_eq_getElem _ _ hk
  refine ⟨hgetD ▸ hfind, ?_, fun text => ?_⟩
  · rw [GetColumn, hfind]
    simp [hself, ← hfront, hk]
  · rw [ChangeColumn, hfind, hset]
    simp [hself, ← hfront, bind, Except.bind, pure, Except.pure, drop_append]

theorem getColumnIndexByName_eq (hnodup : (ts.TableFields.map (·.FieldName)).Nodup)
    (hk : k < ts.TableFields.length) :
    GetColumnIndexByName ts ts.TableFields[k].FieldName = some k := by
  refine findIdx?_eq_some_iff_getElem.mpr ⟨hk, by simp, fun j hj => ?_⟩
  rw [decide_eq_true_eq]
  intro heq
  have hj' : j < (ts.TableFields.map (·.FieldName)).length := by simpa using hj.trans hk
  exact hj.ne ((getElem?_inj hj' hnodup).mp (by simp [hj.trans hk, hk, heq]))

theorem FindColumn_eq {column : String} (hindex : GetColumnIndexByName ts column = some k)
    (fuel : ℕ) : FindColumn ts fuel (AppendTableDump ts row) column =
      match findText VALUES (AppendTableDump ts row) with
      | none => .error .notFound
      | some s => columns fuel (AppendTableDump ts row) (s + 9) k := by
  rw [FindColumn, hindex]

/-- In the line of a row every column is found just when no value has a quote in it or a
backslash at its end, and when no name has the text in it that stands before the values. -/
theorem found_iff (hnodup : (ts.TableFields.map (·.FieldName)).Nodup)
    (hrow : row.length = ts.TableFields.length) :
    (∀ column k, GetColumnIndexByName ts column = some k →
      ∃ fuel, Found ts (row.map fieldText) column k fuel) ↔
    ∀ value ∈ row, ('\'' ∉ value ∧ value.getLast? ≠ some '\\') ∧ ¬ VALUES <:+: header ts := by
  have hfind : findText VALUES (AppendTableDump ts row) = some (header ts).length ↔
      ¬ VALUES <:+: header ts := findText_values _ _
  have hstart : startOf ts (row.map fieldText) 0 = (header ts).length + 9 := by simp [startOf]
  constructor
  · intro hfound value hvalue
    obtain ⟨k, hk, rfl⟩ := getElem_of_mem hvalue
    have hcolumn (j) (hj : j < row.length) :=
      hfound _ j (getColumnIndexByName_eq hnodup (hrow ▸ hj))
    have hheader : findText VALUES (AppendTableDump ts row) = some (header ts).length := by
      obtain ⟨fuel, hzero⟩ := hcolumn 0 (Nat.zero_lt_of_lt hk)
      have hzero := hzero.find
      rw [← AppendTableDump, FindColumn_eq (getColumnIndexByName_eq hnodup _)] at hzero
      split at hzero
      · cases hzero
      · rename_i s hs
        rw [columns] at hzero
        cases hfirst : firstColumn (AppendTableDump ts row) (s + 9) fuel with
        | error stop => cases (hfirst ▸ hzero)
        | ok e =>
          rw [hfirst, Except.map, Except.ok.injEq, Prod.mk.injEq, hstart] at hzero
          rw [hs, Nat.add_right_cancel hzero.1]
    have hread (j) (hj : j < row.length) : ¬ Misread row[j] := by
      induction j using Nat.strong_induction_on with
      | h j ih =>
        intro hmisread
        obtain ⟨fuel, hcolumn⟩ := hcolumn j hj
        have hcolumn := hcolumn.find
        rw [← AppendTableDump, FindColumn_eq (getColumnIndexByName_eq hnodup _), hheader] at hcolumn
        simp only [← hstart] at hcolumn
        exact columns_misread fuel _ hj (fun i hi hlt => ih i hlt hi) hmisread hcolumn
    exact ⟨not_or.mp (hread k hk), hfind.mp hheader⟩
  · intro hvalues column k hindex
    have hk : k < row.length := by
      obtain ⟨hk, -⟩ := findIdx?_eq_some_iff_getElem.mp hindex
      exact hrow ▸ hk
    have hheader := hfind.mpr (hvalues _ (getElem_mem hk)).2
    refine ⟨1, found_of_find (by simpa using hk) ?_⟩
    rw [← AppendTableDump, FindColumn_eq hindex, hheader, getElem_map]
    simp only [← hstart]
    exact columns_good 0 hk fun j hj _ => not_or.mpr (hvalues _ (getElem_mem hj)).1

def nameTable : TableStruct := ⟨"t", "", [⟨"name", .ACCOUNT, false⟩]⟩

theorem nameTable_plain : ¬ VALUES <:+: header nameTable := by decide

theorem plain_name_found : ∃ fuel, Found nameTable ([['A']].map fieldText) "name" 0 fuel :=
  (@found_iff nameTable [['A']] (by decide) rfl).mpr
    (forall_mem_singleton.mpr ⟨by decide, nameTable_plain⟩) "name" 0 (by decide)

/-- A single quote in the first column. -/
theorem quote_not_found :
    ¬ ∃ fuel, Found nameTable ([['\'']].map fieldText) "name" 0 fuel := by
  rintro ⟨fuel, hfound⟩
  have htext : findText VALUES (AppendTableDump nameTable [['\'']]) =
      some (header nameTable).length := (findText_values _ _).mpr nameTable_plain
  have hfind := hfound.find
  rw [← AppendTableDump, FindColumn_eq (k := 0) (by decide), htext] at hfind
  exact columns_misread fuel _ (by decide) (fun j _ hj => by omega)
    (.inl (by decide)) hfind

end AzerothCore.Tools.PlayerDump
