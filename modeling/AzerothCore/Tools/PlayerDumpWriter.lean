import AzerothCore.Collections.Folding
import AzerothCore.Tools.PlayerDump
import Mathlib.Data.List.Sort

/-!
# Writing a player dump

A query selects the rows for which its condition holds. The dump is the list of
the `INSERT` statements, each for one row of one table.
-/

namespace AzerothCore.Tools.PlayerDumpWriter

open PlayerDump

inductive Value where
  | null
  | int (n : ℕ)
  | text (content : String)
  deriving DecidableEq

/-- `Field::Get` of an integer. -/
def Value.toNat : Value → ℕ
  | int n => n
  | null | text _ => 0

abbrev Row := String → Value

abbrev CharacterDatabase := String → List Row

inductive Condition where
  | equals (field : String) (guid : ℕ)
  /-- The text of the condition and the identifiers that it lists. -/
  | isIn (field : String) (text : String) (guids : List ℕ)

def Condition.holds (row : Row) : Condition → Bool
  | equals field guid => row field = .int guid
  | isIn field _ guids => guids.any fun guid => row field = .int guid

variable (db : CharacterDatabase)

def Query (table : String) (condition : Condition) : List Row :=
  (db table).filter (condition.holds ·)

def MAX_QUERY_LEN : ℕ := 32 * 1024

/-- The loop over the set: the text so far grows until it is near to the maximum. -/
def listGuids (whereStr : String) : List ℕ → String × List ℕ
  | [] => (whereStr, [])
  | guid :: rest =>
    let listed := whereStr ++ toString guid
    if MAX_QUERY_LEN - 50 < listed.length then (listed, [guid])
    else
      let (text, guids) := listGuids (if rest = [] then listed else listed ++ "','") rest
      (text, guid :: guids)

def generateWhereIn (field : String) (guidSet : List ℕ) : Condition :=
  let (text, guids) := listGuids (field ++ " IN ('") guidSet
  .isIn field (text ++ "')") guids

/-- `std::set::insert` -/
def insertGuid (guid : ℕ) (guidSet : List ℕ) : List ℕ :=
  if guid ∈ guidSet then guidSet else guidSet.orderedInsert (· ≤ ·) guid

structure Guids where
  pets : List ℕ := []
  mails : List ℕ := []
  items : List ℕ := []
  itemSets : List ℕ := []

def Guids.insert (storedType : GuidType) (guid : ℕ) (guids : Guids) : Guids :=
  if guid = 0 then guids
  else
    match storedType with
    | .ITEM => { guids with items := insertGuid guid guids.items }
    | .MAIL => { guids with mails := insertGuid guid guids.mails }
    | .PET => { guids with pets := insertGuid guid guids.pets }
    | .EQUIPMENT_SET => { guids with itemSets := insertGuid guid guids.itemSets }
    | _ => guids

def populateFrom (guid : ℕ) (guids : Guids) (baseTable : BaseTable) : Guids :=
  (Query db baseTable.TableName (.equals baseTable.PlayerGuid guid)).foldl
    (fun guids row => guids.insert baseTable.StoredType (row baseTable.PrimaryKey).toNat) guids

def PopulateGuids (guid : ℕ) : Guids :=
  BaseTables.foldl (populateFrom db guid) {}

/-- An `INSERT` statement for a row. -/
structure Statement where
  table : String
  row : Row

inductive DumpError where
  | deleted
  /-- A failed assertion. -/
  | aborted
  deriving DecidableEq

/-- The condition by which rows are selected; there is none when the set is empty. -/
def whereStr (guids : Guids) (guid : ℕ) (tableStruct : TableStruct) :
    DumpTableType → Option Condition
  | .ITEM | .ITEM_GIFT => fromSet guids.items
  | .PET_TABLE => fromSet guids.pets
  | .MAIL_ITEM => fromSet guids.mails
  | .EQSET_TABLE => fromSet guids.itemSets
  | _ => some (.equals tableStruct.WhereFieldName guid)
where
  fromSet (guidSet : List ℕ) : Option Condition :=
    if guidSet = [] then none else some (generateWhereIn tableStruct.WhereFieldName guidSet)

/-- `characters.deleteInfos_Account` - if filled error -/
def checkDeleted (tableStruct : TableStruct) (dumpTable : DumpTable) (result : List Row) :
    Except DumpError Unit :=
  match dumpTable.type, result with
  | .CHARACTER, row :: _ =>
    if (GetColumnIndexByName tableStruct "deleteInfos_Account").isNone then .error .aborted
    else if (row "deleteInfos_Account").toNat ≠ 0 then .error .deleted
    else .ok ()
  | _, _ => .ok ()

def AppendTable (guids : Guids) (guid : ℕ) (trans : List Statement)
    (table : TableStruct × DumpTable) : Except DumpError (List Statement) :=
  match whereStr guids guid table.1 table.2.type with
  | none => .ok trans
  | some condition => do
    let result := Query db table.2.Name condition
    checkDeleted table.1 table.2 result
    return trans ++ result.map fun row => { table := table.2.Name, row }

def GetDump (CharacterTables : List TableStruct) (db : CharacterDatabase) (guid : ℕ) :
    Except DumpError (List Statement) :=
  (CharacterTables.zip DumpTables).foldlM (AppendTable db (PopulateGuids db guid) guid) []

end AzerothCore.Tools.PlayerDumpWriter

/-!
## The rows of a dump

What a dump has of each table, compared with the rows that belong to the
character. Two things come between: a list of identifiers is cut off near the
maximum length of a query, and equipment sets are looked for by the identifiers
of the sets among the owners.
-/

namespace AzerothCore.Tools.DumpedRows

open List Option Bool
open PlayerDump PlayerDumpWriter Folding

variable {db : CharacterDatabase} {guid : ℕ}

/-! ### What belongs to a character -/

def Value.int? : Value → Option ℕ
  | .int n => some n
  | .null | .text _ => none

def ownIds (db : CharacterDatabase) (guid : ℕ) (baseTable : BaseTable) : List ℕ :=
  ((db baseTable.TableName).filter fun row => row baseTable.PlayerGuid = .int guid).filterMap
    fun row => Value.int? (row baseTable.PrimaryKey)

def ownPets (db : CharacterDatabase) (guid : ℕ) : List ℕ :=
  ownIds db guid ⟨"character_pet", "id", "owner", .PET⟩

def ownMails (db : CharacterDatabase) (guid : ℕ) : List ℕ :=
  ownIds db guid ⟨"mail", "id", "receiver", .MAIL⟩

def ownItems (db : CharacterDatabase) (guid : ℕ) : List ℕ :=
  ownIds db guid ⟨"item_instance", "guid", "owner_guid", .ITEM⟩

def ownSets (db : CharacterDatabase) (guid : ℕ) : List ℕ :=
  ownIds db guid ⟨"character_equipmentsets", "setguid", "guid", .EQUIPMENT_SET⟩

def refersTo (row : Row) (field : String) (guids : List ℕ) : Bool :=
  guids.any fun guid => row field = .int guid

def belongs (db : CharacterDatabase) (guid : ℕ) (row : Row) : DumpTableType → Bool
  | .CHARACTER | .CHAR_TABLE | .EQSET_TABLE | .INVENTORY => row "guid" = .int guid
  | .MAIL => row "receiver" = .int guid
  | .PET => row "owner" = .int guid
  | .MAIL_ITEM => refersTo row "mail_id" (ownMails db guid)
  | .ITEM => refersTo row "guid" (ownItems db guid)
  | .ITEM_GIFT => refersTo row "item_guid" (ownItems db guid)
  | .PET_TABLE => refersTo row "guid" (ownPets db guid)

def rowsOf (dump : List Statement) (table : String) : List Row :=
  (dump.filter (·.table = table)).map (·.row)

/-! ### The collected identifiers -/

def Guids.of (guids : Guids) : GuidType → List ℕ
  | .ITEM => guids.items
  | .MAIL => guids.mails
  | .PET => guids.pets
  | .EQUIPMENT_SET => guids.itemSets
  | .ACCOUNT | .CHAR | .NULL => []

variable {guidSet : List ℕ} {n : ℕ}

theorem mem_insertGuid {new : ℕ} : n ∈ insertGuid new guidSet ↔ n = new ∨ n ∈ guidSet := by
  unfold insertGuid
  split
  · rename_i held
    exact ⟨.inr, fun cases => cases.elim (fun same => same ▸ held) id⟩
  · exact mem_orderedInsert _

def insertId (guidSet : List ℕ) (guid : ℕ) : List ℕ :=
  if guid = 0 then guidSet else insertGuid guid guidSet

def sortedIds (own : List ℕ) : List ℕ := own.foldl insertId []

variable {own : List ℕ}

theorem mem_foldl_insertId : n ∈ own.foldl insertId guidSet ↔ n ∈ guidSet ∨ (n ≠ 0 ∧ n ∈ own) := by
  induction own generalizing guidSet with
  | nil => simp
  | cons first rest ih =>
    rw [foldl_cons, ih, insertId]
    split
    · rename_i zero
      rw [zero, mem_cons]
      tauto
    · rename_i positive
      rw [mem_insertGuid, mem_cons]
      have : n = first → n ≠ 0 := fun same => same ▸ positive
      tauto

theorem mem_sortedIds : n ∈ sortedIds own ↔ n ≠ 0 ∧ n ∈ own := by
  rw [sortedIds, mem_foldl_insertId]
  simp

def Collected (kind : GuidType) : Prop :=
  kind = .ITEM ∨ kind = .MAIL ∨ kind = .PET ∨ kind = .EQUIPMENT_SET

variable {guids : Guids} {kind : GuidType}

theorem of_insert {stored : GuidType} (new : ℕ) (collected : Collected kind) :
    Guids.of (guids.insert stored new) kind =
      if stored = kind then insertId (Guids.of guids kind) new else Guids.of guids kind := by
  unfold Guids.insert insertId
  by_cases zero : new = 0
  · rw [if_pos zero, if_pos zero, ite_self]
  · rw [if_neg zero, if_neg zero]
    obtain rfl | rfl | rfl | rfl := collected <;> cases stored <;> rfl

variable {baseTable : BaseTable} {rows : List Row}

theorem of_foldl_insert (collected : Collected kind) : Guids.of (rows.foldl
        (fun guids row => guids.insert baseTable.StoredType (row baseTable.PrimaryKey).toNat) guids)
      kind =
      if baseTable.StoredType = kind then
        (rows.filterMap fun row => Value.int? (row baseTable.PrimaryKey)).foldl insertId
          (Guids.of guids kind)
      else Guids.of guids kind := by
  induction rows generalizing guids with
  | nil => rw [foldl_nil, filterMap_nil, foldl_nil, ite_self]
  | cons row rest ih =>
    rw [foldl_cons, ih, of_insert _ collected, filterMap_cons]
    split
    · cases row baseTable.PrimaryKey with
      | int n => rfl
      | null => rfl
      | text content => rfl
    · rfl

theorem of_populateFrom (collected : Collected kind) :
    Guids.of (populateFrom db guid guids baseTable) kind =
      if baseTable.StoredType = kind then
        (ownIds db guid baseTable).foldl insertId (Guids.of guids kind)
      else Guids.of guids kind :=
  of_foldl_insert collected

theorem PopulateGuids_eq : PopulateGuids db guid =
      { pets := sortedIds (ownPets db guid), mails := sortedIds (ownMails db guid)
        items := sortedIds (ownItems db guid), itemSets := sortedIds (ownSets db guid) } := by
  have pets : Guids.of (PopulateGuids db guid) .PET = sortedIds (ownPets db guid) := by
    have collected : Collected .PET := by simp [Collected]
    simp only [PopulateGuids, BaseTables, foldl_cons, foldl_nil,
      of_populateFrom collected, reduceCtorEq, ↓reduceIte]
    rfl
  have mails : Guids.of (PopulateGuids db guid) .MAIL = sortedIds (ownMails db guid) := by
    have collected : Collected .MAIL := by simp [Collected]
    simp only [PopulateGuids, BaseTables, foldl_cons, foldl_nil,
      of_populateFrom collected, reduceCtorEq, ↓reduceIte]
    rfl
  have items : Guids.of (PopulateGuids db guid) .ITEM = sortedIds (ownItems db guid) := by
    have collected : Collected .ITEM := by simp [Collected]
    simp only [PopulateGuids, BaseTables, foldl_cons, foldl_nil,
      of_populateFrom collected, reduceCtorEq, ↓reduceIte]
    rfl
  have sets : Guids.of (PopulateGuids db guid) .EQUIPMENT_SET = sortedIds (ownSets db guid) := by
    have collected : Collected .EQUIPMENT_SET := by simp [Collected]
    simp only [PopulateGuids, BaseTables, foldl_cons, foldl_nil,
      of_populateFrom collected, reduceCtorEq, ↓reduceIte]
    rfl
  simp only [Guids.of] at pets mails items sets
  rw [← pets, ← mails, ← items, ← sets]

theorem prefix_of_listGuids (text : String) (guidSet : List ℕ) :
    (listGuids text guidSet).2 <+: guidSet := by
  induction guidSet generalizing text with
  | nil => exact nil_prefix
  | cons guid rest ih =>
    rw [listGuids]
    split
    · exact cons_prefix_cons.mpr ⟨rfl, nil_prefix⟩
    · exact cons_prefix_cons.mpr ⟨rfl, ih _⟩

def listed (field : String) (guidSet : List ℕ) : List ℕ := (listGuids (field ++ " IN ('") guidSet).2

variable {field : String}

theorem mem_of_listed (held : n ∈ listed field guidSet) : n ∈ guidSet :=
  (prefix_of_listGuids _ guidSet).subset held

def setOf (guids : Guids) : DumpTableType → Option (List ℕ)
  | .ITEM | .ITEM_GIFT => some guids.items
  | .PET_TABLE => some guids.pets
  | .MAIL_ITEM => some guids.mails
  | .EQSET_TABLE => some guids.itemSets
  | .CHARACTER | .CHAR_TABLE | .INVENTORY | .MAIL | .PET => none

def selects (guids : Guids) (guid : ℕ) (field : String) (type : DumpTableType) (row : Row) : Bool :=
  match setOf guids type with
  | none => row field = .int guid
  | some guidSet => refersTo row field (listed field guidSet)

def selectedRows (db : CharacterDatabase) (guids : Guids) (guid : ℕ) (field : String)
    (dumpTable : DumpTable) : List Row :=
  (db dumpTable.Name).filter (selects guids guid field dumpTable.type)

theorem Query_fromSet {name : String} : Query db name (generateWhereIn field guidSet) =
      (db name).filter fun row => refersTo row field (listed field guidSet) := rfl

variable {tableStruct : TableStruct}

theorem AppendTable_eq {trans : List Statement} {dumpTable : DumpTable}
    (live : checkDeleted tableStruct dumpTable
      (selectedRows db guids guid tableStruct.WhereFieldName dumpTable) = .ok ()) :
    AppendTable db guids guid trans (tableStruct, dumpTable) =
      .ok (trans ++ (selectedRows db guids guid tableStruct.WhereFieldName dumpTable).map
        fun row => { table := dumpTable.Name, row }) := by
  have condition : whereStr guids guid tableStruct dumpTable.type =
      match setOf guids dumpTable.type with
      | none => some (.equals tableStruct.WhereFieldName guid)
      | some guidSet => whereStr.fromSet tableStruct guidSet := by
    cases dumpTable.type <;> rfl
  unfold selectedRows at live ⊢
  unfold selects at live ⊢
  rw [AppendTable, condition]
  cases kind : setOf guids dumpTable.type with
  | none =>
    rw [kind] at live
    have result : Query db dumpTable.Name (.equals tableStruct.WhereFieldName guid) =
        (db dumpTable.Name).filter fun row => row tableStruct.WhereFieldName = .int guid := rfl
    dsimp only at live ⊢
    rw [result, live]
    rfl
  | some guidSet =>
    rw [kind] at live
    dsimp only at live ⊢
    unfold whereStr.fromSet
    by_cases empty : guidSet = []
    · rw [if_pos empty, empty]
      have none_listed : (fun row => refersTo row tableStruct.WhereFieldName
          (listed tableStruct.WhereFieldName [])) = fun _ => false := rfl
      simp [none_listed]
    · rw [if_neg empty]
      dsimp only
      rw [Query_fromSet, live]
      rfl

theorem GetColumnIndexByName_isSome {name : String} :
    (GetColumnIndexByName tableStruct name).isSome = true ↔
      name ∈ tableStruct.TableFields.map (·.FieldName) := by
  simp [GetColumnIndexByName, List.findIdx?_isSome]

theorem of_MarkDependentColumn {columnName : String} {dependentType : GuidType}
    {before after : TableStruct}
    (marked : MarkDependentColumn columnName dependentType before = some after) :
    after.WhereFieldName = before.WhereFieldName ∧
      after.TableFields.map (·.FieldName) = before.TableFields.map (·.FieldName) := by
  simp only [MarkDependentColumn, bind_eq_bind, bind_eq_some_iff] at marked
  obtain ⟨itr, -, field, there, marked⟩ := marked
  split at marked
  · exact absurd marked nofun
  cases marked
  refine ⟨rfl, ?_⟩
  apply ext_getElem?
  intro i
  simp only [List.getElem?_map, List.getElem?_set]
  split
  · rename_i same
    subst same
    rw [there]
    split
    · rfl
    · rename_i outside
      exact absurd (List.getElem?_eq_some_iff.mp there).1 outside
  · rfl

theorem of_markColumns {columns : List (String × GuidType)} {before after : TableStruct}
    (marked : columns.foldlM
      (fun table column => MarkDependentColumn column.1 column.2 table) before = some after) :
    after.WhereFieldName = before.WhereFieldName ∧
      after.TableFields.map (·.FieldName) = before.TableFields.map (·.FieldName) := by
  induction columns generalizing before with
  | nil =>
    cases marked
    exact ⟨rfl, rfl⟩
  | cons column rest ih =>
    rw [foldlM_cons, bind_eq_bind, bind_eq_some_iff] at marked
    obtain ⟨next, first, marked⟩ := marked
    obtain ⟨field_next, names_next⟩ := of_MarkDependentColumn first
    obtain ⟨field_after, names_after⟩ := ih marked
    exact ⟨field_after.trans field_next, names_after.trans names_next⟩

theorem of_InitializeTable {columns : List String} {dumpTable : DumpTable} {table : TableStruct}
    (initialized : InitializeTable columns dumpTable = some table) :
    table.WhereFieldName = whereField dumpTable.type ∧
      ∀ name ∈ columns, (GetColumnIndexByName table name).isSome = true := by
  unfold InitializeTable at initialized
  split at initialized
  · exact absurd initialized nofun
  simp only [bind_eq_bind, bind_eq_some_iff] at initialized
  obtain ⟨marked, first, rest⟩ := initialized
  obtain ⟨field_eq, names_eq⟩ := of_markColumns rest
  unfold MarkWhereField at first
  split at first
  · exact absurd first nofun
  split at first
  · exact absurd first nofun
  cases first
  refine ⟨field_eq, fun name held => GetColumnIndexByName_isSome.mpr ?_⟩
  rw [names_eq, List.map_map]
  exact List.mem_map.mpr ⟨name, held, rfl⟩

theorem forall₂_of_mapM {α β : Type} {f : α → Option β} {items : List α} {results : List β}
    (mapped : items.mapM f = some results) :
    List.Forall₂ (fun item result => f item = some result) items results := by
  induction items generalizing results with
  | nil =>
    cases mapped
    exact .nil
  | cons item rest ih =>
    rw [mapM_cons] at mapped
    simp only [bind_eq_bind, bind_eq_some_iff] at mapped
    obtain ⟨first, first_eq, others, others_eq, same⟩ := mapped
    cases same
    exact .cons first_eq (ih others_eq)

structure StartedServer where
  desc : String → List String
  deleteInfos : "deleteInfos_Account" ∈ desc "characters"
  CharacterTables : List TableStruct
  initialized : InitializeTables desc = some CharacterTables

variable (server : StartedServer)

theorem StartedServer.tables :
    List.Forall₂ (fun dumpTable table => InitializeTable (server.desc dumpTable.Name) dumpTable =
      some table) DumpTables server.CharacterTables := by
  have initialized := server.initialized
  simp only [InitializeTables, bind_eq_bind, bind_eq_some_iff] at initialized
  obtain ⟨tables, mapped, rest⟩ := initialized
  split at rest
  · exact absurd rest nofun
  simp only [bind_eq_some_iff] at rest
  obtain ⟨-, -, same⟩ := rest
  cases same
  exact forall₂_of_mapM mapped

def insertInto (dumpTable : DumpTable) (row : Row) : Statement := { table := dumpTable.Name, row }

variable {dumpTables : List DumpTable}

theorem foldlM_AppendTable {tables : List TableStruct}
    (matching : List.Forall₂ (fun dumpTable table =>
      table.WhereFieldName = whereField dumpTable.type ∧ checkDeleted table dumpTable
        (selectedRows db guids guid (whereField dumpTable.type) dumpTable) = .ok ())
      dumpTables tables) (trans : List Statement) :
    (tables.zip dumpTables).foldlM (AppendTable db guids guid) trans =
      .ok (trans ++ dumpTables.flatMap fun dumpTable =>
        (selectedRows db guids guid (whereField dumpTable.type) dumpTable).map
          (insertInto dumpTable)) := by
  induction matching generalizing trans with
  | nil => simp [pure, Except.pure]
  | cons first rest ih =>
    obtain ⟨field_eq, live⟩ := first
    rw [← field_eq] at live
    rw [zip_cons_cons, foldlM_cons, AppendTable_eq live, ok_bind, ih, field_eq,
      flatMap_cons, append_assoc]
    rfl

def Live (db : CharacterDatabase) (guid : ℕ) : Prop :=
  ∀ row ∈ db "characters", row "guid" = .int guid → (row "deleteInfos_Account").toNat = 0

theorem checkDeleted_of_live {server : StartedServer} {dumpTable : DumpTable}
    {table : TableStruct} (held : dumpTable ∈ DumpTables) (live : Live db guid)
    (initialized : InitializeTable (server.desc dumpTable.Name) dumpTable = some table) :
    checkDeleted table dumpTable
      (selectedRows db guids guid (whereField dumpTable.type) dumpTable) = .ok () := by
  unfold checkDeleted
  split
  · rename_i row rest kind rows_eq
    have name_eq : dumpTable.Name = "characters" := by
      have only : ∀ dumpTable ∈ DumpTables, dumpTable.type = .CHARACTER →
        dumpTable.Name = "characters" := by decide
      exact only dumpTable held kind
    have row_held : row ∈ selectedRows db guids guid (whereField dumpTable.type) dumpTable :=
      rows_eq ▸ mem_cons_self
    obtain ⟨in_table, selected⟩ := mem_filter.mp row_held
    rw [kind] at selected
    have own : row "guid" = .int guid := of_decide_eq_true selected
    have index := (of_InitializeTable initialized).2 "deleteInfos_Account"
      (name_eq ▸ server.deleteInfos)
    rw [name_eq] at in_table
    rw [if_neg (by simp [isSome_iff_ne_none.mp index]),
      if_neg (not_not.mpr (live row in_table own))]
  · rfl

theorem GetDump_eq (live : Live db guid) :
    GetDump server.CharacterTables db guid = .ok (DumpTables.flatMap fun dumpTable =>
        (selectedRows db (PopulateGuids db guid) guid (whereField dumpTable.type) dumpTable).map
          (insertInto dumpTable)) := by
  have matching : List.Forall₂ (fun dumpTable table =>
      table.WhereFieldName = whereField dumpTable.type ∧ checkDeleted table dumpTable
        (selectedRows db (PopulateGuids db guid) guid (whereField dumpTable.type) dumpTable) = .ok ())
      DumpTables server.CharacterTables := by
    have tables := server.tables
    rw [forall₂_iff_get] at tables ⊢
    refine ⟨tables.1, fun i inside inside' => ?_⟩
    have initialized := tables.2 i inside inside'
    exact ⟨(of_InitializeTable initialized).1,
      checkDeleted_of_live (List.get_mem _ _) live initialized⟩
  rw [GetDump, foldlM_AppendTable matching, nil_append]

theorem rowsOf_flatMap {rows : DumpTable → List Row} (distinct : (dumpTables.map (·.Name)).Nodup)
    {dumpTable : DumpTable} (held : dumpTable ∈ dumpTables) :
    rowsOf (dumpTables.flatMap fun dumpTable => (rows dumpTable).map (insertInto dumpTable))
      dumpTable.Name = rows dumpTable := by
  have own (first : DumpTable) (same : first.Name = dumpTable.Name) :
      rowsOf ((rows first).map (insertInto first)) dumpTable.Name = rows first := by
    have all : ((rows first).map (insertInto first)).filter (·.table = dumpTable.Name) =
        (rows first).map (insertInto first) :=
      filter_eq_self.mpr fun statement written => by
        obtain ⟨row, -, rfl⟩ := List.mem_map.mp written
        exact decide_eq_true same
    rw [rowsOf, all, List.map_map]
    exact List.map_id _
  have foreign (others : List DumpTable) (absent : dumpTable.Name ∉ others.map (·.Name)) :
      rowsOf (others.flatMap fun other => (rows other).map (insertInto other)) dumpTable.Name =
        [] := by
    rw [rowsOf, filter_eq_nil_iff.mpr, map_nil]
    intro statement written same
    obtain ⟨other, other_held, written⟩ := mem_flatMap.mp written
    obtain ⟨row, -, rfl⟩ := List.mem_map.mp written
    have same : other.Name = dumpTable.Name := of_decide_eq_true same
    exact absent (List.mem_map.mpr ⟨other, other_held, same⟩)
  have append (left right : List Statement) : rowsOf (left ++ right) dumpTable.Name =
      rowsOf left dumpTable.Name ++ rowsOf right dumpTable.Name := by
    simp [rowsOf]
  induction dumpTables with
  | nil => exact absurd held not_mem_nil
  | cons first rest ih =>
    rw [map_cons, nodup_cons] at distinct
    rw [flatMap_cons, append]
    obtain rfl | behind := mem_cons.mp held
    · rw [own dumpTable rfl, foreign rest distinct.1, append_nil]
    · have differs : dumpTable.Name ∉ [first].map (·.Name) := by
        rw [map_singleton, mem_singleton]
        exact fun same => distinct.1 (same ▸ List.mem_map.mpr ⟨dumpTable, behind, rfl⟩)
      have none := foreign [first] differs
      rw [flatMap_singleton] at none
      rw [none, nil_append, ih distinct.2 behind]

theorem filter_eq_filter_iff {α : Type} {p q : α → Bool} {items : List α} :
    items.filter p = items.filter q ↔ ∀ item ∈ items, p item = q item := by
  refine ⟨fun same item held => eq_iff_iff.mpr ?_, filter_congr⟩
  have mem_iff : item ∈ items.filter p ↔ item ∈ items.filter q := by rw [same]
  simpa [held] using mem_iff

/-! ### When the dump is complete -/

def AllListed (rows : List Row) (field : String) (own : List ℕ) : Prop :=
  ∀ row ∈ rows, ∀ n ∈ own, row field = .int n → n ∈ listed field (sortedIds own)

structure Complete (db : CharacterDatabase) (guid : ℕ) : Prop where
  pets : ∀ name ∈ ["pet_aura", "pet_spell", "pet_spell_cooldown"],
    AllListed (db name) "guid" (ownPets db guid)
  mails : AllListed (db "mail_items") "mail_id" (ownMails db guid)
  items : AllListed (db "item_instance") "guid" (ownItems db guid)
  gifts : AllListed (db "character_gifts") "item_guid" (ownItems db guid)
  /-- A character with equipment sets has one whose identifier is its own guid. -/
  ownSet : ∀ row ∈ db "character_equipmentsets", row "guid" = .int guid →
    guid ∈ listed "guid" (sortedIds (ownSets db guid))
  /-- No other character with equipment sets has one of their identifiers as its guid. -/
  foreignSets : ∀ row ∈ db "character_equipmentsets",
    ∀ n ∈ listed "guid" (sortedIds (ownSets db guid)), row "guid" = .int n → n = guid

theorem refersTo_iff {row : Row} {guids : List ℕ} :
    refersTo row field guids = true ↔ ∃ n ∈ guids, row field = .int n := by
  simp [refersTo]

theorem refersTo_listed_iff :
    (∀ row ∈ rows, refersTo row field (listed field (sortedIds own)) = refersTo row field own) ↔
      AllListed rows field own := by
  constructor
  · intro same row held n owned carries
    have refers : refersTo row field own = true := refersTo_iff.mpr ⟨n, owned, carries⟩
    obtain ⟨m, listed_m, carries'⟩ := refersTo_iff.mp ((same row held).trans refers)
    obtain rfl := Value.int.inj (carries.symm.trans carries')
    exact listed_m
  · intro all row held
    refine eq_iff_iff.mpr ?_
    rw [refersTo_iff, refersTo_iff]
    constructor
    · rintro ⟨n, listed_n, carries⟩
      exact ⟨n, (mem_sortedIds.mp (mem_of_listed listed_n)).2, carries⟩
    · rintro ⟨n, owned, carries⟩
      exact ⟨n, all row held n owned carries, carries⟩

theorem selects_sets_iff {sets : List ℕ} :
    (∀ row ∈ rows, refersTo row "guid" sets = decide (row "guid" = .int guid)) ↔
      (∀ row ∈ rows, row "guid" = .int guid → guid ∈ sets) ∧
        ∀ row ∈ rows, ∀ n ∈ sets, row "guid" = .int n → n = guid := by
  constructor
  · intro same
    constructor
    · intro row held own
      obtain ⟨n, listed_n, carries⟩ := refersTo_iff.mp ((same row held).trans (decide_eq_true own))
      obtain rfl := Value.int.inj (own.symm.trans carries)
      exact listed_n
    · intro row held n listed_n carries
      have refers : refersTo row "guid" sets = true := refersTo_iff.mpr ⟨n, listed_n, carries⟩
      have own := of_decide_eq_true ((same row held).symm.trans refers)
      exact Value.int.inj (carries.symm.trans own)
  · rintro ⟨ownSet, foreignSets⟩ row held
    refine eq_iff_iff.mpr ?_
    rw [refersTo_iff, decide_eq_true_iff]
    constructor
    · rintro ⟨n, listed_n, carries⟩
      rw [← foreignSets row held n listed_n carries]
      exact carries
    · exact fun own => ⟨guid, ownSet row held own, own⟩

/-- The dump of a character that is not deleted has of each table exactly the rows that belong to
the character if and only if its equipment sets are found and no identifier is cut off. -/
theorem dump_is_complete_iff (db : CharacterDatabase) (guid : ℕ)
    (live : Live db guid) :
    ∃ dump, GetDump server.CharacterTables db guid = .ok dump ∧
      ((∀ dumpTable ∈ DumpTables, rowsOf dump dumpTable.Name =
        (db dumpTable.Name).filter fun row => belongs db guid row dumpTable.type) ↔
          Complete db guid) := by
  refine ⟨_, GetDump_eq server live, ?_⟩
  have distinct : (DumpTables.map (·.Name)).Nodup := by decide
  have selected : (∀ dumpTable ∈ DumpTables, rowsOf (DumpTables.flatMap fun dumpTable =>
        (selectedRows db (PopulateGuids db guid) guid (whereField dumpTable.type) dumpTable).map
          (insertInto dumpTable)) dumpTable.Name =
        (db dumpTable.Name).filter fun row => belongs db guid row dumpTable.type) ↔
      ∀ dumpTable ∈ DumpTables, ∀ row ∈ db dumpTable.Name,
        selects (PopulateGuids db guid) guid (whereField dumpTable.type) dumpTable.type row =
          belongs db guid row dumpTable.type := by
    refine forall₂_congr fun dumpTable held => ?_
    rw [@rowsOf_flatMap DumpTables (fun dumpTable => selectedRows db (PopulateGuids db guid) guid
      (whereField dumpTable.type) dumpTable) distinct dumpTable held, selectedRows,
      filter_eq_filter_iff]
  rw [selected, PopulateGuids_eq]
  constructor
  · intro same
    have sets := selects_sets_iff.mp (same ⟨"character_equipmentsets", .EQSET_TABLE⟩ (by decide))
    refine
      { pets := fun name held => ?_
        mails := refersTo_listed_iff.mp (same ⟨"mail_items", .MAIL_ITEM⟩ (by decide))
        items := refersTo_listed_iff.mp (same ⟨"item_instance", .ITEM⟩ (by decide))
        gifts := refersTo_listed_iff.mp (same ⟨"character_gifts", .ITEM_GIFT⟩ (by decide))
        ownSet := sets.1
        foreignSets := sets.2 }
    have petTable : (⟨name, .PET_TABLE⟩ : DumpTable) ∈ DumpTables := by
      revert name
      decide
    exact refersTo_listed_iff.mp (same ⟨name, .PET_TABLE⟩ petTable)
  · intro complete dumpTable held
    have names : ∀ dumpTable ∈ DumpTables, (dumpTable.type = .PET_TABLE →
          dumpTable.Name ∈ ["pet_aura", "pet_spell", "pet_spell_cooldown"]) ∧
        (dumpTable.type = .MAIL_ITEM → dumpTable.Name = "mail_items") ∧
        (dumpTable.type = .ITEM → dumpTable.Name = "item_instance") ∧
        (dumpTable.type = .ITEM_GIFT → dumpTable.Name = "character_gifts") ∧
        (dumpTable.type = .EQSET_TABLE → dumpTable.Name = "character_equipmentsets") := by
      decide
    obtain ⟨pet, mailItem, item, gift, eqSet⟩ := names dumpTable held
    cases kind : dumpTable.type with
    | CHARACTER | CHAR_TABLE | INVENTORY | MAIL | PET => exact fun row _ => rfl
    | PET_TABLE => exact refersTo_listed_iff.mpr (complete.pets dumpTable.Name (pet kind))
    | MAIL_ITEM => exact mailItem kind ▸ refersTo_listed_iff.mpr complete.mails
    | ITEM => exact item kind ▸ refersTo_listed_iff.mpr complete.items
    | ITEM_GIFT => exact gift kind ▸ refersTo_listed_iff.mpr complete.gifts
    | EQSET_TABLE =>
      exact eqSet kind ▸ selects_sets_iff.mpr ⟨complete.ownSet, complete.foreignSets⟩

/-! ### An equipment set that is not found -/

def sparseDesc (name : String) : List String :=
  match DumpTables.find? (·.Name = name) with
  | none => []
  | some dumpTable =>
    whereField dumpTable.type ::
      ((dependentColumns dumpTable.type).map (·.1)).filter (· ≠ whereField dumpTable.type)

theorem sparseDesc_initializes : (InitializeTables sparseDesc).isSome = true := by decide +kernel

def sparseServer : StartedServer where
  desc := sparseDesc
  deleteInfos := by decide
  CharacterTables := (InitializeTables sparseDesc).get sparseDesc_initializes
  initialized := (some_get _).symm

def characterFive : Row := fun column => if column = "guid" then .int 5 else .null

def setOfFive : Row := fun column => if column = "setguid" then .int 1 else .int 5

def oneSetDatabase : CharacterDatabase := fun table =>
  if table = "character_equipmentsets" then [setOfFive]
  else if table = "characters" then [characterFive]
  else []

theorem live_five : Live oneSetDatabase 5 := by
  intro row held _
  obtain rfl : row = characterFive := mem_singleton.mp held
  rfl

theorem complete_iff_for_five : Live oneSetDatabase 5 ∧
      ∃ dump, GetDump sparseServer.CharacterTables oneSetDatabase 5 = .ok dump ∧
        ((∀ dumpTable ∈ DumpTables, rowsOf dump dumpTable.Name =
          (oneSetDatabase dumpTable.Name).filter
            fun row => belongs oneSetDatabase 5 row dumpTable.type) ↔ Complete oneSetDatabase 5) :=
  ⟨live_five, dump_is_complete_iff sparseServer oneSetDatabase 5 live_five⟩

/-- The dump of character 5 lacks its equipment set. -/
theorem set_of_five_is_lost : Live oneSetDatabase 5 ∧
      ∃ dump, GetDump sparseServer.CharacterTables oneSetDatabase 5 = .ok dump ∧
        rowsOf dump "character_equipmentsets" = [] ∧
        (oneSetDatabase "character_equipmentsets").filter
          (fun row => belongs oneSetDatabase 5 row .EQSET_TABLE) = [setOfFive] := by
  refine ⟨live_five, _, GetDump_eq sparseServer live_five, ?_, rfl⟩
  have distinct : (DumpTables.map (·.Name)).Nodup := by decide
  have own := @rowsOf_flatMap DumpTables
    (fun dumpTable => selectedRows oneSetDatabase (PopulateGuids oneSetDatabase 5) 5
      (whereField dumpTable.type) dumpTable) distinct
    ⟨"character_equipmentsets", .EQSET_TABLE⟩ (by decide)
  decide +kernel

end AzerothCore.Tools.DumpedRows
