import AzerothCore.Chat.ChatCommand

/-!
# What a handler learns of the command tree

A command line does the same on a tree and on what is left of the tree without
the nodes that the handler may not see. What it invokes admits the handler.
-/

namespace AzerothCore.Chat.CommandVisibility

open ChatCommand CommandSelection PrefixRange

variable {ι : Type} {who : ChatHandler} {token : List Char}

structure CommandTree (ι : Type) where
  map : List (ChatCommandNode ι)
  ordered : Ordered map

mutual

def visiblePart (who : ChatHandler) : ChatCommandNode ι → ChatCommandNode ι
  | ⟨key, name, invoker, permission, help, subCommands⟩ =>
    ⟨key, name, invoker, permission, help, visibleParts who subCommands⟩

def visibleParts (who : ChatHandler) : List (ChatCommandNode ι) → List (ChatCommandNode ι)
  | [] => []
  | node :: rest =>
    if ChatCommand.IsVisible who node then visiblePart who node :: visibleParts who rest
    else visibleParts who rest

end

/-- The trees differ only in nodes that the handler may not see. -/
def SameVisible (who : ChatHandler) (first second : CommandTree ι) : Prop :=
  visibleParts who first.map = visibleParts who second.map

def Admits (permission : CommandPermissions) : ChatHandler → Prop
  | .console => permission.AllowConsole = .Yes
  | .session security => permission.RequiredLevel ≤ security

inductive Below : ChatCommandNode ι → List (ChatCommandNode ι) → Prop where
  | here {node : ChatCommandNode ι} {map : List (ChatCommandNode ι)} : node ∈ map → Below node map
  | sub {node parent : ChatCommandNode ι} {map : List (ChatCommandNode ι)} : parent ∈ map →
      Below node parent.subCommands → Below node map

variable {node : ChatCommandNode ι}

theorem IsInvokerVisible_iff :
    IsInvokerVisible who node = true ↔ node.invoker.isSome ∧ Admits node.permission who := by
  rcases given : node.invoker with _ | invoker
  · simp [IsInvokerVisible, given]
  cases who with
  | console =>
    cases console : node.permission.AllowConsole <;>
      simp [IsInvokerVisible, given, console, ChatHandler.IsConsole, Admits]
  | session security =>
    simp [IsInvokerVisible, given, ChatHandler.IsConsole, ChatHandler.IsAvailable, Admits]

theorem IsVisible_eq (node : ChatCommandNode ι) : ChatCommand.IsVisible who node =
      (IsInvokerVisible who node || HasVisibleSubCommands who node) := by
  cases node
  rw [ChatCommand.IsVisible, HasVisibleSubCommands]

mutual

theorem IsVisible_visiblePart : (node : ChatCommandNode ι) →
    ChatCommand.IsVisible who (visiblePart who node) = ChatCommand.IsVisible who node
  | ⟨key, name, invoker, permission, help, subCommands⟩ => by
    rw [visiblePart, ChatCommand.IsVisible, ChatCommand.IsVisible,
      anyVisible_visibleParts subCommands]
    rfl

theorem anyVisible_visibleParts : (map : List (ChatCommandNode ι)) →
    anyVisible who (visibleParts who map) = anyVisible who map
  | [] => rfl
  | node :: rest => by
    rw [visibleParts, anyVisible]
    split
    · rw [anyVisible, IsVisible_visiblePart node, anyVisible_visibleParts rest]
    rename_i hidden
    rw [Bool.not_eq_true] at hidden
    rw [anyVisible_visibleParts rest, hidden, Bool.false_or]

end

theorem visibleParts_eq (map : List (ChatCommandNode ι)) :
    visibleParts who map = (map.filter (ChatCommand.IsVisible who)).map (visiblePart who) := by
  induction map with
  | nil => rfl
  | cons node rest ih =>
    rw [visibleParts]
    split
    · rename_i visible
      rw [List.filter_cons_of_pos visible, List.map_cons, ih]
    · rename_i hidden
      rw [List.filter_cons_of_neg hidden, ih]

@[simp]
theorem visiblePart_key (node : ChatCommandNode ι) : (visiblePart who node).key = node.key := by
  cases node
  rfl

@[simp]
theorem visiblePart_name (node : ChatCommandNode ι) : (visiblePart who node).name = node.name := by
  cases node
  rfl

@[simp]
theorem visiblePart_subCommands (node : ChatCommandNode ι) :
    (visiblePart who node).subCommands = visibleParts who node.subCommands := by
  cases node
  rfl

@[simp]
theorem IsInvokerVisible_visiblePart (node : ChatCommandNode ι) :
    IsInvokerVisible who (visiblePart who node) = IsInvokerVisible who node := by
  cases node
  rfl

@[simp]
theorem HasVisibleSubCommands_visiblePart (node : ChatCommandNode ι) :
    HasVisibleSubCommands who (visiblePart who node) = HasVisibleSubCommands who node := by
  rw [HasVisibleSubCommands, visiblePart_subCommands, anyVisible_visibleParts]
  rfl

theorem listEntry_visiblePart (shown : List Char) (node : ChatCommandNode ι) :
    listEntry who shown (visiblePart who node) = listEntry who shown node := by
  rw [listEntry, HasVisibleSubCommands_visiblePart]
  rfl

theorem sendAmbiguous_visiblePart (cmd : Option (ChatCommandNode ι))
    (candidates : List (ChatCommandNode ι)) :
    sendAmbiguous who (cmd.map (visiblePart who)) token (candidates.map (visiblePart who)) =
      sendAmbiguous who cmd token candidates := by
  have listed : (candidates.map (visiblePart who)).map (fun it => listEntry who it.key it) =
      candidates.map fun it => listEntry who it.key it := by
    simp [listEntry_visiblePart]
  simp only [sendAmbiguous]
  rw [listed]
  cases cmd with
  | none => rfl
  | some cmd => simp only [Option.map_some, visiblePart_name]

theorem sendSubCommands_visibleParts (name : List Char) (hasInvoker header : Bool)
    (map : List (ChatCommandNode ι)) :
    sendSubCommands who name hasInvoker header (visibleParts who map) =
      sendSubCommands who name hasInvoker header map := by
  induction map generalizing header with
  | nil => rfl
  | cons it rest ih =>
    rw [visibleParts, sendSubCommands]
    split
    · rename_i visible
      rw [IsVisible_eq] at visible
      have shown : ¬ ((!HasVisibleSubCommands who it) = true ∧
          (!IsInvokerVisible who it) = true) := by
        simp only [Bool.not_eq_true']
        rintro ⟨noSub, noInvoker⟩
        rw [noSub, noInvoker] at visible
        exact absurd visible nofun
      rw [sendSubCommands, HasVisibleSubCommands_visiblePart, IsInvokerVisible_visiblePart,
        if_neg shown, if_neg shown, visiblePart_name, listEntry_visiblePart, ih]
    · rename_i hidden
      rw [IsVisible_eq, Bool.or_eq_true, not_or] at hidden
      have passed : (!HasVisibleSubCommands who it) = true ∧ (!IsInvokerVisible who it) = true := by
        simpa [and_comm] using hidden
      rw [if_pos passed, ih]

theorem SendCommandHelp_visiblePart (node : ChatCommandNode ι) :
    SendCommandHelp who (visiblePart who node) = SendCommandHelp who node := by
  rw [SendCommandHelp, IsInvokerVisible_visiblePart, visiblePart_name, visiblePart_subCommands,
    sendSubCommands_visibleParts]
  cases node
  rfl

/-! ### The way down the tree -/

def Selection.map {ν : Type} (f : ν → ν) : Selection ν → Selection ν
  | .noMatch => .noMatch
  | .selected node => .selected (f node)
  | .ambiguous candidates => .ambiguous (candidates.map f)

theorem select_map (candidates : List (ChatCommandNode ι)) :
    select token (candidates.map (visiblePart who)) =
      Selection.map (visiblePart who) (select token candidates) := by
  rcases candidates with _ | ⟨it1, rest⟩
  · rfl
  rcases rest with _ | ⟨it2, others⟩
  · rfl
  simp only [List.map_cons, select, visiblePart_key]
  split
  · rfl
  · rfl

theorem candidate_visibleParts (map : List (ChatCommandNode ι)) :
    (visibleParts who map).filter (candidate who token) =
      (map.filter (candidate who token)).map (visiblePart who) := by
  rw [visibleParts_eq, List.filter_map, List.filter_filter]
  congr 1
  refine List.filter_congr fun node _ => ?_
  simp only [Function.comp, candidate, visiblePart_key, IsVisible_visiblePart]
  cases ChatCommand.IsVisible who node <;> simp

theorem sorted_visibleParts {map : List (ChatCommandNode ι)} (sorted : SortedBy foldedKey map) :
    SortedBy foldedKey (visibleParts who map) := by
  rw [visibleParts_eq, SortedBy, List.pairwise_map]
  refine (List.Pairwise.sublist List.filter_sublist sorted).imp ?_
  simp [foldedKey]

theorem matchToken_visibleParts {map : List (ChatCommandNode ι)}
    (sorted : SortedBy foldedKey map) :
    matchToken who (visibleParts who map) token =
      Selection.map (visiblePart who) (matchToken who map token) := by
  rw [matchToken_eq_select (sorted_visibleParts sorted), matchToken_eq_select sorted,
    candidate_visibleParts, select_map]

def Descent.map (f : ChatCommandNode ι → ChatCommandNode ι) : Descent ι → Descent ι
  | .stopped cmd oldTail => .stopped (cmd.map f) oldTail
  | .ambiguous events => .ambiguous events
  | .aborted => .aborted

theorem mem_of_matchToken {map : List (ChatCommandNode ι)} (sorted : SortedBy foldedKey map)
    (selected : matchToken who map token = .selected node) : node ∈ map := by
  have selects := @selects_matchToken ι who token map sorted
  rw [selected] at selects
  cases selects with
  | equal held _ _ => exact held
  | unique only =>
    have : node ∈ map.filter _ := only ▸ List.mem_cons_self
    exact (List.mem_filter.mp this).1

theorem descend_visibleParts (cmd : Option (ChatCommandNode ι)) {map : List (ChatCommandNode ι)}
    (ordered : Ordered map) (oldTail : List Char) :
    descend who (cmd.map (visiblePart who)) (visibleParts who map) oldTail =
      Descent.map (visiblePart who) (descend who cmd map oldTail) := by
  rw [descend, descend]
  by_cases left : oldTail = []
  · rw [dif_pos left, dif_pos left]
    rfl
  rw [dif_neg left, dif_neg left]
  by_cases empty : (tokenize oldTail).1 = []
  · rw [if_pos empty, if_pos empty]
    rfl
  rw [if_neg empty, if_neg empty, matchToken_visibleParts ordered.sorted]
  cases fares : matchToken who map (tokenize oldTail).1 with
  | noMatch => rfl
  | ambiguous candidates =>
    simp only [Selection.map, Descent.map, sendAmbiguous_visiblePart]
  | selected it1 =>
    have held := mem_of_matchToken ordered.sorted fares
    simp only [Selection.map, visiblePart_subCommands]
    exact descend_visibleParts (some it1) (ordered.sub it1 held) (tokenize oldTail).2
termination_by oldTail.length
decreasing_by exact tokenize_tail_length left

theorem descend_ne_aborted (cmd : Option (ChatCommandNode ι)) (map : List (ChatCommandNode ι))
    {oldTail : List Char} (starts : oldTail.head? ≠ some COMMAND_DELIMITER) :
    descend who cmd map oldTail ≠ .aborted := by
  fun_induction descend who cmd map oldTail with
  | case1 | case3 | case4 => rintro ⟨⟩
  | case2 cmd map oldTail left token empty =>
    exfalso
    cases oldTail with
    | nil => exact left rfl
    | cons c rest =>
      have plain : c ≠ COMMAND_DELIMITER := fun same => starts (congrArg some same)
      simp [token, tokenize, plain] at empty
  | case5 cmd map oldTail left token empty it1 selected ih =>
    refine ih fun delimits => ?_
    have stops := List.head?_dropWhile_not (fun c => decide (c = COMMAND_DELIMITER))
      (oldTail.dropWhile (· ≠ COMMAND_DELIMITER))
    rw [show (oldTail.dropWhile (· ≠ COMMAND_DELIMITER)).dropWhile
      (fun c => decide (c = COMMAND_DELIMITER)) = (tokenize oldTail).2 from rfl, delimits] at stops
    simp at stops

theorem trim_head (cmdStr : List Char) : (trim cmdStr).head? ≠ some COMMAND_DELIMITER := by
  intro delimits
  have kept : trim cmdStr <+: cmdStr.dropWhile (· = COMMAND_DELIMITER) := by
    rw [trim, ← List.reverse_suffix, List.reverse_reverse]
    exact List.dropWhile_suffix _
  obtain ⟨removed, whole⟩ := kept
  have stops := List.head?_dropWhile_not (fun c => decide (c = COMMAND_DELIMITER)) cmdStr
  rw [← whole, List.head?_append, delimits] at stops
  simp at stops

theorem below_of_descend (cmd : Option (ChatCommandNode ι)) {map : List (ChatCommandNode ι)}
    {oldTail rest : List Char} (ordered : Ordered map)
    (stops : descend who cmd map oldTail = .stopped (some node) rest) :
    cmd = some node ∨ Below node map := by
  fun_induction descend who cmd map oldTail with
  | case1 | case3 =>
    obtain ⟨rfl, -⟩ := Descent.stopped.inj stops
    exact .inl rfl
  | case2 | case4 => exact absurd stops nofun
  | case5 cmd map oldTail left token empty it1 selected ih =>
    have held := mem_of_matchToken ordered.sorted selected
    obtain here | below := ih (ordered.sub it1 held) stops
    · cases here
      exact .inr (.here held)
    · exact .inr (.sub held below)

theorem ordered_of_below {map : List (ChatCommandNode ι)} (below : Below node map)
    (ordered : Ordered map) : Ordered node.subCommands := by
  induction below with
  | here held => exact ordered.sub _ held
  | sub held _ ih => exact ih (ordered.sub _ held)

variable {run : ι → List Char → InvokerResult} {hook : List Char → Bool}

theorem TryExecuteCommand_visibleParts {map : List (ChatCommandNode ι)} (ordered : Ordered map)
    (sentErrorMessage : Bool) (cmdStr : List Char) :
    TryExecuteCommand who run hook (visibleParts who map) sentErrorMessage cmdStr =
      TryExecuteCommand who run hook map sentErrorMessage cmdStr := by
  have descent := @descend_visibleParts ι who none map ordered (trim cmdStr)
  rw [Option.map_none] at descent
  rw [TryExecuteCommand, TryExecuteCommand, descent]
  cases descend who none map (trim cmdStr) with
  | aborted | ambiguous => rfl
  | stopped cmd oldTail =>
    rcases cmd with _ | cmd
    · rfl
    have invoker : (visiblePart who cmd).invoker = cmd.invoker := by
      cases cmd
      rfl
    simp only [Descent.map, Option.map_some, IsInvokerVisible_visiblePart, invoker,
      SendCommandHelp_visiblePart]

def Quiet (events : List (Event ι)) : Prop :=
  ∀ invoker tail, .invoked invoker tail ∉ events

theorem quiet_listEntries {candidates : List (ChatCommandNode ι)} :
    Quiet (candidates.map fun it => listEntry who it.key it) := by
  intro invoker tail held
  obtain ⟨it, -, same⟩ := List.mem_map.mp held
  exact absurd same nofun

theorem quiet_sendAmbiguous (cmd : Option (ChatCommandNode ι))
    (candidates : List (ChatCommandNode ι)) : Quiet (sendAmbiguous who cmd token candidates) := by
  intro invoker tail held
  obtain first | listed := List.mem_cons.mp held
  · cases cmd with
    | none | some => exact absurd first nofun
  · exact quiet_listEntries invoker tail listed

theorem quiet_sendSubCommands (name : List Char) (hasInvoker header : Bool)
    (map : List (ChatCommandNode ι)) : Quiet (sendSubCommands who name hasInvoker header map) := by
  induction map generalizing header with
  | nil => exact fun _ _ => List.not_mem_nil
  | cons it rest ih =>
    intro invoker tail held
    rw [sendSubCommands] at held
    split at held
    · exact ih header invoker tail held
    obtain opening | listed := List.mem_append.mp held
    · cases header <;> cases hasInvoker <;> simp at opening
    · obtain same | behind := List.mem_cons.mp listed
      · exact absurd same nofun
      · exact ih true invoker tail behind

theorem quiet_SendCommandHelp (node : ChatCommandNode ι) : Quiet (SendCommandHelp who node) := by
  intro invoker tail held
  obtain opening | listed := List.mem_append.mp held
  · split at opening
    · split at opening <;> simp at opening
    · cases opening
  · exact quiet_sendSubCommands _ _ _ _ invoker tail listed

theorem quiet_of_descend (cmd : Option (ChatCommandNode ι)) {map : List (ChatCommandNode ι)}
    {oldTail : List Char} {events : List (Event ι)}
    (stops : descend who cmd map oldTail = .ambiguous events) : Quiet events := by
  fun_induction descend who cmd map oldTail with
  | case1 | case2 | case3 => exact absurd stops nofun
  | case4 cmd map oldTail left token empty candidates fares =>
    cases stops
    exact quiet_sendAmbiguous cmd candidates
  | case5 cmd map oldTail left token empty it1 selected ih => exact ih stops

theorem exists_TryExecuteCommand {map : List (ChatCommandNode ι)} (ordered : Ordered map)
    (sentErrorMessage : Bool) (cmdStr : List Char) :
    ∃ outcome, TryExecuteCommand who run hook map sentErrorMessage cmdStr = some outcome ∧
      ∀ invoker tail, .invoked invoker tail ∈ outcome.events →
        ∃ node, Below node map ∧ node.invoker = some invoker ∧ Admits node.permission who := by
  have noAbort := @descend_ne_aborted ι who none map (trim cmdStr) (trim_head cmdStr)
  rw [TryExecuteCommand]
  cases descent : descend who none map (trim cmdStr) with
  | aborted => exact absurd descent noAbort
  | ambiguous events =>
    exact ⟨_, rfl, fun invoker tail invoked =>
      absurd invoked (quiet_of_descend none descent invoker tail)⟩
  | stopped cmd oldTail =>
    dsimp only
    split
    · exact ⟨_, rfl, nofun⟩
    rcases cmd with _ | cmd
    · exact ⟨_, rfl, nofun⟩
    obtain here | below := below_of_descend none ordered descent
    · exact absurd here nofun
    dsimp only
    by_cases visible : IsInvokerVisible who cmd = true
    · obtain ⟨some_invoker, admits⟩ := IsInvokerVisible_iff.mp visible
      obtain ⟨held, given⟩ := Option.isSome_iff_exists.mp some_invoker
      rw [if_pos visible, given]
      refine ⟨_, rfl, fun invoker tail invoked => ?_⟩
      obtain same | after := List.mem_cons.mp invoked
      · obtain ⟨rfl, -⟩ := Event.invoked.inj same
        exact ⟨cmd, below, given, admits⟩
      · split at after
        · split at after <;> simp at after
        · split at after
          · cases after
          · exact absurd after (quiet_SendCommandHelp cmd invoker tail)
    · rw [if_neg visible]
      exact ⟨_, rfl, fun invoker tail invoked =>
        absurd invoked (quiet_SendCommandHelp cmd invoker tail)⟩

theorem helpFor_nil {map : List (ChatCommandNode ι)} (sorted : SortedBy foldedKey map) :
    helpFor who none map [] [] =
      if map.filter (candidate who []) = [] then []
      else .message LANG_AVAILABLE_CMDS [] ::
        (map.filter (candidate who [])).map fun it => listEntry who it.name it := by
  have visits := @iterate_filteredCommandList ι who [] map sorted
  rw [← visits]
  simp only [helpFor]
  rw [if_pos trivial]
  rcases filteredCommandList who map [] with _ | ⟨it, rest⟩
  · rw [iterate, if_pos rfl]
  have some_listed : iterate who [] (it :: rest) ≠ [] := by
    rw [iterate]
    exact List.cons_ne_nil _ _
  rw [if_neg some_listed]

theorem helpFor_visibleParts (cmd : Option (ChatCommandNode ι)) {map : List (ChatCommandNode ι)}
    (ordered : Ordered map) (cmdStr : List Char) (tokens : List (List Char)) :
    helpFor who (cmd.map (visiblePart who)) (visibleParts who map) cmdStr tokens =
      helpFor who cmd map cmdStr tokens := by
  induction tokens generalizing cmd map with
  | nil =>
    cases cmd with
    | some cmd => exact SendCommandHelp_visiblePart cmd
    | none =>
      by_cases empty : cmdStr = []
      · rw [empty, Option.map_none, helpFor_nil (sorted_visibleParts ordered.sorted),
          helpFor_nil ordered.sorted, candidate_visibleParts, List.map_map]
        simp only [List.map_eq_nil_iff, Function.comp_def, listEntry_visiblePart, visiblePart_name]
      · simp only [Option.map_none, helpFor, if_neg empty]
  | cons token tokens ih =>
    simp only [helpFor]
    rw [matchToken_visibleParts ordered.sorted]
    cases fares : matchToken who map token with
    | noMatch =>
      cases cmd with
      | none => rfl
      | some cmd => simp [Selection.map, SendCommandHelp_visiblePart]
    | ambiguous candidates => simp only [Selection.map, sendAmbiguous_visiblePart]
    | selected it1 =>
      have held := mem_of_matchToken ordered.sorted fares
      simp only [Selection.map, visiblePart_subCommands]
      exact ih (some it1) (ordered.sub it1 held)

def CommandTree.Holds (tree : CommandTree ι) (map : List (ChatCommandNode ι)) : Prop :=
  map = tree.map ∨ ∃ parent, Below parent tree.map ∧ map = parent.subCommands

theorem CommandTree.ordered_of_holds {tree : CommandTree ι} {map : List (ChatCommandNode ι)}
    (holds : tree.Holds map) : Ordered map := by
  obtain rfl | ⟨parent, below, rfl⟩ := holds
  · exact tree.ordered
  · exact ordered_of_below below tree.ordered

/-- A command line invokes only what admits the handler, does the same on any two trees that
differ in hidden nodes only, and each token of it is matched with the visible nodes. -/
theorem command_lines_respect_visibility (who : ChatHandler) (run : ι → List Char → InvokerResult)
    (hook : List Char → Bool) (first second : CommandTree ι)
    (same : SameVisible who first second) (sentErrorMessage : Bool) (cmdStr : List Char) :
    (∃ outcome, TryExecuteCommand who run hook first.map sentErrorMessage cmdStr = some outcome ∧
      TryExecuteCommand who run hook second.map sentErrorMessage cmdStr = some outcome ∧
      ∀ invoker tail, .invoked invoker tail ∈ outcome.events →
        ∃ node, Below node first.map ∧ node.invoker = some invoker ∧ Admits node.permission who) ∧
    SendCommandHelpFor who first.map cmdStr = SendCommandHelpFor who second.map cmdStr ∧
    ∀ map, first.Holds map → ∀ token, Selects who map token (matchToken who map token) := by
  obtain ⟨outcome, carried, admitted⟩ :=
    @exists_TryExecuteCommand ι who run hook first.map first.ordered sentErrorMessage cmdStr
  refine ⟨⟨outcome, carried, ?_, admitted⟩, ?_, ?_⟩
  · rw [← TryExecuteCommand_visibleParts second.ordered, ← same,
      TryExecuteCommand_visibleParts first.ordered, carried]
  · have first_eq := @helpFor_visibleParts ι who none first.map first.ordered cmdStr
      (Tokenize cmdStr COMMAND_DELIMITER)
    have second_eq := @helpFor_visibleParts ι who none second.map second.ordered cmdStr
      (Tokenize cmdStr COMMAND_DELIMITER)
    rw [SendCommandHelpFor, SendCommandHelpFor, ← first_eq, ← second_eq, same]
  · exact fun map holds token => selects_matchToken (CommandTree.ordered_of_holds holds).sorted

def plainCommand (name : List Char) (RequiredLevel : UInt32) : ChatCommandNode (List Char) :=
  { key := name, name := name, invoker := some name
    permission := { RequiredLevel, AllowConsole := .Yes }, help := .none, subCommands := [] }

theorem ordered_nil : Ordered ([] : List (ChatCommandNode ι)) := ⟨List.Pairwise.nil, nofun⟩

def playerTree : CommandTree (List Char) where
  map := [plainCommand ['h', 'e', 'l', 'p'] 0, plainCommand ['s', 'a', 'v', 'e'] 0]
  ordered := by
    refine ⟨by unfold SortedBy; decide, ?_⟩
    simp only [List.mem_cons, List.not_mem_nil, or_false]
    rintro node (rfl | rfl) <;> exact ordered_nil

def adminTree : CommandTree (List Char) where
  map := [plainCommand ['h', 'e', 'a', 'l'] 3, plainCommand ['h', 'e', 'l', 'p'] 0,
    plainCommand ['s', 'a', 'v', 'e'] 0]
  ordered := by
    refine ⟨by unfold SortedBy; decide, ?_⟩
    simp only [List.mem_cons, List.not_mem_nil, or_false]
    rintro node (rfl | rfl | rfl) <;> exact ordered_nil

/-- To a player, `he` is `help` although there is `heal`. -/
theorem hidden_heal_leaves_help : SameVisible (.session 0) adminTree playerTree ∧ ∃ outcome,
        TryExecuteCommand (.session 0) (fun _ _ => ⟨true, false⟩) (fun _ => true) adminTree.map
          false ['h', 'e', ' ', 'm', 'e'] = some outcome ∧
        TryExecuteCommand (.session 0) (fun _ _ => ⟨true, false⟩) (fun _ => true) playerTree.map
          false ['h', 'e', ' ', 'm', 'e'] = some outcome := by
  have same : SameVisible (.session 0) adminTree playerTree := rfl
  obtain ⟨⟨outcome, first, second, -⟩, -⟩ := command_lines_respect_visibility (.session 0)
    (fun _ _ => ⟨true, false⟩) (fun _ => true) adminTree playerTree same false
    ['h', 'e', ' ', 'm', 'e']
  exact ⟨same, outcome, first, second⟩

end AzerothCore.Chat.CommandVisibility
