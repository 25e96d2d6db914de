import AzerothCore.Collections.PrefixRange
import Mathlib.Algebra.Order.Ring.Int

/-!
# Chat commands

The command tree, the nodes that a handler may see, and the way from what was
typed to the command that is invoked. What a command does is left open: `ι` are
the invokers of the nodes.
-/

namespace AzerothCore.Chat.ChatCommand
open List Nat

/-- `std::tolower` of a byte, which is the character with its number. -/
def tolower (c : Char) : ℤ :=
  if 'A' ≤ c ∧ c ≤ 'Z' then c.toNat + 32
  else if c.toNat < 128 then c.toNat
  else c.toNat - 256

abbrev folded (str : List Char) : List ℤ := str.map tolower

def StringEqualI (a b : List Char) : Bool := folded a = folded b

def StringStartsWithI (haystack needle : List Char) : Bool :=
  StringEqualI (haystack.take needle.length) needle

def StringCompareLessI (a b : List Char) : Bool := folded a < folded b

def COMMAND_DELIMITER : Char := ' '

/-- What is left behind the token starts with no delimiter. -/
def tokenize (args : List Char) : List Char × List Char :=
  (args.takeWhile (· ≠ COMMAND_DELIMITER),
    (args.dropWhile (· ≠ COMMAND_DELIMITER)).dropWhile (· = COMMAND_DELIMITER))

/-- `Acore::Tokenize` without empty tokens. -/
def Tokenize (str : List Char) (sep : Char) : List (List Char) :=
  (str.splitOn sep).filter (· ≠ [])

abbrev AcoreStrings := ℕ

def LANG_CMD_INVALID : AcoreStrings := 6
def LANG_SUBCMD_AMBIGUOUS : AcoreStrings := 7
def LANG_SUBCMDS_LIST : AcoreStrings := 8
def LANG_AVAILABLE_CMDS : AcoreStrings := 9
def LANG_SUBCMDS_LIST_ENTRY : AcoreStrings := 191
def LANG_SUBCMDS_LIST_ENTRY_ELLIPSIS : AcoreStrings := 192
def LANG_SUBCMD_INVALID : AcoreStrings := 193
def LANG_CMD_AMBIGUOUS : AcoreStrings := 194
def LANG_CMD_HELP_GENERIC : AcoreStrings := 195
def LANG_CMD_NO_HELP_AVAILABLE : AcoreStrings := 196

inductive Console where
  | No
  | Yes
  deriving DecidableEq

structure CommandPermissions where
  RequiredLevel : UInt32
  AllowConsole : Console
  deriving DecidableEq

/-- The help of a node: none, an entry of the string table or a text of the database. -/
inductive Help where
  | none
  | entry (help : AcoreStrings)
  | text (help : List Char)
  deriving DecidableEq

structure ChatCommandNode (ι : Type) where
  key : List Char
  name : List Char
  invoker : Option ι
  permission : CommandPermissions
  help : Help
  subCommands : List (ChatCommandNode ι)

inductive ChatHandler where
  | console
  | session (security : UInt32)
  deriving DecidableEq

def ChatHandler.IsConsole : ChatHandler → Bool
  | console => true
  | session _ => false

def ChatHandler.IsAvailable (securityLevel : UInt32) : ChatHandler → Bool
  | console => true
  | session security => securityLevel ≤ security

inductive Event (ι : Type) where
  /-- `PSendSysMessage` of an entry of the string table with its arguments. -/
  | message (entry : AcoreStrings) (args : List (List Char))
  /-- `SendSysMessage` of a text. -/
  | text (msg : List Char)
  | invoked (invoker : ι) (tail : List Char)
  /-- `LogCommandUsage` -/
  | logged (cmdStr : List Char)
  deriving DecidableEq

section
variable {ι : Type}

def IsInvokerVisible (who : ChatHandler) (node : ChatCommandNode ι) : Bool :=
  if node.invoker.isNone then false
  else if who.IsConsole ∧ node.permission.AllowConsole = .No then false
  else if who.IsConsole ∧ node.permission.AllowConsole = .Yes then true
  else !who.IsConsole && who.IsAvailable node.permission.RequiredLevel

mutual

def IsVisible (who : ChatHandler) : ChatCommandNode ι → Bool
  | node@⟨_, _, _, _, _, subCommands⟩ => IsInvokerVisible who node || anyVisible who subCommands

def anyVisible (who : ChatHandler) : List (ChatCommandNode ι) → Bool
  | [] => false
  | node :: rest => IsVisible who node || anyVisible who rest

end

variable (who : ChatHandler)

def HasVisibleSubCommands (node : ChatCommandNode ι) : Bool :=
  anyVisible who node.subCommands

/-- `FilteredCommandListIterator::_skip`: the entries from the one the iterator comes to stand at,
none when it comes to stand at the end. -/
def skip (who : ChatHandler) (token : List Char) :
    List (ChatCommandNode ι) → List (ChatCommandNode ι)
  | [] => []
  | it :: rest =>
    if !StringStartsWithI it.key token then []
    else if !IsVisible who it then skip who token rest
    else it :: rest

theorem skip_length_le (token : List Char)
    (entries : List (ChatCommandNode ι)) : (skip who token entries).length ≤ entries.length := by
  induction entries with
  | nil => exact le_refl _
  | cons it rest ih =>
    rw [skip]
    split
    · exact zero_le _
    split
    · exact le_succ_of_le ih
    · exact le_refl _

/-- `FilteredCommandListIterator`, which starts at `map.lower_bound(token)`. -/
def filteredCommandList (map : List (ChatCommandNode ι)) (token : List Char) :
    List (ChatCommandNode ι) :=
  skip who token (map.dropWhile fun it => StringCompareLessI it.key token)

def iterate (who : ChatHandler) (token : List Char) :
    List (ChatCommandNode ι) → List (ChatCommandNode ι)
  | [] => []
  | it :: rest => it :: iterate who token (skip who token rest)
termination_by entries => entries.length
decreasing_by
  have := skip_length_le who token rest
  simp only [length_cons]
  omega

inductive Selection (ν : Type) where
  | noMatch
  | selected (node : ν)
  | ambiguous (candidates : List ν)

def matchToken (map : List (ChatCommandNode ι)) (token : List Char) :
    Selection (ChatCommandNode ι) :=
  match filteredCommandList who map token with
  | [] => .noMatch
  | it1 :: rest =>
    if StringEqualI it1.key token then .selected it1
    else
      match skip who token rest with
      | [] => .selected it1
      | it2 :: others => .ambiguous (it1 :: iterate who token (it2 :: others))

def listEntry (shown : List Char) (node : ChatCommandNode ι) : Event ι :=
  .message (if HasVisibleSubCommands who node then LANG_SUBCMDS_LIST_ENTRY_ELLIPSIS
    else LANG_SUBCMDS_LIST_ENTRY) [shown]

def sendAmbiguous (cmd : Option (ChatCommandNode ι)) (token : List Char)
    (candidates : List (ChatCommandNode ι)) : List (Event ι) :=
  (match cmd with
    | some cmd => .message LANG_SUBCMD_AMBIGUOUS [cmd.name, [COMMAND_DELIMITER], token]
    | none => .message LANG_CMD_AMBIGUOUS [token]) ::
    candidates.map fun it => listEntry who it.key it

/-- The loop of `SendCommandHelp`; `header` tells whether the list has its header. -/
def sendSubCommands (who : ChatHandler) (name : List Char) (hasInvoker : Bool) :
    Bool → List (ChatCommandNode ι) → List (Event ι)
  | _, [] => []
  | header, it :: rest =>
    if !HasVisibleSubCommands who it ∧ !IsInvokerVisible who it then
      sendSubCommands who name hasInvoker header rest
    else
      (if header then []
        else (if hasInvoker then [] else [.message LANG_CMD_HELP_GENERIC [name]]) ++
          [.message LANG_SUBCMDS_LIST []]) ++
        listEntry who it.name it :: sendSubCommands who name hasInvoker true rest

def SendCommandHelp (node : ChatCommandNode ι) : List (Event ι) :=
  (if IsInvokerVisible who node then
    match node.help with
    | .entry help => [.message help []]
    | .text help => [.text help]
    | .none =>
      [.message LANG_CMD_HELP_GENERIC [node.name], .message LANG_CMD_NO_HELP_AVAILABLE [node.name]]
  else []) ++ sendSubCommands who node.name (IsInvokerVisible who node) false node.subCommands

inductive Descent (ι : Type) where
  /-- At a command, if at any, with what is left of the line. -/
  | stopped (cmd : Option (ChatCommandNode ι)) (oldTail : List Char)
  /-- With a list of the possibilities. -/
  | ambiguous (events : List (Event ι))
  /-- `ASSERT(!token.empty())` fails. -/
  | aborted

theorem tokenize_tail_length {args : List Char} (some_left : args ≠ []) :
    (tokenize args).2.length < args.length := by
  have first : (args.dropWhile (· ≠ COMMAND_DELIMITER)).length ≤ args.length :=
    (dropWhile_suffix _).length_le
  rcases behind : args.dropWhile (· ≠ COMMAND_DELIMITER) with _ | ⟨c, rest⟩
  · simp only [tokenize, behind, dropWhile_nil, length_nil]
    exact length_pos_of_ne_nil some_left
  have delimits : c = COMMAND_DELIMITER := by
    have stops := List.head?_dropWhile_not (fun c => decide (c ≠ COMMAND_DELIMITER)) args
    rw [behind] at stops
    simpa using stops
  have second : (rest.dropWhile (· = COMMAND_DELIMITER)).length ≤ rest.length :=
    (dropWhile_suffix _).length_le
  rw [behind, length_cons] at first
  simp only [tokenize, behind]
  rw [dropWhile_cons_of_pos (by simpa using delimits)]
  omega

def descend (who : ChatHandler) (cmd : Option (ChatCommandNode ι))
    (map : List (ChatCommandNode ι)) (oldTail : List Char) : Descent ι :=
  if _left : oldTail = [] then .stopped cmd oldTail
  else
    let token := (tokenize oldTail).1
    if token = [] then .aborted
    else
      match matchToken who map token with
      | .noMatch => .stopped cmd oldTail
      | .ambiguous candidates => .ambiguous (sendAmbiguous who cmd token candidates)
      | .selected it1 => descend who (some it1) it1.subCommands (tokenize oldTail).2
termination_by oldTail.length
decreasing_by exact tokenize_tail_length _left

structure InvokerResult where
  succeeded : Bool
  sentErrorMessage : Bool

structure Outcome (ι : Type) where
  handled : Bool
  events : List (Event ι)
  sentErrorMessage : Bool
  deriving DecidableEq

/-- The delimiters around the command line are removed first. -/
def trim (cmdStr : List Char) : List Char :=
  ((cmdStr.dropWhile (· = COMMAND_DELIMITER)).reverse.dropWhile (· = COMMAND_DELIMITER)).reverse

/-- `run` does what an invoker does for this handler, `hook` is `sScriptMgr->OnTryExecuteCommand`;
`none` is a failed assertion. -/
def TryExecuteCommand (run : ι → List Char → InvokerResult)
    (hook : List Char → Bool) (map : List (ChatCommandNode ι)) (sentErrorMessage : Bool)
    (cmdStr : List Char) : Option (Outcome ι) :=
  match descend who none map (trim cmdStr) with
  | .aborted => none
  | .ambiguous events => some { handled := true, events, sentErrorMessage }
  | .stopped cmd oldTail =>
    if !hook (trim cmdStr) then some { handled := true, events := [], sentErrorMessage }
    else
      match cmd with
      | none => some { handled := false, events := [], sentErrorMessage }
      | some cmd =>
        match if IsInvokerVisible who cmd then cmd.invoker else none with
        | none =>
          some { handled := true, events := SendCommandHelp who cmd, sentErrorMessage := true }
        | some invoker =>
          let result := run invoker oldTail
          some
            { handled := true
              events := .invoked invoker oldTail ::
                if result.succeeded then (if who.IsConsole then [] else [.logged (trim cmdStr)])
                else if result.sentErrorMessage then []
                else SendCommandHelp who cmd
              sentErrorMessage :=
                if result.succeeded then result.sentErrorMessage else true }

/-- The loop of `SendCommandHelpFor`. -/
def helpFor (who : ChatHandler) (cmd : Option (ChatCommandNode ι))
    (map : List (ChatCommandNode ι)) (cmdStr : List Char) : List (List Char) → List (Event ι)
  | [] =>
    match cmd with
    | some cmd => SendCommandHelp who cmd
    | none =>
      if cmdStr = [] then
        match filteredCommandList who map [] with
        | [] => []
        | it :: rest =>
          .message LANG_AVAILABLE_CMDS [] ::
            (iterate who [] (it :: rest)).map fun it => listEntry who it.name it
      else [.message LANG_CMD_INVALID [cmdStr]]
  | token :: tokens =>
    match matchToken who map token with
    | .noMatch =>
      match cmd with
      | some cmd =>
        SendCommandHelp who cmd ++
          [.message LANG_SUBCMD_INVALID [cmd.name, [COMMAND_DELIMITER], token]]
      | none => [.message LANG_CMD_INVALID [token]]
    | .ambiguous candidates => sendAmbiguous who cmd token candidates
    | .selected it1 => helpFor who (some it1) it1.subCommands cmdStr tokens

def SendCommandHelpFor (map : List (ChatCommandNode ι))
    (cmdStr : List Char) : List (Event ι) :=
  helpFor who none map cmdStr (Tokenize cmdStr COMMAND_DELIMITER)

end

end AzerothCore.Chat.ChatCommand

/-!
## Which command a token selects

The filtered iterator visits exactly the visible entries of a map that begin
with the token, so that these alone decide how the token fares.
-/

namespace AzerothCore.Chat.CommandSelection

open ChatCommand PrefixRange

variable {ι : Type} {who : ChatHandler} {token : List Char}

def foldedKey (node : ChatCommandNode ι) : List ℤ := folded node.key

inductive Ordered : List (ChatCommandNode ι) → Prop where
  | mk {map : List (ChatCommandNode ι)} : SortedBy foldedKey map →
      (∀ node ∈ map, Ordered node.subCommands) → Ordered map

variable {map : List (ChatCommandNode ι)}

theorem Ordered.sorted  : Ordered map → SortedBy foldedKey map
  | mk sorted _ => sorted

theorem Ordered.sub  : Ordered map → ∀ node ∈ map, Ordered node.subCommands
  | mk _ sub => sub

def candidate (who : ChatHandler) (token : List Char) (node : ChatCommandNode ι) : Bool :=
  StringStartsWithI node.key token && ChatCommand.IsVisible who node

theorem StringEqualI_iff {a b : List Char} : StringEqualI a b = true ↔ folded a = folded b := by
  simp [StringEqualI]

theorem StringStartsWithI_iff {haystack needle : List Char} :
    StringStartsWithI haystack needle = true ↔ folded needle <+: folded haystack := by
  rw [StringStartsWithI, StringEqualI_iff, folded, List.map_take, List.prefix_iff_eq_take,
    List.length_map]
  exact eq_comm

theorem candidate_starts {node : ChatCommandNode ι} (kept : candidate who token node = true) :
    folded token <+: foldedKey node := by
  simp only [candidate, Bool.and_eq_true] at kept
  exact StringStartsWithI_iff.mp kept.1

theorem skip_eq {entries : List (ChatCommandNode ι)} (sorted : SortedBy foldedKey entries)
    (above : ∀ node ∈ entries, ¬ foldedKey node < folded token) :
    (skip who token entries = [] ∧ entries.filter (candidate who token) = []) ∨
      ∃ it rest, skip who token entries = it :: rest ∧ SortedBy foldedKey rest ∧
        (∀ node ∈ rest, ¬ foldedKey node < folded token) ∧
        entries.filter (candidate who token) = it :: rest.filter (candidate who token) := by
  induction entries with
  | nil => exact .inl ⟨rfl, rfl⟩
  | cons it rest ih =>
    have above_rest : ∀ node ∈ rest, ¬ foldedKey node < folded token :=
      fun node held => above node (List.mem_cons_of_mem it held)
    rw [skip]
    by_cases starts : StringStartsWithI it.key token = true
    · rw [if_neg (by simpa using starts)]
      by_cases visible : ChatCommand.IsVisible who it = true
      · rw [if_neg (by simpa using visible)]
        refine .inr ⟨it, rest, rfl, sorted.tail, above_rest, ?_⟩
        exact List.filter_cons_of_pos (by simp [candidate, starts, visible])
      · rw [if_pos (by simpa using visible), List.filter_cons_of_neg (by simp [candidate, visible])]
        exact ih sorted.tail above_rest
    · rw [if_pos (by simpa using starts)]
      refine .inl ⟨rfl, List.filter_eq_nil_iff.mpr fun node held kept => ?_⟩
      have differs : ¬ folded token <+: foldedKey it := fun same =>
        starts (StringStartsWithI_iff.mpr same)
      exact sorted.past (above it List.mem_cons_self) differs node held (candidate_starts kept)

theorem iterate_skip {entries : List (ChatCommandNode ι)} (sorted : SortedBy foldedKey entries)
    (above : ∀ node ∈ entries, ¬ foldedKey node < folded token) :
    iterate who token (skip who token entries) = entries.filter (candidate who token) := by
  obtain ⟨ends, none⟩ | ⟨it, rest, stands, sorted_rest, above_rest, candidates⟩ :=
    @skip_eq ι who token entries sorted above
  · rw [ends, iterate, none]
  · have shorter : rest.length < entries.length := by
      have := skip_length_le who token entries
      rw [stands, List.length_cons] at this
      omega
    rw [stands, iterate, candidates, iterate_skip sorted_rest above_rest]
termination_by entries.length

theorem iterate_filteredCommandList (sorted : SortedBy foldedKey map) :
    iterate who token (filteredCommandList who map token) = map.filter (candidate who token) := by
  obtain ⟨sorted_rest, above, same⟩ := sorted.dropWhile (folded token)
  rw [← same (candidate who token) fun node => candidate_starts]
  exact iterate_skip sorted_rest above

def select (token : List Char) : List (ChatCommandNode ι) → Selection (ChatCommandNode ι)
  | [] => .noMatch
  | [it] => .selected it
  | it1 :: it2 :: others =>
    if StringEqualI it1.key token then .selected it1 else .ambiguous (it1 :: it2 :: others)

theorem matchToken_eq_select (sorted : SortedBy foldedKey map) :
    matchToken who map token = select token (map.filter (candidate who token)) := by
  obtain ⟨sorted_rest, above, same⟩ := sorted.dropWhile (folded token)
  rw [← same (candidate who token) fun node => candidate_starts, matchToken]
  have start : filteredCommandList who map token = skip who token
      (map.dropWhile fun item => decide (foldedKey item < folded token)) := rfl
  obtain ⟨ends, none⟩ | ⟨it, rest, stands, sorted_rest', above', candidates⟩ :=
    @skip_eq ι who token _ sorted_rest above
  · rw [start, ends, none]
    rfl
  · rw [start, stands, candidates]
    dsimp only
    obtain ⟨ends, none⟩ | ⟨it2, others, stands2, sorted_others, above_others, candidates2⟩ :=
      @skip_eq ι who token rest sorted_rest' above'
    · rw [ends, none, select]
      exact ite_self _
    · have visits : iterate who token (it2 :: others) = rest.filter (candidate who token) := by
        rw [← stands2, iterate_skip sorted_rest' above']
      rw [stands2, candidates2, select]
      dsimp only
      rw [visits, candidates2]

inductive Selects (who : ChatHandler) (map : List (ChatCommandNode ι)) (token : List Char) :
    Selection (ChatCommandNode ι) → Prop where
  /-- It is the name of a visible entry. -/
  | equal {node : ChatCommandNode ι} : node ∈ map → ChatCommand.IsVisible who node = true →
      StringEqualI node.key token = true → Selects who map token (.selected node)
  /-- It is a prefix of one visible entry only. -/
  | unique {node : ChatCommandNode ι} :
      (map.filter fun node => StringStartsWithI node.key token && ChatCommand.IsVisible who node) =
        [node] →
      Selects who map token (.selected node)
  /-- It is a proper prefix of several visible entries, and these are reported. -/
  | ambiguous {candidates : List (ChatCommandNode ι)} :
      (map.filter fun node => StringStartsWithI node.key token && ChatCommand.IsVisible who node) =
        candidates →
      2 ≤ candidates.length →
      (∀ node ∈ candidates, StringEqualI node.key token = false) →
      Selects who map token (.ambiguous candidates)
  /-- It is a prefix of no visible entry. -/
  | noMatch : (∀ node ∈ map, ChatCommand.IsVisible who node = true →
        StringStartsWithI node.key token = false) →
      Selects who map token .noMatch

theorem selects_matchToken (sorted : SortedBy foldedKey map) :
    Selects who map token (matchToken who map token) := by
  rw [matchToken_eq_select sorted]
  rcases kept : map.filter (candidate who token) with _ | ⟨it1, rest⟩
  · refine .noMatch fun node held visible => ?_
    have := List.filter_eq_nil_iff.mp kept node held
    simpa [candidate, visible] using this
  rcases rest with _ | ⟨it2, others⟩
  · exact .unique kept
  have first : it1 ∈ map.filter (candidate who token) := kept ▸ List.mem_cons_self
  simp only [List.mem_filter, candidate, Bool.and_eq_true] at first
  rw [select]
  split
  · rename_i same
    exact .equal first.1 first.2.2 same
  rename_i differs
  refine .ambiguous kept (by simp) fun node held => ?_
  by_contra same
  rw [Bool.not_eq_false] at same
  have held : node ∈ map.filter (candidate who token) := kept ▸ held
  obtain ⟨in_map, keeps⟩ := List.mem_filter.mp held
  obtain rfl := sorted.first_of_eq kept in_map keeps (StringEqualI_iff.mp same)
    fun other => candidate_starts
  exact differs same

end AzerothCore.Chat.CommandSelection
