import RipDvd.Worklist
import Mathlib.Data.List.Flatten
import Mathlib.Logic.Function.Basic

namespace RipDvd
set_option autoImplicit true

open Relation

structure GlobalDvdTitle where
  angleCount : Nat
  chapterCount : Nat
  titleNumber : Nat
  titleSetTitleNumber : Nat
  deriving DecidableEq

/-- The fields of a command that lead to a program chain. -/
structure DvdVmCommand where
  commandClass : Nat
  direct : Bool
  linkProgramChainNumber : Nat
  navigationTimerProgramChainNumber : Nat
  operation : Nat
  setOperation : Nat
  deriving DecidableEq

structure ProgramChainCell where
  cellNumber : Nat
  vobId : Nat
  deriving DecidableEq

structure DvdProgramChain where
  cells : List ProgramChainCell
  commandBlocks : List (List DvdVmCommand)
  programChainReferences : List Nat
  deriving DecidableEq

structure DvdNavigationIdentity where
  buttonCommands : List DvdVmCommand
  cellNumber : Nat
  vobId : Nat
  deriving DecidableEq

structure PartOfTitle where
  pgcNumber : Nat
  deriving DecidableEq

/-- What the association analysis of a title set has read when it looks for executable titles. -/
structure TitleSet where
  globalTitles : List GlobalDvdTitle
  titleParts : List (List PartOfTitle)
  pgcCount : Nat
  programChains : List (Nat × DvdProgramChain)
  navigationIdentities : List (Nat × DvdNavigationIdentity)
  titlesDistinct : (globalTitles.map (·.titleNumber)).Nodup
  partsKnown : ∀ title ∈ globalTitles, title.titleSetTitleNumber - 1 < titleParts.length
  chainsDistinct : (programChains.map Prod.fst).Nodup
  chainsNumbered : ∀ entry ∈ programChains, 0 < entry.1 ∧ entry.1 ≤ pgcCount

def hasLinkOperation (fields : DvdVmCommand) : Bool :=
  fields.commandClass = 1 ∧ ¬fields.direct ∨
    fields.commandClass = 2 ∧ fields.operation ≠ 0 ∨
    fields.commandClass = 3 ∧ fields.operation ≠ 0

def linkTargets (fields : DvdVmCommand) : List Nat :=
  if hasLinkOperation fields ∧ fields.operation = 4 then [fields.linkProgramChainNumber] else []

def navigationTimerTargets (fields : DvdVmCommand) : List Nat :=
  if fields.commandClass = 2 ∧ fields.setOperation = 2 ∧
      0 < fields.navigationTimerProgramChainNumber then
    [fields.navigationTimerProgramChainNumber]
  else []

/-- A `Set` in the order of insertion. -/
def insertAll (values added : List Nat) : List Nat := Worklist.addAll id values added

def programChainTargetsForCommands (commands : List DvdVmCommand) : List Nat :=
  commands.foldl (fun targets command =>
    insertAll (insertAll targets (linkTargets command)) (navigationTimerTargets command)) []

/-- The button targets of a cell, over all the navigation packs that name it. -/
def buttonTargets (set : TitleSet) (cell : ProgramChainCell) : List Nat :=
  set.navigationIdentities.foldl (fun targets identity =>
    if identity.2.vobId = cell.vobId ∧ identity.2.cellNumber = cell.cellNumber then
      insertAll targets (programChainTargetsForCommands identity.2.buttonCommands)
    else targets) []

def targetProgramChains (set : TitleSet) (chain : DvdProgramChain) : List Nat :=
  let references := insertAll [] (chain.programChainReferences.filter (0 < ·))
  let commands := insertAll references (programChainTargetsForCommands chain.commandBlocks.flatten)
  chain.cells.foldl (fun targets cell => insertAll targets (buttonTargets set cell)) commands

/-- The targets recorded for a chain; no targets where none are recorded. -/
def targetsBySource (set : TitleSet) (pgcNumber : Nat) : List Nat :=
  ((set.programChains.find? (·.1 = pgcNumber)).map fun entry =>
    targetProgramChains set entry.2).getD []

/-- The titles found for each chain, and the pairs found in the order of their discovery. -/
structure ExecutableTitles where
  byProgramChain : Nat → List GlobalDvdTitle
  pending : List (Nat × GlobalDvdTitle)

def ExecutableTitles.empty : ExecutableTitles where
  byProgramChain := fun _ => []
  pending := []

def addExecutableTitle (pgcCount : Nat) (pgcNumber : Nat) (title : GlobalDvdTitle)
    (state : ExecutableTitles) : ExecutableTitles :=
  if pgcNumber = 0 ∨ pgcCount < pgcNumber then state
  else
    let titles := state.byProgramChain pgcNumber
    if titles.any (·.titleNumber = title.titleNumber) then state
    else
      { byProgramChain := Function.update state.byProgramChain pgcNumber (titles ++ [title])
        pending := state.pending ++ [(pgcNumber, title)] }

def addAllExecutableTitles (pgcCount : Nat) (pgcNumbers : List Nat) (title : GlobalDvdTitle)
    (state : ExecutableTitles) : ExecutableTitles :=
  pgcNumbers.foldl (fun state pgcNumber => addExecutableTitle pgcCount pgcNumber title state) state

/-- The titles of the parts; nothing when a title has no part table. -/
def addParts (set : TitleSet) (state : ExecutableTitles) (title : GlobalDvdTitle) :
    Option ExecutableTitles := do
  let parts ← set.titleParts[title.titleSetTitleNumber - 1]?
  return addAllExecutableTitles set.pgcCount (parts.map (·.pgcNumber)) title state

/-- The `for` loop over the pending pairs; nothing when the fuel runs out. -/
def visitPending (set : TitleSet) : Nat → Nat → ExecutableTitles → Option ExecutableTitles
  | 0, pendingIndex, state => if pendingIndex < state.pending.length then none else some state
  | fuel + 1, pendingIndex, state =>
    match state.pending[pendingIndex]? with
    | none => some state
    | some (pgcNumber, title) =>
      visitPending set fuel (pendingIndex + 1)
        (addAllExecutableTitles set.pgcCount (targetsBySource set pgcNumber) title state)

def executableTitlesByProgramChain (set : TitleSet) : Option (Nat → List GlobalDvdTitle) := do
  let seeded ← set.globalTitles.foldlM (addParts set) .empty
  let state ← visitPending set (set.pgcCount * set.globalTitles.length) 0 seeded
  return state.byProgramChain

/-- The titles that the commands of a chain are checked for. -/
def executableTitles (set : TitleSet) (executable : Nat → List GlobalDvdTitle) (pgcNumber : Nat) :
    List GlobalDvdTitle :=
  if (executable pgcNumber).isEmpty then set.globalTitles else executable pgcNumber

def angleLimit (titles : List GlobalDvdTitle) : Option Nat := (titles.map (·.angleCount)).min?

def currentTitleChapterLimit (titles : List GlobalDvdTitle) : Option Nat :=
  (titles.map (·.chapterCount)).min?

end RipDvd
