import CarChain.Model.Stub
import CarChain.Remote.CommandLoop

/-! The commands of the client (`list_client.c`).

Each command checks its words and calls one function of the stub, on the connection to the head
or to the tail of the chain. What a command prints is a list of texts; how they are worded is
left out, and so is the conversion of a price, which is a parameter.
-/

namespace CarChain

open CRuntime CStandard

/-- The functions of the stub on the two connections that a client has. -/
structure RemoteOps (Remote : Type) where
  add : Option DataT → Net Remote Int32
  getByMarca : Int32 → Net Remote (Option DataT)
  getByYear : Int32 → Net Remote (Option (List (Option DataT)))
  getModelList : Net Remote (Option (List (Option CString)))
  orderByYear : Net Remote (Int32 × List DataT)
  removeByModel : Option CString → Net Remote Int32
  size : Net Remote Int32

/-- Changes and the ordering go to `rlistHead`, the other calls to `rlistTail`. -/
def stubs {Remote : Type} (rlistHead rlistTail : MessageT → Net Remote (Option MessageT))
    : RemoteOps Remote where
  add := rlistAdd rlistHead
  getByMarca := rlistGetByMarca rlistTail
  getByYear := rlistGetByYear rlistTail
  getModelList := rlistGetModelList rlistTail
  orderByYear := rlistOrderByYear rlistHead
  removeByModel := rlistRemoveByModel rlistHead
  size := rlistSize rlistTail

/-- A text that is printed, with what it is about. -/
inductive Printed where
  | usage (command : Command)
  | badMarca (marca : Int32)
  | badCombustivel (combustivel : Int32)
  | failed (command : Command)
  | carOfMarca (argument : CString) (car : DataT)
  | noneOfYear (year : Int32)
  | carsOfYear (year : Int32) (cars : List DataT)
  | modelList (models : List CString)
  | ordered (cars : List DataT)
  | noneToRemove (model : CString)
  | listSize (size : Int32)
  | help
  | unknownCommand (name : List UInt8)
  deriving DecidableEq

/-- What a command returns and prints. -/
abbrev CommandResult := Int32 × List Printed

/-- A word as the functions of C read it. -/
def argument (word : List UInt8) : CString where
  bytes := before 0 word
  noNul member := by
    have other := List.mem_takeWhile_imp member
    simp at other

-----------------------------------------------------------------------------------------
-- The commands
-----------------------------------------------------------------------------------------

section

variable {Remote : Type} (ops : RemoteOps Remote)

def commandAdd (atof : CString → UInt32) : List CString → Net Remote CommandResult
  | [modelo, ano, preco, marca, combustivel] => do
      let marca := atoi marca
      let combustivel := atoi combustivel
      if marca < 0 ∨ 4 < marca then return (-1, [.badMarca marca])
      if combustivel < 0 ∨ 3 < combustivel then return (-1, [.badCombustivel combustivel])
      match ← dataCreate (atoi ano) (atof preco) marca (some modelo) combustivel with
      | none => return (-1, [.failed .commandAdd])
      | some car =>
          let result ← ops.add (some car)
          if result = -1 then return (-1, [.failed .commandAdd])
          return (0, [])
  | _ => return (-1, [.usage .commandAdd])

def commandGetByMarca : List CString → Net Remote CommandResult
  | [word] => do
      let marca := atoi word
      if marca < 0 ∨ 4 < marca then return (-1, [.badMarca marca])
      match ← ops.getByMarca marca with
      | none => return (-1, [.failed .commandGetByMarca])
      | some car => return (0, [.carOfMarca word car])
  | _ => return (-1, [.usage .commandGetByMarca])

def commandGetByYear : List CString → Net Remote CommandResult
  | [word] => do
      let year := atoi word
      match ← ops.getByYear year with
      | none => return (-1, [.failed .commandGetByYear])
      | some [] => throw .outOfBounds
      | some (none :: _) => return (0, [.noneOfYear year])
      | some cells =>
          let count ← (countToNull cells : Mem Nat)
          return (0, [.carsOfYear year ((cells.take count).filterMap id)])
  | _ => return (-1, [.usage .commandGetByYear])

def commandGetModelList : Net Remote CommandResult := do
  match ← ops.getModelList with
  | none => return (-1, [.failed .commandGetModelList])
  | some cells =>
      let count ← (countToNull cells : Mem Nat)
      return (0, [.modelList ((cells.take count).filterMap id)])

/-- The cars are printed by `rlist_order_by_year`. -/
def commandGetListOrderedByYear : Net Remote CommandResult := do
  let (result, cars) ← ops.orderByYear
  if result = -1 then return (-1, [.ordered cars, .failed .commandGetListOrderedByYear])
  return (0, [.ordered cars])

def commandRemove : List CString → Net Remote CommandResult
  | [model] => do
      let result ← ops.removeByModel (some model)
      if result = -1 then return (-1, [.failed .commandRemove])
      if result = 1 then return (0, [.noneToRemove model])
      return (0, [])
  | _ => return (-1, [.usage .commandRemove])

def commandSize : Net Remote CommandResult := do
  let result ← ops.size
  if result = -1 then return (-1, [.failed .commandSize])
  return (0, [.listSize result])

variable (atof : CString → UInt32)

/-- The function of a command on its words. -/
def runCommand (args : List CString) : Command → Net Remote CommandResult
  | .commandAdd => commandAdd ops atof args
  | .commandGetByMarca => commandGetByMarca ops args
  | .commandGetByYear => commandGetByYear ops args
  | .commandGetModelList => commandGetModelList ops
  | .commandGetListOrderedByYear => commandGetListOrderedByYear ops
  | .commandRemove => commandRemove ops args
  | .commandSize => commandSize ops
  | .cmdHelp => return (0, [.help])
  | .commandQuit => return (0, [])

/-- `dispatch_command`. -/
def runDispatch (argv : List (List UInt8)) : Net Remote CommandResult :=
  match argv with
  | [] => return (-1, [])
  | name :: _ =>
      match dispatchCommand argv with
      | none => return (-1, [.unknownCommand name])
      | some (command, args) => runCommand ops atof (args.map argument) command

/-- The loop of `main` behind its connections, with the result of every command. -/
def clientLoop : Nat → List UInt8 → Net Remote (List CommandResult)
  | 0, _ => throw .loopBound
  | bound + 1, stdin =>
      match fgets 256 stdin with
      | none => return []
      | some (input, stdin) => do
          let command := before 10 (before 0 input)
          if command = [] then
            clientLoop bound stdin
          else
            let result ← runDispatch ops atof (words command)
            if quits (words command) then return [result]
            return result :: (← clientLoop bound stdin)

end

end CarChain
